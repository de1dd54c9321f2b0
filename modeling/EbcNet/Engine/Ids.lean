import EbcNet.Engine.Announce
import EbcNet.MsgPack.Leftovers

/-! The ids that a received message makes the program copy from its strings, to print
them and to store them. -/

namespace EbcNet

open Wire

/-- What is written to the console. An id is printed from a string, of which
`String2NodeId` copies `ID_LENGTH` bytes for that. -/
inductive Printed where
  | text (text : String)
  | bytes (content : Bytes)
  | number (value : Nat)
  | id (str : Bytes)

namespace MsgPack

def typeLabel (type : Int32) : Option String :=
  if type = MsgType.GET_DATA.toInt32 then some "GET_DATA"
  else if type = MsgType.GET_NODE.toInt32 then some "GET_NODE"
  else if type = MsgType.REP.toInt32 then some "REP"
  else if type = MsgType.PUNCH.toInt32 then some "PUNCH"
  else if type = MsgType.EMPTY.toInt32 then some "EMPTY"
  else none

def subTypeLabel (subType : Int32) : Option String :=
  if subType = MsgSubType.DATA.toInt32 then some "DATA"
  else if subType = MsgSubType.NODE.toInt32 then some "NODE"
  else if subType = MsgSubType.EMPTY_SUB.toInt32 then some "EMPTY"
  else none

/-- `msgPrint`, which `unpack` calls on every message that it accepts. -/
def msgPrint (msg : EbcMsg) : List Printed :=
  [.text "version:", .bytes msg.version, .text "src_id:", .id msg.srcId,
    .text "dst_id:", .id msg.dstId] ++
  (typeLabel msg.type).elim [] (fun label => [.text "type :", .text label]) ++
  (subTypeLabel msg.subType).elim [] (fun label => [.text "sub_type :", .text label]) ++
  [.text "length: ", .number msg.length.toNat] ++
  if msg.hasNodes then
    msg.nodes.ebcNodes.flatMap fun node =>
      [.text "node id ", .id node.id, .text "node ip ", .number node.ip.toNat,
        .text "node port ", .number node.portNat.toNat]
  else if msg.msg ≠ [] then [.text "msg body: ", .bytes msg.msg]
  else []

end MsgPack

/-- The string that an id is copied from. -/
def Printed.copied : Printed → Option Bytes
  | .id str => some str
  | _ => none

def Call.copied : Call → Option Bytes
  | .addClient _ id _ _ _ => some id
  | .addPeer _ id _ _ _ => some id
  | _ => none

namespace NetEngine

/-- The strings that `unpack` and `handleMsg` copy ids from. -/
def copied (runtime : Runtime) (engine : NetEngine) (env : Env) (sock : UDTSOCKET) : List Bytes :=
  match engine.received runtime env with
  | none => []
  | some object =>
    (MsgPack.msgPrint object.ebcMsg).filterMap Printed.copied ++
      (engine.calls runtime env sock).filterMap Call.copied

end NetEngine

/-- Every string of a message that stands for an id has the bytes of one. -/
structure Wire.EbcMsg.Wide (msg : EbcMsg) : Prop where
  srcId : idLength ≤ msg.srcId.length
  dstId : idLength ≤ msg.dstId.length
  nodes : ∀ node ∈ msg.nodes.ebcNodes, idLength ≤ node.id.length

namespace NetEngine

variable {runtime : Runtime} {engine : NetEngine} {env : Env} {sock : UDTSOCKET}
variable {object : MsgPack} {msg : EbcMsg} {str : Bytes}

/-- `msgPrint` copies every id of a message. -/
theorem msgPrint_copied :
    (MsgPack.msgPrint msg).filterMap Printed.copied =
      msg.srcId :: msg.dstId :: msg.nodes.ebcNodes.map EbcNode.id := by
  have listed : ∀ nodes : List EbcNode, (nodes.flatMap fun node =>
      [.text "node id ", .id node.id, .text "node ip ", .number node.ip.toNat,
        .text "node port ", .number node.portNat.toNat]).filterMap Printed.copied =
      nodes.map EbcNode.id := by
    intro nodes
    induction nodes with
    | nil => rfl
    | cons node nodes ih =>
      rw [List.flatMap_cons, List.filterMap_append, ih]
      rfl
  have label : ∀ (text : String) (label : Option String),
      (label.elim [] fun label => [.text text, .text label]).filterMap Printed.copied = [] := by
    intro text label
    cases label <;> rfl
  have body : (if msg.hasNodes then
      msg.nodes.ebcNodes.flatMap fun node =>
        [.text "node id ", .id node.id, .text "node ip ", .number node.ip.toNat,
          .text "node port ", .number node.portNat.toNat]
      else if msg.msg ≠ [] then [.text "msg body: ", .bytes msg.msg]
      else []).filterMap Printed.copied = msg.nodes.ebcNodes.map EbcNode.id := by
    unfold EbcMsg.hasNodes EbcMsg.nodes EbcMsg.msg
    cases msg.body with
    | notSet => rfl
    | msg content =>
      dsimp only
      split
      · contradiction
      · split <;> rfl
    | nodes content => exact listed content.ebcNodes
  unfold MsgPack.msgPrint
  simp only [List.filterMap_append, label, body]
  rfl

/-- `handleMsg` copies no others. -/
theorem calls_copied (accepted : engine.received runtime env = some object)
    (member : str ∈ (engine.calls runtime env sock).filterMap Call.copied) :
    str = object.ebcMsg.srcId ∨ str ∈ object.ebcMsg.nodes.ebcNodes.map EbcNode.id := by
  obtain ⟨made, called, copied⟩ := List.mem_filterMap.mp member
  obtain ⟨again, acceptedAgain, ⟨_, _, _, rfl⟩ | ⟨_, node, listed, _, rfl⟩⟩ := mem_calls called
  · obtain rfl := Option.some.inj (accepted.symm.trans acceptedAgain)
    exact Or.inl (Option.some.inj copied).symm
  · obtain rfl := Option.some.inj (accepted.symm.trans acceptedAgain)
    exact Or.inr (List.mem_map.mpr ⟨node, listed, Option.some.inj copied⟩)

/-- What is copied for an accepted message is long enough when its ids are. -/
theorem copied_wide (accepted : engine.received runtime env = some object) :
    (∀ str ∈ engine.copied runtime env sock, idLength ≤ str.length) ↔ object.ebcMsg.Wide := by
  simp only [copied, accepted, msgPrint_copied]
  constructor
  · intro long
    refine ⟨long _ (by simp), long _ (by simp), ?_⟩
    intro node listed
    have printed := List.mem_map_of_mem (f := EbcNode.id) listed
    exact long node.id (by simp [printed])
  · intro wide str member
    have listed : str ∈ object.ebcMsg.nodes.ebcNodes.map EbcNode.id → idLength ≤ str.length := by
      intro printed
      obtain ⟨node, present, rfl⟩ := List.mem_map.mp printed
      exact wide.nodes node present
    rcases List.mem_append.mp member with printed | called
    · rcases List.mem_cons.mp printed with rfl | printed
      · exact wide.srcId
      · rcases List.mem_cons.mp printed with rfl | printed
        · exact wide.dstId
        · exact listed printed
    · rcases calls_copied accepted called with rfl | printed
      · exact wide.srcId
      · exact listed printed

/-- What is received is a message that a new object packed. -/
def PacksNew (runtime : Runtime) (env : Env) (type : MsgType) (payload : Payload)
    (subType : MsgSubType) : Prop :=
  ∃ selfId buf size dstId packed, payload.Valid runtime ∧ type ≠ .EMPTY ∧
    MsgPack.pack runtime { selfId } type payload (some buf) size subType dstId = some packed ∧
    (packed.object.ebcMsg.byteSizeLong runtime : Int) ≤ size.toInt ∧ env.recv = some packed.sent

private theorem received_new {type : MsgType} {payload : Payload} {subType : MsgSubType}
    (new : PacksNew runtime env type payload subType) :
    ∃ selfId dstId, engine.received runtime env = some
      { selfId := engine.self.id,
        ebcMsg := (MsgPack.newMsg runtime selfId type payload subType dstId).observable runtime } := by
  obtain ⟨selfId, buf, size, dstId, packed, valid, typed, done, fits, recv⟩ := new
  obtain ⟨headed, keeps⟩ := MsgPack.assemble_spec (MsgPack.pack_eq done).1
  have sound := keeps valid ⟨rfl, .empty⟩
  have named : packed.object.ebcMsg.type ≠ MsgType.EMPTY.toInt32 := by
    simpa [headed.type] using typed
  have small : packed.object.ebcMsg.byteSizeLong runtime ≤ intMax := by
    have bounded := size.toInt_lt
    unfold intMax
    omega
  refine ⟨selfId, dstId, ?_⟩
  rw [received, recv, Option.bind_some, MsgPack.sent_eq done fits,
    MsgPack.unpack_serialize sound headed.head named small, MsgPack.pack_new done]

private theorem wide_new {selfId dstId : NodeId} {type : MsgType} {payload : Payload}
    {subType : MsgSubType} :
    ((MsgPack.newMsg runtime selfId type payload subType dstId).observable runtime).Wide ↔
      type = .REP ∧ ∀ nodes, payload.body type subType = .nodes nodes →
        ∀ node ∈ nodes.ebcNodes, idLength ≤ node.id.length := by
  have listed : ((MsgPack.newMsg runtime selfId type payload subType dstId).observable
      runtime).nodes.ebcNodes.map EbcNode.id =
      (EbcMsg.nodes { body := payload.body type subType }).ebcNodes.map EbcNode.id := by
    unfold EbcMsg.nodes EbcMsg.observable MsgPack.newMsg
    cases payload.body type subType with
    | notSet => rfl
    | msg content => rfl
    | nodes content => simp [Body.observable, EbcNodes.observable, EbcNode.observable]
  have same : (∀ node ∈ ((MsgPack.newMsg runtime selfId type payload subType dstId).observable
      runtime).nodes.ebcNodes, idLength ≤ node.id.length) ↔
      ∀ nodes, payload.body type subType = .nodes nodes →
        ∀ node ∈ nodes.ebcNodes, idLength ≤ node.id.length := by
    rw [← List.forall_mem_map (f := EbcNode.id) (P := fun id => idLength ≤ List.length id), listed,
      List.forall_mem_map]
    unfold EbcMsg.nodes
    cases payload.body type subType <;> simp
  constructor
  · intro wide
    refine ⟨?_, same.mp wide.nodes⟩
    by_contra other
    have dstId := wide.dstId
    simp [EbcMsg.observable, MsgPack.newMsg, other, idLength] at dstId
  · rintro ⟨rep, nodes⟩
    refine ⟨selfId.length_eq.ge, ?_, same.mpr nodes⟩
    simp [EbcMsg.observable, MsgPack.newMsg, rep, dstId.length_eq]

/-- Ids are copied from strings that have their bytes just when the message has a
receiver's id, and no shorter id anywhere. Of what a new object packs, these are the
`REP`s without shorter ids in their list. -/
theorem copied_iff (runtime : Runtime) (engine : NetEngine) (env : Env) (sock : UDTSOCKET) :
    ((∀ str ∈ engine.copied runtime env sock, idLength ≤ str.length) ↔
      ∀ object, engine.received runtime env = some object → object.ebcMsg.Wide) ∧
    ∀ type payload subType, PacksNew runtime env type payload subType →
      ((∀ str ∈ engine.copied runtime env sock, idLength ≤ str.length) ↔
        type = .REP ∧ ∀ nodes, payload.body type subType = .nodes nodes →
          ∀ node ∈ nodes.ebcNodes, idLength ≤ node.id.length) := by
  constructor
  · cases accepted : engine.received runtime env with
    | none => simp [copied, accepted]
    | some object =>
      rw [copied_wide accepted]
      simp
  · intro type payload subType new
    obtain ⟨selfId, dstId, accepted⟩ := @received_new runtime engine env _ _ _ new
    rw [copied_wide accepted]
    exact wide_new

open Sample

/-- A text that a new object packs for some peer. -/
theorem copied_iff_text :
    ∃ packed, MsgPack.pack Wire.Reference.runtime { selfId := .zero } .REP (.text [104, 105]) (some [])
        1024 .DATA .zero = some packed ∧
      ((∀ str ∈ server.copied Wire.Reference.runtime
          { recv := some packed.sent, peerName := ⟨0, 0⟩, punch _ := .socketFails, memory := memory } 1,
          idLength ≤ str.length) ↔
        MsgType.REP = .REP ∧ ∀ nodes, Payload.body (.text [104, 105]) .REP .DATA = .nodes nodes →
          ∀ node ∈ nodes.ebcNodes, idLength ≤ node.id.length) := by
  obtain ⟨packed, done⟩ : ∃ packed, MsgPack.pack Wire.Reference.runtime { selfId := .zero } .REP
      (.text [104, 105]) (some []) 1024 .DATA .zero = some packed := ⟨_, rfl⟩
  have fits : (packed.object.ebcMsg.byteSizeLong Wire.Reference.runtime : Int) ≤
      (1024 : Int32).toInt := by
    rw [MsgPack.pack_new done]
    decide
  exact ⟨packed, done, (copied_iff Wire.Reference.runtime server _ 1).2 _ _ _
    ⟨_, _, _, _, packed, trivial, by decide, done, fits, rfl⟩⟩

/-- The receiver's id of a `GET_NODE` is printed, and there is none. -/
theorem copied_counterexample :
    ¬ ∀ str ∈ server.copied Wire.Reference.runtime (Sample.env (nodeId 7) ⟨1, 2⟩) 1,
      idLength ≤ str.length := by
  intro long
  have none := long [] (by simp [copied, received_env, msgPrint_copied, announcement])
  simp [idLength] at none

end NetEngine

end EbcNet
