import EbcNet.MsgPack
import EbcNet.Wire.Reference

/-! What a `pack` leaves of the messages that its object held before. -/

namespace EbcNet

open Wire

/-- The body that a call of `pack` is given to carry. -/
def Payload.body (payload : Payload) (type : MsgType) (subType : MsgSubType) : Body :=
  match type, subType, payload with
  | .GET_NODE, _, .node content => .nodes { ebcNodes := [content] }
  | .PUNCH, _, .node content => .nodes { ebcNodes := [content] }
  | .REP, .NODE, .nodes content => .nodes content
  | .REP, .DATA, .text content => .msg (content.takeWhile (· ≠ 0))
  | _, _, _ => .notSet

/-- A message has just this body, and its length field counts it. -/
structure Wire.EbcMsg.CarriesJust (runtime : Runtime) (msg : EbcMsg) (body : Body) : Prop where
  carried : msg.body = body
  counted : msg.length = UInt32.ofNat (EbcMsg.bodyLength runtime { body })

namespace MsgPack

/-- The object holds nothing that the branch for the type would keep: a branch that adds
a node keeps the list, and a branch without a payload keeps whatever is there. -/
def Clean (object : MsgPack) (type : MsgType) (subType : MsgSubType) : Prop :=
  match type, subType with
  | .GET_NODE, _ => object.ebcMsg.nodes = {}
  | .PUNCH, _ => object.ebcMsg.nodes = {}
  | .REP, .NODE => True
  | .REP, .DATA => True
  | _, _ => object.ebcMsg.body = .notSet ∧ object.ebcMsg.length = 0

variable {runtime : Runtime} {object next : MsgPack} {type : MsgType} {payload : Payload}
variable {buf : Option Bytes} {size : Int32} {subType : MsgSubType} {dstId : NodeId}
variable {packed : Packed} {msg : EbcMsg}

private theorem addNode_empty (empty : msg.nodes = {}) (node : EbcNode) :
    addNode runtime msg node =
      { msg with
        length := UInt32.ofNat (EbcNodes.byteSizeLong runtime { ebcNodes := [node] })
        body := .nodes { ebcNodes := [node] } } := by
  rw [addNode, EbcMsg.mutableNodes, empty]
  simp only [EbcNodes.addEbcnodes, EbcNode.copyFrom_eq, List.nil_append]
  rfl

/-- A list with one more node is the list of that node when it was empty before. -/
private theorem addNode_carries (node : EbcNode) :
    (addNode runtime msg node).CarriesJust runtime (.nodes { ebcNodes := [node] }) ↔
      msg.nodes = {} := by
  constructor
  · intro carries
    have grown : (addNode runtime msg node).body =
        .nodes { msg.nodes with ebcNodes := msg.nodes.ebcNodes ++ [node] } := by
      simp [addNode, EbcMsg.mutableNodes, EbcNodes.addEbcnodes]
    have same := Body.nodes.inj (grown.symm.trans carries.carried)
    have unknown : msg.nodes.unknown = [] := congrArg EbcNodes.unknown same
    have listed : msg.nodes.ebcNodes ++ [node] = [] ++ [node] := congrArg EbcNodes.ebcNodes same
    have empty := List.append_cancel_right listed
    generalize msg.nodes = nodes at unknown empty
    cases nodes
    simp_all
  · intro empty
    rw [addNode_empty empty]
    exact ⟨rfl, rfl⟩

private theorem kept_carries :
    msg.CarriesJust runtime .notSet ↔ msg.body = .notSet ∧ msg.length = 0 := by
  constructor
  · intro carries
    exact ⟨carries.carried, carries.counted⟩
  · rintro ⟨body, length⟩
    exact ⟨body, length⟩

/-- A packed message carries just the payload of its call when the object held nothing
that the call keeps, and only then. -/
theorem carriesJust_iff_clean
    (done : object.pack runtime type payload buf size subType dstId = some packed) :
    packed.object.ebcMsg.CarriesJust runtime (payload.body type subType) ↔
      object.Clean type subType := by
  obtain ⟨_, assembled⟩ := assemble_cases (pack_eq done).1
  clear done
  generalize packed.object.ebcMsg = msg at assembled
  cases assembled with
  | node adds node =>
    rcases adds with rfl | rfl
    · exact addNode_carries node
    · exact addNode_carries node
  | nodes nodes => exact iff_of_true ⟨rfl, rfl⟩ trivial
  | text text => exact iff_of_true ⟨rfl, rfl⟩ trivial
  | bareRep bare =>
    cases subType <;> first | exact kept_carries | simp at bare
  | bare bare =>
    cases type <;> first | exact kept_carries | simp at bare

theorem carriesJust_iff_clean_new :
    ∃ packed, pack Reference.runtime { selfId := .zero } .REP (.text [104, 105]) none 0 .DATA .zero =
        some packed ∧
      (packed.object.ebcMsg.CarriesJust Reference.runtime
          (Payload.body (.text [104, 105]) .REP .DATA) ↔
        Clean { selfId := .zero } .REP .DATA) :=
  ⟨_, rfl, carriesJust_iff_clean rfl⟩

/-- An object that announces one node after another sends both the second time. -/
theorem carriesJust_counterexample :
    ∃ first second, pack Reference.runtime { selfId := .zero } .PUNCH (.node { ip := 1 }) none 0
        .EMPTY_SUB .zero = some first ∧
      first.object.pack Reference.runtime .PUNCH (.node { ip := 2 }) none 0 .EMPTY_SUB .zero =
        some second ∧
      ¬ second.object.ebcMsg.CarriesJust Reference.runtime
        (Payload.body (.node { ip := 2 }) .PUNCH .EMPTY_SUB) := by
  refine ⟨_, _, rfl, rfl, ?_⟩
  intro carries
  exact absurd carries.carried (by decide)

/-! ### A new object -/

/-- The message that a new object packs. -/
def newMsg (runtime : Runtime) (selfId : NodeId) (type : MsgType) (payload : Payload)
    (subType : MsgSubType) (dstId : NodeId) : EbcMsg where
  head := msgHead
  version := NET_VERSION
  srcId := selfId.bytes
  dstId := if type = .REP then dstId.bytes else []
  type := type.toInt32
  subType := if type = .REP then subType.toInt32 else 0
  length := UInt32.ofNat (EbcMsg.bodyLength runtime { body := payload.body type subType })
  body := payload.body type subType

theorem pack_new {selfId : NodeId}
    (done : pack runtime { selfId } type payload buf size subType dstId = some packed) :
    packed.object.ebcMsg = newMsg runtime selfId type payload subType dstId := by
  obtain ⟨_, assembled⟩ := assemble_cases (pack_eq done).1
  clear done
  generalize packed.object.ebcMsg = msg at assembled
  cases assembled with
  | node adds node =>
    rw [addNode_empty rfl]
    rcases adds with rfl | rfl <;> rfl
  | nodes nodes => rfl
  | text text => rfl
  | bareRep bare =>
    cases subType <;> first | rfl | simp at bare
  | bare bare =>
    cases type <;> first | rfl | simp at bare

end MsgPack

end EbcNet
