import EbcNet.Node
import EbcNet.Wire.Accepted

/-! `msgPack`: the object that assembles a message to send and checks one received. -/

namespace EbcNet

open Wire

/-- `NET_VERSION` -/
def NET_VERSION : Bytes := ['V', '0', '.', '0', '.', '0'].map Char.toUInt8

def msgHead : UInt32 := 0xF5FA

/-- What the untyped argument of `pack` points to. -/
inductive Payload where
  | null
  | node (node : EbcNode)
  | nodes (nodes : EbcNodes)
  | text (text : Bytes)
  deriving DecidableEq, Repr

structure MsgPack where
  selfId : NodeId
  ebcMsg : EbcMsg := {}
  deriving DecidableEq

/-- What a `pack` leaves: the object, the buffer it was given and what it returned. -/
structure Packed where
  object : MsgPack
  buf : Option Bytes
  ret : Int32

/-- The bytes that a caller sends: as many of the buffer as `pack` returned. -/
def Packed.sent (packed : Packed) : Bytes :=
  (packed.buf.getD []).take packed.ret.toInt.toNat

/-- `SerializeToArray` -/
def Wire.EbcMsg.serializeToArray (runtime : Runtime) (msg : EbcMsg) (buf : Bytes) (size : Int32) :
    Bytes :=
  if msg.byteSizeLong runtime ≤ size.toInt then
    msg.serializeWithCachedSizes runtime ++ buf.drop (msg.byteSizeLong runtime)
  else runtime.abandonedArray buf

namespace MsgPack
variable (runtime : Runtime)

/-- The message with one more node, whose length counts the whole list. -/
def addNode (msg : EbcMsg) (node : EbcNode) : EbcMsg :=
  let msg := msg.mutableNodes fun nodes => nodes.addEbcnodes fun new => new.copyFrom node
  { msg with length := UInt32.ofNat (msg.nodes.byteSizeLong runtime) }

/-- `pack` before it serializes. It does not clear the message. A payload of
another kind than the type asks for has no defined meaning. -/
def assemble (object : MsgPack) (type : MsgType) (payload : Payload) (subType : MsgSubType)
    (dstId : NodeId) : Option MsgPack :=
  let msg := { object.ebcMsg with
    head := msgHead
    version := NET_VERSION
    srcId := object.selfId.bytes
    type := type.toInt32 }
  match type with
  | .GET_NODE =>
    match payload with
    | .node node => some { object with ebcMsg := addNode runtime msg node }
    | _ => none
  | .REP =>
    let msg := { msg with dstId := dstId.bytes, subType := subType.toInt32 }
    match subType with
    | .NODE =>
      match payload with
      | .nodes nodes =>
        some { object with ebcMsg :=
          { msg.mutableNodes fun old => old.copyFrom nodes with
            length := UInt32.ofNat (nodes.byteSizeLong runtime) } }
      | _ => none
    | .DATA =>
      match payload with
      | .text text =>
        -- A C string ends at its first zero.
        let body := text.takeWhile (· ≠ 0)
        some { object with ebcMsg :=
          { msg.setMsg body with length := UInt32.ofNat body.length } }
      | _ => none
    | _ => some { object with ebcMsg := msg }
  | .GET_DATA => some { object with ebcMsg := msg }
  | .PUNCH =>
    match payload with
    | .node node => some { object with ebcMsg := addNode runtime msg node }
    | _ => none
  | _ => some { object with ebcMsg := msg }

/-- The result of `SerializeToArray` is ignored, and the size is cast to `int`. -/
def pack (object : MsgPack) (type : MsgType) (payload : Payload) (buf : Option Bytes)
    (size : Int32) (subType : MsgSubType) (dstId : NodeId) : Option Packed :=
  (object.assemble runtime type payload subType dstId).map fun object => {
    object := object
    buf := buf.map fun buf => object.ebcMsg.serializeToArray runtime buf size
    ret := Int32.ofNat (object.ebcMsg.byteSizeLong runtime) }

/-- Whether the length field agrees with the body. -/
def lengthAgrees (msg : EbcMsg) : Bool :=
  if msg.hasNodes then msg.length.toNat = msg.nodes.byteSizeLong runtime
  else msg.length.toNat = msg.msg.length

/-- `unpack`: the object when it returns 0. -/
def unpack (object : MsgPack) (buf : Bytes) : Option MsgPack :=
  (EbcMsg.parseFromArray runtime buf).bind fun msg =>
    if msg.head ≠ msgHead then none
    else if msg.type = MsgType.EMPTY.toInt32 then none
    else if lengthAgrees runtime msg then some { object with ebcMsg := msg } else none

end MsgPack

/-! ### What the calls do -/

section Validity
variable (runtime : Runtime)

/-- The unknown fields of a payload are such. Those of a node that was set field
by field, or that came in a message, are. -/
def Payload.Valid : Payload → Prop
  | .node content => content.Valid runtime
  | .nodes content => content.Valid runtime
  | _ => True

/-- The length of the body as `pack` counts it. -/
def Wire.EbcMsg.bodyLength (msg : EbcMsg) : Nat :=
  if msg.hasNodes then msg.nodes.byteSizeLong runtime else msg.msg.length

/-- What every call preserves of a message. -/
structure Wire.EbcMsg.Sound (msg : EbcMsg) : Prop where
  length : msg.length = UInt32.ofNat (msg.bodyLength runtime)
  valid : msg.Valid runtime

end Validity

section BodyLength
variable {runtime : Runtime}

private theorem unknownFields_idem (unknown : Bytes) :
    runtime.unknownFields (runtime.unknownFields unknown) = runtime.unknownFields unknown := by
  unfold Runtime.unknownFields
  split <;> rfl

theorem Wire.EbcNode.byteSizeLong_observable (node : EbcNode) :
    (node.observable runtime).byteSizeLong runtime = node.byteSizeLong runtime := by
  dsimp only [byteSizeLong, observable]
  rw [unknownFields_idem]

theorem Wire.EbcNodes.byteSizeLong_observable (nodes : EbcNodes) :
    (nodes.observable runtime).byteSizeLong runtime = nodes.byteSizeLong runtime := by
  simp [byteSizeLong, observable, unknownFields_idem, EbcNode.byteSizeLong_observable,
    Function.comp_def]

theorem Wire.EbcMsg.byteSizeLong_observable (msg : EbcMsg) :
    (msg.observable runtime).byteSizeLong runtime = msg.byteSizeLong runtime := by
  have body : (msg.body.observable runtime).byteSizeLong runtime = msg.body.byteSizeLong runtime := by
    cases msg.body with
    | notSet => rfl
    | msg content => rfl
    | nodes content => simp [Body.observable, Body.byteSizeLong, EbcNodes.byteSizeLong_observable]
  dsimp only [byteSizeLong, observable]
  rw [body, unknownFields_idem]

theorem Wire.EbcMsg.bodyLength_observable (msg : EbcMsg) :
    (msg.observable runtime).bodyLength runtime = msg.bodyLength runtime := by
  unfold bodyLength observable hasNodes nodes EbcMsg.msg
  cases msg.body with
  | notSet => rfl
  | msg content => rfl
  | nodes content => simp [Body.observable, EbcNodes.byteSizeLong_observable]

theorem Wire.EbcMsg.bodyLength_le (runtime : Runtime) (msg : EbcMsg) :
    msg.bodyLength runtime ≤ msg.byteSizeLong runtime := by
  have body : msg.bodyLength runtime ≤ msg.body.byteSizeLong runtime := by
    unfold bodyLength hasNodes nodes EbcMsg.msg
    cases msg.body with
    | notSet => simp [Body.byteSizeLong]
    | msg content => simp [Body.byteSizeLong, lengthDelimitedSize]; omega
    | nodes content => simp [Body.byteSizeLong, lengthDelimitedSize]; omega
  unfold byteSizeLong
  omega

end BodyLength

namespace MsgPack

/-- What `assemble` makes of every message. -/
structure Headed (object next : MsgPack) (type : MsgType) : Prop where
  selfId : next.selfId = object.selfId
  head : next.ebcMsg.head = msgHead
  version : next.ebcMsg.version = NET_VERSION
  srcId : next.ebcMsg.srcId = object.selfId.bytes
  type : next.ebcMsg.type = type.toInt32

variable {runtime : Runtime} {object next receiver : MsgPack} {type : MsgType} {payload : Payload}
variable {subType : MsgSubType} {dstId : NodeId}

theorem version_valid : runtime.verifyUtf8String NET_VERSION = true := by
  have small : NET_VERSION.all (fun byte => decide (byte < 128)) = true := rfl
  exact runtime.ascii fun byte member =>
    of_decide_eq_true (List.all_eq_true.mp small byte member)

private theorem addNode_valid {msg : EbcMsg} {node : EbcNode} (msgValid : msg.Valid runtime)
    (nodeValid : node.Valid runtime) : (addNode runtime msg node).Valid runtime := by
  refine ⟨msgValid.version, ⟨?_, msgValid.nodes.unknown⟩, msgValid.unknown⟩
  intro other member
  rcases List.mem_append.mp member with member | member
  · exact msgValid.nodes.each other member
  · rw [List.mem_singleton.mp member]
    dsimp only
    rw [EbcNode.copyFrom_eq]
    exact nodeValid

/-- What can come of `assemble`, from the message with its new header. -/
inductive Assembled (runtime : Runtime) (object : MsgPack) (dstId : NodeId) (msg : EbcMsg) :
    MsgType → Payload → MsgSubType → EbcMsg → Prop where
  | node {type : MsgType} {subType : MsgSubType} (adds : type = .GET_NODE ∨ type = .PUNCH)
      (node : EbcNode) :
      Assembled runtime object dstId msg type (.node node) subType (addNode runtime msg node)
  | nodes (nodes : EbcNodes) :
      Assembled runtime object dstId msg .REP (.nodes nodes) .NODE
        { msg with
          dstId := dstId.bytes
          subType := MsgSubType.NODE.toInt32
          length := UInt32.ofNat (nodes.byteSizeLong runtime)
          body := .nodes nodes }
  | text (text : Bytes) :
      Assembled runtime object dstId msg .REP (.text text) .DATA
        { msg with
          dstId := dstId.bytes
          subType := MsgSubType.DATA.toInt32
          length := UInt32.ofNat (text.takeWhile (· ≠ 0)).length
          body := .msg (text.takeWhile (· ≠ 0)) }
  | bareRep {payload : Payload} {subType : MsgSubType} (bare : subType ≠ .NODE ∧ subType ≠ .DATA) :
      Assembled runtime object dstId msg .REP payload subType
        { msg with dstId := dstId.bytes, subType := subType.toInt32 }
  | bare {type : MsgType} {payload : Payload} {subType : MsgSubType}
      (bare : type ≠ .REP ∧ type ≠ .GET_NODE ∧ type ≠ .PUNCH) :
      Assembled runtime object dstId msg type payload subType msg

theorem assemble_cases (done : object.assemble runtime type payload subType dstId = some next) :
    next.selfId = object.selfId ∧
      Assembled runtime object dstId
        { object.ebcMsg with
          head := msgHead
          version := NET_VERSION
          srcId := object.selfId.bytes
          type := type.toInt32 }
        type payload subType next.ebcMsg := by
  unfold assemble at done
  cases type with
  | GET_NODE =>
    cases payload with
    | node node =>
      cases done
      exact ⟨rfl, .node (Or.inl rfl) node⟩
    | _ => cases done
  | PUNCH =>
    cases payload with
    | node node =>
      cases done
      exact ⟨rfl, .node (Or.inr rfl) node⟩
    | _ => cases done
  | REP =>
    cases subType with
    | NODE =>
      cases payload with
      | nodes nodes =>
        cases done
        exact ⟨rfl, .nodes nodes⟩
      | _ => cases done
    | DATA =>
      cases payload with
      | text text =>
        cases done
        exact ⟨rfl, .text text⟩
      | _ => cases done
    | _ =>
      cases done
      exact ⟨rfl, .bareRep (by simp)⟩
  | _ =>
    cases done
    exact ⟨rfl, .bare (by simp)⟩

/-- Each call of `assemble` sets the header and keeps the object sound. -/
theorem assemble_spec (done : object.assemble runtime type payload subType dstId = some next) :
    Headed object next type ∧
      (payload.Valid runtime → object.ebcMsg.Sound runtime → next.ebcMsg.Sound runtime) := by
  obtain ⟨selfId, assembled⟩ := assemble_cases done
  clear done
  obtain ⟨_, msg⟩ := next
  dsimp only at selfId assembled
  subst selfId
  cases assembled with
  | node adds node =>
    refine ⟨⟨rfl, rfl, rfl, rfl, rfl⟩, fun valid sound => ⟨rfl, ?_⟩⟩
    exact addNode_valid ⟨version_valid, sound.valid.body, sound.valid.unknown⟩ valid
  | nodes nodes =>
    refine ⟨⟨rfl, rfl, rfl, rfl, rfl⟩, fun valid sound => ⟨rfl, ?_⟩⟩
    exact ⟨version_valid, valid, sound.valid.unknown⟩
  | text text =>
    refine ⟨⟨rfl, rfl, rfl, rfl, rfl⟩, fun valid sound => ⟨rfl, ?_⟩⟩
    exact ⟨version_valid, trivial, sound.valid.unknown⟩
  | bareRep =>
    exact ⟨⟨rfl, rfl, rfl, rfl, rfl⟩, fun _ sound =>
      ⟨sound.length, version_valid, sound.valid.body, sound.valid.unknown⟩⟩
  | bare =>
    exact ⟨⟨rfl, rfl, rfl, rfl, rfl⟩, fun _ sound =>
      ⟨sound.length, version_valid, sound.valid.body, sound.valid.unknown⟩⟩

theorem pack_eq {buf : Option Bytes} {size : Int32} {packed : Packed}
    (done : object.pack runtime type payload buf size subType dstId = some packed) :
    object.assemble runtime type payload subType dstId = some packed.object ∧
      packed.buf = buf.map (fun buf => packed.object.ebcMsg.serializeToArray runtime buf size) ∧
      packed.ret = Int32.ofNat (packed.object.ebcMsg.byteSizeLong runtime) := by
  obtain ⟨assembled, found, same⟩ := Option.map_eq_some_iff.mp done
  cases same
  exact ⟨found, rfl, rfl⟩

/-- What an `unpack` that returns 0 has checked. -/
theorem unpack_eq_some {buf : Bytes} :
    object.unpack runtime buf = some next ↔
      EbcMsg.parseFromArray runtime buf = some next.ebcMsg ∧ next.selfId = object.selfId ∧
        next.ebcMsg.head = msgHead ∧ next.ebcMsg.type ≠ MsgType.EMPTY.toInt32 ∧
        next.ebcMsg.length.toNat = next.ebcMsg.bodyLength runtime := by
  have agrees : ∀ msg : EbcMsg,
      lengthAgrees runtime msg = true ↔ msg.length.toNat = msg.bodyLength runtime := by
    intro msg
    unfold lengthAgrees EbcMsg.bodyLength
    split <;> simp
  constructor
  · intro done
    obtain ⟨msg, parsed, checked⟩ := Option.bind_eq_some_iff.mp done
    split at checked
    · cases checked
    · split at checked
      · cases checked
      · split at checked
        · cases checked
          exact ⟨parsed, rfl, not_not.mp ‹_›, ‹_›, (agrees msg).mp ‹_›⟩
        · cases checked
  · intro ⟨parsed, selfId, head, type, length⟩
    obtain ⟨_, msg⟩ := next
    cases selfId
    simp only at head type length parsed
    simp [unpack, parsed, head, type, (agrees msg).mpr length]

theorem toInt_ofNat {size : Nat} (fits : size ≤ intMax) : (Int32.ofNat size).toInt = size := by
  apply Int32.toInt_ofNat_of_lt
  unfold intMax at fits
  omega

/-- A message that fits its buffer is sent whole. -/
theorem sent_eq {buf : Bytes} {size : Int32} {packed : Packed}
    (done : object.pack runtime type payload (some buf) size subType dstId = some packed)
    (fits : packed.object.ebcMsg.byteSizeLong runtime ≤ size.toInt) :
    packed.sent = packed.object.ebcMsg.serializeWithCachedSizes runtime := by
  obtain ⟨_, written, returned⟩ := pack_eq done
  have small : packed.object.ebcMsg.byteSizeLong runtime ≤ intMax := by
    have bounded := size.toInt_lt
    unfold intMax
    omega
  rw [Packed.sent, written, returned, toInt_ofNat small, Option.map_some, Option.getD_some,
    EbcMsg.serializeToArray, if_pos fits, Int.toNat_natCast]
  exact List.take_left' (EbcMsg.serialize_length runtime _)

/-- A message whose length agrees with its body is accepted as it was written. -/
theorem unpack_serialize {msg : EbcMsg} (sound : msg.Sound runtime) (head : msg.head = msgHead)
    (type : msg.type ≠ MsgType.EMPTY.toInt32) (fits : msg.byteSizeLong runtime ≤ intMax) :
    receiver.unpack runtime (msg.serializeWithCachedSizes runtime) =
      some { receiver with ebcMsg := msg.observable runtime } := by
  refine unpack_eq_some.mpr ⟨EbcMsg.parse_serialize sound.valid fits, rfl, head, type, ?_⟩
  dsimp only
  rw [EbcMsg.bodyLength_observable]
  change msg.length.toNat = _
  rw [sound.length, UInt32.toNat_ofNat', Nat.mod_eq_of_lt]
  have bounded := msg.bodyLength_le runtime
  unfold intMax at fits
  omega

end MsgPack

end EbcNet
