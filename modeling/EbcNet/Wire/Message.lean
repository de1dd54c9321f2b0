import EbcNet.Wire.Runtime

/-! The messages of `msg.proto` as the generated code keeps, sizes and writes
them. A field at its default is not written, and the unknown fields that a parse
set aside follow the known ones. -/

namespace EbcNet.Wire

/-- `config::MsgType` -/
inductive MsgType where
  | EMPTY | GET_NODE | GET_DATA | PING | HEART | REP | PUNCH
  deriving DecidableEq, Repr

/-- `config::MsgSubType` -/
inductive MsgSubType where
  | EMPTY_SUB | PONG | NODE | DATA
  deriving DecidableEq, Repr

def MsgType.toInt32 : MsgType → Int32
  | EMPTY => 0 | GET_NODE => 1 | GET_DATA => 2 | PING => 3 | HEART => 4 | REP => 5 | PUNCH => 6

def MsgSubType.toInt32 : MsgSubType → Int32
  | EMPTY_SUB => 0 | PONG => 1 | NODE => 2 | DATA => 3

@[simp] theorem MsgType.toInt32_inj {type other : MsgType} :
    type.toInt32 = other.toInt32 ↔ type = other := by
  cases type <;> cases other <;> decide

/-- `config::EbcNode` -/
structure EbcNode where
  id : Bytes := []
  ip : UInt32 := 0
  portNat : UInt32 := 0
  unknown : Bytes := []
  deriving DecidableEq, Repr

/-- `config::EbcNodes` -/
structure EbcNodes where
  ebcNodes : List EbcNode := []
  unknown : Bytes := []
  deriving DecidableEq, Repr

/-- The `body` of a `config::EbcMsg`: neither member, or the one that was set last. -/
inductive Body where
  | notSet
  | msg (content : Bytes)
  | nodes (content : EbcNodes)
  deriving DecidableEq, Repr

/-- `config::EbcMsg`. Enumerations are open, so its types are any `int`. -/
structure EbcMsg where
  head : UInt32 := 0
  version : Bytes := []
  srcId : Bytes := []
  dstId : Bytes := []
  ttl : UInt32 := 0
  id : UInt32 := 0
  type : Int32 := 0
  subType : Int32 := 0
  length : UInt32 := 0
  body : Body := .notSet
  unknown : Bytes := []
  deriving DecidableEq, Repr

/-! ### Accessors -/

namespace EbcNode

def clear (_ : EbcNode) : EbcNode := {}

def mergeFrom (node source : EbcNode) : EbcNode where
  id := if source.id.length > 0 then source.id else node.id
  ip := if source.ip ≠ 0 then source.ip else node.ip
  portNat := if source.portNat ≠ 0 then source.portNat else node.portNat
  unknown := node.unknown ++ source.unknown

def copyFrom (node source : EbcNode) : EbcNode := node.clear.mergeFrom source

/-- A copy leaves nothing of the old node behind. -/
@[simp] theorem copyFrom_eq (node source : EbcNode) : node.copyFrom source = source := by
  obtain ⟨id, ip, portNat, unknown⟩ := source
  have keptId : (if id.length > 0 then id else []) = id := by
    cases id <;> rfl
  have keptNumber : ∀ number : UInt32, (if number ≠ 0 then number else 0) = number := by
    intro number
    by_cases zero : number = 0 <;> simp [zero]
  simp only [copyFrom, clear, mergeFrom, keptId, keptNumber, List.nil_append]

end EbcNode

namespace EbcNodes

/-- `add_ebcnodes()`, with what the caller then makes of the new node. -/
def addEbcnodes (nodes : EbcNodes) (fillIn : EbcNode → EbcNode) : EbcNodes :=
  { nodes with ebcNodes := nodes.ebcNodes ++ [fillIn {}] }

def clear (_ : EbcNodes) : EbcNodes := {}

def mergeFrom (nodes source : EbcNodes) : EbcNodes where
  ebcNodes := nodes.ebcNodes ++ source.ebcNodes
  unknown := nodes.unknown ++ source.unknown

def copyFrom (nodes source : EbcNodes) : EbcNodes := nodes.clear.mergeFrom source

@[simp] theorem copyFrom_eq (nodes source : EbcNodes) : nodes.copyFrom source = source := rfl

end EbcNodes

namespace EbcMsg

/-- `nodes()`: an absent list reads as the default one. -/
def nodes (msg : EbcMsg) : EbcNodes :=
  match msg.body with
  | .nodes content => content
  | _ => {}

/-- `msg()` -/
def msg (msg : EbcMsg) : Bytes :=
  match msg.body with
  | .msg content => content
  | _ => []

def hasNodes (msg : EbcMsg) : Bool :=
  match msg.body with
  | .nodes _ => true
  | _ => false

/-- `mutable_nodes()`: what the caller makes of the list, which is a new one when
the body was not a list. -/
def mutableNodes (msg : EbcMsg) (change : EbcNodes → EbcNodes) : EbcMsg :=
  { msg with body := .nodes (change msg.nodes) }

def setMsg (msg : EbcMsg) (content : Bytes) : EbcMsg :=
  { msg with body := .msg content }

end EbcMsg

/-! ### Sizes and bytes -/

section Serialize
variable (runtime : Runtime)

def EbcNode.byteSizeLong (node : EbcNode) : Nat :=
  (runtime.unknownFields node.unknown).length +
  (if node.id.length > 0 then 1 + lengthDelimitedSize node.id.length else 0) +
  (if node.ip ≠ 0 then 1 + varintSize32 node.ip else 0) +
  (if node.portNat ≠ 0 then 1 + varintSize32 node.portNat else 0)

def EbcNode.serializeWithCachedSizes (node : EbcNode) : Bytes :=
  (if node.id.length > 0 then writeBytes 1 node.id else []) ++
  (if node.ip ≠ 0 then writeUInt32 2 node.ip else []) ++
  (if node.portNat ≠ 0 then writeUInt32 3 node.portNat else []) ++
  runtime.unknownFields node.unknown

def EbcNodes.byteSizeLong (nodes : EbcNodes) : Nat :=
  (runtime.unknownFields nodes.unknown).length +
  (nodes.ebcNodes.map fun node => 1 + lengthDelimitedSize (node.byteSizeLong runtime)).sum

def EbcNodes.serializeWithCachedSizes (nodes : EbcNodes) : Bytes :=
  (nodes.ebcNodes.flatMap fun node =>
    writeMessage 1 (node.byteSizeLong runtime) (node.serializeWithCachedSizes runtime)) ++
  runtime.unknownFields nodes.unknown

def Body.byteSizeLong : Body → Nat
  | .notSet => 0
  | .msg content => 1 + lengthDelimitedSize content.length
  | .nodes content => 1 + lengthDelimitedSize (content.byteSizeLong runtime)

def Body.serializeWithCachedSizes : Body → Bytes
  | .notSet => []
  | .msg content => writeBytes 10 content
  | .nodes content =>
    writeMessage 11 (content.byteSizeLong runtime) (content.serializeWithCachedSizes runtime)

def EbcMsg.byteSizeLong (msg : EbcMsg) : Nat :=
  (runtime.unknownFields msg.unknown).length +
  (if msg.version.length > 0 then 1 + lengthDelimitedSize msg.version.length else 0) +
  (if msg.srcId.length > 0 then 1 + lengthDelimitedSize msg.srcId.length else 0) +
  (if msg.dstId.length > 0 then 1 + lengthDelimitedSize msg.dstId.length else 0) +
  (if msg.head ≠ 0 then 1 + varintSize32 msg.head else 0) +
  (if msg.ttl ≠ 0 then 1 + varintSize32 msg.ttl else 0) +
  (if msg.id ≠ 0 then 1 + varintSize32 msg.id else 0) +
  (if msg.type ≠ 0 then 1 + varintSize32SignExtended msg.type else 0) +
  (if msg.subType ≠ 0 then 1 + varintSize32SignExtended msg.subType else 0) +
  (if msg.length ≠ 0 then 1 + varintSize32 msg.length else 0) +
  msg.body.byteSizeLong runtime

def EbcMsg.serializeWithCachedSizes (msg : EbcMsg) : Bytes :=
  (if msg.head ≠ 0 then writeUInt32 1 msg.head else []) ++
  -- A version that is not UTF-8 is reported and written all the same.
  (if msg.version.length > 0 then writeBytes 2 msg.version else []) ++
  (if msg.srcId.length > 0 then writeBytes 3 msg.srcId else []) ++
  (if msg.dstId.length > 0 then writeBytes 4 msg.dstId else []) ++
  (if msg.ttl ≠ 0 then writeUInt32 5 msg.ttl else []) ++
  (if msg.id ≠ 0 then writeUInt32 6 msg.id else []) ++
  (if msg.type ≠ 0 then writeEnum 7 msg.type else []) ++
  (if msg.subType ≠ 0 then writeEnum 8 msg.subType else []) ++
  (if msg.length ≠ 0 then writeUInt32 9 msg.length else []) ++
  msg.body.serializeWithCachedSizes runtime ++
  runtime.unknownFields msg.unknown

end Serialize

/-! ### Bounds -/

section Bounds

private theorem number_le (value : UInt32) :
    (if value ≠ 0 then 1 + varintSize32 value else 0) ≤ 6 := by
  have varint := varintSize32_le value
  split <;> omega

private theorem enum_le (value : Int32) :
    (if value ≠ 0 then 1 + varintSize32SignExtended value else 0) ≤ 11 := by
  have varint := varintSize32SignExtended_le value
  split <;> omega

private theorem bytes_le (value : Bytes) :
    (if value.length > 0 then 1 + lengthDelimitedSize value.length else 0) ≤ value.length + 6 := by
  have counted := lengthDelimitedSize_le value.length
  split <;> omega

private theorem unknownFields_le (runtime : Runtime) (unknown : Bytes) :
    (runtime.unknownFields unknown).length ≤ unknown.length := by
  unfold Runtime.unknownFields
  split <;> simp

theorem EbcNode.byteSizeLong_le (runtime : Runtime) (node : EbcNode) :
    node.byteSizeLong runtime ≤ node.unknown.length + node.id.length + 18 := by
  have unknown := unknownFields_le runtime node.unknown
  have id := bytes_le node.id
  have ip := number_le node.ip
  have portNat := number_le node.portNat
  unfold byteSizeLong
  omega

theorem Body.byteSizeLong_nodes_le (runtime : Runtime) (nodes : EbcNodes) :
    (Body.nodes nodes).byteSizeLong runtime ≤ nodes.byteSizeLong runtime + 6 := by
  have counted := lengthDelimitedSize_le (nodes.byteSizeLong runtime)
  simp only [byteSizeLong]
  omega

theorem EbcMsg.byteSizeLong_le (runtime : Runtime) (msg : EbcMsg) :
    msg.byteSizeLong runtime ≤ msg.unknown.length + msg.version.length + msg.srcId.length +
      msg.dstId.length + msg.body.byteSizeLong runtime + 64 := by
  have unknown := unknownFields_le runtime msg.unknown
  have version := bytes_le msg.version
  have srcId := bytes_le msg.srcId
  have dstId := bytes_le msg.dstId
  have head := number_le msg.head
  have ttl := number_le msg.ttl
  have id := number_le msg.id
  have type := enum_le msg.type
  have subType := enum_le msg.subType
  have length := number_le msg.length
  unfold byteSizeLong
  omega

end Bounds

/-! ### The size is the number of bytes written -/

private theorem length_ite {condition : Prop} [Decidable condition] {bytes : Bytes} {size : Nat}
    (length : bytes.length = size) :
    (if condition then bytes else []).length = if condition then size else 0 := by
  split
  · exact length
  · rfl

private theorem writeTag_length {number wireType : UInt32}
    (small : (makeTag number wireType).toNat < 128) : (writeTag number wireType).length = 1 := by
  rw [writeTag, writeVarint32, Varint.encode_small small]
  rfl

theorem writeUInt32_length (number : UInt32) (value : UInt32)
    (small : (makeTag number wireTypeVarint).toNat < 128) :
    (writeUInt32 number value).length = 1 + varintSize32 value := by
  rw [writeUInt32, List.length_append, writeTag_length small, writeVarint32_length]

theorem writeEnum_length (number : UInt32) (value : Int32)
    (small : (makeTag number wireTypeVarint).toNat < 128) :
    (writeEnum number value).length = 1 + varintSize32SignExtended value := by
  rw [writeEnum, List.length_append, writeTag_length small, writeVarint32SignExtended_length]

theorem writeBytes_length (number : UInt32) (value : Bytes)
    (small : (makeTag number wireTypeLengthDelimited).toNat < 128) :
    (writeBytes number value).length = 1 + lengthDelimitedSize value.length := by
  rw [writeBytes, List.length_append, writeTag_length small, writeLengthDelimited_length]

theorem writeMessage_eq {number : UInt32} {size : Nat} {content : Bytes}
    (length : content.length = size) : writeMessage number size content = writeBytes number content := by
  rw [writeMessage, writeBytes, writeLengthDelimited, length, List.append_assoc]

variable (runtime : Runtime)

theorem EbcNode.serialize_length (node : EbcNode) :
    (node.serializeWithCachedSizes runtime).length = node.byteSizeLong runtime := by
  simp only [serializeWithCachedSizes, byteSizeLong, List.length_append,
    length_ite (writeBytes_length 1 node.id (by decide)),
    length_ite (writeUInt32_length 2 node.ip (by decide)),
    length_ite (writeUInt32_length 3 node.portNat (by decide))]
  omega

theorem EbcNodes.serialize_length (nodes : EbcNodes) :
    (nodes.serializeWithCachedSizes runtime).length = nodes.byteSizeLong runtime := by
  obtain ⟨ebcNodes, unknown⟩ := nodes
  simp only [serializeWithCachedSizes, byteSizeLong, List.length_append, List.length_flatMap]
  have each : ∀ node ∈ ebcNodes,
      (writeMessage 1 (node.byteSizeLong runtime) (node.serializeWithCachedSizes runtime)).length =
        1 + lengthDelimitedSize (node.byteSizeLong runtime) := by
    intro node _
    rw [writeMessage_eq (node.serialize_length runtime), writeBytes_length 1 _ (by decide),
      node.serialize_length runtime]
  rw [List.map_congr_left each, Nat.add_comm]

theorem Body.serialize_length (body : Body) :
    (body.serializeWithCachedSizes runtime).length = body.byteSizeLong runtime := by
  cases body with
  | notSet => rfl
  | msg content => exact writeBytes_length 10 content (by decide)
  | nodes content =>
    simp only [serializeWithCachedSizes, byteSizeLong]
    rw [writeMessage_eq (content.serialize_length runtime), writeBytes_length 11 _ (by decide),
      content.serialize_length runtime]

theorem EbcMsg.serialize_length (msg : EbcMsg) :
    (msg.serializeWithCachedSizes runtime).length = msg.byteSizeLong runtime := by
  simp only [serializeWithCachedSizes, byteSizeLong, List.length_append, msg.body.serialize_length,
    length_ite (writeUInt32_length 1 msg.head (by decide)),
    length_ite (writeBytes_length 2 msg.version (by decide)),
    length_ite (writeBytes_length 3 msg.srcId (by decide)),
    length_ite (writeBytes_length 4 msg.dstId (by decide)),
    length_ite (writeUInt32_length 5 msg.ttl (by decide)),
    length_ite (writeUInt32_length 6 msg.id (by decide)),
    length_ite (writeEnum_length 7 msg.type (by decide)),
    length_ite (writeEnum_length 8 msg.subType (by decide)),
    length_ite (writeUInt32_length 9 msg.length (by decide))]
  omega

end EbcNet.Wire
