import EbcNet.Wire.Runtime

/-! Node ids, addresses and nodes, and the word that packs a port with a NAT type. -/

namespace EbcNet

open Wire (Bytes)

/-- `ID_LENGTH` -/
def idLength : Nat := 20

/-- `NodeId`, a `std::array` of `ID_LENGTH` bytes. -/
structure NodeId where
  bytes : Bytes
  length_eq : bytes.length = idLength
  deriving DecidableEq

namespace NodeId

@[ext] theorem ext {id other : NodeId} (same : id.bytes = other.bytes) : id = other := by
  cases id
  cases other
  cases same
  rfl

/-- Arrays compare lexicographically. -/
instance : Ord NodeId := ⟨compareOn NodeId.bytes⟩

instance : Std.TransOrd NodeId :=
  inferInstanceAs (Std.TransCmp (compareOn NodeId.bytes))

instance : Std.LawfulEqOrd NodeId where
  eq_of_compare {id other} equal := by
    apply ext
    exact Std.LawfulEqOrd.eq_of_compare (α := Bytes) equal

/-- The id of a default `Node`, and of a default argument. -/
def zero : NodeId := ⟨List.replicate idLength 0, List.length_replicate⟩

end NodeId

/-- `UDTSOCKET` -/
abbrev UDTSOCKET := Int

/-- `UDT::INVALID_SOCK` -/
def INVALID_SOCK : UDTSOCKET := -1

/-! ### The port and NAT word -/

/-- `comPortNat`. The shift in the macro binds before the mask. -/
def comPortNat (port : UInt16) (nat : UInt32) : UInt32 :=
  port.toUInt32 <<< 16 ||| (nat &&& ((0xf : UInt32) <<< 12))

/-- `parPort` -/
def parPort (value : UInt32) : UInt32 := (value &&& 0xffff0000) >>> 16

/-- `parNat` -/
def parNat (value : UInt32) : UInt32 := (value &&& 0xf000) >>> 12

/-- The mask of `parPort` keeps just the upper half of a word, and the one of
`parNat` nothing of it. -/
private theorem masks : ∀ place : Fin 32,
    ((0xffff0000#32).getLsbD place = decide (16 ≤ place.val)) ∧
      ((0xf000#32).getLsbD place = true → place.val < 16) := by
  decide

theorem parPort_comPortNat (port : UInt16) (nat : UInt32) :
    parPort (comPortNat port nat) = port.toUInt32 := by
  apply UInt32.toBitVec_inj.mp
  change ((port.toBitVec.setWidth 32 <<< 16 ||| (nat.toBitVec &&& 0xf000#32)) &&& 0xffff0000#32)
    >>> 16 = port.toBitVec.setWidth 32
  apply BitVec.eq_of_getLsbD_eq
  intro place below
  by_cases within : place < 16
  · obtain ⟨upper, lower⟩ := masks ⟨16 + place, by omega⟩
    have absent : (0xf000#32).getLsbD (16 + place) = false := by
      by_contra present
      have high : 16 + place < 16 := lower (by simpa using present)
      omega
    simp only at upper
    simp [upper, absent, below]
    omega
  · have absent : port.toBitVec.getLsbD place = false :=
      BitVec.getLsbD_of_ge _ _ (by omega)
    have outside : (0xffff0000#32).getLsbD (16 + place) = false :=
      BitVec.getLsbD_of_ge _ _ (by omega)
    simp [outside, absent]

theorem parNat_comPortNat (port : UInt16) (nat : UInt32) :
    parNat (comPortNat port nat) = parNat nat := by
  apply UInt32.toBitVec_inj.mp
  change ((port.toBitVec.setWidth 32 <<< 16 ||| (nat.toBitVec &&& 0xf000#32)) &&& 0xf000#32) >>> 12 =
    (nat.toBitVec &&& 0xf000#32) >>> 12
  congr 1
  apply BitVec.eq_of_getLsbD_eq
  intro place below
  cases kept : (0xf000#32).getLsbD place with
  | false => simp [kept]
  | true =>
    have within := (masks ⟨place, below⟩).2 kept
    simp [kept, within]

/-! ### Addresses and nodes -/

/-- `sockaddr_in`, in network byte order. -/
structure SockAddrIn where
  sinAddr : UInt32
  sinPort : UInt16
  deriving DecidableEq, Repr

inductive Family where
  | AF_UNSPEC | AF_INET | AF_INET6
  deriving DecidableEq, Repr

/-- `SockAddr`. The port lies at one offset in both families. -/
structure SockAddr where
  family : Family
  sinAddr : UInt32
  sinPort : UInt16
  deriving DecidableEq, Repr

inductive NodeState where
  | STABLE | CONNECTED | PAUNCH | DISCONNECTED
  deriving DecidableEq, Repr

/-- `Node::NatType`, an enumeration that is cast to and from the wire. -/
abbrev NatType := UInt32

def SYMMTRIC : NatType := 3

/-- What the program reads without having written it. -/
structure Memory where
  /-- The bytes that follow a string. -/
  behind : Bytes → NodeId
  /-- A new socket address. -/
  addr : SockAddrIn
  /-- The socket of a new node. -/
  sock : UDTSOCKET

/-- `SockAddr()` -/
def SockAddr.new (memory : Memory) : SockAddr where
  family := .AF_INET
  sinAddr := memory.addr.sinAddr
  sinPort := memory.addr.sinPort

def SockAddr.setPort (addr : SockAddr) (port : UInt16) : SockAddr :=
  match addr.family with
  | .AF_INET | .AF_INET6 => { addr with sinPort := port }
  | .AF_UNSPEC => addr

def SockAddr.setIPv4 (addr : SockAddr) (ip : UInt32) : SockAddr :=
  { addr with sinAddr := ip }

/-- `getIPv4()` -/
def SockAddr.getIPv4 (addr : SockAddr) : SockAddrIn where
  sinAddr := addr.sinAddr
  sinPort := addr.sinPort

structure Node where
  id : NodeId
  addr : SockAddr
  state : NodeState
  nat : NatType
  sock : UDTSOCKET
  deriving DecidableEq

/-- `Node()` -/
def Node.new (memory : Memory) : Node where
  id := .zero
  addr := .new memory
  state := .DISCONNECTED
  nat := SYMMTRIC
  sock := memory.sock

/-- `Node(_id)`. It has no address yet. -/
def Node.ofId (memory : Memory) (id : NodeId) : Node where
  id := id
  addr := { SockAddr.new memory with family := .AF_UNSPEC }
  state := .DISCONNECTED
  nat := SYMMTRIC
  sock := memory.sock

/-- `Node::String2NodeId`: always copies `ID_LENGTH` bytes. -/
def string2NodeId (memory : Memory) (str : Bytes) : NodeId where
  bytes := (str ++ (memory.behind str).bytes).take idLength
  length_eq := by simp [(memory.behind str).length_eq]

theorem string2NodeId_bytes (memory : Memory) {str : Bytes} (whole : str.length = idLength) :
    (string2NodeId memory str).bytes = str := by
  simp [string2NodeId, ← whole]

@[simp] theorem string2NodeId_id (memory : Memory) (id : NodeId) :
    string2NodeId memory id.bytes = id :=
  NodeId.ext (string2NodeId_bytes memory id.length_eq)

/-- Of a longer string just the first bytes are read. -/
theorem string2NodeId_append (memory : Memory) (id : NodeId) (rest : Bytes) :
    string2NodeId memory (id.bytes ++ rest) = id := by
  apply NodeId.ext
  simp only [string2NodeId, List.append_assoc]
  exact List.take_left' id.length_eq

/-- `std::string::resize`: a longer string is filled up with zeros. -/
def resize (str : Bytes) (count : Nat) : Bytes :=
  str.take count ++ List.replicate (count - str.length) 0

/-- `Node::NodeId2String`. What the string held is cleared, and the id is appended
to the zeros of the resized one. -/
def nodeId2String (id : NodeId) (_str : Bytes) : Bytes :=
  id.bytes.foldl (fun str byte => str ++ [byte]) (resize [] idLength)

theorem nodeId2String_eq (id : NodeId) (str : Bytes) :
    nodeId2String id str = NodeId.zero.bytes ++ id.bytes := by
  have appended : ∀ (bytes start : Bytes),
      bytes.foldl (fun str byte => str ++ [byte]) start = start ++ bytes := by
    intro bytes
    induction bytes with
    | nil => simp
    | cons byte bytes ih =>
      intro start
      rw [List.foldl_cons, ih, List.append_assoc, List.singleton_append]
  have zeros : resize [] idLength = NodeId.zero.bytes := rfl
  rw [nodeId2String, appended, zeros]

theorem nodeId2String_length (id : NodeId) (str : Bytes) :
    (nodeId2String id str).length = 2 * idLength := by
  rw [nodeId2String_eq, List.length_append, id.length_eq, NodeId.zero.length_eq, Nat.two_mul]

/-- All ids collapse: what is read back are the zeros in front. -/
theorem string2NodeId_nodeId2String (memory : Memory) (id : NodeId) (str : Bytes) :
    string2NodeId memory (nodeId2String id str) = .zero := by
  rw [nodeId2String_eq, string2NodeId_append]

/-- The conversions undo each other on no string, and on no id is the string as long
as one; just the zero id is read back. -/
theorem conversions_not_inverse (memory : Memory) (id : NodeId) (str other : Bytes) :
    (nodeId2String id str).length ≠ idLength ∧
      (string2NodeId memory (nodeId2String id str) = id ↔ id = .zero) ∧
      ¬ (other.length = idLength ∧ nodeId2String (string2NodeId memory other) str = other) := by
  refine ⟨?_, ?_, ?_⟩
  · rw [nodeId2String_length]
    decide
  · rw [string2NodeId_nodeId2String]
    exact eq_comm
  · rintro ⟨whole, back⟩
    have long := nodeId2String_length (string2NodeId memory other) str
    rw [back, whole] at long
    exact absurd long (by decide)

/-- The id of twenty sevens is read back as the zero id. -/
theorem conversions_counterexample :
    ¬ ∀ memory : Memory,
      (∀ (id : NodeId) (str : Bytes), (nodeId2String id str).length = idLength ∧
        string2NodeId memory (nodeId2String id str) = id) ∧
      ∀ other str : Bytes, other.length = idLength →
        nodeId2String (string2NodeId memory other) str = other := by
  intro inverse
  have sevens := (inverse ⟨fun _ => .zero, ⟨0, 0⟩, INVALID_SOCK⟩).1
    ⟨List.replicate idLength 7, List.length_replicate⟩ []
  exact absurd (congrArg NodeId.bytes sevens.2) (by decide)

end EbcNet
