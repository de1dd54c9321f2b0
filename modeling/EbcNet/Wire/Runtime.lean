import EbcNet.Base.FieldStream
import EbcNet.Base.Varint

/-! The protobuf runtime that the generated message code calls. Writers and size
functions are inline in its headers. The readers below are declared there and
documented, but their bodies live in a library outside the tree, so they are
fields of a structure that carries what the headers promise of them. -/

namespace EbcNet.Wire

abbrev Bytes := List UInt8

/-- `CodedOutputStream::WriteVarint32ToArray` -/
def writeVarint32 (value : UInt32) : Bytes := Varint.encode value.toNat

/-- `CodedOutputStream::WriteVarint64ToArray` -/
def writeVarint64 (value : UInt64) : Bytes := Varint.encode value.toNat

/-- `CodedOutputStream::WriteVarint32SignExtended` -/
def writeVarint32SignExtended (value : Int32) : Bytes := writeVarint64 value.toInt64.toUInt64

/-- `CodedOutputStream::VarintSize32` -/
def varintSize32 (value : UInt32) : Nat := ((value.toNat ||| 1).log2 * 9 + 73) / 64

/-- `CodedOutputStream::VarintSize32SignExtended` -/
def varintSize32SignExtended (value : Int32) : Nat :=
  if value < 0 then 10 else varintSize32 value.toUInt32

/-- `WireFormatLite::LengthDelimitedSize`; the cast truncates as the source's does. -/
def lengthDelimitedSize (length : Nat) : Nat := length + varintSize32 (UInt32.ofNat length)

/-- `WireFormatLite::MakeTag`, with the wire type's number. -/
def makeTag (fieldNumber wireType : UInt32) : UInt32 := fieldNumber <<< 3 ||| wireType

/-- `WIRETYPE_VARINT` and `WIRETYPE_LENGTH_DELIMITED` -/
def wireTypeVarint : UInt32 := 0
def wireTypeLengthDelimited : UInt32 := 2

def writeTag (fieldNumber wireType : UInt32) : Bytes := writeVarint32 (makeTag fieldNumber wireType)

/-- A length and the bytes it counts. -/
def writeLengthDelimited (content : Bytes) : Bytes :=
  writeVarint32 (UInt32.ofNat content.length) ++ content

/-- `WireFormatLite::WriteUInt32`, `WriteEnum`, `WriteBytes` and `WriteMessage`. -/
def writeUInt32 (fieldNumber value : UInt32) : Bytes :=
  writeTag fieldNumber wireTypeVarint ++ writeVarint32 value
def writeEnum (fieldNumber : UInt32) (value : Int32) : Bytes :=
  writeTag fieldNumber wireTypeVarint ++ writeVarint32SignExtended value
def writeBytes (fieldNumber : UInt32) (value : Bytes) : Bytes :=
  writeTag fieldNumber wireTypeLengthDelimited ++ writeLengthDelimited value
def writeMessage (fieldNumber : UInt32) (size : Nat) (content : Bytes) : Bytes :=
  writeTag fieldNumber wireTypeLengthDelimited ++ writeVarint32 (UInt32.ofNat size) ++ content

/-- `INT_MAX`, the largest length the runtime reads off the wire. -/
def intMax : Nat := 2 ^ 31 - 1

/-- The part of the runtime outside the tree. Readers return what they read and
the rest of the input, or `none` where the C++ returns false. -/
structure Runtime where
  /-- `CodedInputStream::ReadVarint64` -/
  readVarint64 : Bytes → Option (UInt64 × Bytes)
  /-- `WireFormatLite::ReadBytes` -/
  readBytes : Bytes → Option (Bytes × Bytes)
  /-- `WireFormatLite::SkipField` with an output stream: under a recursion budget
  and after a tag, the field as it is recorded and the rest of the input. -/
  skipField : Nat → UInt32 → Bytes → Option (Bytes × Bytes)
  /-- `WireFormatLite::VerifyUtf8String` -/
  verifyUtf8String : Bytes → Bool
  /-- `internal::proto3_preserve_unknown_` -/
  preserveUnknowns : Bool
  /-- What an array holds after a `SerializeToArray` that does not fit it. -/
  abandonedArray : Bytes → Bytes
  varint64 : FieldStream.Codec readVarint64 writeVarint64 fun _ => True
  bytes : FieldStream.Codec readBytes writeLengthDelimited fun value => value.length ≤ intMax
  /-- A skipped field is recorded under its own tag, and the record is skipped
  and recorded as the original was. -/
  skipped : ∀ {budget tag input output rest}, skipField budget tag input = some (output, rest) →
    ∃ used value, input = used ++ rest ∧ output = writeVarint32 tag ++ value ∧
      value.length ≤ used.length ∧
      (∀ other, skipField budget tag (used ++ other) = some (output, other)) ∧
      ∀ other, skipField budget tag (value ++ other) = some (output, other)
  ascii : ∀ {text : Bytes}, (∀ byte ∈ text, byte < 128) → verifyUtf8String text = true

namespace Runtime
variable (runtime : Runtime)

/-- `ReadVarint32`: reads a 64-bit varint and casts it. -/
def readVarint32 (input : Bytes) : Option (UInt32 × Bytes) :=
  (runtime.readVarint64 input).map fun (value, rest) => (value.toUInt32, rest)

/-- `ReadPrimitive<int, TYPE_ENUM>` -/
def readEnum (input : Bytes) : Option (Int32 × Bytes) :=
  (runtime.readVarint32 input).map fun (value, rest) => (value.toInt32, rest)

/-- `ReadVarintSizeAsInt`: a length beyond `INT_MAX` is refused, not truncated. -/
def readVarintSizeAsInt (input : Bytes) : Option (Nat × Bytes) :=
  (runtime.readVarint64 input).bind fun (value, rest) =>
    if value.toNat ≤ intMax then some (value.toNat, rest) else none

/-- `ReadTagWithCutoffNoLastTag` before the end of the input. A zero tag ends the
message without a legitimate end, which `ConsumedEntireMessage` reports. -/
def readTag (input : Bytes) : Option (UInt32 × Bytes) :=
  (runtime.readVarint32 input).bind fun (tag, rest) => if tag = 0 then none else some (tag, rest)

/-- `ReadMessage`: the nested message sees the input up to its length, or to the
end of the enclosing one where that comes first. -/
def readMessage {Message : Type} (merge : Nat → Message → Bytes → Option Message) (budget : Nat)
    (message : Message) (input : Bytes) : Option (Message × Bytes) :=
  (runtime.readVarintSizeAsInt input).bind fun (length, rest) =>
    match budget with
    | 0 => none
    | budget + 1 =>
      (merge budget message (rest.take length)).map fun message => (message, rest.drop length)

/-- The unknown fields of a message as they are counted and written. -/
def unknownFields (unknown : Bytes) : Bytes := if runtime.preserveUnknowns then unknown else []

end Runtime

/-! ### Sizes and read-back -/

theorem varintSize32_eq (value : UInt32) : varintSize32 value = Varint.size value.toNat := by
  have bounded := value.toNat_lt
  by_cases zero : value.toNat = 0
  · rw [varintSize32, zero, Varint.size_small (by decide)]
    decide
  · have log : (value.toNat ||| 1).log2 = value.toNat.log2 := by
      have self := (Nat.log2_eq_iff zero).mp rfl
      have odd : value.toNat ||| 1 ≠ 0 := by
        have := Nat.left_le_or (n := value.toNat) (m := 1)
        omega
      refine (Nat.log2_eq_iff odd).mpr ⟨Nat.le_trans self.1 Nat.left_le_or, ?_⟩
      exact Nat.or_lt_two_pow self.2 (Nat.one_lt_two_pow (by omega))
    have small : value.toNat.log2 < 32 := (Nat.log2_lt zero).mpr bounded
    have groups : Nat.log 128 value.toNat = value.toNat.log2 / 7 := by
      have self := (Nat.log2_eq_iff zero).mp rfl
      apply Nat.log_eq_of_pow_le_of_lt_pow
      · calc 128 ^ (value.toNat.log2 / 7) = 2 ^ (7 * (value.toNat.log2 / 7)) := by
              rw [Nat.pow_mul]
          _ ≤ 2 ^ value.toNat.log2 := Nat.pow_le_pow_right (by omega) (by omega)
          _ ≤ value.toNat := self.1
      · calc value.toNat < 2 ^ (value.toNat.log2 + 1) := self.2
          _ ≤ 2 ^ (7 * (value.toNat.log2 / 7 + 1)) := Nat.pow_le_pow_right (by omega) (by omega)
          _ = 128 ^ (value.toNat.log2 / 7 + 1) := by rw [Nat.pow_mul]
    rw [varintSize32, log, Varint.size, groups]
    omega

theorem varintSize32_pos (value : UInt32) : 0 < varintSize32 value := by
  rw [varintSize32_eq]
  exact Varint.size_pos _

theorem varintSize32_le (value : UInt32) : varintSize32 value ≤ 5 := by
  have bounded := value.toNat_lt
  rw [varintSize32_eq, Varint.size_le_iff (by decide)]
  omega

theorem varintSize32SignExtended_le (value : Int32) : varintSize32SignExtended value ≤ 10 := by
  have unsigned := varintSize32_le value.toUInt32
  unfold varintSize32SignExtended
  split <;> omega

theorem lengthDelimitedSize_le (length : Nat) : lengthDelimitedSize length ≤ length + 5 := by
  have counted := varintSize32_le (UInt32.ofNat length)
  unfold lengthDelimitedSize
  omega

theorem writeVarint32_length (value : UInt32) :
    (writeVarint32 value).length = varintSize32 value := by
  rw [writeVarint32, Varint.encode_length, varintSize32_eq]

theorem negative_toNat {value : Int32} (negative : value < 0) :
    2 ^ 31 ≤ value.toUInt32.toNat := by
  have below := Int32.lt_iff_toInt_lt.mp negative
  have zero : (0 : Int32).toInt = 0 := rfl
  have bits : value.toInt = value.toBitVec.toInt := rfl
  have bounded := value.toBitVec.isLt
  change 2 ^ 31 ≤ value.toBitVec.toNat
  rw [bits, BitVec.toInt_eq_toNat_cond] at below
  split at below <;> omega

private theorem signExtended_toNat (value : Int32) :
    value.toInt64.toUInt64.toNat =
      if value < 0 then 2 ^ 64 - 2 ^ 32 + value.toUInt32.toNat else value.toUInt32.toNat := by
  change (value.toBitVec.signExtend 64).toNat =
    if value < 0 then 2 ^ 64 - 2 ^ 32 + value.toBitVec.toNat else value.toBitVec.toNat
  have sign : value.toBitVec.msb = decide (value < 0) := by
    rw [BitVec.msb_eq_toInt, decide_eq_decide, Int32.lt_iff_toInt_lt]
    rfl
  have bounded := value.toBitVec.isLt
  rw [BitVec.toNat_signExtend, sign]
  by_cases negative : value < 0 <;> simp [negative] <;> omega

theorem truncate_signExtended (value : Int32) :
    value.toInt64.toUInt64.toUInt32.toInt32 = value := by
  apply Int32.toBitVec_inj.mp
  apply BitVec.eq_of_getLsbD_eq
  intro place below
  have inner : place < 64 := by omega
  change ((value.toBitVec.signExtend 64).setWidth 32).getLsbD place = value.toBitVec.getLsbD place
  rw [BitVec.getLsbD_setWidth, BitVec.getLsbD_signExtend]
  simp only [below, inner, decide_true, Bool.true_and, if_true]

theorem writeVarint32SignExtended_length (value : Int32) :
    (writeVarint32SignExtended value).length = varintSize32SignExtended value := by
  rw [writeVarint32SignExtended, writeVarint64, Varint.encode_length, varintSize32SignExtended]
  have extended := signExtended_toNat value
  by_cases negative : value < 0
  · rw [if_pos negative] at extended ⊢
    rw [extended]
    have lower : ¬ Varint.size (2 ^ 64 - 2 ^ 32 + value.toUInt32.toNat) ≤ 9 := by
      rw [Varint.size_le_iff (by decide)]
      have high := negative_toNat negative
      omega
    have upper : Varint.size (2 ^ 64 - 2 ^ 32 + value.toUInt32.toNat) ≤ 10 := by
      rw [Varint.size_le_iff (by decide)]
      have := value.toUInt32.toNat_lt
      omega
    omega
  · rw [if_neg negative] at extended ⊢
    rw [extended, varintSize32_eq]

theorem writeLengthDelimited_length (content : Bytes) :
    (writeLengthDelimited content).length = lengthDelimitedSize content.length := by
  rw [writeLengthDelimited, List.length_append, writeVarint32_length, lengthDelimitedSize]
  omega

end EbcNet.Wire
