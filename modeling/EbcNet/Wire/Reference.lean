import EbcNet.Wire.Accepted

/-! A runtime to evaluate the model with. It reads groups as malformed and takes
only ASCII for text, which is all that this program writes. -/

namespace EbcNet.Wire.Reference

def readVarint64 (input : Bytes) : Option (UInt64 × Bytes) :=
  (Varint.decode 10 input).map fun (value, rest) => (UInt64.ofNat value, rest)

def takeBytes (count : Nat) (input : Bytes) : Option (Bytes × Bytes) :=
  if count ≤ input.length then some (input.take count, input.drop count) else none

def readBytes (input : Bytes) : Option (Bytes × Bytes) :=
  (readVarint64 input).bind fun (length, rest) =>
    if length.toNat ≤ intMax then takeBytes length.toNat rest else none

def skipField (_ : Nat) (tag : UInt32) (input : Bytes) : Option (Bytes × Bytes) :=
  match tag.toNat % 8 with
  | 0 => (readVarint64 input).map fun (value, rest) =>
      (writeVarint32 tag ++ writeVarint64 value, rest)
  | 1 => (takeBytes 8 input).map fun (value, rest) => (writeVarint32 tag ++ value, rest)
  | 2 => (readBytes input).map fun (value, rest) =>
      (writeVarint32 tag ++ writeLengthDelimited value, rest)
  | 5 => (takeBytes 4 input).map fun (value, rest) => (writeVarint32 tag ++ value, rest)
  | _ => none

private theorem varint64 : FieldStream.Codec readVarint64 writeVarint64 fun _ => True := by
  constructor
  · intro value _ rest
    have fits : Varint.size value.toNat ≤ 10 := by
      rw [Varint.size_le_iff (by decide)]
      have bounded := value.toNat_lt
      omega
    simp [readVarint64, writeVarint64, Varint.decode_encode fits]
  · intro input value rest read
    obtain ⟨⟨wide, tail⟩, decoded, same⟩ := Option.map_eq_some_iff.mp read
    cases same
    obtain ⟨used, split, shortest, replay⟩ := Varint.decode_prefix decoded
    refine ⟨used, split, ?_, ?_⟩
    · rw [writeVarint64, Varint.encode_length, UInt64.toNat_ofNat']
      exact Nat.le_trans (Varint.size_mono (Nat.mod_le _ _)) shortest
    · intro other
      rw [readVarint64, replay]
      rfl

private theorem takeBytes_some {count : Nat} {input value rest : Bytes}
    (read : takeBytes count input = some (value, rest)) :
    input = value ++ rest ∧ value.length = count := by
  unfold takeBytes at read
  split at read
  · cases read
    exact ⟨(List.take_append_drop count input).symm, by simp; omega⟩
  · cases read

private theorem takeBytes_append (value rest : Bytes) :
    takeBytes value.length (value ++ rest) = some (value, rest) := by
  simp [takeBytes]

private theorem bytes : FieldStream.Codec readBytes writeLengthDelimited fun value =>
    value.length ≤ intMax := by
  constructor
  · intro value fits rest
    have wide : writeVarint32 (UInt32.ofNat value.length) =
        writeVarint64 (UInt32.ofNat value.length).toUInt64 := by
      rw [writeVarint32, writeVarint64, UInt32.toNat_toUInt64]
    have counted : value.length % 4294967296 = value.length := by
      unfold intMax at fits
      omega
    rw [writeLengthDelimited, wide, List.append_assoc, readBytes, varint64.back trivial]
    simp [counted, fits, takeBytes_append]
  · intro input value rest read
    obtain ⟨⟨length, tail⟩, varint, taken⟩ := Option.bind_eq_some_iff.mp read
    dsimp only at taken
    split at taken
    · rename_i fits
      obtain ⟨used, split, shortest, replay⟩ := varint64.shortest varint
      obtain ⟨rfl, counted⟩ := takeBytes_some taken
      refine ⟨used ++ value, by rw [split, List.append_assoc], ?_, ?_⟩
      · have header : (writeVarint32 (UInt32.ofNat value.length)).length ≤ used.length := by
          refine Nat.le_trans ?_ shortest
          rw [writeVarint32, writeVarint64, Varint.encode_length, Varint.encode_length,
            UInt32.toNat_ofNat', counted]
          exact Varint.size_mono (Nat.mod_le _ _)
        rw [writeLengthDelimited, List.length_append, List.length_append]
        omega
      · intro other
        rw [← counted] at fits
        rw [readBytes, List.append_assoc, replay]
        simp [fits, ← counted, takeBytes_append]
    · cases taken

/-- A record whose value is read back as it was written. -/
private theorem skipped_of_codec {Value : Type} {read : Bytes → Option (Value × Bytes)}
    {write : Value → Bytes} {Writable : Value → Prop} (codec : FieldStream.Codec read write Writable)
    (writable : ∀ {input value rest}, read input = some (value, rest) → Writable value)
    {tag : UInt32} {input output rest : Bytes}
    (skipped : (read input).map (fun (value, rest) => (writeVarint32 tag ++ write value, rest)) =
      some (output, rest)) :
    ∃ used value, input = used ++ rest ∧ output = writeVarint32 tag ++ value ∧
      value.length ≤ used.length ∧
      (∀ other, (read (used ++ other)).map
        (fun (value, rest) => (writeVarint32 tag ++ write value, rest)) = some (output, other)) ∧
      ∀ other, (read (value ++ other)).map
        (fun (value, rest) => (writeVarint32 tag ++ write value, rest)) = some (output, other) := by
  obtain ⟨⟨value, tail⟩, taken, same⟩ := Option.map_eq_some_iff.mp skipped
  cases same
  obtain ⟨used, split, shortest, replay⟩ := codec.shortest taken
  refine ⟨used, write value, split, rfl, shortest, ?_, ?_⟩
  · intro other
    rw [replay]
    rfl
  · intro other
    rw [codec.back (writable taken)]
    rfl

private theorem takeBytes_codec (count : Nat) :
    FieldStream.Codec (takeBytes count) id fun value => value.length = count := by
  constructor
  · intro value counted rest
    rw [← counted]
    exact takeBytes_append value rest
  · intro input value rest read
    obtain ⟨split, counted⟩ := takeBytes_some read
    refine ⟨value, split, Nat.le_refl _, ?_⟩
    intro other
    rw [← counted]
    exact takeBytes_append value other

private theorem readBytes_writable {input value rest : Bytes}
    (read : readBytes input = some (value, rest)) : value.length ≤ intMax := by
  obtain ⟨⟨length, tail⟩, varint, taken⟩ := Option.bind_eq_some_iff.mp read
  dsimp only at taken
  split at taken
  · rename_i fits
    rw [(takeBytes_some taken).2]
    exact fits
  · cases taken

private theorem skipped {budget : Nat} {tag : UInt32} {input output rest : Bytes}
    (skipped : skipField budget tag input = some (output, rest)) :
    ∃ used value, input = used ++ rest ∧ output = writeVarint32 tag ++ value ∧
      value.length ≤ used.length ∧
      (∀ other, skipField budget tag (used ++ other) = some (output, other)) ∧
      ∀ other, skipField budget tag (value ++ other) = some (output, other) := by
  unfold skipField at skipped ⊢
  split at skipped
  · exact skipped_of_codec varint64 (fun _ => trivial) skipped
  · exact skipped_of_codec (takeBytes_codec 8) (fun read => (takeBytes_some read).2) skipped
  · exact skipped_of_codec bytes readBytes_writable skipped
  · exact skipped_of_codec (takeBytes_codec 4) (fun read => (takeBytes_some read).2) skipped
  · cases skipped

def runtime : Runtime where
  readVarint64 := readVarint64
  readBytes := readBytes
  skipField := skipField
  verifyUtf8String text := text.all (· < 128)
  preserveUnknowns := true
  abandonedArray array := array
  varint64 := varint64
  bytes := bytes
  skipped := skipped
  ascii := by simp

end EbcNet.Wire.Reference
