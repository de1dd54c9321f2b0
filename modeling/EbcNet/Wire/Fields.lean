import EbcNet.Wire.Parse

/-! Written fields as a merge loop reads them: whole, or not at all. Only a nested
message is read from a part of it, which is taken for all of its content. -/

namespace EbcNet.Wire

open FieldStream (Complete Decided Holds)

section Fields
variable {runtime : Runtime} {Message : Type} {loop : Loop Message} {budget : Nat}
variable {message next : Message} {tag : UInt32} {part : Bytes}

theorem readVarint32_write (value : UInt32) (rest : Bytes) :
    runtime.readVarint32 (writeVarint32 value ++ rest) = some (value, rest) := by
  have wide : writeVarint32 value = writeVarint64 value.toUInt64 := by
    rw [writeVarint32, writeVarint64, UInt32.toNat_toUInt64]
  rw [Runtime.readVarint32, wide, runtime.varint64.back trivial]
  simp

theorem readTag_write (nonzero : tag ≠ 0) (rest : Bytes) :
    runtime.readTag (writeVarint32 tag ++ rest) = some (tag, rest) := by
  rw [Runtime.readTag, readVarint32_write]
  simp [nonzero]

/-- After the tag of a `case`, that `case` reads. -/
theorem Loop.mergeField_known {option : Case Message}
    (found : (loop.cases budget).find? (fun option => option.tag = tag) = some option)
    (nonzero : tag ≠ 0) (body : Bytes) :
    loop.mergeField runtime budget message (writeVarint32 tag ++ body) =
      option.read message body := by
  rw [Loop.mergeField, readTag_write nonzero, Option.bind_some]
  dsimp only
  rw [found]

theorem uint32Case_write (set : Message → UInt32 → Message) (value : UInt32) (rest : Bytes) :
    (uint32Case runtime tag set).read message (writeVarint32 value ++ rest) =
      some (set message value, rest) := by
  simp [uint32Case, readVarint32_write]

theorem enumCase_write (set : Message → Int32 → Message) (value : Int32) (rest : Bytes) :
    (enumCase runtime tag set).read message (writeVarint32SignExtended value ++ rest) =
      some (set message value, rest) := by
  simp [enumCase, Runtime.readEnum, Runtime.readVarint32, writeVarint32SignExtended,
    runtime.varint64.back, truncate_signExtended]

theorem bytesCase_write (set : Message → Bytes → Message) {value : Bytes}
    (fits : value.length ≤ intMax) (rest : Bytes) :
    (bytesCase runtime tag set).read message (writeLengthDelimited value ++ rest) =
      some (set message value, rest) := by
  simp [bytesCase, runtime.bytes.back fits]

theorem stringCase_write (set : Message → Bytes → Message) {value : Bytes}
    (fits : value.length ≤ intMax) (valid : runtime.verifyUtf8String value = true) (rest : Bytes) :
    (stringCase runtime tag set).read message (writeLengthDelimited value ++ rest) =
      some (set message value, rest) := by
  simp [stringCase, runtime.bytes.back fits, valid]

/-! ### Whole fields -/

theorem readVarint32_decided (runtime : Runtime) : Decided runtime.readVarint32 :=
  runtime.varint64.decided.map _

theorem uint32Case_decided (set : Message → UInt32 → Message) :
    Decided ((uint32Case runtime tag set).read message) :=
  (readVarint32_decided runtime).map _

theorem enumCase_decided (set : Message → Int32 → Message) :
    Decided ((enumCase runtime tag set).read message) :=
  ((readVarint32_decided runtime).map _).map _

theorem bytesCase_decided (set : Message → Bytes → Message) :
    Decided ((bytesCase runtime tag set).read message) :=
  runtime.bytes.decided.map _

theorem stringCase_decided (set : Message → Bytes → Message) :
    Decided ((stringCase runtime tag set).read message) :=
  runtime.bytes.decided.check runtime.verifyUtf8String _

/-- A part of a field that is not empty has the whole of a tag of one byte. -/
private theorem tag_of_part {value : Bytes} (small : tag.toNat < 128) (nonempty : part ≠ [])
    (within : part <+: writeVarint32 tag ++ value) :
    ∃ rest, part = writeVarint32 tag ++ rest ∧ rest <+: value := by
  rw [writeVarint32, Varint.encode_small small] at within ⊢
  obtain ⟨first, rest, rfl⟩ := List.exists_cons_of_ne_nil nonempty
  obtain ⟨rfl, later⟩ := List.cons_prefix_cons.mp within
  exact ⟨rest, rfl, later⟩

private theorem Loop.holds_known {option : Case Message} {value : Bytes}
    (decided : Decided (option.read message))
    (read : ∀ rest, option.read message (value ++ rest) = some (next, rest))
    (found : (loop.cases budget).find? (fun option => option.tag = tag) = some option)
    (nonzero : tag ≠ 0) (small : tag.toNat < 128) :
    Holds (loop.mergeField runtime budget) message (writeVarint32 tag ++ value) next := by
  left
  constructor
  · intro rest
    rw [List.append_assoc, Loop.mergeField_known found nonzero]
    exact read rest
  · intro part within nonempty different
    obtain ⟨rest, rfl, later⟩ := tag_of_part small nonempty within
    rw [Loop.mergeField_known found nonzero]
    by_contra present
    have all := read []
    rw [List.append_nil] at all
    have same := decided.whole all later (Option.isSome_iff_ne_none.mpr present)
    exact different (by rw [same])

/-- A field that is left out at its default. -/
theorem Loop.holds_unless {condition : Prop} [Decidable condition] {bytes : Bytes}
    (written : condition → Holds (loop.mergeField runtime budget) message bytes next)
    (default : ¬ condition → next = message) :
    Holds (loop.mergeField runtime budget) message (if condition then bytes else []) next := by
  by_cases holds : condition
  · rw [if_pos holds]
    exact written holds
  · rw [if_neg holds]
    exact Or.inr ⟨rfl, default holds⟩

theorem Loop.holds_uint32 (number : UInt32) (set : Message → UInt32 → Message) (value : UInt32)
    (found : (loop.cases budget).find? (fun option => option.tag = makeTag number wireTypeVarint) =
      some (uint32Case runtime tag set)) (nonzero : makeTag number wireTypeVarint ≠ 0)
    (small : (makeTag number wireTypeVarint).toNat < 128) :
    Holds (loop.mergeField runtime budget) message (writeUInt32 number value) (set message value) :=
  Loop.holds_known (uint32Case_decided set) (uint32Case_write set value) found nonzero small

theorem Loop.holds_enum (number : UInt32) (set : Message → Int32 → Message) (value : Int32)
    (found : (loop.cases budget).find? (fun option => option.tag = makeTag number wireTypeVarint) =
      some (enumCase runtime tag set)) (nonzero : makeTag number wireTypeVarint ≠ 0)
    (small : (makeTag number wireTypeVarint).toNat < 128) :
    Holds (loop.mergeField runtime budget) message (writeEnum number value) (set message value) :=
  Loop.holds_known (enumCase_decided set) (enumCase_write set value) found nonzero small

theorem Loop.holds_bytes (number : UInt32) (set : Message → Bytes → Message) {value : Bytes}
    (fits : value.length ≤ intMax)
    (found : (loop.cases budget).find?
      (fun option => option.tag = makeTag number wireTypeLengthDelimited) =
        some (bytesCase runtime tag set)) (nonzero : makeTag number wireTypeLengthDelimited ≠ 0)
    (small : (makeTag number wireTypeLengthDelimited).toNat < 128) :
    Holds (loop.mergeField runtime budget) message (writeBytes number value) (set message value) :=
  Loop.holds_known (bytesCase_decided set) (bytesCase_write set fits) found nonzero small

theorem Loop.holds_string (number : UInt32) (set : Message → Bytes → Message) {value : Bytes}
    (fits : value.length ≤ intMax) (valid : runtime.verifyUtf8String value = true)
    (found : (loop.cases budget).find?
      (fun option => option.tag = makeTag number wireTypeLengthDelimited) =
        some (stringCase runtime tag set)) (nonzero : makeTag number wireTypeLengthDelimited ≠ 0)
    (small : (makeTag number wireTypeLengthDelimited).toNat < 128) :
    Holds (loop.mergeField runtime budget) message (writeBytes number value) (set message value) :=
  Loop.holds_known (stringCase_decided set) (stringCase_write set fits valid) found nonzero small

theorem Loop.optional_uint32 (number : UInt32) (set : Message → UInt32 → Message) (value : UInt32)
    (found : (loop.cases budget).find? (fun option => option.tag = makeTag number wireTypeVarint) =
      some (uint32Case runtime tag set)) (nonzero : makeTag number wireTypeVarint ≠ 0)
    (small : (makeTag number wireTypeVarint).toNat < 128) (default : set message 0 = message) :
    Holds (loop.mergeField runtime budget) message
      (if value ≠ 0 then writeUInt32 number value else []) (set message value) :=
  Loop.holds_unless (fun _ => Loop.holds_uint32 number set value found nonzero small)
    fun absent => by rw [not_not.mp absent, default]

theorem Loop.optional_enum (number : UInt32) (set : Message → Int32 → Message) (value : Int32)
    (found : (loop.cases budget).find? (fun option => option.tag = makeTag number wireTypeVarint) =
      some (enumCase runtime tag set)) (nonzero : makeTag number wireTypeVarint ≠ 0)
    (small : (makeTag number wireTypeVarint).toNat < 128) (default : set message 0 = message) :
    Holds (loop.mergeField runtime budget) message
      (if value ≠ 0 then writeEnum number value else []) (set message value) :=
  Loop.holds_unless (fun _ => Loop.holds_enum number set value found nonzero small)
    fun absent => by rw [not_not.mp absent, default]

theorem Loop.optional_bytes (number : UInt32) (set : Message → Bytes → Message) {value : Bytes}
    (fits : value.length ≤ intMax)
    (found : (loop.cases budget).find?
      (fun option => option.tag = makeTag number wireTypeLengthDelimited) =
        some (bytesCase runtime tag set)) (nonzero : makeTag number wireTypeLengthDelimited ≠ 0)
    (small : (makeTag number wireTypeLengthDelimited).toNat < 128)
    (default : set message [] = message) :
    Holds (loop.mergeField runtime budget) message
      (if value.length > 0 then writeBytes number value else []) (set message value) :=
  Loop.holds_unless (fun _ => Loop.holds_bytes number set fits found nonzero small)
    fun absent => by rw [List.length_eq_zero_iff.mp (Nat.eq_zero_of_not_pos absent), default]

/-! ### Nested messages -/

theorem Loop.complete_message (number : UInt32) {merge : Nat → Message → Bytes → Option Message}
    {inner size : Nat} {content : Bytes} (length : content.length = size) (fits : size ≤ intMax)
    (merged : merge inner message content = some next)
    (found : (loop.cases budget).find?
      (fun option => option.tag = makeTag number wireTypeLengthDelimited) =
        some (messageCase runtime tag merge (inner + 1)))
    (nonzero : makeTag number wireTypeLengthDelimited ≠ 0) :
    Complete (loop.mergeField runtime budget) message (writeMessage number size content) next := by
  subst length
  apply Complete.single
  intro rest
  rw [writeMessage, List.append_assoc, List.append_assoc, writeTag,
    Loop.mergeField_known found nonzero]
  have wide : writeVarint32 (UInt32.ofNat content.length) =
      writeVarint64 (UInt32.ofNat content.length).toUInt64 := by
    rw [writeVarint32, writeVarint64, UInt32.toNat_toUInt64]
  have counted : content.length % 4294967296 = content.length := by
    unfold intMax at fits
    omega
  rw [wide]
  simp [messageCase, Runtime.readMessage, Runtime.readVarintSizeAsInt, runtime.varint64.back,
    counted, fits, merged]

/-- What is read from a part of a nested message: nothing, or what its `case` makes of a
content that is cut short. -/
theorem Loop.message_part (number : UInt32) {merge : Nat → Message → Bytes → Option Message}
    {inner : Nat} {content rest : Bytes} (fits : content.length ≤ intMax)
    (found : (loop.cases budget).find?
      (fun option => option.tag = makeTag number wireTypeLengthDelimited) =
        some (messageCase runtime tag merge (inner + 1)))
    (nonzero : makeTag number wireTypeLengthDelimited ≠ 0)
    (small : (makeTag number wireTypeLengthDelimited).toNat < 128)
    (within : part <+: writeMessage number content.length content) (nonempty : part ≠ [])
    (different : part ≠ writeMessage number content.length content)
    (read : loop.mergeField runtime budget message part = some (next, rest)) :
    ∃ cut, cut.length < content.length ∧ merge inner message cut = some next ∧ rest = [] := by
  rw [writeMessage, List.append_assoc] at within different
  obtain ⟨body, rfl, later⟩ := tag_of_part small nonempty within
  rw [Loop.mergeField_known found nonzero] at read
  obtain ⟨⟨length, start⟩, size, nested⟩ := Option.bind_eq_some_iff.mp read
  obtain ⟨⟨wide, tail⟩, varint, bounded⟩ := Option.bind_eq_some_iff.mp size
  by_cases readable : wide.toNat ≤ intMax
  · simp only [readable, if_true, Option.some.injEq, Prod.mk.injEq] at bounded
    obtain ⟨rfl, rfl⟩ := bounded
    obtain ⟨merged, done, same⟩ := Option.map_eq_some_iff.mp nested
    cases same
    -- The length is read whole, so it is the one that was written.
    obtain ⟨missing, whole⟩ := later
    obtain ⟨used, rfl, again⟩ := runtime.varint64.decided varint
    have written : runtime.readVarint64 (writeVarint32 (UInt32.ofNat content.length) ++ content) =
        some ((UInt32.ofNat content.length).toUInt64, content) := by
      rw [writeVarint32, ← UInt32.toNat_toUInt64]
      exact runtime.varint64.back trivial content
    rw [← whole, List.append_assoc, again] at written
    obtain ⟨rfl, split⟩ := Prod.mk.inj (Option.some.inj written)
    have counted : ((UInt32.ofNat content.length).toUInt64).toNat = content.length := by
      unfold intMax at fits
      rw [UInt32.toNat_toUInt64, UInt32.toNat_ofNat', Nat.mod_eq_of_lt (by omega)]
    have lacking : missing ≠ [] := by
      intro none
      rw [none, List.append_nil] at whole
      exact different (by rw [whole]; rfl)
    have shorter : tail.length < content.length := by
      have some := List.length_pos_iff.mpr lacking
      rw [← split, List.length_append]
      omega
    rw [counted, List.take_of_length_le (Nat.le_of_lt shorter)] at done
    rw [counted, List.drop_eq_nil_of_le (Nat.le_of_lt shorter)]
    exact ⟨tail, shorter, done, rfl⟩
  · simp [readable] at bounded

end Fields

end EbcNet.Wire
