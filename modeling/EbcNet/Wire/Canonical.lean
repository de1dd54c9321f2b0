import EbcNet.Wire.Accepted
import EbcNet.Wire.Recognized
import EbcNet.Wire.Reference

/-! One reading for accepted bytes, and one way to write what was read. -/

namespace EbcNet.Wire

open FieldStream (Unambiguous)

/-! ### One reading -/

section Kinds
variable {runtime : Runtime} {Field Content Value : Type} {number : UInt32} {budget : Nat}

/-- Bytes have at most one value of the kind in front. -/
def Declared.Single (declared : Declared Field) : Prop :=
  ∀ ⦃input : Bytes⦄ ⦃first other : Field⦄ ⦃rest tail : Bytes⦄,
    declared.Value input first rest → declared.Value input other tail →
      first = other ∧ rest = tail

private theorem valueField_single {wireType : UInt32} {read : Bytes → Option (Value × Bytes)}
    {field : Value → Field} : (valueField number wireType read field).Single := by
  rintro input _ _ rest tail ⟨value, done, rfl⟩ ⟨other, again, rfl⟩
  obtain ⟨rfl, rfl⟩ := Prod.mk.inj (Option.some.inj (done.symm.trans again))
  exact ⟨rfl, rfl⟩

theorem uint32Field_single {field : UInt32 → Field} :
    (uint32Field runtime number field).Single :=
  valueField_single

theorem enumField_single {field : Int32 → Field} : (enumField runtime number field).Single :=
  valueField_single

theorem bytesField_single {field : Bytes → Field} : (bytesField runtime number field).Single :=
  valueField_single

theorem stringField_single {field : Bytes → Field} :
    (stringField runtime number field).Single := by
  rintro input _ _ rest tail ⟨value, done, _, rfl⟩ ⟨other, again, _, rfl⟩
  obtain ⟨rfl, rfl⟩ := Prod.mk.inj (Option.some.inj (done.symm.trans again))
  exact ⟨rfl, rfl⟩

/-- A nested message has one value when its content spells one. -/
theorem messageField_single {spells : Nat → Bytes → Content → Prop} {field : Content → Field}
    (one : ∀ ⦃inner content value other⦄, spells inner content value →
      spells inner content other → value = other) :
    (messageField runtime number spells budget field).Single := by
  rintro input _ _ _ _ ⟨inner, length, start, content, rfl, size, spelled, rfl, rfl⟩
    ⟨depth, count, later, more, deeper, again, respelled, rfl, rfl⟩
  obtain rfl := Nat.succ.inj deeper
  obtain ⟨rfl, rfl⟩ := Prod.mk.inj (Option.some.inj (size.symm.trans again))
  rw [one spelled respelled]
  exact ⟨rfl, rfl⟩

variable {declaration : Declaration Field}

/-- A tag tells which field it is. -/
theorem Declaration.unambiguous
    (distinct : ((declaration.fields budget).map Declared.tag).Nodup)
    (single : ∀ field ∈ declaration.fields budget, field.Single) :
    Unambiguous (declaration.Starts runtime budget) where
  first := by
    rintro input first other rest tail ⟨tag, body, tagged, starts⟩ ⟨same, start, again, restarts⟩
    obtain ⟨rfl, rfl⟩ := Prod.mk.inj (Option.some.inj (tagged.symm.trans again))
    rcases starts with ⟨field, member, rfl, value⟩ | ⟨none, record, skipped, rfl⟩
    · rcases restarts with ⟨second, listed, equal, revalued⟩ | ⟨none, _⟩
      · obtain rfl := List.inj_on_of_nodup_map distinct listed member equal
        exact single second member value revalued
      · exact absurd rfl (none field member)
    · rcases restarts with ⟨second, listed, equal, _⟩ | ⟨_, recorded, reskipped, rfl⟩
      · exact absurd equal (none second listed)
      · obtain ⟨rfl, rfl⟩ := Prod.mk.inj (Option.some.inj (skipped.symm.trans reskipped))
        exact ⟨rfl, rfl⟩
  empty := by
    rintro first rest ⟨tag, body, tagged, _⟩
    have taken := (readTag_length tagged).2
    have positive := varintSize32_pos tag
    simp only [List.length_nil] at taken
    omega

end Kinds

section Messages
variable {runtime : Runtime} {budget : Nat} {input : Bytes}

theorem EbcNode.unambiguous : Unambiguous ((EbcNode.declaration runtime).Starts runtime budget) := by
  apply Declaration.unambiguous
  · show [10, 16, 24].Nodup
    decide
  · intro field member
    simp only [declaration, List.mem_cons, List.not_mem_nil, or_false] at member
    rcases member with rfl | rfl | rfl
    · exact bytesField_single
    · exact uint32Field_single
    · exact uint32Field_single

theorem EbcNodes.unambiguous :
    Unambiguous ((EbcNodes.declaration runtime).Starts runtime budget) := by
  apply Declaration.unambiguous
  · exact List.nodup_singleton _
  · intro field member
    rw [List.mem_singleton.mp member]
    exact messageField_single fun _ _ _ _ => EbcNode.unambiguous.spells

theorem EbcMsg.unambiguous : Unambiguous ((EbcMsg.declaration runtime).Starts runtime budget) := by
  apply Declaration.unambiguous
  · show [8, 18, 26, 34, 40, 48, 56, 64, 72, 82, 90].Nodup
    decide
  · intro field member
    simp only [declaration, List.mem_cons, List.not_mem_nil, or_false] at member
    rcases member with rfl | rfl | rfl | rfl | rfl | rfl | rfl | rfl | rfl | rfl | rfl
    · exact uint32Field_single
    · exact stringField_single
    · exact bytesField_single
    · exact bytesField_single
    · exact uint32Field_single
    · exact uint32Field_single
    · exact enumField_single
    · exact enumField_single
    · exact uint32Field_single
    · exact bytesField_single
    · exact messageField_single fun _ _ _ _ => EbcNodes.unambiguous.spells

/-- Bytes that are accepted spell the fields of just one message, down to the nodes of its
list, and other bytes spell none. -/
theorem EbcMsg.parse_isSome_iff_unique :
    (parseFromArray runtime input).isSome = true ↔ ∃! fields, Spells runtime input fields := by
  rw [Option.isSome_iff_exists]
  constructor
  · rintro ⟨msg, parsed⟩
    obtain ⟨fields, spelled, _⟩ := (parse_iff runtime).mp parsed
    exact ⟨fields, spelled, fun other again => EbcMsg.unambiguous.spells again spelled⟩
  · rintro ⟨fields, spelled, _⟩
    exact ⟨_, (parse_iff runtime).mpr ⟨fields, spelled, rfl⟩⟩

end Messages

/-! ### One way to write -/

section Writing
variable {runtime : Runtime}

private theorem unknownFields_twice (unknown : Bytes) :
    runtime.unknownFields (runtime.unknownFields unknown) = runtime.unknownFields unknown := by
  unfold Runtime.unknownFields
  split <;> rfl

private theorem EbcNode.serialize_observable (node : EbcNode) :
    (node.observable runtime).serializeWithCachedSizes runtime =
      node.serializeWithCachedSizes runtime := by
  dsimp only [serializeWithCachedSizes, observable]
  rw [unknownFields_twice]

private theorem EbcNodes.serialize_observable (nodes : EbcNodes) :
    (nodes.observable runtime).serializeWithCachedSizes runtime =
      nodes.serializeWithCachedSizes runtime := by
  simp only [serializeWithCachedSizes, observable, unknownFields_twice, List.flatMap_map,
    EbcNode.serialize_observable, ← EbcNode.serialize_length]

/-- What of a message is not written makes no difference to its bytes. -/
theorem EbcMsg.serialize_observable (msg : EbcMsg) :
    (msg.observable runtime).serializeWithCachedSizes runtime =
      msg.serializeWithCachedSizes runtime := by
  have body : (msg.body.observable runtime).serializeWithCachedSizes runtime =
      msg.body.serializeWithCachedSizes runtime := by
    cases msg.body with
    | notSet => rfl
    | msg content => rfl
    | nodes content =>
      simp only [Body.observable, Body.serializeWithCachedSizes, EbcNodes.serialize_observable,
        ← EbcNodes.serialize_length]
  dsimp only [serializeWithCachedSizes, observable]
  rw [body, unknownFields_twice]

/-- A negative enumerator is written in ten bytes, and its bits in five. -/
private theorem enum_le_bits (value : Int32) :
    (if value ≠ 0 then 1 + varintSize32SignExtended value else 0) ≤
      (if value ≠ 0 then 1 + varintSize32 value.toUInt32 else 0) + 5 := by
  have bits : varintSize32SignExtended value ≤ varintSize32 value.toUInt32 + 5 := by
    unfold varintSize32SignExtended
    split
    · have large : ¬ Varint.size value.toUInt32.toNat ≤ 4 := by
        rw [Varint.size_le_iff (by decide)]
        have high := negative_toNat ‹value < 0›
        omega
      rw [varintSize32_eq]
      omega
    · omega
  split <;> omega

theorem EbcMsg.byteSizeLong_le_shortest (msg : EbcMsg) :
    msg.byteSizeLong runtime ≤ msg.shortestLength runtime + 10 := by
  have type := enum_le_bits msg.type
  have subType := enum_le_bits msg.subType
  have absent : ∀ size, (if (0 : Int32) ≠ 0 then size else 0) = 0 := fun _ => rfl
  simp only [shortestLength, byteSizeLong, absent]
  omega

variable {input : Bytes} {msg : EbcMsg}

/-- What was read from a short input can be written. -/
private theorem rewritten_fits (short : input.length + 10 ≤ intMax)
    (parsed : EbcMsg.parseFromArray runtime input = some msg) :
    msg.byteSizeLong runtime ≤ input.length + 10 := by
  have shortest := EbcMsg.parse_length (by omega) parsed
  have longest : msg.byteSizeLong runtime ≤ _ := msg.byteSizeLong_le_shortest
  omega

/-- Writing what was read gives the one form of those bytes: it is read as the same
message and written as itself, it is at most ten bytes longer, and other bytes have the same
form when as much of their message is written, and only then. -/
theorem EbcMsg.canonical (short : input.length + 10 ≤ intMax)
    (parsed : parseFromArray runtime input = some msg) :
    parseFromArray runtime (msg.serializeWithCachedSizes runtime) =
        some (msg.observable runtime) ∧
      (msg.observable runtime).serializeWithCachedSizes runtime =
        msg.serializeWithCachedSizes runtime ∧
      (msg.serializeWithCachedSizes runtime).length ≤ input.length + 10 ∧
      ∀ other read, other.length + 10 ≤ intMax → parseFromArray runtime other = some read →
        (read.serializeWithCachedSizes runtime = msg.serializeWithCachedSizes runtime ↔
          read.observable runtime = msg.observable runtime) := by
  have back : ∀ {bytes : Bytes} {read : EbcMsg}, bytes.length + 10 ≤ intMax →
      parseFromArray runtime bytes = some read →
        parseFromArray runtime (read.serializeWithCachedSizes runtime) =
          some (read.observable runtime) := by
    intro bytes read short parsed
    exact parse_serialize (parse_valid parsed) (Nat.le_trans (rewritten_fits short parsed) short)
  refine ⟨back short parsed, msg.serialize_observable, ?_, ?_⟩
  · rw [EbcMsg.serialize_length]
    exact rewritten_fits short parsed
  · intro other read otherShort otherParsed
    constructor
    · intro same
      have reread := back otherShort otherParsed
      rw [same, back short parsed] at reread
      exact (Option.some.inj reread).symm
    · intro same
      rw [← read.serialize_observable, same, msg.serialize_observable]

/-- The head 5, with a byte more than it takes. -/
theorem EbcMsg.canonical_head :
    parseFromArray Reference.runtime
        (EbcMsg.serializeWithCachedSizes Reference.runtime { head := 5 }) =
        some (EbcMsg.observable Reference.runtime { head := 5 }) ∧
      (EbcMsg.observable Reference.runtime { head := 5 }).serializeWithCachedSizes
          Reference.runtime =
        EbcMsg.serializeWithCachedSizes Reference.runtime { head := 5 } ∧
      (EbcMsg.serializeWithCachedSizes Reference.runtime { head := 5 }).length ≤
        [8, 133, 0].length + 10 ∧
      ∀ other read, other.length + 10 ≤ intMax →
        parseFromArray Reference.runtime other = some read →
          (read.serializeWithCachedSizes Reference.runtime =
              EbcMsg.serializeWithCachedSizes Reference.runtime { head := 5 } ↔
            read.observable Reference.runtime =
              EbcMsg.observable Reference.runtime { head := 5 }) :=
  @EbcMsg.canonical Reference.runtime [8, 133, 0] { head := 5 } (by decide) (by decide)

end Writing

end EbcNet.Wire
