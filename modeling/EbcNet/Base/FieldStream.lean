import Mathlib.Algebra.Order.Ring.Nat
import Mathlib.Data.List.Basic

/-! Records filled from a stream of fields: a reader takes one field off the
input and stores it, and is called until the input is used up. The rules below
reduce a statement about a whole stream to one about a single field. -/

namespace FieldStream
universe u v
variable {Symbol : Type u} {Record : Type v}

/-- Take one field off the input and store it in the record. -/
abbrev Reader (Symbol : Type u) (Record : Type v) :=
  Record → List Symbol → Option (Record × List Symbol)

private def fillRounds (field : Reader Symbol Record) : Nat → Record → List Symbol → Option Record
  | _, record, [] => some record
  | 0, _, _ :: _ => none
  | rounds + 1, record, symbol :: input =>
    (field record (symbol :: input)).bind fun (record, rest) => fillRounds field rounds record rest

/-- Call the reader until nothing is left. Every field takes at least one
symbol, so the input bounds the number of rounds. -/
def fill (field : Reader Symbol Record) (record : Record) (input : List Symbol) : Option Record :=
  fillRounds field input.length record input

/-- Every field that is read shortens the input. -/
def Progress (field : Reader Symbol Record) : Prop :=
  ∀ record input next rest, field record input = some (next, rest) → rest.length < input.length

/-- A stream of whole fields: each one is read the same whatever follows it. -/
inductive Complete (field : Reader Symbol Record) : Record → List Symbol → Record → Prop where
  | done {record : Record} : Complete field record [] record
  | step {record next final : Record} {used input : List Symbol}
      (read : ∀ rest, field record (used ++ rest) = some (next, rest))
      (tail : Complete field next input final) : Complete field record (used ++ input) final

section Rules
variable {field : Reader Symbol Record} {record next final : Record} {input used rest : List Symbol}

@[simp] theorem fill_nil : fill field record [] = some record := rfl

private theorem fillRounds_enough (progress : Progress field) :
    ∀ (rounds : Nat) (record : Record) (input : List Symbol), input.length ≤ rounds →
      fillRounds field rounds record input = fill field record input := by
  intro rounds
  induction rounds using Nat.strongRecOn with
  | ind rounds ih =>
    intro record input enough
    cases input with
    | nil => cases rounds <;> rfl
    | cons symbol tail =>
      obtain ⟨fewer, rfl⟩ : ∃ fewer, rounds = fewer + 1 :=
        ⟨rounds - 1, by simp at enough; omega⟩
      simp only [List.length_cons, Nat.add_le_add_iff_right] at enough
      simp only [fill, List.length_cons, fillRounds]
      cases read : field record (symbol :: tail) with
      | none => rfl
      | some step =>
        obtain ⟨next, rest⟩ := step
        have shorter := progress _ _ _ _ read
        simp only [List.length_cons] at shorter
        simp only [Option.bind_some]
        rw [ih fewer (by omega) next rest (by omega), ih tail.length (by omega) next rest (by omega)]

theorem fill_step (progress : Progress field) (read : field record input = some (next, rest)) :
    fill field record input = fill field next rest := by
  have shorter := progress _ _ _ _ read
  cases input with
  | nil => simp at shorter
  | cons symbol tail =>
    simp only [List.length_cons] at shorter
    simp only [fill, List.length_cons, fillRounds, read, Option.bind_some]
    exact fillRounds_enough progress tail.length next rest (by omega)

theorem Complete.single (read : ∀ rest, field record (used ++ rest) = some (next, rest)) :
    Complete field record used next := by
  simpa using Complete.step read .done

theorem Complete.append (first : Complete field record used next)
    (second : Complete field next input final) : Complete field record (used ++ input) final := by
  induction first with
  | done => exact second
  | step read _ ih =>
    rw [List.append_assoc]
    exact .step read (ih second)

/-- Whole fields in front of any input are read first. -/
theorem Complete.fill_append (progress : Progress field)
    (whole : Complete field record used next) (rest : List Symbol) :
    fill field record (used ++ rest) = fill field next rest := by
  induction whole with
  | done => rfl
  | step read _ ih =>
    rw [List.append_assoc, fill_step progress (read (_ ++ rest)), ih]

theorem Complete.fill (progress : Progress field) (whole : Complete field record used next) :
    fill field record used = some next := by
  simpa using whole.fill_append progress []

/-- Induction rule: what every field preserves, the stream preserves. -/
theorem fill_preserves (Holds : Record → Prop)
    (step : ∀ {record next input rest}, Holds record →
      field record input = some (next, rest) → Holds next)
    (start : Holds record) (filled : FieldStream.fill field record input = some final) :
    Holds final := by
  have rounds : ∀ (rounds : Nat) (record : Record) (input : List Symbol), Holds record →
      fillRounds field rounds record input = some final → Holds final := by
    intro rounds
    induction rounds with
    | zero =>
      intro record input start filled
      cases input <;> simp_all [fillRounds]
    | succ rounds ih =>
      intro record input start filled
      cases input with
      | nil => simp_all [fillRounds]
      | cons symbol tail =>
        obtain ⟨⟨next, rest⟩, read, filled⟩ := Option.bind_eq_some_iff.mp filled
        exact ih next rest (step start read) filled
  exact rounds input.length record input start filled

/-- Weight rule: a record weighs no more than its start and the input together,
when no field adds more than the symbols it takes. A field may rely on a bound
that start and input keep. -/
theorem fill_weight (weight : Record → Nat) {bound : Nat}
    (step : ∀ {record next input rest}, weight record + input.length ≤ bound →
      field record input = some (next, rest) →
        weight next + rest.length ≤ weight record + input.length)
    (light : weight record + input.length ≤ bound)
    (filled : FieldStream.fill field record input = some final) :
    weight final ≤ weight record + input.length := by
  have rounds : ∀ (rounds : Nat) (record : Record) (input : List Symbol),
      weight record + input.length ≤ bound → fillRounds field rounds record input = some final →
        weight final ≤ weight record + input.length := by
    intro rounds
    induction rounds with
    | zero =>
      intro record input light filled
      cases input <;> simp_all [fillRounds]
    | succ rounds ih =>
      intro record input light filled
      cases input with
      | nil => simp_all [fillRounds]
      | cons symbol tail =>
        obtain ⟨⟨next, rest⟩, read, filled⟩ := Option.bind_eq_some_iff.mp filled
        have kept := step light read
        exact Nat.le_trans (ih next rest (Nat.le_trans kept light) filled) kept
  exact rounds input.length record input light filled

end Rules

/-- A value reader and the writer it undoes. What is read is a prefix of the
input, at least as long as the written form, and reads the same before any
other input. -/
structure Codec {Value : Type v} (read : List Symbol → Option (Value × List Symbol))
    (write : Value → List Symbol) (Writable : Value → Prop) : Prop where
  back : ∀ {value}, Writable value → ∀ rest, read (write value ++ rest) = some (value, rest)
  shortest : ∀ {input value rest}, read input = some (value, rest) →
    ∃ used, input = used ++ rest ∧ (write value).length ≤ used.length ∧
      ∀ other, read (used ++ other) = some (value, other)

theorem Codec.length_le {Value : Type v} {read : List Symbol → Option (Value × List Symbol)}
    {write : Value → List Symbol} {Writable : Value → Prop} (codec : Codec read write Writable)
    {input rest : List Symbol} {value : Value} (done : read input = some (value, rest)) :
    (write value).length + rest.length ≤ input.length := by
  obtain ⟨used, split, shortest, _⟩ := codec.shortest done
  rw [split, List.length_append]
  omega

/-! ### Parts of what was written -/

section Parts
variable {Value : Type v} {Other : Type v} {read : List Symbol → Option (Value × List Symbol)}

/-- What is read depends only on the symbols that are taken. -/
def Decided (read : List Symbol → Option (Value × List Symbol)) : Prop :=
  ∀ ⦃input value rest⦄, read input = some (value, rest) →
    ∃ used, input = used ++ rest ∧ ∀ other, read (used ++ other) = some (value, other)

theorem Codec.decided {write : Value → List Symbol} {Writable : Value → Prop}
    (codec : Codec read write Writable) : Decided read := by
  intro input value rest done
  obtain ⟨used, split, _, again⟩ := codec.shortest done
  exact ⟨used, split, again⟩

theorem Decided.map (decided : Decided read) (change : Value → Other) :
    Decided fun input => (read input).map fun (value, rest) => (change value, rest) := by
  intro input value rest done
  obtain ⟨⟨taken, tail⟩, found, same⟩ := Option.map_eq_some_iff.mp done
  cases same
  obtain ⟨used, split, again⟩ := decided found
  refine ⟨used, split, fun other => ?_⟩
  simp only [again, Option.map_some]

theorem Decided.check (decided : Decided read) (valid : Value → Bool) (change : Value → Other) :
    Decided fun input => (read input).bind fun (value, rest) =>
      if valid value then some (change value, rest) else none := by
  intro input value rest done
  obtain ⟨⟨taken, tail⟩, found, checked⟩ := Option.bind_eq_some_iff.mp done
  dsimp only at checked
  split at checked
  · cases checked
    obtain ⟨used, split, again⟩ := decided found
    refine ⟨used, split, fun other => ?_⟩
    simp only [again, Option.bind_some, ‹valid taken = true›, if_true]
  · cases checked

/-- Nothing is read from a part of what is read in one piece. -/
theorem Decided.whole (decided : Decided read) {written part : List Symbol} {value : Value}
    (done : read written = some (value, [])) (within : part <+: written)
    (some : (read part).isSome = true) : part = written := by
  obtain ⟨⟨taken, rest⟩, found⟩ := Option.isSome_iff_exists.mp some
  obtain ⟨missing, rfl⟩ := within
  obtain ⟨used, rfl, again⟩ := decided found
  rw [List.append_assoc, again] at done
  obtain ⟨_, nothing⟩ := Prod.mk.inj (Option.some.inj done)
  obtain ⟨_, rfl⟩ := List.append_eq_nil_iff.mp nothing
  rw [List.append_nil]

variable {field : Reader Symbol Record} {record next final : Record}
variable {used tail part : List Symbol}

/-- Symbols that hold a field: one that is read the same whatever follows it, but from no
part of it, or one that was left out. -/
def Holds (field : Reader Symbol Record) (record : Record) (used : List Symbol) (next : Record) :
    Prop :=
  ((∀ rest, field record (used ++ rest) = some (next, rest)) ∧
    ∀ part, part <+: used → part ≠ [] → part ≠ used → field record part = none) ∨
  used = [] ∧ next = record

theorem Holds.complete (holds : Holds field record used next) : Complete field record used next := by
  rcases holds with ⟨read, _⟩ | ⟨rfl, rfl⟩
  · exact .single read
  · exact .done

theorem fill_eq_none (nonempty : part ≠ []) (refused : field record part = none) :
    fill field record part = none := by
  cases part with
  | nil => exact absurd rfl nonempty
  | cons symbol rest =>
    rw [fill, List.length_cons, fillRounds, refused]
    rfl

theorem fill_some (nonempty : part ≠ []) (filled : fill field record part = some final) :
    ∃ next rest, field record part = some (next, rest) := by
  cases read : field record part with
  | none =>
    rw [fill_eq_none nonempty read] at filled
    cases filled
  | some taken => exact ⟨taken.1, taken.2, rfl⟩

/-- What is read from a part of a stream: nothing, or the first field and a part of what
follows it. -/
theorem Holds.fill_part (progress : Progress field) (holds : Holds field record used next)
    (within : part <+: used ++ tail) (filled : fill field record part = some final) :
    (part = [] ∧ final = record) ∨
      ∃ later, part = used ++ later ∧ later <+: tail ∧ fill field next later = some final := by
  rcases holds with ⟨read, refuses⟩ | ⟨rfl, rfl⟩
  · by_cases reaches : used <+: part
    · obtain ⟨later, rfl⟩ := reaches
      refine Or.inr ⟨later, rfl, (List.prefix_append_right_inj used).mp within, ?_⟩
      rw [← fill_step progress (read later)]
      exact filled
    · have short : part <+: used := by
        rcases List.prefix_or_prefix_of_prefix within (List.prefix_append used tail) with
          short | long
        · exact short
        · exact absurd long reaches
      by_cases empty : part = []
      · rw [empty, fill_nil] at filled
        exact Or.inl ⟨empty, (Option.some.inj filled).symm⟩
      · have different : part ≠ used := fun same => reaches (same ▸ List.prefix_refl part)
        rw [fill_eq_none empty (refuses part short empty different)] at filled
        cases filled
  · exact Or.inr ⟨part, rfl, within, filled⟩

/-- Fields one after another, with the record as it is after each. -/
inductive Chain (field : Reader Symbol Record) :
    Record → List (List Symbol × Record) → Record → Prop where
  | done {record : Record} : Chain field record [] record
  | field {record next final : Record} {used : List Symbol} {later : List (List Symbol × Record)}
      (holds : Holds field record used next) (chain : Chain field next later final) :
      Chain field record ((used, next) :: later) final

theorem Chain.complete {fields : List (List Symbol × Record)}
    (chain : Chain field record fields final) :
    Complete field record (fields.map Prod.fst).flatten final := by
  induction chain with
  | done => exact .done
  | field holds _ ih => exact holds.complete.append ih

/-- What is read from a part of a stream is the record after its first few fields, or
after all of them and a part of what follows. -/
theorem Chain.fill_part (progress : Progress field) {fields : List (List Symbol × Record)}
    {read : Record} (chain : Chain field record fields final)
    (within : part <+: (fields.map Prod.fst).flatten ++ tail)
    (filled : fill field record part = some read) :
    (∃ count < fields.length, part = ((fields.take count).map Prod.fst).flatten ∧
        read = ((fields.take count).map Prod.snd).getLastD record) ∨
      ∃ later, part = (fields.map Prod.fst).flatten ++ later ∧ later <+: tail ∧
        fill field final later = some read := by
  induction chain generalizing part with
  | done => exact Or.inr ⟨part, rfl, within, filled⟩
  | @field record next final used fields holds chain ih =>
    rw [List.map_cons, List.flatten_cons, List.append_assoc] at within
    rcases holds.fill_part progress within filled with ⟨rfl, rfl⟩ | ⟨rest, rfl, inner, more⟩
    · exact Or.inl ⟨0, Nat.zero_lt_succ _, rfl, rfl⟩
    · rcases ih inner more with ⟨count, bounded, rfl, same⟩ | ⟨later, rfl, outer, last⟩
      · refine Or.inl ⟨count + 1, Nat.succ_lt_succ bounded, by simp, ?_⟩
        rw [List.take_succ_cons, List.map_cons, List.getLastD_cons]
        exact same
      · exact Or.inr ⟨later, by simp, outer, last⟩

end Parts

end FieldStream
