import EbcNet.Base.FieldStream
import Mathlib.Data.List.Induction

/-! Streams of fields from the outside: which fields a stream spells, and what a
reader that takes one field after another makes of them. -/

namespace FieldStream
universe u v w
variable {Symbol : Type u} {Record : Type v} {Field : Type w}

/-- The fields that a stream spells, one after another. A grammar says which field an
input starts with, and what follows it. -/
inductive Spells (starts : List Symbol → Field → List Symbol → Prop) :
    List Symbol → List Field → Prop where
  | done : Spells starts [] []
  | step {input rest : List Symbol} {first : Field} {later : List Field}
      (front : starts input first rest) (tail : Spells starts rest later) :
      Spells starts input (first :: later)

/-- An input starts with at most one field, and an empty one with none. -/
structure Unambiguous (starts : List Symbol → Field → List Symbol → Prop) : Prop where
  first : ∀ {input : List Symbol} {first other : Field} {rest tail : List Symbol},
    starts input first rest → starts input other tail → first = other ∧ rest = tail
  empty : ∀ {first : Field} {rest : List Symbol}, ¬ starts [] first rest

/-- A stream spells at most one list of fields. -/
theorem Unambiguous.spells {starts : List Symbol → Field → List Symbol → Prop}
    {input : List Symbol} {fields others : List Field} (unambiguous : Unambiguous starts)
    (spelled : Spells starts input fields) (again : Spells starts input others) :
    fields = others := by
  induction spelled generalizing others with
  | done =>
    cases again with
    | done => rfl
    | step front _ => exact absurd front unambiguous.empty
  | step front _ ih =>
    cases again with
    | done => exact absurd front unambiguous.empty
    | step other tail =>
      obtain ⟨rfl, rfl⟩ := unambiguous.first front other
      rw [ih tail]

/-- The reader takes just the fields of the grammar, and stores each. -/
def Follows (field : Reader Symbol Record) (starts : List Symbol → Field → List Symbol → Prop)
    (store : Record → Field → Record) : Prop :=
  ∀ record input next rest, field record input = some (next, rest) ↔
    ∃ first, starts input first rest ∧ next = store record first

section Reading
variable {field : Reader Symbol Record} {starts : List Symbol → Field → List Symbol → Prop}
variable {store : Record → Field → Record} {record final : Record} {input : List Symbol}
variable {fields : List Field}

theorem Follows.fill (follows : Follows field starts store) (progress : Progress field)
    (spells : Spells starts input fields) (record : Record) :
    FieldStream.fill field record input = some (fields.foldl store record) := by
  induction spells generalizing record with
  | done => rfl
  | step front _ ih =>
    have read := (follows record _ _ _).mpr ⟨_, front, rfl⟩
    rw [fill_step progress read, ih, List.foldl_cons]

theorem Follows.spells (follows : Follows field starts store) (progress : Progress field) :
    ∀ {input : List Symbol} {record : Record},
      FieldStream.fill field record input = some final →
        ∃ fields, Spells starts input fields ∧ final = fields.foldl store record := by
  intro input
  induction length : input.length using Nat.strongRecOn generalizing input with
  | ind count ih =>
    intro record filled
    by_cases empty : input = []
    · rw [empty, fill_nil] at filled
      exact ⟨[], empty ▸ .done, (Option.some.inj filled).symm⟩
    · obtain ⟨next, rest, read⟩ := fill_some empty filled
      have shorter := progress _ _ _ _ read
      rw [fill_step progress read] at filled
      obtain ⟨later, tail, same⟩ := ih rest.length (length ▸ shorter) rfl filled
      obtain ⟨first, front, rfl⟩ := (follows _ _ _ _).mp read
      exact ⟨first :: later, .step front tail, same⟩

/-- A stream is read when it spells fields, and those are stored in their order. -/
theorem Follows.fill_iff (follows : Follows field starts store) (progress : Progress field) :
    FieldStream.fill field record input = some final ↔
      ∃ fields, Spells starts input fields ∧ final = fields.foldl store record := by
  constructor
  · exact follows.spells progress
  · rintro ⟨fields, spells, rfl⟩
    exact follows.fill progress spells record

end Reading

/-! ### What fields mean together -/

section Meaning
variable {store : Record → Field → Record}

/-- Induction rule: fields stored one by one mean what they mean together, when one more
field at the end does. -/
theorem foldl_store {meaning : List Field → Record}
    (last : ∀ fields field, meaning (fields ++ [field]) = store (meaning fields) field)
    (fields : List Field) : fields.foldl store (meaning []) = meaning fields := by
  induction fields using List.reverseRecOn with
  | nil => rfl
  | append_singleton fields field ih =>
    rw [List.foldl_append, ih, last]
    rfl

/-- The value that was given last, or else the default. -/
def lastGiven {Value : Type v} (pick : Field → Option Value) (default : Value)
    (fields : List Field) : Value :=
  (fields.filterMap pick).getLastD default

@[simp] theorem lastGiven_nil {Value : Type v} (pick : Field → Option Value) (default : Value) :
    lastGiven pick default [] = default := rfl

@[simp] theorem lastGiven_append {Value : Type v} (pick : Field → Option Value) (default : Value)
    (fields : List Field) (field : Field) :
    lastGiven pick default (fields ++ [field]) =
      (pick field).getD (lastGiven pick default fields) := by
  unfold lastGiven
  cases given : pick field <;> simp [List.filterMap_append, given, List.getLastD_eq_getLast?]

end Meaning

end FieldStream
