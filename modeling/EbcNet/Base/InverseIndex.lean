import Mathlib.Logic.Function.Basic

/-! Tables whose rows are stored by key and deleted by address, through an index
from addresses back to keys. Deletion by address is exact when the index is the
inverse of the table, and the rules say which updates keep it the inverse. -/

namespace InverseIndex
universe u v w
variable {Key : Type u} {Address : Type v} {Row : Type w}
variable (address : Row → Address)

/-- What a table keeps when the rows at an address are taken out. -/
def dropAt [DecidableEq Address] (table : Key → Option Row) (place : Address) : Key → Option Row :=
  fun key => (table key).filter fun row => address row ≠ place

/-- A row's address is indexed under the row's key, and no other address is. -/
def Indexes (table : Key → Option Row) (index : Address → Option Key) : Prop :=
  ∀ key row, table key = some row → ∀ place, index place = some key ↔ address row = place

variable [DecidableEq Key] {address}

/-- Delete the row the index names, if it names one. -/
def eraseVia (index : Address → Option Key) (table : Key → Option Row) (place : Address) :
    Key → Option Row :=
  match index place with
  | none => table
  | some key => Function.update table key none

variable {table : Key → Option Row} {index : Address → Option Key}

/-- What is found after a row was stored, or taken out with `none`. -/
theorem update_eq_some {key other : Key} {entry : Option Row} {row : Row} :
    Function.update table key entry other = some row ↔
      (other = key ∧ entry = some row) ∨ (other ≠ key ∧ table other = some row) := by
  by_cases same : other = key
  · subst same
    simp
  · simp [same]

/-- What is found after a row was stored without overwriting. -/
theorem store_eq_some {key other : Key} {entry row : Row} :
    Function.update table key ((table key).or (some entry)) other = some row ↔
      table other = some row ∨ (other = key ∧ table key = none ∧ row = entry) := by
  rw [update_eq_some]
  by_cases same : other = key
  · subst same
    cases present : table other with
    | none => simp [eq_comm]
    | some before => simp
  · simp [same]

theorem store_isSome {key other : Key} {entry : Row} :
    (Function.update table key ((table key).or (some entry)) other).isSome ↔
      (table other).isSome ∨ other = key := by
  by_cases same : other = key
  · subst same
    cases table other <;> simp
  · simp [same]

/-- What is found after a deletion through the index. -/
theorem eraseVia_apply {place : Address} {key : Key} :
    eraseVia index table place key = if index place = some key then none else table key := by
  unfold eraseVia
  cases named : index place with
  | none => simp
  | some other =>
    by_cases same : key = other
    · subst same
      simp
    · simp [Function.update_of_ne same, Ne.symm same]

theorem eraseVia_eq_none {place : Address} {key : Key} :
    eraseVia index table place key = none ↔ index place = some key ∨ table key = none := by
  rw [eraseVia_apply]
  by_cases named : index place = some key <;> simp [named]

theorem eraseVia_eq_some {place : Address} {key : Key} {row : Row} :
    eraseVia index table place key = some row ↔ index place ≠ some key ∧ table key = some row := by
  rw [eraseVia_apply]
  by_cases named : index place = some key <;> simp [named]

omit [DecidableEq Key] in
theorem dropAt_eq_some [DecidableEq Address] {place : Address} {key : Key} {row : Row} :
    dropAt address table place key = some row ↔ table key = some row ∧ address row ≠ place := by
  simp [dropAt, Option.filter_eq_some_iff]

/-- Deletion through the index is exact at every address just when the index is
the inverse of the table. -/
theorem eraseVia_exact_iff [DecidableEq Address] :
    (∀ place, eraseVia index table place = dropAt address table place) ↔
      Indexes address table index := by
  constructor
  · intro exact key row present place
    have kept : eraseVia index table place key = some row ↔ dropAt address table place key = some row := by
      rw [exact place]
    rw [eraseVia_eq_some, dropAt_eq_some] at kept
    have equal : index place ≠ some key ↔ address row ≠ place := by simpa [present] using kept
    exact not_iff_not.mp equal
  · intro indexed place
    funext key
    apply Option.ext
    intro row
    rw [eraseVia_eq_some, dropAt_eq_some]
    constructor
    · intro ⟨other, present⟩
      exact ⟨present, fun same => other ((indexed key row present place).mpr same)⟩
    · intro ⟨present, elsewhere⟩
      exact ⟨fun named => elsewhere ((indexed key row present place).mp named), present⟩

/-- Deleting through the index and then forgetting the address. -/
theorem Indexes.erase [DecidableEq Address] (indexed : Indexes address table index)
    (place : Address) :
    Indexes address (eraseVia index table place) (Function.update index place none) := by
  intro key row present other
  obtain ⟨unnamed, kept⟩ := eraseVia_eq_some.mp present
  by_cases same : other = place
  · subst same
    have elsewhere : address row ≠ other :=
      fun here => unnamed ((indexed key row kept other).mpr here)
    simp [elsewhere]
  · rw [Function.update_of_ne same]
    exact indexed key row kept other

omit [DecidableEq Key] in
/-- Forgetting an address keeps an index for a table just when the table has no
row under the key it named. -/
theorem Indexes.forget_iff [DecidableEq Address] (indexed : Indexes address table index)
    (place : Address) :
    Indexes address table (Function.update index place none) ↔
      ∀ key, index place = some key → table key = none := by
  constructor
  · intro after key named
    by_contra present
    obtain ⟨row, present⟩ := Option.ne_none_iff_exists'.mp present
    have here := (indexed key row present place).mp named
    have missing := (after key row present place).mpr here
    simp at missing
  · intro unused key row present other
    by_cases same : other = place
    · subst same
      have elsewhere : address row ≠ other := by
        intro here
        have gone := unused key ((indexed key row present other).mpr here)
        rw [gone] at present
        cases present
      simp [elsewhere]
    · rw [Function.update_of_ne same]
      exact indexed key row present other

/-- Naming a key at an address keeps an index for a table just when the table's
row for the key lives there and the address named no row of another key. -/
theorem Indexes.name_iff [DecidableEq Address] (indexed : Indexes address table index)
    (place : Address) (key : Key) :
    Indexes address table (Function.update index place (some key)) ↔
      (∀ row, table key = some row → address row = place) ∧
        ∀ other, other ≠ key → index place = some other → table other = none := by
  constructor
  · intro after
    refine ⟨fun row present => (after key row present place).mp (by simp), ?_⟩
    intro other different named
    by_contra present
    obtain ⟨row, present⟩ := Option.ne_none_iff_exists'.mp present
    have here := (indexed other row present place).mp named
    have renamed := (after other row present place).mpr here
    rw [Function.update_self] at renamed
    exact different (Option.some.inj renamed).symm
  · intro ⟨home, replaced⟩ other row present site
    by_cases here : site = place
    · subst here
      rw [Function.update_self]
      constructor
      · intro same
        cases same
        exact home row present
      · intro lives
        by_contra different
        have gone := replaced other (fun same => different (by rw [same]))
          ((indexed other row present site).mpr lives)
        rw [gone] at present
        cases present
    · rw [Function.update_of_ne here]
      exact indexed other row present site

/-- Storing a row under a key without overwriting, and naming the key at the
row's address, keeps the index just when no other address names the key and the
address named no row of another key. -/
theorem Indexes.insert_iff [DecidableEq Address] (indexed : Indexes address table index)
    (key : Key) (row : Row) :
    Indexes address (Function.update table key ((table key).or (some row)))
        (Function.update index (address row) (some key)) ↔
      (∀ place, place ≠ address row → index place ≠ some key) ∧
        ∀ other, other ≠ key → index (address row) = some other → table other = none := by
  constructor
  · intro after
    obtain ⟨stored, present⟩ : ∃ stored, (table key).or (some row) = some stored := by
      cases table key <;> simp
    have atKey := after key stored (by simpa using present)
    have home : address stored = address row := (atKey (address row)).mp (by simp)
    refine ⟨?_, ?_⟩
    · intro place elsewhere named
      have lives := (atKey place).mp (by rwa [Function.update_of_ne elsewhere])
      exact elsewhere (lives.symm.trans home)
    · intro other different named
      by_contra present
      obtain ⟨kept, present⟩ := Option.ne_none_iff_exists'.mp present
      have here := (indexed other kept present _).mp named
      have renamed := (after other kept (by rwa [Function.update_of_ne different]) _).mpr here
      rw [Function.update_self] at renamed
      exact different (Option.some.inj renamed).symm
  · intro ⟨alone, replaced⟩
    have home : ∀ old, table key = some old → address old = address row := by
      intro old present
      by_contra elsewhere
      exact alone _ elsewhere ((indexed key old present _).mpr rfl)
    have others := (indexed.name_iff (address row) key).mpr ⟨home, replaced⟩
    intro other kept present place
    rcases store_eq_some.mp present with old | ⟨rfl, _, rfl⟩
    · exact others other kept old place
    · by_cases here : place = address kept
      · subst here; simp
      · rw [Function.update_of_ne here]
        simp [alone place here, Ne.symm here]

end InverseIndex
