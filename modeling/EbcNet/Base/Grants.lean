import Mathlib.Data.List.Basic

/-! Logs in which what some items take has to be given by others first, once for each
time. -/

namespace Grants
universe u
variable {Item : Type u} (gives takes : Item → Bool)

/-- Whether there is something to take after an item. -/
def after (held : Bool) (item : Item) : Bool := gives item || (held && !takes item)

/-- Whether there is something to take at the end of a log. -/
def held (start : Bool) (log : List Item) : Bool := log.foldl (after gives takes) start

/-- Nothing is taken but what is there. -/
def Respects : Bool → List Item → Prop
  | _, [] => True
  | start, item :: log =>
    (takes item = true → start = true) ∧ Respects (after gives takes start item) log

section Rules
variable {gives takes} {start : Bool} {log later past middle future : List Item} {first second : Item}

theorem respects_append :
    Respects gives takes start (log ++ later) ↔
      Respects gives takes start log ∧ Respects gives takes (held gives takes start log) later := by
  induction log generalizing start with
  | nil => simp [Respects, held]
  | cons item log ih =>
    rw [List.cons_append, Respects, Respects, ih, and_assoc]
    rfl

theorem held_append : held gives takes start (log ++ later) =
    held gives takes (held gives takes start log) later :=
  List.foldl_append ..

/-- A log without takers respects anything. -/
theorem respects_of_silent (silent : ∀ item ∈ log, takes item = false) :
    Respects gives takes start log := by
  induction log generalizing start with
  | nil => trivial
  | cons item log ih =>
    refine ⟨?_, ih fun other member => silent other (List.mem_cons_of_mem _ member)⟩
    simp [silent item List.mem_cons_self]

/-- A log without takers leaves what is there, and adds what it gives. -/
theorem held_of_silent (silent : ∀ item ∈ log, takes item = false) :
    held gives takes start log = (start || log.any gives) := by
  induction log generalizing start with
  | nil => simp [held]
  | cons item log ih =>
    have now : after gives takes start item = (start || gives item) := by
      simp [after, silent item List.mem_cons_self, Bool.or_comm]
    rw [held, List.foldl_cons, now, List.any_cons, ← Bool.or_assoc]
    exact ih fun other member => silent other (List.mem_cons_of_mem _ member)

theorem Respects.count (respects : Respects gives takes start log) :
    log.countP takes ≤ log.countP gives + start.toNat := by
  induction log generalizing start with
  | nil => simp
  | cons item log ih =>
    obtain ⟨allowed, rest⟩ := respects
    have counted := ih rest
    rw [List.countP_cons, List.countP_cons]
    unfold after at counted
    cases given : gives item <;> cases taken : takes item <;> cases start <;> simp_all
    all_goals omega

/-- Between two takers something is given, unless it is by the first of them. -/
theorem Respects.between
    (respects : Respects gives takes start (past ++ first :: middle ++ second :: future))
    (takesFirst : takes first = true) (takesSecond : takes second = true)
    (silent : gives first = false) : ∃ item ∈ middle, gives item = true := by
  rw [List.append_assoc, respects_append] at respects
  obtain ⟨_, _, rest⟩ := respects
  have empty : after gives takes (held gives takes start past) first = false := by
    simp [after, silent, takesFirst]
  rw [empty] at rest
  clear silent takesFirst empty
  by_contra none
  have never : ∀ item ∈ middle, gives item = false := by simpa using none
  clear none
  induction middle with
  | nil => simpa using rest.1 takesSecond
  | cons item middle ih =>
    obtain ⟨_, rest⟩ := rest
    have still : after gives takes false item = false := by
      simp [after, never item List.mem_cons_self]
    rw [still] at rest
    exact ih rest fun other member => never other (List.mem_cons_of_mem _ member)

end Rules
end Grants
