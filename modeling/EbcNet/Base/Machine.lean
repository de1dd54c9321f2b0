import Mathlib.Data.List.Induction

/-! Machines that answer an event with a new state and an output, and their
runs. A machine that answers `none` has no defined behaviour for the event, and
a run does not go past it. -/

namespace Machine
universe u v w
variable {State : Type u} {Event : Type v} {Output : Type w}

abbrev Step (State : Type u) (Event : Type v) (Output : Type w) :=
  State → Event → Option (State × Output)

/-- A run from a state, with its events and outputs in the order they happened. -/
inductive Run (machine : Step State Event Output) (start : State) :
    List (Event × Output) → State → Prop where
  | start : Run machine start [] start
  | step {trace : List (Event × Output)} {state next : State} {event : Event} {output : Output}
      (before : Run machine start trace state) (taken : machine state event = some (next, output)) :
      Run machine start (trace ++ [(event, output)]) next

/-- Every step of a trace is taken in a state that meets the guard. -/
def StepsMeet (machine : Step State Event Output) (guard : State → Event → Prop) (start : State)
    (trace : List (Event × Output)) : Prop :=
  ∀ past event output future, trace = past ++ (event, output) :: future →
    ∀ state, Run machine start past state → guard state event

/-- Every step of a trace does what the property says. -/
def StepsDo (machine : Step State Event Output) (does : State → Event → Output → Prop)
    (start : State) (trace : List (Event × Output)) : Prop :=
  ∀ past event output future, trace = past ++ (event, output) :: future →
    ∀ state, Run machine start past state → does state event output

/-- Every state that a trace goes through meets the property after what came before it, the
first and the last included. -/
def Always (machine : Step State Event Output) (holds : List (Event × Output) → State → Prop)
    (start : State) (trace : List (Event × Output)) : Prop :=
  ∀ past future, trace = past ++ future → ∀ state, Run machine start past state → holds past state

section Rules
variable {machine : Step State Event Output} {start middle state other : State}
variable {trace later : List (Event × Output)}

theorem Run.single {event : Event} {output : Output}
    (taken : machine start event = some (state, output)) :
    Run machine start [(event, output)] state :=
  Run.start.step taken

theorem Run.trans (first : Run machine start trace middle)
    (second : Run machine middle later state) : Run machine start (trace ++ later) state := by
  induction second with
  | start => simpa using first
  | step _ taken ih =>
    rw [← List.append_assoc]
    exact .step ih taken

theorem Run.last {event : Event} {output : Output}
    (run : Run machine start (trace ++ [(event, output)]) state) :
    ∃ before, Run machine start trace before ∧ machine before event = some (state, output) := by
  generalize whole : trace ++ [(event, output)] = full at run
  cases run with
  | start => simp at whole
  | step before taken =>
    obtain ⟨rfl, same⟩ := List.append_inj' whole rfl
    cases same
    exact ⟨_, before, taken⟩

/-- A run passes through a state wherever its trace is cut. -/
theorem Run.split (run : Run machine start (trace ++ later) state) :
    ∃ middle, Run machine start trace middle ∧ Run machine middle later state := by
  induction later using List.reverseRecOn generalizing state with
  | nil => exact ⟨state, by simpa using run, .start⟩
  | append_singleton front item ih =>
    rw [← List.append_assoc] at run
    obtain ⟨before, reached, taken⟩ := run.last
    obtain ⟨middle, first, second⟩ := ih reached
    exact ⟨middle, first, .step second taken⟩

theorem Run.unique (first : Run machine start trace state)
    (second : Run machine start trace other) : state = other := by
  induction first generalizing other with
  | start =>
    generalize none : ([] : List (Event × Output)) = empty at second
    cases second with
    | start => rfl
    | step => simp at none
  | step _ taken ih =>
    obtain ⟨before, reached, again⟩ := second.last
    rw [ih reached, again] at taken
    exact ((Prod.mk.inj (Option.some.inj taken)).1).symm

/-- The step that a trace has at some place. -/
theorem Run.at {past future : List (Event × Output)} {event : Event} {output : Output}
    (run : Run machine start (past ++ (event, output) :: future) state) :
    ∃ before after, Run machine start past before ∧
      machine before event = some (after, output) ∧ Run machine after future state := by
  rw [← List.singleton_append, ← List.append_assoc] at run
  obtain ⟨after, first, rest⟩ := run.split
  obtain ⟨before, reached, taken⟩ := first.last
  exact ⟨before, after, reached, taken, rest⟩

theorem StepsMeet.nil {guard : State → Event → Prop} : StepsMeet machine guard start [] := by
  intro past event output future split
  simp at split

theorem StepsMeet.past {guard : State → Event → Prop}
    (meets : StepsMeet machine guard start (trace ++ later)) :
    StepsMeet machine guard start trace := by
  intro past event output future split state reached
  exact meets past event output (future ++ later) (by simp [split]) state reached

/-- An item of a trace is its last one, or one before that. -/
theorem split_snoc {Item : Type u} {front past future : List Item} {last item : Item}
    (split : front ++ [last] = past ++ item :: future) :
    (past = front ∧ item = last) ∨ ∃ rest, front = past ++ item :: rest := by
  rcases List.eq_nil_or_concat future with rfl | ⟨rest, final, rfl⟩
  · obtain ⟨same, single⟩ := List.append_inj' split rfl
    exact Or.inl ⟨same.symm, (List.singleton_inj.mp single).symm⟩
  · right
    rw [List.concat_eq_append, ← List.cons_append, ← List.append_assoc] at split
    exact ⟨rest, (List.append_inj' split rfl).1⟩

theorem StepsMeet.snoc {guard : State → Event → Prop} {event : Event} {output : Output}
    (meets : StepsMeet machine guard start trace) (run : Run machine start trace state)
    (last : guard state event) : StepsMeet machine guard start (trace ++ [(event, output)]) := by
  intro past event output future split before reached
  rcases split_snoc split with ⟨rfl, same⟩ | ⟨rest, earlier⟩
  · cases same
    rw [reached.unique run]
    exact last
  · exact meets past event output rest earlier before reached

/-- Guarded invariant rule: an invariant that every guarded step preserves holds
in every state of a run whose steps all meet the guard. -/
theorem Run.guarded {guard : State → Event → Prop} {Holds : State → Prop} (initial : Holds start)
    (step : ∀ {state event next output}, Holds state → guard state event →
      machine state event = some (next, output) → Holds next)
    (meets : StepsMeet machine guard start trace) (run : Run machine start trace state) :
    Holds state := by
  induction run with
  | start => exact initial
  | step before taken ih =>
    exact step (ih meets.past) (meets _ _ _ [] rfl _ before) taken

/-- Where a guard says just which steps do what a property says, all steps of a run do
just when they all meet the guard. -/
theorem Run.stepsDo_iff {guard : State → Event → Prop} {does : State → Event → Output → Prop}
    (run : Run machine start trace state)
    (exact : ∀ past state event output next, Run machine start past state →
      (event, output) ∈ trace → machine state event = some (next, output) →
      (does state event output ↔ guard state event)) :
    StepsDo machine does start trace ↔ StepsMeet machine guard start trace := by
  have each : ∀ past event output future, trace = past ++ (event, output) :: future →
      ∀ before, Run machine start past before →
        (does before event output ↔ guard before event) := by
    intro past event output future split before reached
    subst split
    obtain ⟨again, next, reachedAgain, taken, _⟩ := run.at
    rw [reachedAgain.unique reached] at taken
    exact exact past before event output next reached (by simp) taken
  constructor
  · intro does past event output future split before reached
    exact (each past event output future split before reached).mp
      (does past event output future split before reached)
  · intro meets past event output future split before reached
    exact (each past event output future split before reached).mpr
      (meets past event output future split before reached)

/-- Where a guard says just which steps keep a property that holds at the start, all states
of a run meet the property just when all its steps meet the guard. -/
theorem Run.always_iff {guard : State → Event → Prop} {Holds : List (Event × Output) → State → Prop}
    (run : Run machine start trace state) (initial : Holds [] start)
    (exact : ∀ past state event output next, Run machine start past state →
      (∃ future, trace = past ++ (event, output) :: future) →
      machine state event = some (next, output) → Holds past state →
      (Holds (past ++ [(event, output)]) next ↔ guard state event)) :
    Always machine Holds start trace ↔ StepsMeet machine guard start trace := by
  constructor
  · intro always past event output future split before reached
    obtain ⟨again, next, reachedAgain, taken, _⟩ := (split ▸ run).at
    obtain rfl := reachedAgain.unique reached
    have holds := always past _ split again reached
    refine (exact past again event output next reached ⟨future, split⟩ taken holds).mp ?_
    exact always (past ++ [(event, output)]) future (by simp [split]) next (reached.step taken)
  · intro meets past future split state reached
    subst split
    clear run
    induction reached generalizing future with
    | start => exact initial
    | @step past before next event output earlier taken ih =>
      have split : past ++ [(event, output)] ++ future = past ++ (event, output) :: future := by simp
      rw [split] at exact meets
      have holds := ih ((event, output) :: future) exact meets
      exact (exact past before event output next earlier ⟨future, rfl⟩ taken holds).mpr
        (meets past event output future rfl before earlier)

end Rules
end Machine
