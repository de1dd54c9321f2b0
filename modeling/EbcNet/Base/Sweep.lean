import EbcNet.Base.Machine

/-! Machines that take up a list of events in one go, and leave the rest of it when they
come to a state in which they stop. -/

namespace Machine
universe u v w
variable {State : Type u} {Event : Type v} {Output : Type w}

/-- Take up the events one after the other, with all that comes of them in order. -/
def sweep (machine : Step State Event (List Output)) (stopped : State → Bool) :
    List Event → State → Option (State × List Output)
  | [], state => some (state, [])
  | event :: events, state =>
    if stopped state then some (state, [])
    else (machine state event).bind fun (next, log) =>
      (sweep machine stopped events next).map fun (final, later) => (final, log ++ later)

section Rules
variable {machine : Step State Event (List Output)} {stopped : State → Bool}
variable {event : Event} {events later : List Event} {state next final : State} {log : List Output}

theorem sweep_nil : sweep machine stopped [] state = some (final, log) ↔
    final = state ∧ log = [] := by
  simp [sweep, eq_comm]

/-- A sweep goes no further, or takes up the first event. -/
theorem sweep_cons (swept : sweep machine stopped (event :: events) state = some (final, log)) :
    (stopped state = true ∧ final = state ∧ log = []) ∨
      (stopped state = false ∧ ∃ next first rest, machine state event = some (next, first) ∧
        sweep machine stopped events next = some (final, rest) ∧ log = first ++ rest) := by
  rw [sweep] at swept
  cases stop : stopped state with
  | true =>
    rw [stop, if_pos rfl] at swept
    cases swept
    exact Or.inl ⟨rfl, rfl, rfl⟩
  | false =>
    rw [stop, if_neg (by simp)] at swept
    obtain ⟨⟨next, first⟩, taken, going⟩ := Option.bind_eq_some_iff.mp swept
    obtain ⟨⟨reached, rest⟩, later, same⟩ := Option.map_eq_some_iff.mp going
    cases same
    exact Or.inr ⟨rfl, next, first, rest, taken, later, rfl⟩

theorem sweep_append
    (swept : sweep machine stopped (events ++ later) state = some (final, log)) :
    ∃ middle first rest, sweep machine stopped events state = some (middle, first) ∧
      sweep machine stopped later middle = some (final, rest) ∧ log = first ++ rest := by
  induction events generalizing state log with
  | nil => exact ⟨state, [], log, rfl, swept, rfl⟩
  | cons event events ih =>
    rcases sweep_cons swept with ⟨stop, rfl, rfl⟩ | ⟨go, next, first, rest, taken, going, rfl⟩
    · refine ⟨final, [], [], by rw [sweep, if_pos stop], ?_, rfl⟩
      cases later with
      | nil => rfl
      | cons event later => rw [sweep, if_pos stop]
    · obtain ⟨middle, front, back, before, after, rfl⟩ := ih going
      refine ⟨middle, first ++ front, back, ?_, after, (List.append_assoc ..).symm⟩
      rw [sweep, go, if_neg (by simp), taken, Option.bind_some]
      exact Option.map_eq_some_iff.mpr ⟨_, before, rfl⟩

theorem sweep_map {Source : Type*} {sources : List Source} {name : Source → Event} :
    sweep machine stopped (sources.map name) state =
      sweep (fun state source => machine state (name source)) stopped sources state := by
  induction sources generalizing state with
  | nil => rfl
  | cons source sources ih =>
    rw [List.map_cons, sweep, sweep]
    simp only [ih]

private theorem sweep_from {Holds : List Event → List Event → List Output → State → Prop}
    {done todo : List Event} {before after : List Output} (split : events = done ++ todo)
    (holds : Holds done todo before state)
    (swept : sweep machine stopped todo state = some (final, after))
    (step : ∀ {done event todo log state next more}, events = done ++ event :: todo →
      Holds done (event :: todo) log state → stopped state = false →
      machine state event = some (next, more) → Holds (done ++ [event]) todo (log ++ more) next) :
    ∃ past rest, todo = past ++ rest ∧ (rest = [] ∨ stopped final = true) ∧
      Holds (done ++ past) rest (before ++ after) final := by
  induction todo generalizing done before state after with
  | nil =>
    obtain ⟨rfl, rfl⟩ := sweep_nil.mp swept
    exact ⟨[], [], rfl, Or.inl rfl, by simpa using holds⟩
  | cons event todo ih =>
    rcases sweep_cons swept with ⟨stop, rfl, rfl⟩ | ⟨go, next, first, rest, taken, going, rfl⟩
    · exact ⟨[], event :: todo, rfl, Or.inr stop, by simpa using holds⟩
    · obtain ⟨past, left, rfl, ended, reached⟩ :=
        ih (by simp [split]) (step split holds go taken) going
      refine ⟨event :: past, left, rfl, ended, ?_⟩
      simpa [List.append_assoc] using reached

/-- Invariant rule: what each event keeps, while it passes from those to come to those
done, holds where the sweep ends. -/
theorem sweep_invariant (Holds : List Event → List Event → List Output → State → Prop)
    (swept : sweep machine stopped events state = some (final, log))
    (start : Holds [] events [] state)
    (step : ∀ {done event todo log state next more}, events = done ++ event :: todo →
      Holds done (event :: todo) log state → stopped state = false →
      machine state event = some (next, more) → Holds (done ++ [event]) todo (log ++ more) next) :
    ∃ past rest, events = past ++ rest ∧ (rest = [] ∨ stopped final = true) ∧
      Holds past rest log final :=
  sweep_from rfl start swept step

end Rules
end Machine
