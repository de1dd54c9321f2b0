import EbcNet.Base.Sweep

/-! Simulation between machines: what one of them does in a step, another does in a run.
The rules below carry that from steps to sweeps and to runs. -/

namespace Machine
universe u v w
variable {State Model : Type u} {Event Item : Type v} {Output Result : Type w}

/-- A run whose steps all meet a guard. -/
structure Guarded (machine : Step State Event Output) (guard : State → Event → Prop) (start : State)
    (trace : List (Event × Output)) (state : State) : Prop where
  run : Run machine start trace state
  meets : StepsMeet machine guard start trace

section Guarded
variable {machine : Step State Event Output} {guard : State → Event → Prop}
variable {start middle state next : State} {trace later : List (Event × Output)}

theorem Guarded.nil : Guarded machine guard state [] state := ⟨.start, .nil⟩

theorem Guarded.step {event : Event} {output : Output} (before : Guarded machine guard start trace state)
    (meets : guard state event) (taken : machine state event = some (next, output)) :
    Guarded machine guard start (trace ++ [(event, output)]) next :=
  ⟨before.run.step taken, before.meets.snoc before.run meets⟩

theorem Guarded.single {event : Event} {output : Output} (meets : guard state event)
    (taken : machine state event = some (next, output)) :
    Guarded machine guard state [(event, output)] next :=
  Guarded.nil.step meets taken

theorem Guarded.trans (first : Guarded machine guard start trace middle)
    (second : Guarded machine guard middle later state) :
    Guarded machine guard start (trace ++ later) state := by
  obtain ⟨run, meets⟩ := second
  induction run with
  | start => simpa using first
  | step before taken ih =>
    rw [← List.append_assoc]
    exact (ih meets.past).step (meets _ _ _ [] rfl _ before) taken

end Guarded

section Simulation
variable {machine : Step State Event (List Output)} {stopped : State → Bool}
variable {abstract : Step Model Item Result} {guard : Model → Item → Prop}
variable {view : Output → Option (Item × Result)} {state final : State} {model : Model}
variable {events : List Event} {log : List Output}

/-- A sweep comes to a run of the other machine, when the work of each event does. -/
theorem sweep_simulate (related : List Event → State → Model → Prop)
    (swept : sweep machine stopped events state = some (final, log))
    (initial : related events state model)
    (step : ∀ {event todo state next more model}, related (event :: todo) state model →
      machine state event = some (next, more) →
      ∃ reached, Guarded abstract guard model (more.filterMap view) reached ∧
        related todo next reached) :
    ∃ rest reached, Guarded abstract guard model (log.filterMap view) reached ∧
      related rest final reached := by
  induction events generalizing state model log with
  | nil =>
    obtain ⟨rfl, rfl⟩ := sweep_nil.mp swept
    exact ⟨[], model, .nil, initial⟩
  | cons event events ih =>
    rcases sweep_cons swept with ⟨_, rfl, rfl⟩ | ⟨_, next, first, later, taken, going, rfl⟩
    · exact ⟨event :: events, model, .nil, initial⟩
    · obtain ⟨middle, now, related⟩ := step initial taken
      obtain ⟨rest, reached, after, ends⟩ := ih going related
      rw [List.filterMap_append]
      exact ⟨rest, reached, now.trans after, ends⟩

/-- A run comes to a run of the other machine, when each of its steps does: in what its
outputs tell, from where the other run has got to. -/
theorem Guarded.simulate {condition : State → Event → Prop} {trace : List (Event × List Output)}
    {start : State} (related : State → Model → Prop)
    (tells : List Output → List (Item × Result) → Prop)
    (guarded : Guarded machine condition start trace state) (initial : related start model)
    (nothing : tells [] [])
    (append : ∀ {log later items more}, tells log items → tells later more →
      tells (log ++ later) (items ++ more))
    (step : ∀ {state event next more past middle}, Guarded abstract guard model past middle →
      related state middle → condition state event → machine state event = some (next, more) →
      ∃ items reached, Guarded abstract guard middle items reached ∧ related next reached ∧
        tells more items) :
    ∃ items reached, Guarded abstract guard model items reached ∧ related state reached ∧
      tells (trace.flatMap Prod.snd) items := by
  obtain ⟨run, meets⟩ := guarded
  induction run with
  | start => exact ⟨[], model, .nil, initial, nothing⟩
  | step before taken ih =>
    obtain ⟨items, middle, past, reaches, told⟩ := ih meets.past
    obtain ⟨more, reached, now, ends, tellsNow⟩ :=
      step past reaches (meets _ _ _ [] rfl _ before) taken
    rw [List.flatMap_append, List.flatMap_singleton]
    exact ⟨items ++ more, reached, past.trans now, ends, append told tellsNow⟩

/-- The case where the outputs tell just what the other machine does. -/
theorem Run.simulate {condition : State → Event → Prop} {trace : List (Event × List Output)}
    {start : State} (related : State → Model → Prop) (run : Run machine start trace state)
    (meets : StepsMeet machine condition start trace) (initial : related start model)
    (step : ∀ {state event next more model}, related state model → condition state event →
      machine state event = some (next, more) →
      ∃ reached, Guarded abstract guard model (more.filterMap view) reached ∧
        related next reached) :
    ∃ reached, Guarded abstract guard model ((trace.flatMap Prod.snd).filterMap view) reached ∧
      related state reached := by
  have guarded : Guarded machine condition start trace state := ⟨run, meets⟩
  obtain ⟨items, reached, comes, ends, told⟩ := guarded.simulate related
    (fun log items => log.filterMap view = items) initial rfl
    (fun first second => by rw [List.filterMap_append, first, second])
    fun {_ _ _ more _ _} _ reaches allowed taken => by
      obtain ⟨reached, now, ends⟩ := step reaches allowed taken
      exact ⟨more.filterMap view, reached, now, ends, rfl⟩
  rw [told]
  exact ⟨reached, comes, ends⟩

end Simulation
end Machine
