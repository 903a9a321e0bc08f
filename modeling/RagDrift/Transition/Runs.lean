import Mathlib.Data.Option.Basic

set_option autoImplicit false

/- Runs of a system given by a step function that says which events are possible where. -/
namespace RagDrift.Transition

variable {State Event : Type} (step : State → Event → Option State)

/-- The state after a list of events, if each of them was possible. -/
def run : State → List Event → Option State
  | state, [] => some state
  | state, event :: rest => (step state event).bind fun next => run next rest

/-- Every event of a run meets a condition on itself and the state it happens in. -/
def Meets (condition : State → Event → Prop) : State → List Event → Prop
  | _, [] => True
  | state, event :: rest => condition state event ∧
      ∀ next, step state event = some next → Meets condition next rest

variable {step}

theorem run_cons {start final : State} {event : Event} {rest : List Event} :
    run step start (event :: rest) = some final ↔
      ∃ next, step start event = some next ∧ run step next rest = some final :=
  Option.bind_eq_some_iff

theorem run_append {start middle final : State} {front back : List Event}
    (first : run step start front = some middle) (second : run step middle back = some final) :
    run step start (front ++ back) = some final := by
  induction front generalizing start with
  | nil =>
      cases first
      exact second
  | cons event rest ih =>
      obtain ⟨next, stepped, later⟩ := run_cons.mp first
      exact run_cons.mpr ⟨next, stepped, ih later⟩

theorem meets_cons {condition : State → Event → Prop} {start next : State} {event : Event}
    {rest : List Event} (stepped : step start event = some next) :
    Meets step condition start (event :: rest) ↔
      condition start event ∧ Meets step condition next rest := by
  constructor
  · rintro ⟨here, later⟩
    exact ⟨here, later next stepped⟩
  · rintro ⟨here, later⟩
    refine ⟨here, ?_⟩
    intro other same
    rw [stepped, Option.some.injEq] at same
    exact same ▸ later

/-- What every step keeps holds after every run. -/
theorem run_invariant {invariant : State → Prop}
    (keeps : ∀ state event next, invariant state → step state event = some next → invariant next)
    {start final : State} {events : List Event} (initially : invariant start)
    (ran : run step start events = some final) : invariant final := by
  induction events generalizing start with
  | nil =>
      cases ran
      exact initially
  | cons event rest ih =>
      obtain ⟨next, stepped, later⟩ := run_cons.mp ran
      exact ih (keeps start event next initially stepped) later

/-- What every step that meets a condition keeps holds after every run of such steps. -/
theorem run_invariant_of_meets {invariant : State → Prop} {condition : State → Event → Prop}
    (keeps : ∀ state event next, invariant state → condition state event →
      step state event = some next → invariant next)
    {start final : State} {events : List Event} (initially : invariant start)
    (meets : Meets step condition start events) (ran : run step start events = some final) :
    invariant final := by
  induction events generalizing start with
  | nil =>
      cases ran
      exact initially
  | cons event rest ih =>
      obtain ⟨next, stepped, later⟩ := run_cons.mp ran
      obtain ⟨here, meets⟩ := (meets_cons stepped).mp meets
      exact ih (keeps start event next initially here stepped) meets later

/-- What every step keeps of a state and of the events behind it holds after every run. -/
theorem run_history {invariant : State → List Event → Prop}
    (keeps : ∀ state event next past, invariant state past → step state event = some next →
      invariant next (past ++ [event]))
    {start final : State} {past events : List Event} (initially : invariant start past)
    (ran : run step start events = some final) : invariant final (past ++ events) := by
  induction events generalizing start past with
  | nil =>
      cases ran
      rw [List.append_nil]
      exact initially
  | cons event rest ih =>
      obtain ⟨next, stepped, later⟩ := run_cons.mp ran
      rw [List.append_cons]
      exact ih (keeps start event next past initially stepped) later

/-- What every step makes of an observation of the state, a run makes of it event by event. -/
theorem run_foldl {Observed : Type} {observe : State → Observed}
    {after : Observed → Event → Observed} {invariant : State → Prop}
    {condition : State → Event → Prop}
    (keeps : ∀ state event next, invariant state → condition state event →
      step state event = some next → invariant next ∧ observe next = after (observe state) event)
    {start final : State} {events : List Event} (initially : invariant start)
    (meets : Meets step condition start events) (ran : run step start events = some final) :
    observe final = events.foldl after (observe start) := by
  induction events generalizing start with
  | nil =>
      cases ran
      rfl
  | cons event rest ih =>
      obtain ⟨next, stepped, later⟩ := run_cons.mp ran
      obtain ⟨here, meets⟩ := (meets_cons stepped).mp meets
      obtain ⟨kept, observed⟩ := keeps start event next initially here stepped
      rw [List.foldl_cons, ← observed]
      exact ih kept meets later

/-- Where an invariant lets every event happen and is kept by it, all runs get to their end. -/
theorem run_total {invariant : State → Prop} {events : List Event}
    (moves : ∀ state, ∀ event ∈ events, invariant state →
      ∃ next, step state event = some next ∧ invariant next)
    {start : State} (initially : invariant start) :
    ∃ final, run step start events = some final ∧ invariant final := by
  induction events generalizing start with
  | nil => exact ⟨start, rfl, initially⟩
  | cons event rest ih =>
      obtain ⟨next, stepped, kept⟩ := moves start event List.mem_cons_self initially
      obtain ⟨final, ran, held⟩ :=
        ih (fun state other inside => moves state other (List.mem_cons_of_mem _ inside)) kept
      exact ⟨final, run_cons.mpr ⟨next, stepped, ran⟩, held⟩

theorem meets_of_forall {condition : Event → Prop} {start : State} {events : List Event}
    (all : ∀ event ∈ events, condition event) :
    Meets step (fun _ event => condition event) start events := by
  induction events generalizing start with
  | nil => trivial
  | cons event rest ih =>
      refine ⟨all event List.mem_cons_self, ?_⟩
      intro next stepped
      exact ih fun other inside => all other (List.mem_cons_of_mem _ inside)

theorem Meets.front {condition : State → Event → Prop} {start : State} {front back : List Event}
    (meets : Meets step condition start (front ++ back)) : Meets step condition start front := by
  induction front generalizing start with
  | nil => trivial
  | cons event rest ih => exact ⟨meets.1, fun next stepped => ih (meets.2 next stepped)⟩

/-- A run meets what holds of each of its steps. -/
theorem meets_of_steps {condition : State → Event → Prop} {start final : State}
    {events : List Event} (ran : run step start events = some final)
    (each : ∀ front event back state next, events = front ++ event :: back →
      run step start front = some state → step state event = some next →
        condition state event) : Meets step condition start events := by
  induction events generalizing start with
  | nil => trivial
  | cons event rest ih =>
      obtain ⟨next, stepped, later⟩ := run_cons.mp ran
      rw [meets_cons stepped]
      refine ⟨each [] event rest start next rfl rfl stepped, ih later ?_⟩
      intro front other back state following split reached taken
      exact each (event :: front) other back state following (congrArg (event :: ·) split)
        (run_cons.mpr ⟨next, stepped, reached⟩) taken

theorem Meets.and {first second : State → Event → Prop} {start : State} {events : List Event}
    (left : Meets step first start events) (right : Meets step second start events) :
    Meets step (fun state event => first state event ∧ second state event) start events := by
  induction events generalizing start with
  | nil => trivial
  | cons event rest ih =>
      refine ⟨⟨left.1, right.1⟩, ?_⟩
      intro next stepped
      exact ih (left.2 next stepped) (right.2 next stepped)

theorem Meets.imp {first second : State → Event → Prop}
    (weaker : ∀ state event, first state event → second state event) {start : State}
    {events : List Event} (meets : Meets step first start events) :
    Meets step second start events := by
  induction events generalizing start with
  | nil => trivial
  | cons event rest ih =>
      refine ⟨weaker start event meets.1, ?_⟩
      intro next stepped
      exact ih (meets.2 next stepped)

/-- Whether the events of a run meet a decidable condition is found by running it. -/
instance decidableMeets (condition : State → Event → Prop)
    [∀ state event, Decidable (condition state event)] :
    (start : State) → (events : List Event) → Decidable (Meets step condition start events)
  | _, [] => .isTrue trivial
  | start, event :: rest =>
      match stepped : step start event with
      | some next =>
          have := decidableMeets condition next rest
          decidable_of_iff (condition start event ∧ Meets step condition next rest)
            (meets_cons stepped).symm
      | none =>
          decidable_of_iff (condition start event)
            ⟨fun here => ⟨here, fun _ other => nomatch stepped.symm.trans other⟩, And.left⟩

/-- A run that does not meet a condition has a step that breaks it. -/
theorem exists_break {condition : State → Event → Prop} {start final : State}
    {events : List Event} (ran : run step start events = some final)
    (breaks : ¬ Meets step condition start events) :
    ∃ front event back state next, run step start front = some state ∧
      ¬ condition state event ∧ step state event = some next ∧
      run step next back = some final := by
  induction events generalizing start with
  | nil => exact absurd trivial breaks
  | cons event rest ih =>
      obtain ⟨next, stepped, later⟩ := run_cons.mp ran
      rw [meets_cons stepped, not_and_or] at breaks
      rcases breaks with here | after
      · exact ⟨[], event, rest, start, next, rfl, here, stepped, later⟩
      · obtain ⟨front, other, back, state, following, reached, broken, taken, rest'⟩ :=
          ih later after
        exact ⟨event :: front, other, back, state, following,
          run_cons.mpr ⟨next, stepped, reached⟩, broken, taken, rest'⟩

end RagDrift.Transition
