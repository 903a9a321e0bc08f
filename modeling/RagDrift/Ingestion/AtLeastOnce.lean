import RagDrift.Ingestion.Delivery

set_option autoImplicit false

/- At-least-once delivery over whole runs. -/
namespace RagDrift.Ingestion

open Transition (run Meets run_invariant run_invariant_of_meets exists_break)

section

variable {B F : Type} {setup : Setup B F} {state after : State B F}

/-- Every well-formed frame of the stream was part of a `batch_store_frames` call that
returned. -/
def State.AllStored (setup : Setup B F) (state : State B F) : Prop :=
  ∀ msgId frame, setup.frameAt state.entries msgId = some frame →
    ∃ batch ∈ state.stored, (msgId, frame) ∈ batch.msgIds.zip batch.frames

/-- What holds of every state a run reaches. -/
structure State.Sound (setup : Setup B F) (state : State B F) : Prop where
  consistent : state.Consistent setup
  exclusive : state.Exclusive

theorem init_sound (setup : Setup B F) : (State.init (some 0) : State B F).Sound setup := by
  refine ⟨⟨?_, ?_, ?_⟩, ⟨?_, ?_, ?_, ?_⟩⟩
  · exact fun b => trivial
  · exact fun batch inside => absurd inside List.not_mem_nil
  · exact ⟨0, Nat.le_refl 0, rfl⟩
  · exact fun b c msgId inside => absurd inside List.not_mem_nil
  · exact fun b msgId inside => absurd inside List.not_mem_nil
  · exact fun b msgId inside => absurd inside List.not_mem_nil
  · exact fun msgId inside => absurd inside List.not_mem_nil

theorem init_covered (setup : Setup B F) : (State.init (some 0) : State B F).Covered setup :=
  fun _ _ _ given => absurd given (Nat.not_lt_zero _)

theorem stored_of_covered (sound : state.Sound setup) (covered : state.Covered setup)
    (exhausted : state.group = some state.entries.length) (resting : ∀ b, state.held b = []) :
    state.AllStored setup := by
  intro msgId frame wellFormed
  have given : msgId < state.given := by
    rw [given_of_group exhausted]
    exact frameAt_lt wellFormed
  rcases covered msgId frame wellFormed given with saved | ⟨b, mine⟩
  · obtain ⟨batch, inside, member⟩ := List.mem_flatMap.mp saved
    exact ⟨batch, inside, (sound.consistent.stored batch inside).mem_zip member wellFormed⟩
  · rw [resting b] at mine
    cases mine

theorem State.Lost.not_allStored {msgId : Nat} (lost : state.Lost setup msgId) :
    ¬ state.AllStored setup := by
  intro all
  obtain ⟨frame, wellFormed⟩ := lost.wellFormed
  obtain ⟨batch, inside, member⟩ := all msgId frame wellFormed
  exact lost.unsaved (List.mem_flatMap.mpr ⟨batch, inside, (List.of_mem_zip member).1⟩)

variable [DecidableEq B]

theorem step_sound (sound : state.Sound setup) {event : Event B F}
    (stepped : setup.step state event = some after) : after.Sound setup :=
  ⟨step_consistent sound.consistent stepped,
    effect_exclusive sound.exclusive (step_effect sound.consistent stepped)⟩

theorem run_sound {start final : State B F} {events : List (Event B F)}
    (sound : start.Sound setup) (ran : run setup.step start events = some final) :
    final.Sound setup := by
  have keeps : ∀ (state : State B F) event next, state.Sound setup →
      setup.step state event = some next → next.Sound setup :=
    fun _ _ _ sound stepped => step_sound sound stepped
  exact run_invariant keeps sound ran

/-- A lost entry stays lost to the end of the run. -/
theorem run_lost {start final : State B F} {events : List (Event B F)} {msgId : Nat}
    (sound : start.Sound setup) (lost : start.Lost setup msgId)
    (ran : run setup.step start events = some final) : final.Lost setup msgId := by
  have keeps : ∀ state event next, state.Sound setup ∧ state.Lost setup msgId →
      setup.step state event = some next → next.Sound setup ∧ next.Lost setup msgId := by
    rintro state event next ⟨sound, lost⟩ stepped
    exact ⟨step_sound sound stepped, effect_lost lost (step_effect sound.consistent stepped)⟩
  exact (run_invariant keeps ⟨sound, lost⟩ ran).2

theorem run_covered {start final : State B F} {events : List (Event B F)}
    (sound : start.Sound setup) (covered : start.Covered setup)
    (safe : Meets setup.step (fun state event => ¬ Drops setup state event) start events)
    (ran : run setup.step start events = some final) : final.Covered setup := by
  have keeps : ∀ state event next, state.Sound setup ∧ state.Covered setup →
      ¬ Drops setup state event → setup.step state event = some next →
        next.Sound setup ∧ next.Covered setup := by
    rintro state event next ⟨sound, covered⟩ calm stepped
    exact ⟨step_sound sound stepped, effect_covered sound.consistent covered
      (step_effect sound.consistent stepped) calm⟩
  exact (run_invariant_of_meets keeps ⟨sound, covered⟩ safe ran).2

/-- Once the group has nothing more to return and no worker is in the middle of a batch, every
well-formed frame is stored if and only if no event of the run took one out of the hands of a
worker: a batch that fails, or a crash or a failing Redis command with unsaved frames in
hand. -/
theorem all_stored_iff_nothing_dropped (setup : Setup B F) {events : List (Event B F)}
    {final : State B F} (ran : run setup.step (.init (some 0)) events = some final)
    (exhausted : final.group = some final.entries.length) (resting : ∀ b, final.held b = []) :
    final.AllStored setup ↔
      Meets setup.step (fun state event => ¬ Drops setup state event) (.init (some 0))
        events := by
  constructor
  · intro all
    by_contra breaks
    obtain ⟨front, event, back, state, next, reached, dropped, stepped, later⟩ :=
      exists_break ran breaks
    have sound := run_sound (init_sound setup) reached
    obtain ⟨msgId, lost⟩ := effect_drops sound.exclusive (step_effect sound.consistent stepped)
      (not_not.mp dropped)
    exact (run_lost (step_sound sound stepped) lost later).not_allStored all
  · intro safe
    exact stored_of_covered (run_sound (init_sound setup) ran)
      (run_covered (init_sound setup) (init_covered setup) safe ran) exhausted resting

end

/-- Redis answers every command, and only buffers write to the stream. -/
def Event.Reliable {B F : Type} : Event B F → Prop
  | .foreign _ | .cancel _ => False
  | .createGroup _ outcome | .read _ outcome | .xack _ outcome => outcome = .ok
  | _ => True

/-- Frames that are their own text. -/
def textSetup : Setup Unit String := ⟨id, some, fun _ => 50⟩

/-- One frame is enqueued and read; then the repository answers as told. -/
def oneFrame (succeeds : Bool) : List (Event Unit String) :=
  [.start (), .createGroup () .ok, .resume (), .publish () ["frame"], .counted () 1,
    .read () .ok, .handle (), .handle (), .store () succeeds]

def afterStored : Option (State Unit String) :=
  run textSetup.step (.init (some 0)) (oneFrame true ++ [.xack () .ok])

theorem afterStored_isSome : afterStored.isSome := by
  decide +kernel

def afterFailed : Option (State Unit String) :=
  run textSetup.step (.init (some 0)) (oneFrame false)

theorem afterFailed_isSome : afterFailed.isSome := by
  decide +kernel

def failedState : State Unit String := afterFailed.get afterFailed_isSome

theorem all_stored_iff_nothing_dropped_frame :
    ((afterStored.get afterStored_isSome).AllStored textSetup ↔
      Meets textSetup.step (fun state event => ¬ Drops textSetup state event)
        (.init (some 0)) (oneFrame true ++ [.xack () .ok])) := by
  have resting : (afterStored.get afterStored_isSome).held () = [] := by decide +kernel
  exact all_stored_iff_nothing_dropped textSetup (Option.some_get afterStored_isSome).symm
    (by decide +kernel) fun _ => resting

/-- The repository fails once; the worker waits for new entries and never returns to the one
it was given. -/
theorem failed_batch_never_retried : ¬ ∀ (setup : Setup Unit String)
    (events : List (Event Unit String)) (final : State Unit String),
    (∀ event ∈ events, event.Reliable) → run setup.step (.init (some 0)) events = some final →
    (final.buffer ()).pc = .reading → final.group = some final.entries.length →
    final.AllStored setup := by
  intro all
  have reliable : ∀ event ∈ oneFrame false, event.Reliable := by
    simp [oneFrame, Event.Reliable]
  have waiting : (failedState.buffer ()).pc = .reading := by decide +kernel
  have exhausted : failedState.group = some failedState.entries.length := by decide +kernel
  have stored := all textSetup (oneFrame false) failedState reliable
    (Option.some_get afterFailed_isSome).symm waiting exhausted
  have wellFormed : textSetup.frameAt failedState.entries 0 = some "frame" := by decide +kernel
  have none : failedState.stored = [] := by decide +kernel
  obtain ⟨batch, inside, _⟩ := stored 0 "frame" wellFormed
  rw [none] at inside
  cases inside

end RagDrift.Ingestion
