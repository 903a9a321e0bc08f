import RagDrift.Ingestion.Draining

set_option autoImplicit false

/- Which failures end the loop of a worker that nobody stops. -/
namespace RagDrift.Ingestion

open Transition (run Meets run_cons meets_cons meets_of_forall run_invariant_of_meets)

variable {B F : Type} {setup : Setup B F} {state after : State B F}

/-- Nobody stops, cancels, kills or restarts the worker. -/
def Event.Leaves (b : B) : Event B F → Prop
  | .start c | .stop c | .cancel c | .crash c => c ≠ b
  | _ => True

/-- An exception outside the handlers of the loop: `XACK` fails, of a bad entry or of a stored
batch, or the bytes of an entry are no UTF-8. -/
def Fatal (setup : Setup B F) (b : B) (state : State B F) : Event B F → Prop
  | .xack c outcome => c = b ∧ outcome ≠ .ok
  | .handle c => c = b ∧ ∃ msgId fields rest batch,
      (state.buffer b).pc = .handling ((msgId, fields) :: rest) batch ∧
        setup.decode fields = .undecodable
  | _ => False

/-- `is_running`, and `stop_worker` was not called. -/
structure Buffer.Alive (buffer : Buffer F) : Prop where
  running : buffer.pc.running = true
  unstopped : buffer.stopped = false

theorem loop_of_unstopped {buffer : Buffer F} (unstopped : buffer.stopped = false) :
    buffer.loop = .reading := by
  rw [Buffer.loop, unstopped]
  rfl

section Steps

variable [DecidableEq B]

theorem Buffer.Alive.setPc {b : B} (alive : (state.buffer b).Alive) {mid : State B F} (c : B)
    {pc : Pc F} (others : mid.buffer = state.buffer) (running : c = b → pc.running = true) :
    ((mid.setPc c pc).buffer b).Alive := by
  refine buffer_of_setBuffer Buffer.Alive alive c _ others ?_
  rintro rfl
  exact ⟨running rfl, by rw [others]; exact alive.unstopped⟩

theorem Buffer.Alive.loop {b : B} (alive : (state.buffer b).Alive) (c : B) :
    ((state.setPc c (state.buffer c).loop).buffer b).Alive := by
  refine alive.setPc c rfl ?_
  rintro rfl
  rw [loop_of_unstopped alive.unstopped]
  rfl

theorem read_alive {b : B} (alive : (state.buffer b).Alive) (c : B) (outcome : Outcome) :
    ((setup.read state c outcome).buffer b).Alive := by
  unfold Setup.read
  split <;> exact alive.setPc c rfl fun _ => rfl

theorem handle_alive {b : B} (alive : (state.buffer b).Alive) {c : B}
    {messages : List (Nat × Fields)} {batch : Batch F}
    (pc : (state.buffer c).pc = .handling messages batch)
    (harmless : ¬ Fatal setup b state (.handle c)) :
    ((setup.handle state c messages batch).buffer b).Alive := by
  unfold Setup.handle State.collected
  split
  · split
    · exact alive.loop c
    · exact alive.setPc c rfl fun _ => rfl
  · rename_i msgId fields rest
    split
    · exact alive.setPc c rfl fun _ => rfl
    · rename_i undecodable
      refine alive.setPc c rfl ?_
      rintro rfl
      exact absurd ⟨rfl, msgId, fields, rest, batch, pc, undecodable⟩ harmless
    · exact alive.setPc c rfl fun _ => rfl
    · exact alive.setPc c rfl fun _ => rfl

theorem step_alive {b : B} (alive : (state.buffer b).Alive) {event : Event B F}
    (leaves : event.Leaves b) (harmless : ¬ Fatal setup b state event)
    (stepped : setup.step state event = some after) : (after.buffer b).Alive := by
  have starting {c : B} (pc : (state.buffer c).pc = .creating) : c ≠ b := by
    rintro rfl
    have running := alive.running
    rw [pc] at running
    cases running
  cases step_cases stepped with
  | foreign fields => exact alive
  | publish c frames _ =>
      refine buffer_of_setBuffer Buffer.Alive alive c _ rfl ?_
      rintro rfl
      exact ⟨alive.running, alive.unstopped⟩
  | counted c frames _ =>
      refine buffer_of_setBuffer Buffer.Alive alive c _ rfl ?_
      rintro rfl
      exact ⟨alive.running, alive.unstopped⟩
  | start c _ => exact buffer_of_setBuffer Buffer.Alive alive c _ rfl fun same => absurd same leaves
  | created c pc => exact alive.setPc c rfl fun _ => rfl
  | createdLost c pc => exact alive.setPc c rfl fun same => absurd same (starting pc)
  | createRefused c pc => exact alive.setPc c rfl fun same => absurd same (starting pc)
  | resume c _ => exact alive.loop c
  | read c outcome _ => exact read_alive alive c outcome
  | handle c messages batch pc => exact handle_alive alive pc harmless
  | ackedBad c msgId messages batch _ => exact alive.setPc c rfl fun _ => rfl
  | ackedBatch c batch _ =>
      refine buffer_of_setBuffer Buffer.Alive alive c _ rfl ?_
      rintro rfl
      refine ⟨?_, alive.unstopped⟩
      rw [loop_of_unstopped alive.unstopped]
      rfl
  | ackLost c msgIds _ => exact alive.setPc c rfl fun same => absurd ⟨same, nofun⟩ harmless
  | ackRefused c _ => exact alive.setPc c rfl fun same => absurd ⟨same, nofun⟩ harmless
  | stored c batch _ => exact alive.setPc c rfl fun _ => rfl
  | storeFailed c batch _ => exact alive.loop c
  | stop c _ => exact buffer_of_setBuffer Buffer.Alive alive c _ rfl fun same => absurd same leaves
  | cancelReading c _ => exact alive.setPc c rfl fun same => absurd same leaves
  | cancel c _ _ => exact alive.setPc c rfl fun same => absurd same leaves
  | crash c => exact buffer_of_setBuffer Buffer.Alive alive c _ rfl fun same => absurd same leaves

/-- The exception ends the task. -/
theorem fatal_fails {b : B} {event : Event B F} (fatal : Fatal setup b state event)
    (stepped : setup.step state event = some after) : (after.buffer b).pc = .failed := by
  have failed (mid : State B F) : ((mid.setPc b .failed).buffer b).pc = .failed := by
    rw [State.setPc, buffer_setBuffer_self]
  cases event with
  | xack c outcome =>
      obtain ⟨rfl, raised⟩ := fatal
      cases step_cases stepped with
      | ackLost _ msgIds _ => exact failed _
      | ackRefused _ _ => exact failed _
      | _ => exact absurd rfl raised
  | handle c =>
      obtain ⟨rfl, msgId, fields, rest, batch, pc, undecodable⟩ := fatal
      cases step_cases stepped with
      | handle _ messages other there =>
          rw [pc, Pc.handling.injEq] at there
          obtain ⟨rfl, rfl⟩ := there
          unfold Setup.handle
          simp only [undecodable]
          exact failed _
  | _ => exact fatal.elim

omit [DecidableEq B] in
theorem Event.Leaves.not_start {b : B} {event : Event B F} (leaves : event.Leaves b) :
    event ≠ .start b := by
  rintro rfl
  exact leaves rfl

omit [DecidableEq B] in
theorem Event.Leaves.not_crash {b : B} {event : Event B F} (leaves : event.Leaves b) :
    event ≠ .crash b := by
  rintro rfl
  exact leaves rfl

theorem run_failed {b : B} {start final : State B F} {events : List (Event B F)}
    (failed : (start.buffer b).pc = .failed) (leaves : ∀ event ∈ events, event.Leaves b)
    (ran : run setup.step start events = some final) : (final.buffer b).pc = .failed := by
  have keeps : ∀ (state : State B F) event next, (state.buffer b).pc = .failed →
      event.Leaves b → setup.step state event = some next → (next.buffer b).pc = .failed :=
    fun _ _ _ failed leaves stepped =>
      step_failed failed leaves.not_start leaves.not_crash stepped
  exact run_invariant_of_meets keeps failed (meets_of_forall leaves) ran

/-- A worker nobody stops is running at the end if and only if no exception was raised outside
the handlers of its loop. -/
theorem survives_iff_nothing_fatal (setup : Setup B F) (b : B) {start final : State B F}
    {events : List (Event B F)} (alive : (start.buffer b).Alive)
    (leaves : ∀ event ∈ events, event.Leaves b)
    (ran : run setup.step start events = some final) :
    (final.buffer b).pc.running = true ↔
      Meets setup.step (fun state event => ¬ Fatal setup b state event) start events := by
  induction events generalizing start with
  | nil =>
      cases ran
      exact iff_of_true alive.running trivial
  | cons event rest ih =>
      obtain ⟨next, stepped, later⟩ := run_cons.mp ran
      have here := leaves event List.mem_cons_self
      have after : ∀ other ∈ rest, other.Leaves b :=
        fun other inside => leaves other (List.mem_cons_of_mem _ inside)
      rw [meets_cons stepped]
      by_cases fatal : Fatal setup b start event
      · have failed := run_failed (fatal_fails fatal stepped) after later
        refine iff_of_false ?_ fun meets => meets.1 fatal
        rw [failed]
        nofun
      · rw [and_iff_right fatal]
        exact ih (step_alive alive here fatal stepped) after later

end Steps

def startedWorker : Option (State Unit String) :=
  run textSetup.step (.init none) [.start (), .createGroup () .ok]

theorem startedWorker_isSome : startedWorker.isSome := by
  decide +kernel

def startedState : State Unit String := startedWorker.get startedWorker_isSome

theorem started_alive : (startedState.buffer ()).Alive :=
  ⟨by decide +kernel, by decide +kernel⟩

/-- A read fails, and then the repository. -/
def handledFailures : List (Event Unit String) :=
  [.resume (), .read () .refused, .resume (), .publish () ["frame"], .counted () 1,
    .read () .ok, .handle (), .handle (), .store () false]

def afterFailures : Option (State Unit String) := run textSetup.step startedState handledFailures

theorem afterFailures_isSome : afterFailures.isSome := by
  decide +kernel

theorem survives_iff_nothing_fatal_failures :
    (((afterFailures.get afterFailures_isSome).buffer ()).pc.running = true ↔
      Meets textSetup.step (fun state event => ¬ Fatal textSetup () state event) startedState
        handledFailures) :=
  survives_iff_nothing_fatal textSetup () started_alive (by simp [handledFailures, Event.Leaves])
    (Option.some_get afterFailures_isSome).symm

/-- The batch is stored, and its acknowledgement fails. -/
def failingAck : List (Event Unit String) :=
  [.resume (), .publish () ["frame"], .counted () 1, .read () .ok, .handle (), .handle (),
    .store () true, .xack () .refused]

def afterAck : Option (State Unit String) := run textSetup.step startedState failingAck

theorem afterAck_isSome : afterAck.isSome := by
  decide +kernel

theorem failing_ack_ends_worker : ¬ ∀ (setup : Setup Unit String)
    (events : List (Event Unit String)) (start final : State Unit String),
    run setup.step (.init none) [.start (), .createGroup () .ok] = some start →
    (∀ event ∈ events, event.Leaves ()) → run setup.step start events = some final →
    (final.buffer ()).pc.running = true := by
  intro all
  have running := all textSetup failingAck startedState (afterAck.get afterAck_isSome)
    (Option.some_get startedWorker_isSome).symm (by simp [failingAck, Event.Leaves])
    (Option.some_get afterAck_isSome).symm
  have ended : ((afterAck.get afterAck_isSome).buffer ()).pc.running = false := by decide +kernel
  rw [ended] at running
  cases running

end RagDrift.Ingestion
