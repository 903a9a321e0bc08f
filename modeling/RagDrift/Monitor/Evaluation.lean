import RagDrift.Monitor.Thresholds
import RagDrift.Telemetry.Frames
import RagDrift.Transition.Runs
import Mathlib.Logic.Function.Basic

set_option autoImplicit false

/- `DriftMonitor.evaluate_frames`: calls that share one monitor and take turns at their
awaits. -/
namespace RagDrift.Monitor

open Drift (GraphDrift SwarmDrift)
open Telemetry (RAGEvaluationFrame)
open Transition (run run_cons run_invariant run_invariant_of_meets meets_of_forall)

variable {N D E T : Type}

structure VectorDrift (N : Type) where
  jsDivergence : N
  mmdScore : N
  isDrifted : Bool
  deriving DecidableEq

/-- What `evaluate_frames` returns. -/
structure Evaluation (N : Type) where
  vectorDrift : VectorDrift N
  graphDrift : GraphDrift N
  swarmDrift : SwarmDrift N
  isDrifted : Bool
  deriving DecidableEq

/-- What is stored with each current frame; `wasserstein_distance` is always `None`. -/
structure Metrics (N : Type) where
  jsDivergence : N
  mmdScore : N
  isDrifted : Bool
  spectralDistance : N
  densityDelta : N
  nodeCountDelta : Int
  transitionEntropyDelta : N
  avgReflectionIterationsDelta : N
  deriving DecidableEq

def Evaluation.metrics (result : Evaluation N) : Metrics N where
  jsDivergence := result.vectorDrift.jsDivergence
  mmdScore := result.vectorDrift.mmdScore
  isDrifted := result.isDrifted
  spectralDistance := result.graphDrift.spectralDistance
  densityDelta := result.graphDrift.densityDelta
  nodeCountDelta := result.graphDrift.nodeCountDelta
  transitionEntropyDelta := result.swarmDrift.transitionEntropyDelta
  avgReflectionIterationsDelta := result.swarmDrift.avgReflectionIterationsDelta

/-- The collaborators of a monitor. Each computation may raise, reads the thresholds of the
monitor it is given, and depends on random draws `D`. -/
structure Setup (N D E : Type) where
  /-- `_baseline_service.compute_calibrated_thresholds`, if a service is attached. -/
  baselineService : Option (List (RAGEvaluationFrame N) → D → Except E (Thresholds N))
  notifier : Bool
  evaluateVectorDrift : DriftMonitor N → List (RAGEvaluationFrame N) →
    List (RAGEvaluationFrame N) → D → Except E (VectorDrift N)
  evaluateGraphDrift : DriftMonitor N → List (RAGEvaluationFrame N) →
    List (RAGEvaluationFrame N) → Except E (GraphDrift N)
  evaluateSwarmDrift : DriftMonitor N → List (RAGEvaluationFrame N) →
    List (RAGEvaluationFrame N) → Except E (SwarmDrift N)

/-- Where a call stands: before it is made, at one of its three awaits, or at its end. -/
inductive Pc (N E : Type) where
  | idle
  | fetching (current : List (RAGEvaluationFrame N))
  | notifying (current : List (RAGEvaluationFrame N)) (result : Evaluation N)
  | recording (frame : RAGEvaluationFrame N) (rest : List (RAGEvaluationFrame N))
      (result : Evaluation N)
  | returned (result : Evaluation N)
  | raised (reason : E)
  deriving DecidableEq

/-- A task may call again when its call has ended. -/
def Pc.atRest : Pc N E → Bool
  | .idle | .returned _ | .raised _ => true
  | _ => false

structure State (T N E : Type) where
  monitor : DriftMonitor N
  pc : T → Pc N E
  store : List (RAGEvaluationFrame N × Metrics N)

/-- `none` for frames is Python's `None`. An answer that is an error is the exception raised at
the await, a cancellation included. -/
inductive Event (T N D E : Type) where
  | call (task : T) (baseline current : Option (List (RAGEvaluationFrame N))) (draws : D)
  | fetched (task : T) (answer : Except E (Option (List (RAGEvaluationFrame N)))) (draws : D)
  | notified (task : T) (outcome : Except E Unit)
  | recorded (task : T) (outcome : Except E Unit)

def Event.task : Event T N D E → T
  | .call task _ _ _ | .fetched task _ _ | .notified task _ | .recorded task _ => task

/-- A new call of the task. -/
def Event.Calls (task : T) : Event T N D E → Prop
  | .call other _ _ _ => other = task
  | _ => False

/-- The notifier or the store raises in the call of the task. -/
def Event.Raises (task : T) (reason : E) : Event T N D E → Prop
  | .notified other (.error raised) | .recorded other (.error raised) =>
      other = task ∧ raised = reason
  | _ => False

/-- The call has this result, or has returned it. -/
def Pc.Reports (expected : Evaluation N) : Pc N E → Prop
  | .notifying _ result | .recording _ _ result | .returned result => result = expected
  | _ => False

/-- The rest of the loop over the current frames. -/
def Pc.record (frames : List (RAGEvaluationFrame N)) (result : Evaluation N) : Pc N E :=
  match frames with
  | [] => .returned result
  | frame :: rest => .recording frame rest result

namespace Setup

/-- The `try` block and the verdict. -/
def evaluate (setup : Setup N D E) (monitor : DriftMonitor N)
    (baseline current : List (RAGEvaluationFrame N)) (draws : D) : Except E (Evaluation N) := do
  let vectorDrift ← setup.evaluateVectorDrift monitor baseline current draws
  let graphDrift ← setup.evaluateGraphDrift monitor baseline current
  let swarmDrift ← setup.evaluateSwarmDrift monitor baseline current
  return ⟨vectorDrift, graphDrift, swarmDrift,
    vectorDrift.isDrifted || graphDrift.isGraphDrifted || swarmDrift.isSwarmDrifted⟩

/-- After the `finally` block, up to the next await. -/
def proceed (setup : Setup N D E) (current : List (RAGEvaluationFrame N)) :
    Except E (Evaluation N) → Pc N E
  | .error reason => .raised reason
  | .ok result => if setup.notifier then .notifying current result else .record current result

/-- A dynamic baseline arrived; there is no await up to the `finally` block. -/
def dynamic (setup : Setup N D E)
    (calibrate : List (RAGEvaluationFrame N) → D → Except E (Thresholds N))
    (monitor : DriftMonitor N) (baseline current : List (RAGEvaluationFrame N)) (draws : D) :
    DriftMonitor N × Pc N E :=
  match calibrate baseline draws with
  | .error reason => (monitor, .raised reason)
  | .ok thresholds =>
      let calibrated := monitor.applyCalibratedThresholds thresholds
      (calibrated.restoreThresholds,
        setup.proceed current (setup.evaluate calibrated baseline current draws))

end Setup

section Steps

variable [DecidableEq T]

def State.setPc (state : State T N E) (task : T) (pc : Pc N E) : State T N E :=
  { state with pc := Function.update state.pc task pc }

namespace Setup

def step (setup : Setup N D E) (state : State T N E) : Event T N D E → Option (State T N E)
  | .call task baseline current draws =>
      if (state.pc task).atRest then
        let baseline := baseline.getD []
        let current := current.getD []
        if baseline = [] ∧ setup.baselineService.isSome then
          some (state.setPc task (.fetching current))
        else
          some (state.setPc task
            (setup.proceed current (setup.evaluate state.monitor baseline current draws)))
      else none
  | .fetched task answer draws =>
      match state.pc task, setup.baselineService with
      | .fetching current, some calibrate =>
          match answer with
          | .error reason => some (state.setPc task (.raised reason))
          | .ok baseline =>
              let ran := setup.dynamic calibrate state.monitor (baseline.getD []) current draws
              some { state.setPc task ran.2 with monitor := ran.1 }
      | _, _ => none
  | .notified task outcome =>
      match state.pc task with
      | .notifying current result =>
          match outcome with
          | .error reason => some (state.setPc task (.raised reason))
          | .ok _ => some (state.setPc task (.record current result))
      | _ => none
  | .recorded task outcome =>
      match state.pc task with
      | .recording frame rest result =>
          match outcome with
          | .error reason => some (state.setPc task (.raised reason))
          | .ok _ => some { state.setPc task (.record rest result) with
              store := state.store ++ [(frame, result.metrics)] }
      | _ => none

end Setup

/-- What each step of a call does. -/
inductive Step (setup : Setup N D E) (state : State T N E) :
    Event T N D E → State T N E → Prop where
  | fetch (task : T) (baseline current : Option (List (RAGEvaluationFrame N))) (draws : D)
      (pc : (state.pc task).atRest = true) (dynamic : baseline.getD [] = [])
      (attached : setup.baselineService.isSome = true) :
      Step setup state (.call task baseline current draws)
        (state.setPc task (.fetching (current.getD [])))
  | explicit (task : T) (baseline current : Option (List (RAGEvaluationFrame N))) (draws : D)
      (pc : (state.pc task).atRest = true)
      (static : ¬(baseline.getD [] = [] ∧ setup.baselineService.isSome = true)) :
      Step setup state (.call task baseline current draws)
        (state.setPc task (setup.proceed (current.getD [])
          (setup.evaluate state.monitor (baseline.getD []) (current.getD []) draws)))
  | fetchFailed (task : T) (reason : E) (draws : D) (current : List (RAGEvaluationFrame N))
      (pc : state.pc task = .fetching current) :
      Step setup state (.fetched task (.error reason) draws) (state.setPc task (.raised reason))
  | fetched (task : T) (baseline : Option (List (RAGEvaluationFrame N))) (draws : D)
      (current : List (RAGEvaluationFrame N))
      (calibrate : List (RAGEvaluationFrame N) → D → Except E (Thresholds N))
      (pc : state.pc task = .fetching current)
      (attached : setup.baselineService = some calibrate) :
      Step setup state (.fetched task (.ok baseline) draws)
        { state.setPc task
            (setup.dynamic calibrate state.monitor (baseline.getD []) current draws).2 with
          monitor := (setup.dynamic calibrate state.monitor (baseline.getD []) current draws).1 }
  | notifyFailed (task : T) (reason : E) (current : List (RAGEvaluationFrame N))
      (result : Evaluation N) (pc : state.pc task = .notifying current result) :
      Step setup state (.notified task (.error reason)) (state.setPc task (.raised reason))
  | notified (task : T) (current : List (RAGEvaluationFrame N)) (result : Evaluation N)
      (pc : state.pc task = .notifying current result) :
      Step setup state (.notified task (.ok ())) (state.setPc task (.record current result))
  | recordFailed (task : T) (reason : E) (frame : RAGEvaluationFrame N)
      (rest : List (RAGEvaluationFrame N)) (result : Evaluation N)
      (pc : state.pc task = .recording frame rest result) :
      Step setup state (.recorded task (.error reason)) (state.setPc task (.raised reason))
  | recorded (task : T) (frame : RAGEvaluationFrame N) (rest : List (RAGEvaluationFrame N))
      (result : Evaluation N) (pc : state.pc task = .recording frame rest result) :
      Step setup state (.recorded task (.ok ()))
        { state.setPc task (.record rest result) with
          store := state.store ++ [(frame, result.metrics)] }

variable {setup : Setup N D E} {start state after final : State T N E} {event : Event T N D E}
  {events : List (Event T N D E)}

theorem step_cases (stepped : setup.step state event = some after) :
    Step setup state event after := by
  unfold Setup.step at stepped
  cases event with
  | call task baseline current draws =>
      dsimp only at stepped
      split at stepped
      · rename_i pc
        split at stepped
        · rename_i dynamic
          cases stepped
          exact .fetch task baseline current draws pc dynamic.1 dynamic.2
        · rename_i static
          cases stepped
          exact .explicit task baseline current draws pc static
      · cases stepped
  | fetched task answer draws =>
      dsimp only at stepped
      split at stepped
      · rename_i current calibrate pc attached
        cases answer with
        | error reason =>
            cases stepped
            exact .fetchFailed task reason draws current pc
        | ok baseline =>
            cases stepped
            exact .fetched task baseline draws current calibrate pc attached
      · cases stepped
  | notified task outcome =>
      dsimp only at stepped
      split at stepped
      · rename_i current result pc
        cases outcome with
        | error reason =>
            cases stepped
            exact .notifyFailed task reason current result pc
        | ok _ =>
            cases stepped
            exact .notified task current result pc
      · cases stepped
  | recorded task outcome =>
      dsimp only at stepped
      split at stepped
      · rename_i frame rest result pc
        cases outcome with
        | error reason =>
            cases stepped
            exact .recordFailed task reason frame rest result pc
        | ok _ =>
            cases stepped
            exact .recorded task frame rest result pc
      · cases stepped

omit [DecidableEq T] in
/-- However the calibration and the three computations end, the monitor is as it was. -/
theorem dynamic_monitor (setup : Setup N D E)
    (calibrate : List (RAGEvaluationFrame N) → D → Except E (Thresholds N))
    {monitor : DriftMonitor N} (unsaved : monitor.savedThresholds = none)
    (baseline current : List (RAGEvaluationFrame N)) (draws : D) :
    (setup.dynamic calibrate monitor baseline current draws).1 = monitor := by
  unfold Setup.dynamic
  split
  · rfl
  · exact DriftMonitor.restore_apply unsaved _

theorem step_monitor (unsaved : state.monitor.savedThresholds = none)
    (stepped : setup.step state event = some after) : after.monitor = state.monitor := by
  cases step_cases stepped with
  | fetched task baseline draws current calibrate _ _ =>
      exact dynamic_monitor setup calibrate unsaved _ current draws
  | _ => rfl

/-- Calibration never leaks: at every await of every call, and after it, the monitor holds what
it held before the first one, and nothing is saved. -/
theorem calibration_never_leaks (setup : Setup N D E)
    (unsaved : start.monitor.savedThresholds = none)
    (ran : run setup.step start events = some final) :
    final.monitor.savedThresholds = none ∧ final.monitor = start.monitor := by
  have keeps : ∀ (state : State T N E) event next, state.monitor = start.monitor →
      setup.step state event = some next → next.monitor = start.monitor := by
    intro state event next same stepped
    have here : state.monitor.savedThresholds = none := by rw [same, unsaved]
    exact (step_monitor here stepped).trans same
  have same := run_invariant keeps rfl ran
  refine ⟨?_, same⟩
  rw [same, unsaved]

variable {task : T}

theorem pc_setPc (state : State T N E) (task : T) (pc : Pc N E) (other : T) :
    (state.setPc task pc).pc other = if other = task then pc else state.pc other := by
  simp only [State.setPc, Function.update_apply]

theorem pc_setPc_self (state : State T N E) (task : T) (pc : Pc N E) :
    (state.setPc task pc).pc task = pc := by
  rw [pc_setPc, if_pos rfl]

theorem step_pc_other (differs : task ≠ event.task)
    (stepped : setup.step state event = some after) : after.pc task = state.pc task := by
  have elsewhere : ∀ pc, (state.setPc event.task pc).pc task = state.pc task := by
    intro pc
    rw [pc_setPc, if_neg differs]
  cases step_cases stepped with
  | _ => apply elsewhere

omit [DecidableEq T] in
theorem record_reports (frames : List (RAGEvaluationFrame N)) (result : Evaluation N) :
    (Pc.record frames result : Pc N E).Reports result := by
  cases frames with
  | nil => rfl
  | cons frame rest => rfl

omit [DecidableEq T] in
theorem proceed_reports (setup : Setup N D E) (current : List (RAGEvaluationFrame N))
    (result : Evaluation N) : (setup.proceed current (.ok result)).Reports result := by
  rw [Setup.proceed]
  split
  · rfl
  · exact record_reports current result

/-- A call keeps its result, unless the notifier or the store raises. -/
theorem step_reports {expected : Evaluation N} (reports : (state.pc task).Reports expected)
    (same : ¬ event.Calls task) (stepped : setup.step state event = some after) :
    (after.pc task).Reports expected ∨
      ∃ reason, after.pc task = .raised reason ∧ event.Raises task reason := by
  by_cases elsewhere : task = event.task
  · subst elsewhere
    cases step_cases stepped with
    | fetch task baseline current draws _ _ _ => exact absurd rfl same
    | explicit task baseline current draws _ _ => exact absurd rfl same
    | fetchFailed task reason draws current pc =>
        rw [Event.task, pc] at reports
        exact reports.elim
    | fetched task baseline draws current calibrate pc _ =>
        rw [Event.task, pc] at reports
        exact reports.elim
    | notifyFailed task reason current result pc =>
        right
        exact ⟨reason, pc_setPc_self state task _, rfl, rfl⟩
    | notified task current result pc =>
        left
        rw [Event.task, pc] at reports
        rw [Event.task, pc_setPc_self]
        cases reports
        exact record_reports current expected
    | recordFailed task reason frame rest result pc =>
        right
        exact ⟨reason, pc_setPc_self state task _, rfl, rfl⟩
    | recorded task frame rest result pc =>
        left
        rw [Event.task, pc] at reports
        cases reports
        show ((state.setPc task (.record rest expected)).pc task).Reports expected
        rw [pc_setPc_self]
        exact record_reports rest expected
  · left
    rw [step_pc_other elsewhere stepped]
    exact reports

theorem step_raised {reason : E} (raised : state.pc task = .raised reason)
    (same : ¬ event.Calls task) (stepped : setup.step state event = some after) :
    after.pc task = .raised reason := by
  by_cases elsewhere : task = event.task
  · subst elsewhere
    cases step_cases stepped with
    | fetch task baseline current draws _ _ _ => exact absurd rfl same
    | explicit task baseline current draws _ _ => exact absurd rfl same
    | fetchFailed task _ draws current pc => cases pc.symm.trans raised
    | fetched task baseline draws current calibrate pc _ => cases pc.symm.trans raised
    | notifyFailed task _ current result pc => cases pc.symm.trans raised
    | notified task current result pc => cases pc.symm.trans raised
    | recordFailed task _ frame rest result pc => cases pc.symm.trans raised
    | recorded task frame rest result pc => cases pc.symm.trans raised
  · rw [step_pc_other elsewhere stepped]
    exact raised

theorem run_raised {reason : E} (raised : start.pc task = .raised reason)
    (same : ∀ event ∈ events, ¬ event.Calls task) (ran : run setup.step start events = some final) :
    final.pc task = .raised reason := by
  have keeps : ∀ (state : State T N E) event next, state.pc task = .raised reason →
      ¬ event.Calls task → setup.step state event = some next →
      next.pc task = .raised reason :=
    fun _ _ _ raised other stepped => step_raised raised other stepped
  exact run_invariant_of_meets keeps raised (meets_of_forall same) ran

/-- The result of a call, once it has one, is the one it returns. -/
theorem run_reports {expected : Evaluation N} (reports : (start.pc task).Reports expected)
    (same : ∀ event ∈ events, ¬ event.Calls task) (ran : run setup.step start events = some final) :
    (final.pc task).Reports expected ∨
      ∃ reason, final.pc task = .raised reason ∧ ∃ event ∈ events, event.Raises task reason := by
  induction events generalizing start with
  | nil =>
      cases ran
      exact .inl reports
  | cons event rest ih =>
      obtain ⟨next, stepped, later⟩ := run_cons.mp ran
      have here := same event List.mem_cons_self
      have after : ∀ other ∈ rest, ¬ other.Calls task :=
        fun other inside => same other (List.mem_cons_of_mem _ inside)
      rcases step_reports reports here stepped with kept | ⟨reason, raised, raises⟩
      · rcases ih kept after later with reported | ⟨reason, raised, other, inside, raises⟩
        · exact .inl reported
        · exact .inr ⟨reason, raised, other, List.mem_cons_of_mem _ inside, raises⟩
      · exact .inr ⟨reason, run_raised raised after later, event, List.mem_cons_self, raises⟩

omit [DecidableEq T] in
theorem Pc.Reports.unique {pc : Pc N E} {first second : Evaluation N} (one : pc.Reports first)
    (other : pc.Reports second) : first = second := by
  cases pc with
  | notifying current result => exact Eq.trans (Eq.symm one) other
  | recording frame rest result => exact Eq.trans (Eq.symm one) other
  | returned result => exact Eq.trans (Eq.symm one) other
  | idle => exact one.elim
  | fetching current => exact one.elim
  | raised reason => exact one.elim

/-- What a call with a baseline reports is what was computed when it was made. -/
theorem reports_evaluated {baseline current : List (RAGEvaluationFrame N)} {draws : D}
    {result : Evaluation N} (filled : baseline ≠ [])
    (once : ∀ event ∈ events, ¬ event.Calls task)
    (ran : run setup.step start (.call task (some baseline) (some current) draws :: events) =
      some final)
    (reported : (final.pc task).Reports result) :
    setup.evaluate start.monitor baseline current draws = .ok result := by
  obtain ⟨next, stepped, later⟩ := run_cons.mp ran
  cases step_cases stepped with
  | fetch _ _ _ _ _ dynamic _ => exact absurd dynamic filled
  | explicit _ _ _ _ _ _ =>
      simp only [Option.getD_some] at later
      cases evaluated : setup.evaluate start.monitor baseline current draws with
      | error reason =>
          rw [evaluated] at later
          rw [run_raised (pc_setPc_self start task _) once later] at reported
          exact reported.elim
      | ok first =>
          rw [evaluated] at later
          have reports : ((start.setPc task (setup.proceed current (.ok first))).pc task).Reports
              first := by
            rw [pc_setPc_self]
            exact proceed_reports setup current first
          rcases run_reports reports once later with kept | ⟨reason, raised, _⟩
          · rw [kept.unique reported]
          · rw [raised] at reported
            exact reported.elim

end Steps

/- Every statistic of such frames is 0, and so is every threshold calibrated on enough of them. -/

def bareFrame : RAGEvaluationFrame Int :=
  ⟨⟨none⟩, ⟨none, none⟩, ⟨none, 0⟩, ⟨none⟩⟩

def zeroThresholds : Thresholds Int where
  entries := [("vector_jsd_threshold", 0), ("vector_mmd_threshold", 0),
    ("vector_per_component_kl_threshold", 0), ("graph_spectral_threshold", 0),
    ("swarm_entropy_threshold", 0)]
  distinct := by decide

def bareSetup : Setup Int Unit String where
  baselineService := some fun baseline _ =>
    .ok (if baseline.length < 20 then .empty else zeroThresholds)
  notifier := false
  evaluateVectorDrift _ _ _ _ := .ok ⟨0, 0, false⟩
  evaluateGraphDrift _ _ _ := .ok ⟨0, 0, 0, false⟩
  evaluateSwarmDrift _ _ _ := .ok ⟨0, 0, false⟩

def restingState : State Bool Int String where
  monitor := ⟨1, 1, 1, .empty, false, ⟨1, 1, 5⟩, ⟨1, 1⟩, none⟩
  pc _ := .idle
  store := []

/-- A dynamic call waits for its baseline while an explicit one is refused by the store. -/
def twoCalls : List (Event Bool Int Unit String) :=
  [.call false none (some [bareFrame]) (), .call true (some [bareFrame]) (some [bareFrame]) (),
    .fetched false (.ok (some (List.replicate 20 bareFrame))) (),
    .recorded true (.error "closed"), .recorded false (.ok ())]

theorem twoCalls_isSome : (run bareSetup.step restingState twoCalls).isSome := by
  decide +kernel

theorem calibration_never_leaks_two_calls :
    let final := (run bareSetup.step restingState twoCalls).get twoCalls_isSome
    final.monitor.savedThresholds = none ∧ final.monitor = restingState.monitor :=
  calibration_never_leaks bareSetup rfl (Option.some_get twoCalls_isSome).symm

end RagDrift.Monitor
