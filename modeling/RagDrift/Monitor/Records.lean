import RagDrift.Alerting.Notifier
import RagDrift.Transition.Journal

set_option autoImplicit false

/- What the calls of `evaluate_frames` that share a monitor send out: alerts, and rows of the
drift store. -/
namespace RagDrift.Monitor

open Alerting (Alert DriftAlertNotifier)
open Telemetry (RAGEvaluationFrame)
open Transition (run run_cons journal journal_cons run_journal sentBy sentBy_append sentBy_of_all
  sentBy_of_none)

variable {N D E T : Type}

inductive Effect (N : Type) where
  | alerted (alert : Alert N)
  | recorded (frame : RAGEvaluationFrame N) (metrics : Metrics N)

/-- The row that an effect adds to the store. -/
def Effect.row : Effect N → Option (RAGEvaluationFrame N × Metrics N)
  | .alerted _ => none
  | .recorded frame metrics => some (frame, metrics)

section Effects

variable [DecidableEq N] [Zero N] [IntCast N]

/-- The effects of a step, each with its task. -/
def effects (notifier : DriftAlertNotifier) (state : State T N E) :
    Event T N D E → List (T × Effect N)
  | .notified task _ =>
      match state.pc task with
      | .notifying _ result => (notifier.alerts result).map fun alert => (task, .alerted alert)
      | _ => []
  | .recorded task (.ok _) =>
      match state.pc task with
      | .recording frame _ result => [(task, .recorded frame result.metrics)]
      | _ => []
  | _ => []

def rowsOf (frames : List (RAGEvaluationFrame N)) (result : Evaluation N) : List (Effect N) :=
  frames.map fun frame => .recorded frame result.metrics

def alertsOf (setup : Setup N D E) (notifier : DriftAlertNotifier) (result : Evaluation N) :
    List (Effect N) :=
  if setup.notifier then (notifier.alerts result).map .alerted else []

/-- What a call for these frames has sent when it stands there. -/
def Pc.Sent (setup : Setup N D E) (notifier : DriftAlertNotifier)
    (current : List (RAGEvaluationFrame N)) : Pc N E → List (Effect N) → Prop
  | .idle, _ => False
  | .fetching frames, sent => frames = current ∧ sent = []
  | .notifying frames _, sent => frames = current ∧ sent = [] ∧ setup.notifier = true
  | .recording frame rest result, sent => ∃ done, current = done ++ frame :: rest ∧
      sent = alertsOf setup notifier result ++ rowsOf done result
  | .returned result, sent => sent = alertsOf setup notifier result ++ rowsOf current result
  | .raised _, sent => sent = [] ∨
      ∃ result, sent <+: alertsOf setup notifier result ++ rowsOf current result

variable (setup : Setup N D E) (notifier : DriftAlertNotifier)
  {current done : List (RAGEvaluationFrame N)} {sent : List (Effect N)}

omit [DecidableEq N] [Zero N] [IntCast N] in
theorem rowsOf_append (front back : List (RAGEvaluationFrame N)) (result : Evaluation N) :
    rowsOf (front ++ back) result = rowsOf front result ++ rowsOf back result :=
  List.map_append

theorem record_sent (rest : List (RAGEvaluationFrame N)) (result : Evaluation N) :
    (Pc.record rest result : Pc N E).Sent setup notifier (done ++ rest)
      (alertsOf setup notifier result ++ rowsOf done result) := by
  cases rest with
  | nil => exact (List.append_nil done).symm ▸ rfl
  | cons frame rest => exact ⟨done, rfl, rfl⟩

theorem proceed_sent (current : List (RAGEvaluationFrame N)) (answer : Except E (Evaluation N)) :
    (setup.proceed current answer).Sent setup notifier current [] := by
  cases answer with
  | error reason => exact .inl rfl
  | ok result =>
      rw [Setup.proceed]
      by_cases attached : setup.notifier = true
      · rw [if_pos attached]
        exact ⟨rfl, rfl, attached⟩
      · rw [if_neg attached]
        have quiet : alertsOf setup notifier result = [] := if_neg attached
        have begun : (Pc.record current result : Pc N E).Sent setup notifier ([] ++ current)
            (alertsOf setup notifier result ++ rowsOf [] result) :=
          record_sent setup notifier current result
        rw [quiet] at begun
        exact begun

variable [DecidableEq T] {setup notifier} {start state after final : State T N E}
  {event : Event T N D E} {events : List (Event T N D E)} {task : T}

omit [DecidableEq T] in
theorem effects_task : ∀ entry ∈ effects notifier state event, entry.1 = event.task := by
  intro entry inside
  unfold effects at inside
  split at inside
  · split at inside
    · obtain ⟨_, _, same⟩ := List.mem_map.mp inside
      rw [← same]
      rfl
    · cases inside
  · split at inside
    · rw [List.mem_singleton.mp inside]
      rfl
    · cases inside
  · cases inside

/-- A step of the call sends on what it has to. -/
theorem step_sent (holds : (state.pc event.task).Sent setup notifier current sent)
    (same : ¬ event.Calls event.task) (stepped : setup.step state event = some after) :
    (after.pc event.task).Sent setup notifier current
      (sent ++ sentBy event.task (effects notifier state event)) := by
  rw [sentBy_of_all effects_task]
  cases step_cases stepped with
  | fetch task baseline frames draws _ _ _ => exact absurd rfl same
  | explicit task baseline frames draws _ _ => exact absurd rfl same
  | fetchFailed task reason draws frames pc =>
      rw [Event.task, pc] at holds
      rw [Event.task, pc_setPc_self, holds.2]
      exact .inl rfl
  | fetched task baseline draws frames calibrate pc _ =>
      rw [Event.task, pc] at holds
      obtain ⟨rfl, rfl⟩ := holds
      change ((state.setPc task _).pc task).Sent _ _ _ _
      rw [pc_setPc_self, Setup.dynamic]
      split
      · exact .inl rfl
      · exact proceed_sent setup notifier frames _
  | notifyFailed task reason frames result pc =>
      rw [Event.task, pc] at holds
      obtain ⟨rfl, rfl, attached⟩ := holds
      rw [Event.task, pc_setPc_self]
      refine .inr ⟨result, ?_⟩
      simp only [effects, pc, alertsOf, attached, if_true, List.map_map, List.nil_append]
      exact List.prefix_append _ _
  | notified task frames result pc =>
      rw [Event.task, pc] at holds
      obtain ⟨rfl, rfl, attached⟩ := holds
      rw [Event.task, pc_setPc_self]
      have begun : (Pc.record frames result : Pc N E).Sent setup notifier ([] ++ frames)
          (alertsOf setup notifier result ++ rowsOf [] result) :=
        record_sent setup notifier frames result
      simp only [effects, pc, List.map_map, List.nil_append]
      simp only [alertsOf, attached, if_true, rowsOf, List.map_nil, List.append_nil,
        List.nil_append] at begun
      exact begun
  | recordFailed task reason frame rest result pc =>
      rw [Event.task, pc] at holds
      obtain ⟨front, rfl, rfl⟩ := holds
      rw [Event.task, pc_setPc_self]
      refine .inr ⟨result, ?_⟩
      rw [rowsOf_append, ← List.append_assoc]
      simp only [effects, List.map_nil, List.append_nil]
      exact List.prefix_append _ _
  | recorded task frame rest result pc =>
      rw [Event.task, pc] at holds
      obtain ⟨front, rfl, rfl⟩ := holds
      change ((state.setPc task _).pc task).Sent _ _ _ _
      rw [pc_setPc_self]
      have further : (Pc.record rest result : Pc N E).Sent setup notifier
          (front ++ [frame] ++ rest)
          (alertsOf setup notifier result ++ rowsOf (front ++ [frame]) result) :=
        record_sent setup notifier rest result
      rw [List.append_assoc, List.singleton_append, rowsOf_append, ← List.append_assoc] at further
      simp only [effects, pc, List.map_cons, List.map_nil]
      exact further

omit [DecidableEq N] [Zero N] [IntCast N] [DecidableEq T] in
theorem rows_alerted (task : T) (alerts : List (Alert N)) :
    (alerts.map fun alert => (task, Effect.alerted alert)).filterMap
      (fun entry => entry.2.row) = [] := by
  rw [List.filterMap_map, List.filterMap_eq_nil_iff]
  intro alert _
  rfl

/-- A step adds its rows to the store. -/
theorem step_rows (stepped : setup.step state event = some after) :
    after.store = state.store ++
      (effects notifier state event).filterMap fun entry => entry.2.row := by
  cases step_cases stepped with
  | recorded task frame rest result pc =>
      simp only [effects, pc, List.filterMap_cons, List.filterMap_nil, Effect.row]
  | notified task frames result pc =>
      simp only [effects, pc, rows_alerted, List.append_nil]
      rfl
  | notifyFailed task reason frames result pc =>
      simp only [effects, pc, rows_alerted, List.append_nil]
      rfl
  | _ => exact (List.append_nil _).symm

/-- The store holds the rows that were sent, in the order they were sent in. -/
theorem run_rows (ran : run setup.step start events = some final) :
    final.store = start.store ++
      (journal setup.step (effects notifier) start events).filterMap fun entry => entry.2.row := by
  have keeps : ∀ (state : State T N E) event next (sent : List (T × Effect N)),
      state.store = start.store ++ sent.filterMap (fun entry => entry.2.row) →
      True → setup.step state event = some next →
      next.store = start.store ++
        (sent ++ effects notifier state event).filterMap fun entry => entry.2.row := by
    intro state event next sent holds _ stepped
    rw [step_rows stepped, holds, List.filterMap_append, List.append_assoc]
  have initially : start.store =
      start.store ++ ([] : List (T × Effect N)).filterMap fun entry => entry.2.row :=
    (List.append_nil _).symm
  exact run_journal keeps initially (fun _ _ => trivial) ran

/-- What the call of a task has sent is its alert and a prefix of its rows. -/
theorem run_sent {sent : List (T × Effect N)}
    (holds : (start.pc task).Sent setup notifier current (sentBy task sent))
    (once : ∀ event ∈ events, ¬ event.Calls task)
    (ran : run setup.step start events = some final) :
    (final.pc task).Sent setup notifier current
      (sentBy task (sent ++ journal setup.step (effects notifier) start events)) := by
  have keeps : ∀ (state : State T N E) event next (sent : List (T × Effect N)),
      (state.pc task).Sent setup notifier current (sentBy task sent) → ¬ event.Calls task →
      setup.step state event = some next →
      (next.pc task).Sent setup notifier current
        (sentBy task (sent ++ effects notifier state event)) := by
    intro state event next sent holds other stepped
    rw [sentBy_append]
    by_cases own : task = event.task
    · subst own
      exact step_sent holds other stepped
    · rw [sentBy_of_none fun entry inside same => own (same.symm.trans (effects_task entry inside)),
        List.append_nil, step_pc_other own stepped]
      exact holds
  exact run_journal keeps holds once ran

/-- A call starts with nothing sent. -/
theorem call_sent {baseline frames : Option (List (RAGEvaluationFrame N))} {draws : D}
    (stepped : setup.step state (.call task baseline frames draws) = some after) :
    (after.pc task).Sent setup notifier (frames.getD []) [] := by
  cases step_cases stepped with
  | fetch _ _ _ _ _ _ _ =>
      rw [pc_setPc_self]
      exact ⟨rfl, rfl⟩
  | explicit _ _ _ _ _ _ =>
      rw [pc_setPc_self]
      exact proceed_sent setup notifier _ _

/-- However the calls of a monitor take turns, each sends its own alert, then a row for each of
its frames in their order, all with the numbers of the evaluation it returns, and stops where it
raises; the store grows by these rows only. -/
theorem calls_record_in_order {baseline frames : Option (List (RAGEvaluationFrame N))} {draws : D}
    (once : ∀ event ∈ events, ¬ event.Calls task)
    (ran : run setup.step start (.call task baseline frames draws :: events) = some final) :
    let sent := journal setup.step (effects notifier) start
      (.call task baseline frames draws :: events)
    final.store = start.store ++ sent.filterMap (fun entry => entry.2.row) ∧
      (final.pc task).Sent setup notifier (frames.getD []) (sentBy task sent) := by
  refine ⟨run_rows ran, ?_⟩
  obtain ⟨next, stepped, later⟩ := run_cons.mp ran
  rw [journal_cons stepped]
  have begun : (next.pc task).Sent setup notifier (frames.getD []) (sentBy task []) :=
    call_sent stepped
  exact run_sent begun once later

end Effects

/-- `bareSetup` with a notifier and a verdict of drift. -/
def driftedSetup : Setup Int Unit String where
  baselineService := none
  notifier := true
  evaluateVectorDrift _ _ _ _ := .ok ⟨3, 2, true⟩
  evaluateGraphDrift _ _ _ := .ok ⟨0, 0, 0, false⟩
  evaluateSwarmDrift _ _ _ := .ok ⟨0, 0, false⟩

/-- A call is refused by the store at its second frame, while another one records. -/
def twoRecords : List (Event Bool Int Unit String) :=
  [.call false none (some [bareFrame, bareFrame]) (), .call true none (some [bareFrame]) (),
    .notified true (.ok ()), .notified false (.ok ()), .recorded false (.ok ()),
    .recorded true (.ok ()), .recorded false (.error "closed")]

theorem twoRecords_isSome : (run driftedSetup.step restingState twoRecords).isSome := by
  decide +kernel

theorem calls_record_in_order_refused :
    ((run driftedSetup.step restingState twoRecords).get twoRecords_isSome).store.length = 2 ∧
      (((run driftedSetup.step restingState twoRecords).get twoRecords_isSome).pc false).Sent
        driftedSetup ⟨some "hook"⟩ [bareFrame, bareFrame]
        (sentBy false (journal driftedSetup.step (effects ⟨some "hook"⟩) restingState
          twoRecords)) := by
  have ran : run driftedSetup.step restingState twoRecords =
      some ((run driftedSetup.step restingState twoRecords).get twoRecords_isSome) :=
    (Option.some_get twoRecords_isSome).symm
  have once : ∀ event ∈ twoRecords.tail, ¬ event.Calls false := by
    simp [twoRecords, Event.Calls]
  exact ⟨by decide +kernel, (calls_record_in_order once ran).2⟩

end RagDrift.Monitor
