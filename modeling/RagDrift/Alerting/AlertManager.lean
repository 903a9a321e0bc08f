import RagDrift.Timeline.Windows
import Mathlib.Algebra.Order.Field.Rat
import Mathlib.Data.List.Induction
import Mathlib.Logic.Function.Basic
import Mathlib.Tactic.Linarith
import Mathlib.Tactic.NormNum

set_option autoImplicit false

/- `evaluator.alerts`: alerts of two severities, each with a cooldown of its own. -/
namespace RagDrift.Alerting

inductive Severity where
  | warning
  | critical
  deriving DecidableEq

/-- A call of `send_alert` with the clock reading it makes. -/
structure SendAlert (K : Type) where
  jsdScore : K
  threshold : K
  mmdScore : Option K
  mmdPValue : Option K
  correlationId : String
  now : K

/-- What goes to the three channels. -/
structure DriftAlert (K : Type) where
  severity : Severity
  jsdScore : K
  mmdScore : Option K
  threshold : K
  correlationId : String
  deriving DecidableEq

inductive AlertCall (K : Type) where
  | sendAlert (call : SendAlert K)
  | flush

structure AlertManager (K : Type) where
  lastAlertTime : Severity → Option K

variable {K : Type} [Field K] [LinearOrder K]

def alertCooldown : K := 300

namespace AlertManager

/-- `__init__`. -/
def new : AlertManager K := ⟨fun _ => none⟩

/-- `_is_rate_limited`; a reading that is not limited is remembered. -/
def isRateLimited (manager : AlertManager K) (severity : Severity) (now : K) :
    Bool × AlertManager K :=
  let lastTime := (manager.lastAlertTime severity).getD 0
  if now - lastTime < alertCooldown then (true, manager)
  else (false, ⟨Function.update manager.lastAlertTime severity (some now)⟩)

end AlertManager

/-- `_determine_severity`. -/
def determineSeverity (jsdScore threshold : K) (mmdPValue : Option K) : Severity :=
  if jsdScore > threshold * 1.5 ∨ mmdPValue.any fun pValue => pValue < 0.01 then .critical
  else .warning

abbrev SendAlert.severity (call : SendAlert K) : Severity :=
  determineSeverity call.jsdScore call.threshold call.mmdPValue

def SendAlert.alert (call : SendAlert K) : DriftAlert K :=
  ⟨call.severity, call.jsdScore, call.mmdScore, call.threshold, call.correlationId⟩

namespace AlertManager

/-- `send_alert`: the alert it dispatches, if any. -/
def sendAlert (manager : AlertManager K) (call : SendAlert K) :
    Option (DriftAlert K) × AlertManager K :=
  let limited := manager.isRateLimited call.severity call.now
  if limited.1 then (none, limited.2) else (some call.alert, limited.2)

def step (manager : AlertManager K) : AlertCall K → Option (DriftAlert K) × AlertManager K
  | .sendAlert call => manager.sendAlert call
  | .flush => (none, new)

/-- The calls with the alert each of them dispatched. -/
def answers : AlertManager K → List (AlertCall K) → List (AlertCall K × Option (DriftAlert K))
  | _, [] => []
  | manager, call :: rest => (call, (manager.step call).1) :: answers (manager.step call).2 rest

def after (manager : AlertManager K) (calls : List (AlertCall K)) : AlertManager K :=
  calls.foldl (fun manager call => (manager.step call).2) manager

end AlertManager

/-- The readings of the alerts of a severity that were dispatched since the last flush. -/
def sentTimes (severity : Severity) (log : List (AlertCall K × Option (DriftAlert K))) : List K :=
  log.foldl (fun times entry =>
    match entry with
    | (.flush, _) => []
    | (.sendAlert call, some _) => if call.severity = severity then times ++ [call.now] else times
    | (.sendAlert _, none) => times) []

/-- Flushes concern both severities. -/
def AlertCall.concerns (severity : Severity) : AlertCall K → Bool
  | .sendAlert call => call.severity = severity
  | .flush => true

/-- The reading of the clock, for calls that make one. -/
def AlertCall.reading : AlertCall K → Option K
  | .sendAlert call => some call.now
  | .flush => none

variable {manager other : AlertManager K} {call : SendAlert K} {severity : Severity}

theorem sendAlert_limited
    (limited : call.now - (manager.lastAlertTime call.severity).getD 0 < alertCooldown) :
    manager.sendAlert call = (none, manager) := by
  simp [AlertManager.sendAlert, AlertManager.isRateLimited, limited]

theorem sendAlert_passed
    (passed : ¬ call.now - (manager.lastAlertTime call.severity).getD 0 < alertCooldown) :
    manager.sendAlert call = (some call.alert,
      ⟨Function.update manager.lastAlertTime call.severity (some call.now)⟩) := by
  simp [AlertManager.sendAlert, AlertManager.isRateLimited, passed]

/-- A call reads and writes what is remembered of its own severity. -/
theorem sendAlert_congr
    (same : manager.lastAlertTime call.severity = other.lastAlertTime call.severity) :
    (manager.sendAlert call).1 = (other.sendAlert call).1 ∧
      (manager.sendAlert call).2.lastAlertTime call.severity =
        (other.sendAlert call).2.lastAlertTime call.severity := by
  by_cases limited : call.now - (manager.lastAlertTime call.severity).getD 0 < alertCooldown
  · rw [sendAlert_limited limited, sendAlert_limited (same ▸ limited)]
    exact ⟨rfl, same⟩
  · rw [sendAlert_passed limited, sendAlert_passed (same ▸ limited)]
    simp

theorem sendAlert_frame (differs : severity ≠ call.severity) :
    (manager.sendAlert call).2.lastAlertTime severity = manager.lastAlertTime severity := by
  by_cases limited : call.now - (manager.lastAlertTime call.severity).getD 0 < alertCooldown
  · rw [sendAlert_limited limited]
  · rw [sendAlert_passed limited]
    exact Function.update_of_ne differs _ _

theorem answers_append (front back : List (AlertCall K)) :
    manager.answers (front ++ back) =
      manager.answers front ++ (manager.after front).answers back := by
  induction front generalizing manager with
  | nil => rfl
  | cons call rest ih =>
      rw [List.cons_append, AlertManager.answers, AlertManager.answers, ih, List.cons_append]
      rfl

theorem after_append (front back : List (AlertCall K)) :
    manager.after (front ++ back) = (manager.after front).after back :=
  List.foldl_append

theorem sentTimes_append (front back : List (AlertCall K × Option (DriftAlert K))) :
    sentTimes severity (front ++ back) =
      back.foldl (fun times entry =>
        match entry with
        | (.flush, _) => []
        | (.sendAlert call, some _) =>
            if call.severity = severity then times ++ [call.now] else times
        | (.sendAlert _, none) => times) (sentTimes severity front) :=
  List.foldl_append

/-- What a severity is answered is what it is answered without the calls of the other one. -/
theorem answers_filter (same : manager.lastAlertTime severity = other.lastAlertTime severity)
    (calls : List (AlertCall K)) :
    (manager.answers calls).filter (fun entry => entry.1.concerns severity) =
      other.answers (calls.filter (AlertCall.concerns severity)) := by
  induction calls generalizing manager other with
  | nil => rfl
  | cons first rest ih =>
      cases first with
      | flush =>
          rw [AlertManager.answers, List.filter_cons_of_pos (by rfl),
            List.filter_cons_of_pos (by rfl), AlertManager.answers]
          congr 1
          exact ih rfl
      | sendAlert call =>
          rw [AlertManager.answers]
          by_cases own : call.severity = severity
          · subst own
            have both := sendAlert_congr same
            rw [List.filter_cons_of_pos (by simp [AlertCall.concerns]),
              List.filter_cons_of_pos (by simp [AlertCall.concerns]), AlertManager.answers]
            show (_, (manager.sendAlert call).1) :: _ = (_, (other.sendAlert call).1) :: _
            rw [both.1]
            congr 1
            exact ih both.2
          · rw [List.filter_cons_of_neg (by simpa [AlertCall.concerns] using own),
              List.filter_cons_of_neg (by simpa [AlertCall.concerns] using own)]
            apply ih
            show (manager.sendAlert call).2.lastAlertTime severity = _
            rw [sendAlert_frame (Ne.symm own), same]

/-- What is remembered of a severity is the last of its alerts, and these are a cooldown
apart. -/
structure Tracks (manager : AlertManager K) (log : List (AlertCall K × Option (DriftAlert K))) :
    Prop where
  last : ∀ severity, manager.lastAlertTime severity = (sentTimes severity log).getLast?
  spaced : ∀ severity, (sentTimes severity log).Pairwise fun first second =>
    alertCooldown ≤ second - first

theorem Tracks.new : Tracks (K := K) AlertManager.new [] :=
  ⟨fun _ => rfl, fun _ => List.Pairwise.nil⟩

section Clock

variable [IsStrictOrderedRing K] {log : List (AlertCall K × Option (DriftAlert K))}

theorem alertCooldown_pos : (0 : K) < alertCooldown := by
  unfold alertCooldown
  norm_num

/-- Under the invariant a call is limited by any of the alerts before it. -/
theorem Tracks.limited_iff (tracks : Tracks manager log) (late : alertCooldown ≤ call.now) :
    call.now - (manager.lastAlertTime call.severity).getD 0 < alertCooldown ↔
      ∃ time ∈ sentTimes call.severity log, call.now - time < alertCooldown := by
  rw [tracks.last]
  have spaced := tracks.spaced call.severity
  cases sent : (sentTimes call.severity log).getLast? with
  | none =>
      rw [List.getLast?_eq_none_iff] at sent
      rw [sent, Option.getD_none, sub_zero]
      constructor
      · intro early
        exact absurd late (not_le.mpr early)
      · intro found
        obtain ⟨time, inside, _⟩ := found
        cases inside
  | some last =>
      obtain ⟨before, split⟩ := List.getLast?_eq_some_iff.mp sent
      rw [split] at spaced ⊢
      rw [Option.getD_some]
      constructor
      · intro near
        exact ⟨last, List.mem_append_right _ List.mem_cons_self, near⟩
      · intro found
        obtain ⟨time, inside, near⟩ := found
        rcases List.mem_append.mp inside with earlier | here
        · have apart := (List.pairwise_append.mp spaced).2.2 time earlier last List.mem_cons_self
          have positive : (0 : K) < alertCooldown := alertCooldown_pos
          linarith
        · rw [List.mem_singleton] at here
          rw [← here]
          exact near

theorem Tracks.sendAlert (tracks : Tracks manager log) (late : alertCooldown ≤ call.now) :
    Tracks (manager.sendAlert call).2
      (log ++ [(AlertCall.sendAlert call, (manager.sendAlert call).1)]) := by
  have limits := tracks.limited_iff late
  by_cases limited : call.now - (manager.lastAlertTime call.severity).getD 0 < alertCooldown
  · rw [sendAlert_limited limited]
    constructor
    · intro severity
      rw [sentTimes_append]
      exact tracks.last severity
    · intro severity
      rw [sentTimes_append]
      exact tracks.spaced severity
  · rw [sendAlert_passed limited]
    have added : ∀ severity, sentTimes severity
        (log ++ [(AlertCall.sendAlert call, some call.alert)]) =
          if call.severity = severity then sentTimes severity log ++ [call.now]
          else sentTimes severity log := by
      intro severity
      rw [sentTimes_append]
      rfl
    constructor
    · intro severity
      rw [added]
      by_cases own : call.severity = severity
      · subst own
        simp
      · rw [if_neg own, ← tracks.last]
        exact Function.update_of_ne (Ne.symm own) _ _
    · intro severity
      rw [added]
      by_cases own : call.severity = severity
      · subst own
        rw [if_pos rfl, List.pairwise_append]
        refine ⟨tracks.spaced _, List.pairwise_singleton _ _, ?_⟩
        intro time inside now here
        rw [List.mem_singleton] at here
        subst here
        by_contra near
        exact limited (limits.mpr ⟨time, inside, not_le.mp near⟩)
      · rw [if_neg own]
        exact tracks.spaced severity

theorem tracks_after {calls : List (AlertCall K)}
    (late : ∀ call ∈ calls, ∀ now ∈ call.reading, alertCooldown ≤ now) :
    Tracks (AlertManager.new.after calls) (AlertManager.new.answers calls) := by
  induction calls using List.reverseRecOn with
  | nil => exact Tracks.new
  | append_singleton calls last ih =>
      have before := ih fun call inside => late call (List.mem_append_left _ inside)
      rw [after_append, answers_append]
      cases last with
      | flush =>
          constructor
          · intro severity
            rw [sentTimes_append]
            rfl
          · intro severity
            rw [sentTimes_append]
            exact List.Pairwise.nil
      | sendAlert call =>
          exact before.sendAlert (late _ (List.mem_append_right _ List.mem_cons_self) _ rfl)

/-- Since the last flush the alerts of one severity are a cooldown apart, a call is held back
exactly where one of them is less than that behind it, and the other severity has no part in
this. -/
theorem alert_cooldown {calls : List (AlertCall K)}
    (late : ∀ call ∈ calls, ∀ now ∈ call.reading, alertCooldown ≤ now) :
    (∀ severity, (sentTimes severity (AlertManager.new.answers calls)).Pairwise
        fun first second => alertCooldown ≤ second - first) ∧
      (∀ front call back, calls = front ++ AlertCall.sendAlert call :: back →
        ((AlertManager.new.after front).sendAlert call).1 =
          if ∃ time ∈ sentTimes call.severity (AlertManager.new.answers front),
            call.now - time < alertCooldown then none else some call.alert) ∧
      ∀ severity,
        (AlertManager.new.answers calls).filter (fun entry => entry.1.concerns severity) =
          AlertManager.new.answers (calls.filter (AlertCall.concerns severity)) := by
  refine ⟨(tracks_after late).spaced, ?_, ?_⟩
  · intro front call back split
    subst split
    have before : Tracks (AlertManager.new.after front) (AlertManager.new.answers front) :=
      tracks_after fun earlier inside => late earlier (List.mem_append_left _ inside)
    have limits := before.limited_iff
      (late _ (List.mem_append_right _ List.mem_cons_self) _ rfl)
    by_cases limited : call.now -
        ((AlertManager.new.after front).lastAlertTime call.severity).getD 0 < alertCooldown
    · rw [sendAlert_limited limited, if_pos (limits.mp limited)]
    · rw [sendAlert_passed limited, if_neg (mt limits.mpr limited)]
  · intro severity
    exact answers_filter rfl calls

end Clock

def growingCalls : List (AlertCall ℚ) :=
  [.sendAlert ⟨0.2, 0.15, none, none, "a", 1000⟩, .sendAlert ⟨0.2, 0.15, none, none, "b", 1200⟩,
    .sendAlert ⟨0.4, 0.15, none, none, "c", 1250⟩, .sendAlert ⟨0.2, 0.15, none, none, "d", 1300⟩]

theorem alert_cooldown_growing :
    (∀ severity, (sentTimes severity (AlertManager.new.answers growingCalls)).Pairwise
        fun first second => alertCooldown ≤ second - first) ∧
      (∀ front call back, growingCalls = front ++ AlertCall.sendAlert call :: back →
        ((AlertManager.new.after front).sendAlert call).1 =
          if ∃ time ∈ sentTimes call.severity (AlertManager.new.answers front),
            call.now - time < alertCooldown then none else some call.alert) ∧
      ∀ severity,
        (AlertManager.new.answers growingCalls).filter (fun entry => entry.1.concerns severity) =
          AlertManager.new.answers (growingCalls.filter (AlertCall.concerns severity)) :=
  alert_cooldown (by simp [growingCalls, AlertCall.reading, alertCooldown]; norm_num)

end RagDrift.Alerting
