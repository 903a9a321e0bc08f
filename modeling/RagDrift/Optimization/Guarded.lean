import RagDrift.Optimization.Executions

set_option autoImplicit false

/- What the guardrails guarantee over every run of a runner, and how long an attempt that was
held back keeps holding back others. -/
namespace RagDrift.Optimization

open Storage (EvaluationRecord)
open Temporal (DriftEvent)
open Causal (attributeDrift)
open Guardrails
open Timeline (Spaced Sparse recent)

section

variable {rt : Runtime ℚ} {runner : OptimizationRunner} {now : ℚ}
  {history : List (OptimizationAction ℚ)}

/-- In every run, approved actions carry their time, identical ones are a cooldown apart, and
no window holds more of them on one run than the limit. -/
theorem guardrails_hold (reachable : Reachable rt runner now history)
    (nonneg : 0 ≤ runner.policyEvaluator.maxFlappingPerHour) :
    (∀ action ∈ history, action.metadata.get "status" = .str Status.approved.text →
      ∃ time ≤ now, approvedAt? action = some time) ∧
    (∀ triple, Spaced runner.policyEvaluator.cooldownPeriodS
      (approvedTimes (fun action => action.triple = triple) history)) ∧
    ∀ run, Sparse runner.policyEvaluator.flappingWindowS
      runner.policyEvaluator.maxFlappingPerHour
      (approvedTimes (fun action => action.targetRunId = run) history) := by
  have limits := reachable_limits reachable nonneg
  refine ⟨?_, limits.spaced, limits.sparse⟩
  intro action inside status
  rcases reachable_entries reachable action inside with ⟨time, past, approved⟩ | blocked
  · exact ⟨time, past, approved.approvedAt?⟩
  · exact absurd (blocked.status.symm.trans status) statuses_differ

def Blocked (action : OptimizationAction ℚ) : Prop :=
  action.metadata.get "status" = .str Status.blockedByGuardrail.text

instance (action : OptimizationAction ℚ) : Decidable (Blocked action) :=
  inferInstanceAs (Decidable (_ = _))

def blockedCount (run : String) (history : List (OptimizationAction ℚ)) : Nat :=
  history.countP fun action => Blocked action ∧ action.targetRunId = run

theorem ApprovedEntry.not_blocked {action : OptimizationAction ℚ} {time : ℚ}
    (approved : ApprovedEntry action time) : ¬ Blocked action :=
  fun blocked => statuses_differ (blocked.symm.trans approved.status)

/-- The flapping check counts the recent executions and, at any time, every attempt that was
held back. -/
theorem flappedCount_eq (entries : ∀ action ∈ history, Entry now action)
    (policy : PolicyEvaluator) (checked : ℚ) (run : String) :
    flappedCount checked policy run history =
      (recent checked policy.flappingWindowS
        (approvedTimes (fun action => action.targetRunId = run) history)).length +
      if 0 ≤ policy.flappingWindowS then blockedCount run history else 0 := by
  induction history with
  | nil => simp [flappedCount, blockedCount, approvedTimes, recent]
  | cons action rest ih =>
      have tail := ih fun other inside => entries other (List.mem_cons_of_mem _ inside)
      unfold approvedTimes recent flappedCount blockedCount at tail ⊢
      rw [List.countP_cons, List.countP_cons, tail]
      by_cases onRun : action.targetRunId = run
      · rw [List.filter_cons_of_pos (by simpa using onRun)]
        rcases entries action List.mem_cons_self with ⟨time, _, approved⟩ | blocked
        · rw [List.filterMap_cons_some approved.approvedAt?, approved.elapsed checked]
          by_cases near : checked - time ≤ policy.flappingWindowS
          · rw [List.filter_cons_of_pos (by simpa using near), List.length_cons]
            simp only [onRun, near, approved.not_blocked, not_lt, and_self, and_true,
              decide_true, decide_false, Bool.false_eq_true, ↓reduceIte, Nat.add_zero]
            omega
          · rw [List.filter_cons_of_neg (by simpa using near)]
            simp only [onRun, near, approved.not_blocked, not_lt, and_true, decide_false,
              Bool.false_eq_true, ↓reduceIte, Nat.add_zero]
        · have held : Blocked action := blocked.status
          rw [List.filterMap_cons_none blocked.approvedAt?, blocked.elapsed checked]
          by_cases window : 0 ≤ policy.flappingWindowS
          · simp only [onRun, held, window, not_lt, and_self, decide_true, ↓reduceIte]
            omega
          · simp only [window, not_lt, false_and, decide_false, Bool.false_eq_true, ↓reduceIte]
      · rw [List.filter_cons_of_neg (by simpa using onRun)]
        simp only [onRun, and_false, decide_false, Bool.false_eq_true, ↓reduceIte, Nat.add_zero]

/-- The cooldown check looks at the executions with the action's signature and, at any time,
at every attempt with it that was held back. -/
theorem cooled_iff (entries : ∀ action ∈ history, Entry now action) (cooldown checked : ℚ)
    (action : OptimizationAction ℚ) :
    (∀ past ∈ history, actionSignature past = actionSignature action →
      cooldown ≤ elapsed checked past) ↔
    (0 < cooldown → ∀ past ∈ history, Blocked past →
      actionSignature past ≠ actionSignature action) ∧
    ∀ past ∈ history, ∀ time, approvedAt? past = some time →
      actionSignature past = actionSignature action → cooldown ≤ checked - time := by
  constructor
  · intro cooled
    refine ⟨?_, ?_⟩
    · intro positive past inside held same
      rcases entries past inside with ⟨time, _, approved⟩ | blocked
      · exact approved.not_blocked held
      · have zero := cooled past inside same
        rw [blocked.elapsed] at zero
        exact absurd positive (not_lt.mpr zero)
    · intro past inside time executed same
      rcases entries past inside with ⟨time', _, approved⟩ | blocked
      · rw [approved.approvedAt?, Option.some.injEq] at executed
        subst executed
        rw [← approved.elapsed]
        exact cooled past inside same
      · rw [blocked.approvedAt?] at executed
        cases executed
  · rintro ⟨unblocked, rested⟩ past inside same
    rcases entries past inside with ⟨time, _, approved⟩ | blocked
    · rw [approved.elapsed]
      exact rested past inside time approved.approvedAt? same
    · rw [blocked.elapsed]
      by_contra positive
      exact unblocked (not_le.mp positive) past inside blocked.status same

/-- An action whose identical predecessors have rested, on a run with room for another, is
allowed exactly when no attempt that was held back stands in its way, and no execution of a
different action has the same signature. -/
theorem rested_action_allowed_iff (reachable : Reachable rt runner now history)
    {action : OptimizationAction ℚ} (bounds : ParamsWithinBounds runner.policyEvaluator action)
    {cooldownNow flappingNow : ℚ}
    (rested : ∀ time ∈ approvedTimes (fun past => past.triple = action.triple) history,
      runner.policyEvaluator.cooldownPeriodS ≤ cooldownNow - time)
    (calm : ((recent flappingNow runner.policyEvaluator.flappingWindowS
      (approvedTimes (fun past => past.targetRunId = action.targetRunId) history)).length : Int) <
        runner.policyEvaluator.maxFlappingPerHour) :
    (∃ decision, validateAction rt runner.policyEvaluator action history cooldownNow
        flappingNow = .ok decision ∧ decision.allowed) ↔
      (0 < runner.policyEvaluator.cooldownPeriodS → ∀ past ∈ history, Blocked past →
        actionSignature past ≠ actionSignature action) ∧
      (∀ past ∈ history, ∀ time, approvedAt? past = some time →
        actionSignature past = actionSignature action → past.triple ≠ action.triple →
          runner.policyEvaluator.cooldownPeriodS ≤ cooldownNow - time) ∧
      (0 ≤ runner.policyEvaluator.flappingWindowS →
        ((recent flappingNow runner.policyEvaluator.flappingWindowS
          (approvedTimes (fun past => past.targetRunId = action.targetRunId) history)).length +
            blockedCount action.targetRunId history : Int) <
              runner.policyEvaluator.maxFlappingPerHour) := by
  have entries := reachable_entries reachable
  rw [validateAction_allowed_iff, cooled_iff entries, flappedCount_eq entries]
  constructor
  · rintro ⟨_, ⟨unblocked, cooled⟩, few⟩
    refine ⟨unblocked, fun past inside time executed same _ =>
      cooled past inside time executed same, ?_⟩
    intro window
    rw [if_pos window] at few
    exact_mod_cast few
  · rintro ⟨unblocked, others, few⟩
    refine ⟨bounds, ⟨unblocked, ?_⟩, ?_⟩
    · intro past inside time executed same
      by_cases identical : past.triple = action.triple
      · apply rested
        exact List.mem_filterMap.mpr
          ⟨past, List.mem_filter.mpr ⟨inside, by simpa using identical⟩, executed⟩
      · exact others past inside time executed same identical
    · split
      · rename_i window
        exact_mod_cast few window
      · rw [Nat.add_zero]
        exact calm

end

def releaseRecord (runId version : String) (timestamp : ℚ) : EvaluationRecord ℚ :=
  ⟨runId, [], Dict.empty, some version, runId, timestamp⟩

def releaseStore : List (EvaluationRecord ℚ) :=
  [releaseRecord "r1" "v1" 1, releaseRecord "r2" "v2" 2]

def releaseEvent : DriftEvent :=
  ⟨"faithfulness", 2, 2, 2 / 5, ["r2"], Dict.empty, "e1"⟩

def releaseRuntime : Runtime ℚ :=
  decimalRuntime [("r2:2.0:version_change", "d2a23888-479d-5707-b4cd-049fb3aac614")]

def releaseInput : CycleInput :=
  ⟨releaseEvent, attributeDrift releaseRuntime releaseEvent releaseStore, releaseStore, none,
    none, 3⟩

def defaultRunner : OptimizationRunner := ⟨.default, .default, .default⟩

def instant (time : ℚ) : CycleClock := ⟨time, time, time, time, time⟩

theorem instant_ordered (time : ℚ) : (instant time).Ordered :=
  ⟨le_refl time, le_refl time, le_refl time, le_refl time⟩

/-- Two cycles ten seconds apart: the first is approved, the second held back. -/
def releaseHistory : List (OptimizationAction ℚ) :=
  historyAfter releaseRuntime defaultRunner releaseInput (instant 10)
    (historyAfter releaseRuntime defaultRunner releaseInput (instant 0) [])

theorem releaseHistory_reachable : Reachable releaseRuntime defaultRunner 10 releaseHistory :=
  .cycle releaseInput (instant 10)
    (.cycle releaseInput (instant 0) (.start 0) (le_refl 0) (instant_ordered 0))
    (show (0 : ℚ) ≤ 10 by norm_num) (instant_ordered 10)

theorem guardrails_hold_release :
    (∀ action ∈ releaseHistory, action.metadata.get "status" = .str Status.approved.text →
      ∃ time ≤ 10, approvedAt? action = some time) ∧
    (∀ triple, Spaced 300
      (approvedTimes (fun action => action.triple = triple) releaseHistory)) ∧
    ∀ run, Sparse 3600 5
      (approvedTimes (fun action => action.targetRunId = run) releaseHistory) :=
  guardrails_hold releaseHistory_reachable (by decide)

/-- The action both cycles select. -/
def releaseAction : OptimizationAction ℚ :=
  ⟨"rollback_config", "", "d2a23888-479d-5707-b4cd-049fb3aac614", "", Dict.empty⟩

theorem releaseAction_bounds : ParamsWithinBounds defaultRunner.policyEvaluator releaseAction :=
  ⟨Dict.empty, rfl, fun _ _ _ _ here => by cases here⟩

theorem releaseAction_rested :
    ∀ time ∈ approvedTimes (fun past => past.triple = releaseAction.triple) releaseHistory,
      defaultRunner.policyEvaluator.cooldownPeriodS ≤ 100000 - time := by
  decide +kernel

theorem releaseAction_calm :
    ((recent 100000 defaultRunner.policyEvaluator.flappingWindowS
      (approvedTimes (fun past => past.targetRunId = releaseAction.targetRunId)
        releaseHistory)).length : Int) < defaultRunner.policyEvaluator.maxFlappingPerHour := by
  decide +kernel

theorem rested_action_allowed_iff_release :
    (∃ decision, validateAction releaseRuntime defaultRunner.policyEvaluator releaseAction
        releaseHistory 100000 100000 = .ok decision ∧ decision.allowed) ↔
      (0 < defaultRunner.policyEvaluator.cooldownPeriodS → ∀ past ∈ releaseHistory,
        Blocked past → actionSignature past ≠ actionSignature releaseAction) ∧
      (∀ past ∈ releaseHistory, ∀ time, approvedAt? past = some time →
        actionSignature past = actionSignature releaseAction →
          past.triple ≠ releaseAction.triple →
            defaultRunner.policyEvaluator.cooldownPeriodS ≤ 100000 - time) ∧
      (0 ≤ defaultRunner.policyEvaluator.flappingWindowS →
        ((recent 100000 defaultRunner.policyEvaluator.flappingWindowS
          (approvedTimes (fun past => past.targetRunId = releaseAction.targetRunId)
            releaseHistory)).length + blockedCount releaseAction.targetRunId releaseHistory : Int) <
              defaultRunner.policyEvaluator.maxFlappingPerHour) :=
  rested_action_allowed_iff releaseHistory_reachable releaseAction_bounds releaseAction_rested
    releaseAction_calm

/-- A day after its only execution, and with the run quiet, the action is still refused. -/
theorem blocked_attempt_never_expires : ¬ ∀ (rt : Runtime ℚ) (runner : OptimizationRunner)
    (now : ℚ) (history : List (OptimizationAction ℚ)) (action : OptimizationAction ℚ)
    (cooldownNow flappingNow : ℚ), Reachable rt runner now history → now ≤ cooldownNow →
    cooldownNow ≤ flappingNow → ParamsWithinBounds runner.policyEvaluator action →
    (∀ time ∈ approvedTimes (fun past => past.triple = action.triple) history,
      runner.policyEvaluator.cooldownPeriodS ≤ cooldownNow - time) →
    ((recent flappingNow runner.policyEvaluator.flappingWindowS
      (approvedTimes (fun past => past.targetRunId = action.targetRunId) history)).length : Int) <
        runner.policyEvaluator.maxFlappingPerHour →
    ∃ decision, validateAction rt runner.policyEvaluator action history cooldownNow
      flappingNow = .ok decision ∧ decision.allowed := by
  intro all
  have allowed := all releaseRuntime defaultRunner 10 releaseHistory releaseAction 100000 100000
    releaseHistory_reachable (by norm_num) (le_refl _) releaseAction_bounds releaseAction_rested
    releaseAction_calm
  rw [validateAction_allowed_iff] at allowed
  have held : ¬ ∀ past ∈ releaseHistory,
      actionSignature past = actionSignature releaseAction →
        defaultRunner.policyEvaluator.cooldownPeriodS ≤ elapsed 100000 past := by
    decide +kernel
  exact held allowed.2.1

end RagDrift.Optimization
