import RagDrift.Optimization.Runner
import RagDrift.Timeline.Windows

set_option autoImplicit false

/- The execution history over whole runs of a runner: what its entries look like, and that the
cooldown and the flapping limit hold of the actions that were let through. -/
namespace RagDrift.Optimization

open Temporal (DriftEvent)
open Counterfactual (CounterfactualResult runCounterfactualAnalysis)
open Guardrails
open Timeline (Spaced Sparse recent)

/-- The clock never runs backwards within a cycle. -/
structure CycleClock.Ordered (clock : CycleClock) : Prop where
  cooldown : clock.start ≤ clock.cooldown
  flapping : clock.cooldown ≤ clock.flapping
  executed : clock.flapping ≤ clock.executed
  finish : clock.executed ≤ clock.finish

def historyAfter (rt : Runtime ℚ) (runner : OptimizationRunner) (input : CycleInput)
    (clock : CycleClock) (history : List (OptimizationAction ℚ)) :
    List (OptimizationAction ℚ) :=
  match runOptimizationCycle rt runner input clock history with
  | .ok (_, after) => after
  | .error _ => history

/-- The histories a runner can have by a time, from an empty one on. -/
inductive Reachable (rt : Runtime ℚ) (runner : OptimizationRunner) :
    ℚ → List (OptimizationAction ℚ) → Prop where
  | start (now : ℚ) : Reachable rt runner now []
  | cycle {now : ℚ} {history : List (OptimizationAction ℚ)} (input : CycleInput)
      (clock : CycleClock) : Reachable rt runner now history → now ≤ clock.start →
      clock.Ordered → Reachable rt runner clock.finish
        (historyAfter rt runner input clock history)

/-- When an approved action was executed. -/
def approvedAt? (action : OptimizationAction ℚ) : Option ℚ :=
  if action.metadata.get "status" = .str Status.approved.text then
    (action.metadata.get? "executed_at").bind PyVal.asNumber?
  else none

def approvedTimes (select : OptimizationAction ℚ → Prop) [DecidablePred select]
    (history : List (OptimizationAction ℚ)) : List ℚ :=
  (history.filter select).filterMap approvedAt?

structure ApprovedEntry (action : OptimizationAction ℚ) (time : ℚ) : Prop where
  status : action.metadata.get "status" = .str Status.approved.text
  executedAt : action.metadata.get? "executed_at" = some (.num time)

structure BlockedEntry (action : OptimizationAction ℚ) : Prop where
  status : action.metadata.get "status" = .str Status.blockedByGuardrail.text
  executedAt : action.metadata.get? "executed_at" = none

/-- What the history may hold at a time. -/
def Entry (now : ℚ) (action : OptimizationAction ℚ) : Prop :=
  (∃ time ≤ now, ApprovedEntry action time) ∨ BlockedEntry action

theorem Entry.later {now later : ℚ} {action : OptimizationAction ℚ} (entry : Entry now action)
    (order : now ≤ later) : Entry later action := by
  rcases entry with ⟨time, past, approved⟩ | blocked
  · exact Or.inl ⟨time, past.trans order, approved⟩
  · exact Or.inr blocked

theorem statuses_differ :
    (PyVal.str Status.blockedByGuardrail.text : PyVal ℚ) ≠ .str Status.approved.text := by
  intro same
  have equal : (PyVal.str Status.blockedByGuardrail.text : PyVal ℚ).Same
      (.str Status.approved.text) := by
    rw [same]
    exact PyVal.Same.refl _
  rw [PyVal.same_str_iff] at equal
  exact absurd equal (by decide)

variable {action : OptimizationAction ℚ} {time : ℚ}

theorem ApprovedEntry.approvedAt? (approved : ApprovedEntry action time) :
    approvedAt? action = some time := by
  rw [Optimization.approvedAt?, if_pos approved.status, approved.executedAt]
  rfl

theorem BlockedEntry.approvedAt? (blocked : BlockedEntry action) : approvedAt? action = none := by
  rw [Optimization.approvedAt?, blocked.status, if_neg statuses_differ]

theorem ApprovedEntry.elapsed (approved : ApprovedEntry action time) (now : ℚ) :
    elapsed now action = now - time := by
  rw [Guardrails.elapsed, approved.executedAt]
  rfl

/-- An entry without a time is executed just now, whenever it is looked at. -/
theorem BlockedEntry.elapsed (blocked : BlockedEntry action) (now : ℚ) :
    elapsed now action = 0 := by
  rw [Guardrails.elapsed, blocked.executedAt]
  change now - now = 0
  exact sub_self now

/-- The engine puts no time into the actions it selects. -/
theorem selectAction_executedAt {rt : Runtime ℚ} {engine : OptimizationEngine}
    {event : DriftEvent} {results : List CounterfactualResult}
    (selected : selectAction rt engine event results = some action) :
    action.metadata.get? "executed_at" = none := by
  obtain ⟨best, _, rfl⟩ := Option.map_eq_some_iff.mp selected
  simp [buildAction, Dict.setAll, Dict.get?_set]

theorem approvedAction_entry (action : OptimizationAction ℚ) (time : ℚ) :
    ApprovedEntry (approvedAction action time) time where
  status := by simp [approvedAction, Dict.setAll, Dict.get_set]
  executedAt := by simp [approvedAction, Dict.setAll]

theorem taggedAction_entry {decision : PolicyDecision}
    (untimed : action.metadata.get? "executed_at" = none) :
    BlockedEntry (taggedAction action decision) where
  status := by simp [taggedAction, Dict.setAll, Dict.get_set]
  executedAt := by simp [taggedAction, Dict.setAll, Dict.get?_set, untimed]

section

variable {rt : Runtime ℚ} {runner : OptimizationRunner} {input : CycleInput} {clock : CycleClock}
  {history : List (OptimizationAction ℚ)}

/-- A cycle leaves the history alone, or appends the selected action the way it was judged. -/
theorem historyAfter_cases (rt : Runtime ℚ) (runner : OptimizationRunner) (input : CycleInput)
    (clock : CycleClock) (history : List (OptimizationAction ℚ)) :
    historyAfter rt runner input clock history = history ∨
    ∃ action decision, action.metadata.get? "executed_at" = none ∧
      validateAction rt runner.policyEvaluator action history clock.cooldown clock.flapping =
        .ok decision ∧
      (decision.allowed = false ∧ historyAfter rt runner input clock history =
          history ++ [taggedAction action decision] ∨
        decision.allowed = true ∧ historyAfter rt runner input clock history =
          history ++ [approvedAction action clock.executed]) := by
  unfold historyAfter runOptimizationCycle
  cases runCounterfactualAnalysis rt input.driftEvent input.attribution input.store none
      input.topK with
  | error reason => exact Or.inl rfl
  | ok results =>
      by_cases empty : results = []
      · left
        simp only [empty, ↓reduceIte, bind, Except.bind, pure, Except.pure]
      · cases selected : selectAction rt runner.engine input.driftEvent results with
        | none =>
            left
            simp only [empty, selected, ↓reduceIte, bind, Except.bind, pure, Except.pure]
        | some action =>
            cases judged : validateAction rt runner.policyEvaluator action history
                clock.cooldown clock.flapping with
            | error reason =>
                left
                simp only [empty, selected, judged, ↓reduceIte, bind, Except.bind]
            | ok decision =>
                right
                refine ⟨action, decision, selectAction_executedAt selected, judged, ?_⟩
                cases allowed : decision.allowed with
                | false =>
                    left
                    simp only [empty, selected, judged, allowed, ↓reduceIte, bind, Except.bind,
                      pure, Except.pure, Bool.false_eq_true, not_false_eq_true, and_self]
                | true =>
                    right
                    simp only [empty, selected, judged, allowed, ↓reduceIte, bind, Except.bind,
                      pure, Except.pure, not_true_eq_false, and_self]

theorem historyAfter_entries (ordered : clock.Ordered) {now : ℚ} (begins : now ≤ clock.start)
    (entries : ∀ action ∈ history, Entry now action) :
    ∀ action ∈ historyAfter rt runner input clock history, Entry clock.finish action := by
  have toFinish : now ≤ clock.finish :=
    begins.trans (ordered.cooldown.trans (ordered.flapping.trans
      (ordered.executed.trans ordered.finish)))
  have old : ∀ action ∈ history, Entry clock.finish action :=
    fun action inside => (entries action inside).later toFinish
  rcases historyAfter_cases rt runner input clock history with
    same | ⟨action, decision, untimed, _, ⟨_, after⟩ | ⟨_, after⟩⟩
  · rw [same]
    exact old
  · rw [after, List.forall_mem_append, List.forall_mem_singleton]
    exact ⟨old, Or.inr (taggedAction_entry untimed)⟩
  · rw [after, List.forall_mem_append, List.forall_mem_singleton]
    exact ⟨old, Or.inl
      ⟨clock.executed, ordered.finish, approvedAction_entry action clock.executed⟩⟩

theorem reachable_entries {now : ℚ} (reachable : Reachable rt runner now history) :
    ∀ action ∈ history, Entry now action := by
  induction reachable with
  | start now => exact fun _ inside => absurd inside List.not_mem_nil
  | cycle input clock _ begins ordered ih => exact historyAfter_entries ordered begins ih

theorem mem_approvedTimes {select : OptimizationAction ℚ → Prop} [DecidablePred select]
    {now : ℚ} (entries : ∀ action ∈ history, Entry now action)
    (inside : time ∈ approvedTimes select history) :
    ∃ action ∈ history, select action ∧ ApprovedEntry action time := by
  obtain ⟨action, member, at_time⟩ := List.mem_filterMap.mp inside
  obtain ⟨here, selected⟩ := List.mem_filter.mp member
  refine ⟨action, here, of_decide_eq_true selected, ?_⟩
  rcases entries action here with ⟨executed, _, approved⟩ | blocked
  · rw [approved.approvedAt?, Option.some.injEq] at at_time
    exact at_time ▸ approved
  · rw [blocked.approvedAt?] at at_time
    cases at_time

theorem approvedTimes_tagged {select : OptimizationAction ℚ → Prop} [DecidablePred select]
    (untimed : action.metadata.get? "executed_at" = none) (decision : PolicyDecision) :
    approvedTimes select (history ++ [taggedAction action decision]) =
      approvedTimes select history := by
  have entry : BlockedEntry (taggedAction action decision) := taggedAction_entry untimed
  have none := entry.approvedAt?
  rw [approvedTimes, List.filter_append, List.filterMap_append, approvedTimes]
  by_cases selected : select (taggedAction action decision)
  · rw [List.filter_cons_of_pos (by simpa using selected), List.filter_nil,
      List.filterMap_cons_none none, List.filterMap_nil, List.append_nil]
  · rw [List.filter_cons_of_neg (by simpa using selected), List.filter_nil, List.filterMap_nil,
      List.append_nil]

theorem approvedTimes_approved {select : OptimizationAction ℚ → Prop} [DecidablePred select] :
    approvedTimes select (history ++ [approvedAction action time]) =
      approvedTimes select history ++
        if select (approvedAction action time) then [time] else [] := by
  have executed := (approvedAction_entry action time).approvedAt?
  rw [approvedTimes, List.filter_append, List.filterMap_append, approvedTimes]
  by_cases selected : select (approvedAction action time)
  · rw [List.filter_cons_of_pos (by simpa using selected), List.filter_nil,
      List.filterMap_cons_some executed, List.filterMap_nil, if_pos selected]
  · rw [List.filter_cons_of_neg (by simpa using selected), List.filter_nil, List.filterMap_nil,
      if_neg selected]

/-- Among the entries the flapping check counts on a run are all recent executions there. -/
theorem recent_le_flappedCount {now : ℚ} (entries : ∀ action ∈ history, Entry now action)
    (policy : PolicyEvaluator) (checked : ℚ) (run : String) :
    (recent checked policy.flappingWindowS
        (approvedTimes (fun action => action.targetRunId = run) history)).length ≤
      flappedCount checked policy run history := by
  induction history with
  | nil => exact le_refl 0
  | cons action rest ih =>
      have tail := ih fun other inside => entries other (List.mem_cons_of_mem _ inside)
      have head := entries action List.mem_cons_self
      unfold approvedTimes recent flappedCount at tail ⊢
      by_cases onRun : action.targetRunId = run
      · rw [List.filter_cons_of_pos (by simpa using onRun)]
        rcases head with ⟨time, _, approved⟩ | blocked
        · rw [List.filterMap_cons_some approved.approvedAt?, List.countP_cons,
            approved.elapsed checked]
          by_cases near : checked - time ≤ policy.flappingWindowS
          · rw [List.filter_cons_of_pos (by simpa using near), List.length_cons,
              if_pos (by simpa [onRun] using near)]
            omega
          · rw [List.filter_cons_of_neg (by simpa using near)]
            omega
        · rw [List.filterMap_cons_none blocked.approvedAt?, List.countP_cons]
          omega
      · rw [List.filter_cons_of_neg (by simpa using onRun), List.countP_cons]
        omega

/-- What the guardrails are to achieve, of a history. -/
structure WithinLimits (policy : PolicyEvaluator) (history : List (OptimizationAction ℚ)) :
    Prop where
  spaced : ∀ triple, Spaced policy.cooldownPeriodS
    (approvedTimes (fun action => action.triple = triple) history)
  sparse : ∀ run, Sparse policy.flappingWindowS policy.maxFlappingPerHour
    (approvedTimes (fun action => action.targetRunId = run) history)

theorem signature_of_triple {left right : OptimizationAction ℚ}
    (same : left.triple = right.triple) :
    actionSignature left = actionSignature right := by
  simp only [OptimizationAction.triple, Prod.mk.injEq] at same
  rw [actionSignature, actionSignature, same.1, same.2.1, same.2.2]

/-- An action that passes the checks may be appended with any time from then on. -/
theorem WithinLimits.approve {now : ℚ} {policy : PolicyEvaluator} {decision : PolicyDecision}
    (limits : WithinLimits policy history) (entries : ∀ action ∈ history, Entry now action)
    {cooldownNow flappingNow : ℚ} (order : cooldownNow ≤ flappingNow) (later : flappingNow ≤ time)
    (judged : validateAction rt policy action history cooldownNow flappingNow = .ok decision)
    (allowed : decision.allowed = true) :
    WithinLimits policy (history ++ [approvedAction action time]) := by
  obtain ⟨_, rested, calm⟩ := validateAction_allowed_iff.mp ⟨decision, judged, allowed⟩
  constructor
  · intro triple
    rw [approvedTimes_approved]
    split
    · rename_i same
      apply (limits.spaced triple).snoc
      intro past inside
      obtain ⟨earlier, member, matched, approved⟩ := mem_approvedTimes entries inside
      have cooled := rested earlier member (signature_of_triple (matched.trans same.symm))
      rw [approved.elapsed] at cooled
      exact cooled.trans (sub_le_sub_right (order.trans later) past)
    · rw [List.append_nil]
      exact limits.spaced triple
  · intro run
    rw [approvedTimes_approved]
    split
    · rename_i same
      apply (limits.sparse run).snoc later
      have count := recent_le_flappedCount entries policy flappingNow run
      have target : action.targetRunId = run := same
      rw [target] at calm
      omega
    · rw [List.append_nil]
      exact limits.sparse run

theorem historyAfter_limits (ordered : clock.Ordered) {now : ℚ}
    (entries : ∀ action ∈ history, Entry now action)
    (limits : WithinLimits runner.policyEvaluator history) :
    WithinLimits runner.policyEvaluator (historyAfter rt runner input clock history) := by
  rcases historyAfter_cases rt runner input clock history with
    same | ⟨action, decision, untimed, judged, ⟨_, after⟩ | ⟨allowed, after⟩⟩
  · rw [same]
    exact limits
  · rw [after]
    constructor
    · intro triple
      rw [approvedTimes_tagged untimed]
      exact limits.spaced triple
    · intro run
      rw [approvedTimes_tagged untimed]
      exact limits.sparse run
  · rw [after]
    exact limits.approve entries ordered.flapping ordered.executed judged allowed

theorem reachable_limits {now : ℚ} (reachable : Reachable rt runner now history)
    (nonneg : 0 ≤ runner.policyEvaluator.maxFlappingPerHour) :
    WithinLimits runner.policyEvaluator history := by
  induction reachable with
  | start now => exact ⟨fun _ => Timeline.spaced_nil, fun _ => Timeline.sparse_nil nonneg⟩
  | cycle input clock before _ ordered ih =>
      exact historyAfter_limits ordered (reachable_entries before) ih

end

end RagDrift.Optimization
