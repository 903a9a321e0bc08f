import RagDrift.Counterfactual.CommonDelta
import RagDrift.Counterfactual.RemovedChange

set_option autoImplicit false

/- Interventions on a store of different runs always return, and no sequence of them moves an
estimate. -/
namespace RagDrift.Counterfactual

open Storage (EvaluationRecord)
open Temporal (DriftEvent)
open Causal
open Exceptions (map_ok_iff)

variable {N : Type}

theorem revertChange_place {record edited : EvaluationRecord N} {details : ChangeDetails N}
    (reverted : revertChange record details = .ok edited) : SamePlace edited record := by
  rw [revertChange] at reverted
  obtain ⟨restored, _, rfl⟩ := map_ok_iff.mp reverted
  exact ⟨rfl, rfl, rfl, rfl⟩

/-- Whatever is done to a record, it keeps its place. -/
theorem editFor_place {intervention : Intervention N} {target : ChangeEvent N}
    {record edited : EvaluationRecord N}
    (ran : editFor intervention target record = .ok edited) : SamePlace edited record := by
  rw [editFor] at ran
  split at ran
  · exact revertChange_place ran
  · cases ran
    exact ⟨rfl, rfl, rfl, rfl⟩
  · cases ran
    exact ⟨rfl, rfl, rfl, rfl⟩

section Interventions

variable [LinearOrder N] [Zero N] [One N]

/-- The record a change was detected at can be edited for that change. -/
theorem editFor_detected {rt : Runtime N} {prev cur : EvaluationRecord N}
    {change : ChangeEvent N} (found : detectChange rt prev cur = some change)
    (intervention : Intervention N) :
    ∃ edited, editFor intervention change cur = .ok edited := by
  cases action : intervention.action with
  | remove =>
      refine ⟨undoBehind rt change.changeId prev cur, ?_⟩
      simp only [editFor, action]
      exact (revertChange_detected found).1
  | modify => exact ⟨applyModify cur intervention.overrideMetadata, by simp only [editFor, action]⟩
  | other name => exact ⟨cur, by simp only [editFor, action]⟩

/-- A run id finds the record its change was detected at, so the edit cannot fail. -/
theorem applyIntervention_runs (rt : Runtime N) {store : List (EvaluationRecord N)}
    (distinct : RunsDistinct store) (intervention : Intervention N) :
    ∃ after, applyIntervention rt store intervention = .ok after ∧ RunsDistinct after := by
  rw [applyIntervention]
  cases target : targetChange rt store intervention.changeId with
  | none => exact ⟨store, rfl, distinct⟩
  | some change =>
      obtain ⟨prev, cur, ⟨front, back, split⟩, found⟩ :=
        mem_extractChangeEvents.mp (List.mem_of_find?_eq_some target)
      obtain ⟨edited, ran⟩ := editFor_detected found intervention
      have apart : sortRecords store = (front ++ [prev]) ++ cur :: back := by simp [split]
      refine ⟨(front ++ [prev]) ++ edited :: back, ?_, ?_⟩
      · change editFirst change.runId _ _ = _
        rw [detectChange_runId found, apart, editFirst_split _ (sorted_before distinct split), ran]
        rfl
      · have runs := distinct.sorted
        rw [RunsDistinct, apart] at runs
        rw [RunsDistinct]
        simpa only [List.map_append, List.map_cons, (editFor_place ran).runId] using runs

theorem applyScenario_runs (rt : Runtime N) {store : List (EvaluationRecord N)}
    (distinct : RunsDistinct store) (scenario : CounterfactualScenario N) :
    ∃ after, applyScenario rt store scenario = .ok after := by
  rw [applyScenario]
  generalize scenario.interventions = interventions
  induction interventions generalizing store with
  | nil => exact ⟨store, rfl⟩
  | cons intervention rest ih =>
      obtain ⟨middle, ran, kept⟩ := applyIntervention_runs rt distinct intervention
      obtain ⟨after, reached⟩ := ih kept
      refine ⟨after, ?_⟩
      rw [List.foldlM_cons, ran]
      exact reached

end Interventions

/-- No scenario changes what is estimated from a store, by any method and for any metric. -/
theorem estimate_unmoved (rt : Runtime ℚ) {store : List (EvaluationRecord ℚ)}
    (distinct : RunsDistinct store) (scenario : CounterfactualScenario ℚ) (event : DriftEvent)
    (metricName : String) (method : Method) (alpha : ℚ) :
    ∃ after, applyScenario rt store scenario = .ok after ∧
      estimateMetricAfterIntervention event after metricName method alpha =
        estimateMetricAfterIntervention event store metricName method alpha := by
  obtain ⟨after, ran⟩ := applyScenario_runs rt distinct scenario
  refine ⟨after, ran, ?_⟩
  exact estimate_of_trace (applyScenario_trace ran) event metricName method alpha

def scoredRecord (runId version : String) (timestamp value : ℚ) : EvaluationRecord ℚ :=
  ⟨runId, [⟨"faithfulness", value, Dict.empty, .metricResult⟩], Dict.empty, some version, runId,
    timestamp⟩

def scoredStore : List (EvaluationRecord ℚ) :=
  [scoredRecord "r1" "v1" 1 (1 / 2), scoredRecord "r2" "v2" 2 (3 / 4)]

def scoredEvent : DriftEvent :=
  ⟨"faithfulness", 3, 3, 1 / 4, ["r2"], Dict.empty, "e1"⟩

/-- The change at the second run is overridden first and removed then. -/
def scoredScenario : CounterfactualScenario ℚ where
  driftEventId := "e1"
  interventions :=
    [⟨.modify, "r2:2.0:version_change", Dict.empty.set "top_k" (.num 5), none⟩,
      .remove "r2:2.0:version_change"]
  description := ""

theorem estimate_unmoved_scored :
    ∃ after, applyScenario (decimalRuntime []) scoredStore scoredScenario = .ok after ∧
      estimateMetricAfterIntervention scoredEvent after "faithfulness" .ewma (3 / 10) =
        estimateMetricAfterIntervention scoredEvent scoredStore "faithfulness" .ewma (3 / 10) :=
  estimate_unmoved (decimalRuntime []) (by unfold RunsDistinct; decide) scoredScenario
    scoredEvent "faithfulness" .ewma (3 / 10)

end RagDrift.Counterfactual
