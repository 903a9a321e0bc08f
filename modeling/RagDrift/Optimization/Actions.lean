import RagDrift.Counterfactual.Analysis
import RagDrift.Optimization.Models

set_option autoImplicit false

/- `evaluator.optimization.actions`: one action for each factor of an attribution. -/
namespace RagDrift.Optimization

open Storage (EvaluationRecord)
open Temporal (DriftEvent)
open Causal
open Counterfactual (factorChangeId)

def CHANGE_TYPE_TO_ACTION : List (String × String) :=
  [("model_update", "revert_model"), ("config_change", "rollback_config"),
    ("version_change", "restore_version")]

def ACTION_DESCRIPTIONS : List (String × String) :=
  [("revert_model", "Revert model change"),
    ("rollback_config", "Rollback configuration change"),
    ("restore_version", "Restore previous version")]

def generateAction (rt : Runtime ℚ) (factor : CausalFactor) : OptimizationAction ℚ :=
  let actionType := (CHANGE_TYPE_TO_ACTION.lookup factor.factorName).getD "rollback_config"
  { actionType := actionType
    targetRunId := factor.relatedRunIds.headD ""
    changeId := factorChangeId rt factor
    description := (ACTION_DESCRIPTIONS.lookup actionType).getD "Rollback configuration change"
    metadata := Dict.empty.setAll
      [("factor_name", .str factor.factorName), ("factor_score", .num factor.score),
        ("change_type", .str factor.factorName)] }

def generateActions (rt : Runtime ℚ) (attribution : CausalAttribution) :
    List (OptimizationAction ℚ) :=
  (sortByScore attribution.factors).map (generateAction rt)

/-- Every factor is scored for a change of the store, whose id and run it carries. -/
theorem factor_change (rt : Runtime ℚ) {event : DriftEvent} {store : List (EvaluationRecord ℚ)}
    {factor : CausalFactor} (inside : factor ∈ (attributeDrift rt event store).factors) :
    ∃ change ∈ extractChangeEvents rt store, ∃ maxDelta maxMagnitude,
      factor = scoreFeature maxDelta maxMagnitude (driftFeature event change) := by
  rw [attributeDrift, scoreCausalImpact, mem_sortByScore] at inside
  obtain ⟨feature, built, rfl⟩ := List.mem_map.mp inside
  obtain ⟨change, sorted, rfl⟩ := List.mem_map.mp built
  exact ⟨change, (List.perm_insertionSort _ _).mem_iff.mp sorted, _, _, rfl⟩

section Scored

variable {rt : Runtime ℚ} (event : DriftEvent) (change : ChangeEvent ℚ)
  (maxDelta maxMagnitude : ℚ)

theorem scoreFeature_changeId (plain : ∀ text, rt.str (.str text) = text) :
    factorChangeId rt (scoreFeature maxDelta maxMagnitude (driftFeature event change)) =
      change.changeId := by
  have found : (scoreFeature maxDelta maxMagnitude (driftFeature event change)).metadata.get?
      "change_id" = some (.str change.changeId) := by
    simp [scoreFeature, driftFeature, Dict.setAll, Dict.get?_set]
  rw [factorChangeId, found]
  exact plain change.changeId

theorem scoreFeature_runs :
    (scoreFeature maxDelta maxMagnitude (driftFeature event change)).relatedRunIds =
      [change.runId] := rfl

/-- A score is rounded when it is made. -/
theorem scoreFeature_rounded :
    pyRound (scoreFeature maxDelta maxMagnitude (driftFeature event change)).score 4 =
      (scoreFeature maxDelta maxMagnitude (driftFeature event change)).score :=
  pyRound_pyRound _ 4

end Scored

end RagDrift.Optimization
