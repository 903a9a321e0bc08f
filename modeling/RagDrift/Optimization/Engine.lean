import RagDrift.Counterfactual.Analysis
import RagDrift.Optimization.Models
import Mathlib.Data.List.MinMax

set_option autoImplicit false

/- `evaluator.optimization.engine`: the remediation chosen from counterfactual results. -/
namespace RagDrift.Optimization

open Temporal (DriftEvent)
open Counterfactual (CounterfactualResult)

structure OptimizationEngine where
  minConfidence : ℚ
  defaultActionType : String

def OptimizationEngine.default : OptimizationEngine := ⟨7 / 10, "rollback_config"⟩

/-- `drift_event.metadata.get("track", "unified")`. -/
def track (event : DriftEvent) : PyVal ℚ :=
  (event.metadata.get? "track").getD (.str "unified")

def selectActionType (engine : OptimizationEngine) (track : PyVal ℚ) : String :=
  if track.Same (.str "retrieval") then "adjust_top_k"
  else if track.Same (.str "generation") then "adjust_temperature"
  else engine.defaultActionType

def buildDescription (rt : Runtime ℚ) (track : PyVal ℚ) (result : CounterfactualResult) :
    String :=
  let aim :=
    if track.Same (.str "retrieval") then "Adjust retrieval parameters to reduce drift "
    else if track.Same (.str "generation") then "Adjust generation parameters to reduce drift "
    else "Rollback configuration to reduce drift "
  aim ++ "(expected improvement: " ++ rt.fixed 4 result.delta ++ ")"

/-- The action both selectors make of a result. -/
def buildAction (rt : Runtime ℚ) (engine : OptimizationEngine) (event : DriftEvent)
    (result : CounterfactualResult) : OptimizationAction ℚ where
  actionType := selectActionType engine (track event)
  targetRunId := result.metadata.runId.getD ""
  changeId := result.metadata.changeIds.headD ""
  description := buildDescription rt (track event) result
  metadata := Dict.empty.setAll
    [("counterfactual_delta", .num result.delta),
      ("counterfactual_confidence", .num result.confidence), ("track", track event),
      ("source", .str "optimization_engine")]

def validResults (engine : OptimizationEngine) (results : List CounterfactualResult) :
    List CounterfactualResult :=
  results.filter fun result => engine.minConfidence ≤ result.confidence

/-- `max(valid_results, key=lambda r: r.delta)` takes the first of several maxima. -/
def selectAction (rt : Runtime ℚ) (engine : OptimizationEngine) (event : DriftEvent)
    (results : List CounterfactualResult) : Option (OptimizationAction ℚ) :=
  ((validResults engine results).argmax CounterfactualResult.delta).map
    (buildAction rt engine event)

/-- All viable actions, by expected improvement. -/
def generatePlan (rt : Runtime ℚ) (engine : OptimizationEngine) (event : DriftEvent)
    (results : List CounterfactualResult) : List (OptimizationAction ℚ) :=
  ((validResults engine results).insertionSort fun left right => right.delta ≤ left.delta).map
    (buildAction rt engine event)

end RagDrift.Optimization
