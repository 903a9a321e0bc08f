import RagDrift.Causal.Attribution
import RagDrift.Counterfactual.Simulator
import RagDrift.Counterfactual.Estimator

set_option autoImplicit false

/- `evaluator.counterfactual.scenario` and `run_counterfactual_analysis`: the scenarios of an
attribution and what each of them is estimated to change. -/
namespace RagDrift.Counterfactual

open Storage (EvaluationRecord PyErr)
open Temporal (DriftEvent)
open Causal

/-- `str(factor.metadata.get("change_id", ""))`. -/
def factorChangeId (rt : Runtime ℚ) (factor : CausalFactor) : String :=
  match factor.metadata.get? "change_id" with
  | some value => rt.str value
  | none => ""

def removeFactor (rt : Runtime ℚ) (factor : CausalFactor) (relatedRunIds : Option (List String)) :
    Intervention ℚ where
  action := .remove
  changeId := factorChangeId rt factor
  overrideMetadata := Dict.empty
  metadata := some ⟨factor.factorName, factor.score, relatedRunIds⟩

def factorScenario (rt : Runtime ℚ) (driftEventId : String) (factor : CausalFactor) :
    CounterfactualScenario ℚ where
  driftEventId := driftEventId
  interventions := [removeFactor rt factor (some factor.relatedRunIds)]
  description := "Remove change '" ++ factor.factorName ++ "' (score=" ++
    rt.fixed 4 factor.score ++ ", change_id=" ++ factorChangeId rt factor ++ ")"

def combinedScenario (rt : Runtime ℚ) (driftEventId : String) (factors : List CausalFactor) :
    CounterfactualScenario ℚ where
  driftEventId := driftEventId
  interventions := factors.map fun factor => removeFactor rt factor none
  description := "Remove all " ++ toString factors.length ++ " top-ranked changes"

def topFactors (attribution : CausalAttribution) (topK : Int) : List CausalFactor :=
  sliceTo (sortByScore attribution.factors) topK

/-- One scenario for each top factor, and one for all of them when there are several. -/
def buildCounterfactualScenarios (rt : Runtime ℚ) (attribution : CausalAttribution)
    (topK : Int) : List (CounterfactualScenario ℚ) :=
  let factors := topFactors attribution topK
  factors.map (factorScenario rt attribution.driftEventId) ++
    if factors.length > 1 then [combinedScenario rt attribution.driftEventId factors] else []

/-- The metadata keys of a result; `run_id` is read by the engine and written nowhere. -/
structure ResultMetadata where
  metricName : String
  numInterventions : Nat
  scenarioDescription : String
  changeIds : List String
  runId : Option String
  deriving DecidableEq

structure CounterfactualResult where
  originalMetric : ℚ
  counterfactualMetric : ℚ
  delta : ℚ
  confidence : ℚ
  metadata : ResultMetadata
  deriving DecidableEq

/-- `intervention.metadata.get("factor_score", 0.0)`. -/
def factorScore (intervention : Intervention ℚ) : ℚ :=
  match intervention.metadata with
  | some info => info.factorScore
  | none => 0

/-- `min(scores) if scores else 0.0`, the score itself for a single intervention. -/
def scenarioScore (scenario : CounterfactualScenario ℚ) : ℚ :=
  match scenario.interventions.map factorScore with
  | [] => 0
  | first :: rest => rest.foldl min first

def scenarioResult (rt : Runtime ℚ) (event : DriftEvent) (metricName : String)
    (store : List (EvaluationRecord ℚ)) (scenario : CounterfactualScenario ℚ) :
    Except PyErr CounterfactualResult := do
  let modifiedStore ← applyScenario rt store scenario
  let cfMetric := estimateMetricAfterIntervention event modifiedStore metricName
    .trendAdjusted (3 / 10)
  let delta := event.magnitude - cfMetric
  return {
    originalMetric := pyRound event.magnitude 6
    counterfactualMetric := pyRound cfMetric 6
    delta := pyRound delta 6
    confidence := pyRound (scenarioScore scenario) 4
    metadata := {
      metricName := metricName
      numInterventions := scenario.interventions.length
      scenarioDescription := scenario.description
      changeIds := scenario.interventions.map Intervention.changeId
      runId := none } }

/-- `metric_name` overrides the metric of the attribution. -/
def runCounterfactualAnalysis (rt : Runtime ℚ) (event : DriftEvent)
    (attribution : CausalAttribution) (store : List (EvaluationRecord ℚ))
    (metricName : Option String) (topK : Int) : Except PyErr (List CounterfactualResult) :=
  (buildCounterfactualScenarios rt attribution topK).mapM
    (scenarioResult rt event (metricName.getD attribution.metricName) store)

end RagDrift.Counterfactual
