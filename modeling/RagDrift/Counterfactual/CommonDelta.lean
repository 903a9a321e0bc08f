import RagDrift.Collections.Ranking
import RagDrift.Counterfactual.Analysis
import RagDrift.Counterfactual.Frame

set_option autoImplicit false

/- All scenarios of one run get the same estimate and the same delta: the estimator reads
nothing an intervention can change. -/
namespace RagDrift.Counterfactual

open Storage (EvaluationRecord PyErr)
open Temporal (DriftEvent)
open Causal

theorem occurrences_of_trace {left right : List (EvaluationRecord ℚ)}
    (same : trace left = trace right) (metricName : String) :
    occurrences metricName left = occurrences metricName right := by
  have read : ∀ records : List (EvaluationRecord ℚ), occurrences metricName records =
      (trace records).flatMap fun entry =>
        (entry.2.filter fun metric => metric.metricName = metricName).map fun metric =>
          (entry.1, metric.value) := by
    intro records
    rw [trace, List.flatMap_map]
    rfl
  rw [read, read, same]

theorem estimate_of_trace {left right : List (EvaluationRecord ℚ)}
    (same : trace (sortRecords left) = trace (sortRecords right)) (event : DriftEvent)
    (metricName : String) (method : Method) (alpha : ℚ) :
    estimateMetricAfterIntervention event left metricName method alpha =
      estimateMetricAfterIntervention event right metricName method alpha := by
  simp only [estimateMetricAfterIntervention, occurrences_of_trace same]

/-- The result of a scenario, once the delta is known. -/
def resultWith (event : DriftEvent) (metricName : String) (cfMetric : ℚ)
    (scenario : CounterfactualScenario ℚ) : CounterfactualResult where
  originalMetric := pyRound event.magnitude 6
  counterfactualMetric := pyRound cfMetric 6
  delta := pyRound (event.magnitude - cfMetric) 6
  confidence := pyRound (scenarioScore scenario) 4
  metadata := {
    metricName := metricName
    numInterventions := scenario.interventions.length
    scenarioDescription := scenario.description
    changeIds := scenario.interventions.map Intervention.changeId
    runId := none }

def storeEstimate (event : DriftEvent) (metricName : String)
    (store : List (EvaluationRecord ℚ)) : ℚ :=
  estimateMetricAfterIntervention event store metricName .trendAdjusted (3 / 10)

theorem scenarioResult_eq {rt : Runtime ℚ} {event : DriftEvent} {metricName : String}
    {store : List (EvaluationRecord ℚ)} {scenario : CounterfactualScenario ℚ}
    {after : List (EvaluationRecord ℚ)} (ran : applyScenario rt store scenario = .ok after) :
    scenarioResult rt event metricName store scenario =
      .ok (resultWith event metricName (storeEstimate event metricName store) scenario) := by
  have same := estimate_of_trace (applyScenario_trace ran) event metricName .trendAdjusted
    (3 / 10)
  rw [scenarioResult, ran, storeEstimate, ← same]
  rfl

theorem scenarioResult_ok {rt : Runtime ℚ} {event : DriftEvent} {metricName : String}
    {store : List (EvaluationRecord ℚ)} (scenario : CounterfactualScenario ℚ)
    (result : CounterfactualResult)
    (ran : scenarioResult rt event metricName store scenario = .ok result) :
    result = resultWith event metricName (storeEstimate event metricName store) scenario := by
  obtain ⟨after, applied, _⟩ := Exceptions.bind_ok_iff.mp ran
  rw [scenarioResult_eq applied, Except.ok.injEq] at ran
  exact ran.symm

theorem mem_of_topFactors {attribution : CausalAttribution} {topK : Int} {factor : CausalFactor}
    (top : factor ∈ topFactors attribution topK) : factor ∈ attribution.factors :=
  mem_sortByScore.mp ((sliceTo_front _ topK).subset top)

theorem built_eq_nil_iff (rt : Runtime ℚ) (attribution : CausalAttribution) (topK : Int) :
    buildCounterfactualScenarios rt attribution topK = [] ↔ topFactors attribution topK = [] := by
  rw [buildCounterfactualScenarios]
  cases topFactors attribution topK with
  | nil => exact iff_of_true rfl rfl
  | cons first rest => exact iff_of_false (List.cons_ne_nil _ _) (List.cons_ne_nil _ _)

/-- A scenario removes one top factor, or all of them. -/
theorem built_cases {rt : Runtime ℚ} {attribution : CausalAttribution} {topK : Int}
    {scenario : CounterfactualScenario ℚ}
    (built : scenario ∈ buildCounterfactualScenarios rt attribution topK) :
    (∃ factor ∈ topFactors attribution topK,
        scenario = factorScenario rt attribution.driftEventId factor) ∨
      ∃ first rest, topFactors attribution topK = first :: rest ∧
        scenario = combinedScenario rt attribution.driftEventId (first :: rest) := by
  rw [buildCounterfactualScenarios] at built
  rcases List.mem_append.mp built with single | combined
  · obtain ⟨factor, top, same⟩ := List.mem_map.mp single
    exact .inl ⟨factor, top, same.symm⟩
  · cases factors : topFactors attribution topK with
    | nil =>
        rw [factors] at combined
        cases combined
    | cons first rest =>
        rw [factors] at combined
        split at combined
        · exact .inr ⟨first, rest, rfl, List.mem_singleton.mp combined⟩
        · cases combined

theorem combinedScenario_score_le (rt : Runtime ℚ) (driftEventId : String)
    (first : CausalFactor) (rest : List CausalFactor) :
    scenarioScore (combinedScenario rt driftEventId (first :: rest)) ≤ first.score :=
  Collections.foldl_min_le _ _

theorem built_removes {rt : Runtime ℚ} {attribution : CausalAttribution} {topK : Int}
    {scenario : CounterfactualScenario ℚ}
    (built : scenario ∈ buildCounterfactualScenarios rt attribution topK) :
    ∀ intervention ∈ scenario.interventions, intervention.action = .remove := by
  intro intervention inside
  rcases built_cases built with ⟨factor, _, rfl⟩ | ⟨first, rest, _, rfl⟩
  · rw [factorScenario, List.mem_singleton] at inside
    rw [inside]
    rfl
  · obtain ⟨factor, _, rfl⟩ := List.mem_map.mp inside
    rfl

/-- All that an analysis that returns can have returned. -/
theorem analysis_results {rt : Runtime ℚ} {event : DriftEvent} {attribution : CausalAttribution}
    {store : List (EvaluationRecord ℚ)} {metricName : Option String} {topK : Int}
    {results : List CounterfactualResult}
    (ran : runCounterfactualAnalysis rt event attribution store metricName topK = .ok results) :
    results = (buildCounterfactualScenarios rt attribution topK).map
      (resultWith event (metricName.getD attribution.metricName)
        (storeEstimate event (metricName.getD attribution.metricName) store)) :=
  Exceptions.eq_map_of_mapM scenarioResult_ok ran

/-- Every top factor has a result that removes its change alone. -/
theorem factor_result {rt : Runtime ℚ} {event : DriftEvent} {attribution : CausalAttribution}
    {store : List (EvaluationRecord ℚ)} {metricName : Option String} {topK : Int}
    {results : List CounterfactualResult}
    (ran : runCounterfactualAnalysis rt event attribution store metricName topK = .ok results)
    {factor : CausalFactor} (top : factor ∈ topFactors attribution topK) :
    resultWith event (metricName.getD attribution.metricName)
      (storeEstimate event (metricName.getD attribution.metricName) store)
      (factorScenario rt attribution.driftEventId factor) ∈ results := by
  rw [analysis_results ran]
  apply List.mem_map_of_mem
  rw [buildCounterfactualScenarios]
  exact List.mem_append_left _ (List.mem_map_of_mem top)

/-- On a store whose system information is always a dictionary the analysis returns, and its
results differ from scenario to scenario only in confidence and metadata. -/
theorem runCounterfactualAnalysis_eq (rt : Runtime ℚ) (event : DriftEvent)
    (attribution : CausalAttribution) {store : List (EvaluationRecord ℚ)}
    (info : ∀ record ∈ store, InfoDict record) (metricName : Option String) (topK : Int) :
    runCounterfactualAnalysis rt event attribution store metricName topK =
      .ok ((buildCounterfactualScenarios rt attribution topK).map
        (resultWith event (metricName.getD attribution.metricName)
          (storeEstimate event (metricName.getD attribution.metricName) store))) := by
  apply Exceptions.mapM_eq_ok_map
  intro scenario built
  obtain ⟨after, ran⟩ := applyScenario_ok rt info (built_removes built)
  exact scenarioResult_eq ran

end RagDrift.Counterfactual
