import RagDrift.Optimization.Engine
import RagDrift.Counterfactual.CommonDelta
import RagDrift.Collections.Ranking

set_option autoImplicit false

/- Which remediation is chosen does not depend on the stored values: all scenarios of one run
are given the same delta, so the confidences alone decide. -/
namespace RagDrift.Optimization

open Storage (EvaluationRecord)
open Temporal (DriftEvent)
open Causal (CausalAttribution CausalFactor sortByScore)
open Collections (argmax_const head?_insertionSort_desc mem_le_argmax)
open Counterfactual

/-- The highest-scored factor, the first of several. -/
def topFactor (attribution : CausalAttribution) : Option CausalFactor :=
  attribution.factors.argmax CausalFactor.score

theorem topFactors_head (attribution : CausalAttribution) {topK : Int} (positive : 1 ≤ topK) :
    (topFactors attribution topK).head? = topFactor attribution := by
  have keeps : 0 < topK.toNat := by omega
  rw [topFactors, sliceTo, if_pos (by omega), List.head?_take, if_neg (by omega), sortByScore,
    head?_insertionSort_desc, topFactor]

theorem topFactors_le {attribution : CausalAttribution} {topK : Int} {top factor : CausalFactor}
    (best : topFactor attribution = some top)
    (inside : factor ∈ topFactors attribution topK) : factor.score ≤ top.score :=
  mem_le_argmax best (mem_of_topFactors inside)

theorem factorScenario_score (rt : Runtime ℚ) (driftEventId : String) (factor : CausalFactor) :
    scenarioScore (factorScenario rt driftEventId factor) = factor.score := rfl

/-- No scenario is scored above the top factor's own. -/
theorem built_score_le (rt : Runtime ℚ) {attribution : CausalAttribution} {topK : Int}
    {top : CausalFactor} (best : topFactor attribution = some top)
    {scenario : CounterfactualScenario ℚ}
    (built : scenario ∈ buildCounterfactualScenarios rt attribution topK) :
    scenarioScore scenario ≤ top.score := by
  rcases built_cases built with ⟨factor, inside, rfl⟩ | ⟨first, rest, factors, rfl⟩
  · rw [factorScenario_score]
    exact topFactors_le best inside
  · have inside : first ∈ topFactors attribution topK := by
      rw [factors]
      exact List.mem_cons_self
    exact (combinedScenario_score_le rt _ first rest).trans (topFactors_le best inside)

theorem built_head (rt : Runtime ℚ) {attribution : CausalAttribution} {topK : Int}
    (positive : 1 ≤ topK) {top : CausalFactor} (best : topFactor attribution = some top) :
    ∃ rest, buildCounterfactualScenarios rt attribution topK =
      factorScenario rt attribution.driftEventId top :: rest := by
  have head := topFactors_head attribution positive
  rw [best] at head
  cases factors : topFactors attribution topK with
  | nil =>
      rw [factors] at head
      cases head
  | cons first others =>
      rw [factors, List.head?_cons, Option.some.injEq] at head
      subst head
      rw [buildCounterfactualScenarios, factors, List.map_cons, List.cons_append]
      exact ⟨_, rfl⟩

theorem built_nil (rt : Runtime ℚ) {attribution : CausalAttribution} {topK : Int}
    (none : topFactor attribution = none) :
    buildCounterfactualScenarios rt attribution topK = [] := by
  have empty : attribution.factors = [] := List.argmax_eq_none.mp none
  rw [built_eq_nil_iff]
  have short := (sliceTo_front (sortByScore attribution.factors) topK).length_le
  rw [sortByScore, List.length_insertionSort, empty, List.length_nil] at short
  apply List.length_eq_zero_iff.mp
  rw [topFactors, sortByScore, empty]
  omega

/-- The selected action is built from the top factor's scenario, or there is none. -/
theorem selectAction_results (rt : Runtime ℚ) (engine : OptimizationEngine) (event : DriftEvent)
    {attribution : CausalAttribution} {topK : Int} (positive : 1 ≤ topK) (metricName : String)
    (cfMetric : ℚ) :
    selectAction rt engine event ((buildCounterfactualScenarios rt attribution topK).map
        (resultWith event metricName cfMetric)) =
      (topFactor attribution).bind fun top =>
        if engine.minConfidence ≤ pyRound top.score 4 then
          some (buildAction rt engine event (resultWith event metricName cfMetric
            (factorScenario rt attribution.driftEventId top)))
        else none := by
  have one : ∀ result ∈ validResults engine
      ((buildCounterfactualScenarios rt attribution topK).map
        (resultWith event metricName cfMetric)),
      result.delta = pyRound (event.magnitude - cfMetric) 6 := by
    intro result valid
    obtain ⟨scenario, _, rfl⟩ := List.mem_map.mp (List.mem_filter.mp valid).1
    rfl
  rw [selectAction, argmax_const _ _ one]
  cases best : topFactor attribution with
  | none =>
      rw [built_nil rt best]
      rfl
  | some top =>
      rw [Option.bind_some]
      by_cases confident : engine.minConfidence ≤ pyRound top.score 4
      · obtain ⟨rest, built⟩ := built_head rt positive best
        have valid : engine.minConfidence ≤ (resultWith event metricName cfMetric
            (factorScenario rt attribution.driftEventId top)).confidence := confident
        rw [if_pos confident, built, List.map_cons, validResults,
          List.filter_cons_of_pos (by simpa using valid), List.head?_cons, Option.map_some]
      · have none : validResults engine
            ((buildCounterfactualScenarios rt attribution topK).map
              (resultWith event metricName cfMetric)) = [] := by
          rw [validResults, List.filter_eq_nil_iff]
          intro result member
          obtain ⟨scenario, built, rfl⟩ := List.mem_map.mp member
          have lower : pyRound (scenarioScore scenario) 4 ≤ pyRound top.score 4 :=
            pyRound_mono 4 (built_score_le rt best built)
          rw [decide_eq_true_eq]
          exact fun valid => confident (valid.trans lower)
        rw [if_neg confident, none]
        rfl

/-- What identifies the action of a factor's scenario: no metric value is part of it. -/
theorem buildAction_triple (rt : Runtime ℚ) (engine : OptimizationEngine) (event : DriftEvent)
    (metricName : String) (cfMetric : ℚ) (driftEventId : String) (factor : CausalFactor) :
    (buildAction rt engine event (resultWith event metricName cfMetric
      (factorScenario rt driftEventId factor))).triple =
        (selectActionType engine (track event), "", factorChangeId rt factor) := rfl

theorem buildAction_changeId (rt : Runtime ℚ) (engine : OptimizationEngine) (event : DriftEvent)
    (metricName : String) (cfMetric : ℚ) (driftEventId : String) (factor : CausalFactor) :
    (buildAction rt engine event (resultWith event metricName cfMetric
      (factorScenario rt driftEventId factor))).changeId = factorChangeId rt factor := rfl

/-- Whatever two stores hold, both runs choose the same remediation, the one for the
highest-scored factor, or none because its score is too low. -/
theorem remediation_noninterference (rt : Runtime ℚ) (engine : OptimizationEngine)
    (event : DriftEvent) (attribution : CausalAttribution)
    {first second : List (EvaluationRecord ℚ)} (firstInfo : ∀ record ∈ first, InfoDict record)
    (secondInfo : ∀ record ∈ second, InfoDict record) {topK : Int} (positive : 1 ≤ topK) :
    ∃ results results',
      runCounterfactualAnalysis rt event attribution first none topK = .ok results ∧
      runCounterfactualAnalysis rt event attribution second none topK = .ok results' ∧
      (selectAction rt engine event results).map OptimizationAction.triple =
        (selectAction rt engine event results').map OptimizationAction.triple ∧
      (selectAction rt engine event results = none ↔
        ∀ top, topFactor attribution = some top →
          pyRound top.score 4 < engine.minConfidence) ∧
      ∀ action, selectAction rt engine event results = some action →
        ∃ top, topFactor attribution = some top ∧
          action.changeId = factorChangeId rt top := by
  refine ⟨_, _, runCounterfactualAnalysis_eq rt event attribution firstInfo none topK,
    runCounterfactualAnalysis_eq rt event attribution secondInfo none topK, ?_⟩
  rw [selectAction_results rt engine event positive, selectAction_results rt engine event positive]
  cases best : topFactor attribution with
  | none =>
      simp only [Option.bind_none, reduceCtorEq, false_implies, implies_true, and_self]
  | some top =>
      simp only [Option.bind_some, Option.some.injEq, forall_eq']
      by_cases confident : engine.minConfidence ≤ pyRound top.score 4
      · simp only [confident, ↓reduceIte, reduceCtorEq, false_iff, not_lt, Option.some.injEq,
          Option.map_some, buildAction_triple, true_and]
        rintro action rfl
        exact ⟨top, rfl, buildAction_changeId rt engine event _ _ _ top⟩
      · simp only [confident, ↓reduceIte, not_le.mp confident, reduceCtorEq,
          false_implies, implies_true, and_true]

def sampleEvent : DriftEvent where
  metricName := "js_divergence"
  startTimestamp := 10
  endTimestamp := 12
  magnitude := 1 / 2
  involvedRunIds := ["r1"]
  metadata := Dict.empty
  eventId := "event"

/-- The second factor scores most. -/
def sampleAttribution : CausalAttribution where
  driftEventId := "event"
  metricName := "js_divergence"
  factors :=
    [⟨"configuration_change", 4 / 5, ["r2"], Dict.empty.set "change_id" (.str "c2")⟩,
      ⟨"model_update", 9 / 10, ["r1"], Dict.empty.set "change_id" (.str "c1")⟩]
  confidence := 9 / 10
  metadata := Dict.empty

def plainRecord (runId : String) (value timestamp : ℚ) : EvaluationRecord ℚ :=
  ⟨runId, [⟨"js_divergence", value, Dict.empty, .metricResult⟩], Dict.empty, none, "a", timestamp⟩

/-- A history that knows the runs of the factors, and one with other runs, values and times. -/
def knownStore : List (EvaluationRecord ℚ) :=
  [plainRecord "r1" (1 / 4) 1, plainRecord "r2" (1 / 2) 11]

def otherStore : List (EvaluationRecord ℚ) :=
  [plainRecord "s1" 3 20, plainRecord "r1" 0 30, plainRecord "s2" (-1) 40]

theorem stores_infoDict : ∀ record ∈ knownStore ++ otherStore, InfoDict record := by
  simp only [knownStore, otherStore, List.cons_append, List.nil_append, List.forall_mem_cons]
  refine ⟨?_, ?_, ?_, ?_, ?_, nofun⟩ <;>
    · intro value found
      cases found

theorem remediation_noninterference_sample :
    ∃ results results',
      runCounterfactualAnalysis (decimalRuntime []) sampleEvent sampleAttribution knownStore none
        3 = .ok results ∧
      runCounterfactualAnalysis (decimalRuntime []) sampleEvent sampleAttribution otherStore none
        3 = .ok results' ∧
      (selectAction (decimalRuntime []) .default sampleEvent results).map
          OptimizationAction.triple =
        (selectAction (decimalRuntime []) .default sampleEvent results').map
          OptimizationAction.triple ∧
      (selectAction (decimalRuntime []) .default sampleEvent results = none ↔
        ∀ top, topFactor sampleAttribution = some top →
          pyRound top.score 4 < OptimizationEngine.default.minConfidence) ∧
      ∀ action, selectAction (decimalRuntime []) .default sampleEvent results = some action →
        ∃ top, topFactor sampleAttribution = some top ∧
          action.changeId = factorChangeId (decimalRuntime []) top :=
  remediation_noninterference (decimalRuntime []) .default sampleEvent sampleAttribution
    (fun record inside => stores_infoDict record (List.mem_append_left _ inside))
    (fun record inside => stores_infoDict record (List.mem_append_right _ inside)) (by decide)

end RagDrift.Optimization
