import RagDrift.Collections.Ranking
import RagDrift.Counterfactual.CommonDelta
import RagDrift.Counterfactual.Target
import RagDrift.Optimization.Actions
import RagDrift.Optimization.Engine

set_option autoImplicit false

/- Which run an action is aimed at: the run of its change, when it is generated from a factor;
no run at all, when it is selected from counterfactual results. -/
namespace RagDrift.Optimization

open Storage (EvaluationRecord)
open Temporal (DriftEvent)
open Causal
open Counterfactual

/-- The action names a change of the store, and its run is that of the change. -/
def PointsAtRun (rt : Runtime ℚ) (store : List (EvaluationRecord ℚ))
    (action : OptimizationAction ℚ) : Prop :=
  (∃ change ∈ extractChangeEvents rt store, change.changeId = action.changeId) ∧
    ∀ change ∈ extractChangeEvents rt store, change.changeId = action.changeId →
      change.runId = action.targetRunId

section

variable {rt : Runtime ℚ} {store : List (EvaluationRecord ℚ)}

/-- Two changes of one id are changes of one run. -/
theorem runId_of_changeId (separates : Separates rt store) {left right : ChangeEvent ℚ}
    (inside : left ∈ extractChangeEvents rt store)
    (inside' : right ∈ extractChangeEvents rt store) (same : left.changeId = right.changeId) :
    left.runId = right.runId := by
  obtain ⟨prev, cur, consecutive, found⟩ := mem_extractChangeEvents.mp inside
  obtain ⟨prev', cur', consecutive', found'⟩ := mem_extractChangeEvents.mp inside'
  obtain ⟨changeType, named⟩ := detectChange_changeId found
  obtain ⟨changeType', named'⟩ := detectChange_changeId found'
  rw [detectChange_runId found, detectChange_runId found']
  apply separates.runId consecutive.mem_right consecutive'.mem_right
  exact named.symm.trans (same.trans named')

theorem pointsAtRun_iff (separates : Separates rt store) {change : ChangeEvent ℚ}
    (inside : change ∈ extractChangeEvents rt store) {action : OptimizationAction ℚ}
    (names : action.changeId = change.changeId) :
    PointsAtRun rt store action ↔ change.runId = action.targetRunId := by
  constructor
  · intro points
    exact points.2 change inside names.symm
  · intro run
    refine ⟨⟨change, inside, names.symm⟩, ?_⟩
    intro other inside' same
    rw [← run]
    exact runId_of_changeId separates inside' inside (same.trans names)

theorem generateActions_points (separates : Separates rt store)
    (plain : ∀ text, rt.str (.str text) = text) (event : DriftEvent) :
    ∀ action ∈ generateActions rt (attributeDrift rt event store),
      PointsAtRun rt store action := by
  intro action generated
  obtain ⟨factor, sorted, rfl⟩ := List.mem_map.mp generated
  obtain ⟨change, inside, maxDelta, maxMagnitude, scored⟩ :=
    factor_change rt (mem_sortByScore.mp sorted)
  subst scored
  have names := scoreFeature_changeId event change maxDelta maxMagnitude plain
  exact (pointsAtRun_iff separates inside names).mpr rfl

end

theorem mem_generatePlan {rt : Runtime ℚ} {engine : OptimizationEngine} {event : DriftEvent}
    {results : List CounterfactualResult} {action : OptimizationAction ℚ} :
    action ∈ generatePlan rt engine event results ↔
      ∃ result ∈ results, engine.minConfidence ≤ result.confidence ∧
        buildAction rt engine event result = action := by
  rw [generatePlan, List.mem_map]
  constructor
  · rintro ⟨result, sorted, built⟩
    have valid := (List.perm_insertionSort _ _).mem_iff.mp sorted
    rw [validResults, List.mem_filter, decide_eq_true_eq] at valid
    exact ⟨result, valid.1, valid.2, built⟩
  · rintro ⟨result, inside, confident, built⟩
    refine ⟨result, (List.perm_insertionSort _ _).mem_iff.mpr ?_, built⟩
    rw [validResults, List.mem_filter, decide_eq_true_eq]
    exact ⟨inside, confident⟩

theorem selectAction_eq_head (rt : Runtime ℚ) (engine : OptimizationEngine) (event : DriftEvent)
    (results : List CounterfactualResult) :
    selectAction rt engine event results = (generatePlan rt engine event results).head? := by
  rw [selectAction, generatePlan, List.head?_map, Collections.head?_insertionSort_desc]

section

variable {rt : Runtime ℚ} (engine : OptimizationEngine) {event : DriftEvent}
  {attribution : CausalAttribution} {store : List (EvaluationRecord ℚ)} {topK : Int}
  {results : List CounterfactualResult}

/-- A planned action is aimed at no run, and its change is that of a top factor with enough
confidence. -/
theorem planned_factor
    (ran : runCounterfactualAnalysis rt event attribution store none topK = .ok results)
    {action : OptimizationAction ℚ} (planned : action ∈ generatePlan rt engine event results) :
    action.targetRunId = "" ∧ ∃ factor ∈ topFactors attribution topK,
      engine.minConfidence ≤ pyRound factor.score 4 ∧
      action.changeId = factorChangeId rt factor := by
  obtain ⟨result, inside, confident, rfl⟩ := mem_generatePlan.mp planned
  rw [analysis_results ran] at inside
  obtain ⟨scenario, built, rfl⟩ := List.mem_map.mp inside
  refine ⟨rfl, ?_⟩
  rcases built_cases built with ⟨factor, top, rfl⟩ | ⟨first, rest, factors, rfl⟩
  · exact ⟨factor, top, confident, rfl⟩
  · have top : first ∈ topFactors attribution topK := by
      rw [factors]
      exact List.mem_cons_self
    have lower := combinedScenario_score_le rt attribution.driftEventId first rest
    exact ⟨first, top, confident.trans (pyRound_mono 4 lower), rfl⟩

/-- Every top factor with enough confidence has an action planned. -/
theorem exists_planned
    (ran : runCounterfactualAnalysis rt event attribution store none topK = .ok results)
    {factor : CausalFactor} (top : factor ∈ topFactors attribution topK)
    (confident : engine.minConfidence ≤ pyRound factor.score 4) :
    ∃ action ∈ generatePlan rt engine event results,
      action.changeId = factorChangeId rt factor := by
  refine ⟨_, mem_generatePlan.mpr ⟨_, factor_result ran top, confident, rfl⟩, ?_⟩
  rfl

end

/-- Generated actions are aimed at the run of their change. Planned and selected ones are
aimed at no run, which is right only where all the changes that may be acted on belong to the
run without a name. -/
theorem actions_point_at_run_iff (rt : Runtime ℚ) (engine : OptimizationEngine)
    (event : DriftEvent) {store : List (EvaluationRecord ℚ)} (separates : Separates rt store)
    (plain : ∀ text, rt.str (.str text) = text) {topK : Int}
    {results : List CounterfactualResult}
    (ran : runCounterfactualAnalysis rt event (attributeDrift rt event store) store none topK =
      .ok results) :
    (∀ action ∈ generateActions rt (attributeDrift rt event store),
      PointsAtRun rt store action) ∧
    ((∀ action, selectAction rt engine event results = some action ∨
          action ∈ generatePlan rt engine event results → PointsAtRun rt store action) ↔
      ∀ factor ∈ topFactors (attributeDrift rt event store) topK,
        engine.minConfidence ≤ pyRound factor.score 4 → factor.relatedRunIds = [""]) := by
  refine ⟨generateActions_points separates plain event, ?_, ?_⟩
  · intro points factor top confident
    obtain ⟨change, inside, maxDelta, maxMagnitude, scored⟩ :=
      factor_change rt (mem_of_topFactors top)
    obtain ⟨action, planned, names⟩ := exists_planned engine ran top confident
    subst scored
    have named : action.changeId = change.changeId :=
      names.trans (scoreFeature_changeId event change maxDelta maxMagnitude plain)
    have run := (pointsAtRun_iff separates inside named).mp (points action (.inr planned))
    rw [scoreFeature_runs, run, (planned_factor engine ran planned).1]
  · intro unnamed action chosen
    have planned : action ∈ generatePlan rt engine event results := by
      rcases chosen with selected | planned
      · rw [selectAction_eq_head] at selected
        exact List.mem_of_head? selected
      · exact planned
    obtain ⟨noRun, factor, top, confident, names⟩ := planned_factor engine ran planned
    obtain ⟨change, inside, maxDelta, maxMagnitude, scored⟩ :=
      factor_change rt (mem_of_topFactors top)
    have run := unnamed factor top confident
    subst scored
    rw [scoreFeature_runs, List.singleton_inj] at run
    have named : action.changeId = change.changeId :=
      names.trans (scoreFeature_changeId event change maxDelta maxMagnitude plain)
    apply (pointsAtRun_iff separates inside named).mpr
    rw [run, noRun]

def releasedRecord (runId version : String) (timestamp : ℚ) : EvaluationRecord ℚ :=
  ⟨runId, [⟨"js_divergence", 1 / 4, Dict.empty, .metricResult⟩], Dict.empty, some version, runId,
    timestamp⟩

def releasedStore : List (EvaluationRecord ℚ) :=
  [releasedRecord "r1" "v1" 1, releasedRecord "r2" "v2" 2]

def releasedEvent : DriftEvent :=
  ⟨"js_divergence", 2, 3, 1 / 4, ["r2"], Dict.empty, "e1"⟩

theorem releasedStore_separates : Separates (decimalRuntime []) releasedStore :=
  .of_injective (uuidTable []).injective (by decide)

theorem releasedStore_infoDict : ∀ record ∈ releasedStore, InfoDict record :=
  infoDict_of_none (by decide +kernel)

theorem actions_point_at_run_iff_released : ∃ results,
    runCounterfactualAnalysis (decimalRuntime []) releasedEvent
      (attributeDrift (decimalRuntime []) releasedEvent releasedStore) releasedStore none 3 =
        .ok results ∧
    (∀ action ∈ generateActions (decimalRuntime [])
        (attributeDrift (decimalRuntime []) releasedEvent releasedStore),
      PointsAtRun (decimalRuntime []) releasedStore action) ∧
    ((∀ action, selectAction (decimalRuntime []) .default releasedEvent results = some action ∨
          action ∈ generatePlan (decimalRuntime []) .default releasedEvent results →
        PointsAtRun (decimalRuntime []) releasedStore action) ↔
      ∀ factor ∈ topFactors (attributeDrift (decimalRuntime []) releasedEvent releasedStore) 3,
        OptimizationEngine.default.minConfidence ≤ pyRound factor.score 4 →
          factor.relatedRunIds = [""]) := by
  have ran := runCounterfactualAnalysis_eq (decimalRuntime []) releasedEvent
    (attributeDrift (decimalRuntime []) releasedEvent releasedStore) releasedStore_infoDict none 3
  exact ⟨_, ran, actions_point_at_run_iff (decimalRuntime []) .default releasedEvent
    releasedStore_separates (fun _ => rfl) ran⟩

/-- The plan for the second run's release is aimed at no run. -/
theorem planned_action_without_run : ¬ ∀ (rt : Runtime ℚ) (engine : OptimizationEngine)
    (event : DriftEvent) (store : List (EvaluationRecord ℚ)) (topK : Int)
    (results : List CounterfactualResult), Separates rt store →
    (∀ text, rt.str (.str text) = text) → 1 ≤ topK →
    runCounterfactualAnalysis rt event (attributeDrift rt event store) store none topK =
      .ok results →
    ∀ action, selectAction rt engine event results = some action ∨
      action ∈ generatePlan rt engine event results → PointsAtRun rt store action := by
  intro all
  have ran := runCounterfactualAnalysis_eq (decimalRuntime []) releasedEvent
    (attributeDrift (decimalRuntime []) releasedEvent releasedStore) releasedStore_infoDict none 3
  have confident : ∃ factor ∈
      topFactors (attributeDrift (decimalRuntime []) releasedEvent releasedStore) 3,
      7 / 10 ≤ pyRound factor.score 4 := by decide +kernel
  have runs : ∀ change ∈ extractChangeEvents (decimalRuntime []) releasedStore,
      change.runId = "r2" := by decide +kernel
  obtain ⟨factor, top, high⟩ := confident
  obtain ⟨action, planned, _⟩ := exists_planned .default ran top high
  obtain ⟨⟨change, inside, names⟩, points⟩ := all _ .default _ _ _ _ releasedStore_separates
    (fun _ => rfl) (by decide) ran action (.inr planned)
  have run := points change inside names
  rw [runs change inside, (planned_factor _ ran planned).1] at run
  exact absurd run (by decide)

end RagDrift.Optimization
