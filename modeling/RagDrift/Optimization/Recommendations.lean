import RagDrift.Collections.Ranking
import RagDrift.Counterfactual.CommonDelta
import RagDrift.Optimization.Actions
import Mathlib.Data.Prod.Lex

set_option autoImplicit false

/- `evaluator.optimization.scorer`: the actions of an attribution, ranked by what the
counterfactual results promise of them. -/
namespace RagDrift.Optimization

open Storage (EvaluationRecord)
open Temporal (DriftEvent)
open Causal
open Counterfactual
open Collections (foldl_min_le foldl_min_mem sortedDown)

/-- `cfMetadata` is `none` where the source puts an empty dictionary. -/
structure OptimizationRecommendation where
  action : OptimizationAction ℚ
  expectedImprovement : ℚ
  confidence : ℚ
  priority : Nat
  source : String
  cfMetadata : Option ResultMetadata

/-- The results by change id; the newest entry of an id comes first and is in force. -/
abbrev Table := List (String × CounterfactualResult)

def enter (table : Table) (cf : CounterfactualResult) : Table :=
  cf.metadata.changeIds.foldl (fun table cid => (cid, cf) :: table) table

def cfByChange (counterfactuals : List CounterfactualResult) : Table :=
  counterfactuals.foldl enter []

def scoreAction (table : Table) (action : OptimizationAction ℚ) (priority : Nat) :
    OptimizationRecommendation :=
  let cfMatch := table.lookup action.changeId
  { action := action
    expectedImprovement := pyRound ((cfMatch.map (·.delta)).getD 0) 6
    confidence := pyRound ((cfMatch.map (·.confidence)).getD 0) 4
    priority := priority
    source := "counterfactual_simulation"
    cfMetadata := cfMatch.map (·.metadata) }

/-- What recommendations are sorted by: improvement first, then confidence. -/
def rankKey (rec : OptimizationRecommendation) : ℚ ×ₗ ℚ :=
  toLex (rec.expectedImprovement, rec.confidence)

/-- The priorities of the first loop are replaced after the sort. -/
def scoreActions (actions : List (OptimizationAction ℚ))
    (counterfactuals : List CounterfactualResult) : List OptimizationRecommendation :=
  let table := cfByChange counterfactuals
  let recommendations := (actions.zipIdx 1).map fun entry => scoreAction table entry.1 entry.2
  ((sortedDown rankKey recommendations).zipIdx 1).map fun entry =>
    { entry.1 with priority := entry.2 }

/-- Sorted by improvement, then confidence, and numbered from one. -/
def Ranked (recommendations : List OptimizationRecommendation) : Prop :=
  (recommendations.map rankKey).Pairwise (fun left right => right ≤ left) ∧
    recommendations.map OptimizationRecommendation.priority =
      List.range' 1 recommendations.length

section Ranking

variable (actions : List (OptimizationAction ℚ)) (counterfactuals : List CounterfactualResult)

theorem scoreActions_ranked : Ranked (scoreActions actions counterfactuals) := by
  rw [scoreActions]
  constructor
  · rw [List.map_map]
    have keys : rankKey ∘ (fun entry : OptimizationRecommendation × Nat =>
        { entry.1 with priority := entry.2 }) = rankKey ∘ Prod.fst := rfl
    rw [keys, ← List.map_map, List.zipIdx_map_fst, List.pairwise_map]
    exact Collections.pairwise_sortedDown rankKey _
  · rw [List.map_map, List.length_map, List.length_zipIdx]
    exact List.zipIdx_map_snd 1 _

variable {actions counterfactuals}

/-- Each recommendation scores one of the actions. -/
theorem mem_scoreActions {rec : OptimizationRecommendation}
    (inside : rec ∈ scoreActions actions counterfactuals) :
    rec.action ∈ actions ∧
      rec.expectedImprovement =
        (scoreAction (cfByChange counterfactuals) rec.action rec.priority).expectedImprovement ∧
      rec.confidence =
        (scoreAction (cfByChange counterfactuals) rec.action rec.priority).confidence := by
  obtain ⟨⟨scored, place⟩, entry, rfl⟩ := List.mem_map.mp inside
  have sorted := List.fst_mem_of_mem_zipIdx entry
  obtain ⟨⟨action, priority⟩, start, rfl⟩ :=
    List.mem_map.mp ((Collections.sortedDown_perm _ _).mem_iff.mp sorted)
  exact ⟨List.fst_mem_of_mem_zipIdx start, rfl, rfl⟩

/-- Every action is recommended. -/
theorem exists_recommendation (counterfactuals : List CounterfactualResult)
    {action : OptimizationAction ℚ} (inside : action ∈ actions) :
    ∃ rec ∈ scoreActions actions counterfactuals, rec.action = action := by
  have all : (scoreActions actions counterfactuals).map (·.action) =
      (sortedDown rankKey ((actions.zipIdx 1).map fun entry =>
        scoreAction (cfByChange counterfactuals) entry.1 entry.2)).map (·.action) := by
    have kept : (fun rec : OptimizationRecommendation => rec.action) ∘
        (fun entry : OptimizationRecommendation × Nat =>
          { entry.1 with priority := entry.2 }) = (·.action) ∘ Prod.fst := rfl
    rw [scoreActions, List.map_map, kept, ← List.map_map, List.zipIdx_map_fst]
  have scored : (((actions.zipIdx 1).map fun entry =>
      scoreAction (cfByChange counterfactuals) entry.1 entry.2).map (·.action)) = actions := by
    rw [List.map_map]
    exact List.zipIdx_map_fst 1 actions
  have member : action ∈ (scoreActions actions counterfactuals).map (·.action) := by
    rw [all, ((Collections.sortedDown_perm rankKey _).map _).mem_iff, scored]
    exact inside
  obtain ⟨rec, given, same⟩ := List.mem_map.mp member
  exact ⟨rec, given, same⟩

end Ranking

theorem lookup_enter (table : Table) (cf : CounterfactualResult) (changeId : String) :
    (enter table cf).lookup changeId =
      if changeId ∈ cf.metadata.changeIds then some cf else table.lookup changeId := by
  rw [enter]
  induction cf.metadata.changeIds using List.reverseRecOn with
  | nil => rfl
  | append_singleton front last ih =>
      rw [List.foldl_append, List.foldl_cons, List.foldl_nil, List.lookup_cons, ih]
      by_cases here : changeId = last
      · simp [here]
      · simp [here, beq_eq_false_iff_ne.mpr here]

/-- A result that comes last overwrites all earlier ones that share a change with it. -/
theorem lookup_last {front : List CounterfactualResult} {last : CounterfactualResult}
    {changeId : String} (named : changeId ∈ last.metadata.changeIds) :
    (cfByChange (front ++ [last])).lookup changeId = some last := by
  rw [cfByChange, List.foldl_append, List.foldl_cons, List.foldl_nil, lookup_enter, if_pos named]

/-- The confidence of removing all the factors. -/
def lowestScore : List CausalFactor → ℚ
  | [] => 0
  | first :: rest => (rest.map CausalFactor.score).foldl min first.score

theorem lowestScore_mem {factors : List CausalFactor} (some : factors ≠ []) :
    ∃ factor ∈ factors, factor.score = lowestScore factors := by
  cases factors with
  | nil => exact absurd rfl some
  | cons first rest =>
      have inside := foldl_min_mem (rest.map CausalFactor.score) first.score
      rw [← List.map_cons] at inside
      exact List.mem_map.mp inside

/-- The scenario built last removes every top factor. -/
theorem built_last (rt : Runtime ℚ) {attribution : CausalAttribution} {topK : Int}
    (some : topFactors attribution topK ≠ []) :
    ∃ front last, buildCounterfactualScenarios rt attribution topK = front ++ [last] ∧
      last.interventions.map Intervention.changeId =
        (topFactors attribution topK).map (factorChangeId rt) ∧
      scenarioScore last = lowestScore (topFactors attribution topK) := by
  rw [buildCounterfactualScenarios]
  cases factors : topFactors attribution topK with
  | nil => exact absurd factors some
  | cons first rest =>
      cases rest with
      | nil => exact ⟨[], factorScenario rt attribution.driftEventId first, rfl, rfl, rfl⟩
      | cons second others =>
          refine ⟨_, combinedScenario rt attribution.driftEventId (first :: second :: others),
            congrArg (_ ++ ·) (if_pos (by simp)), ?_, ?_⟩
          · rw [combinedScenario, List.map_map]
            rfl
          · simp only [scenarioScore, combinedScenario, List.map_cons, List.map_map]
            rfl

section Evidence

variable {rt : Runtime ℚ} {event : DriftEvent} {attribution : CausalAttribution}
  {store : List (EvaluationRecord ℚ)} {topK : Int} {results : List CounterfactualResult}

/-- Whatever top factor a recommendation is about, it is told the result of removing all. -/
theorem evidence_of_top
    (ran : runCounterfactualAnalysis rt event attribution store none topK = .ok results)
    {actions : List (OptimizationAction ℚ)} {rec : OptimizationRecommendation}
    (inside : rec ∈ scoreActions actions results) {factor : CausalFactor}
    (top : factor ∈ topFactors attribution topK)
    (names : rec.action.changeId = factorChangeId rt factor) :
    rec.expectedImprovement =
        pyRound (event.magnitude - storeEstimate event attribution.metricName store) 6 ∧
      rec.confidence = pyRound (lowestScore (topFactors attribution topK)) 4 := by
  obtain ⟨front, last, built, ids, score⟩ := built_last rt (List.ne_nil_of_mem top)
  obtain ⟨_, improvement, confidence⟩ := mem_scoreActions inside
  have named : rec.action.changeId ∈ last.interventions.map Intervention.changeId := by
    rw [ids, names]
    exact List.mem_map_of_mem top
  have found : (cfByChange results).lookup rec.action.changeId =
      some (resultWith event attribution.metricName
        (storeEstimate event attribution.metricName store) last) := by
    rw [analysis_results ran, built, List.map_append]
    exact lookup_last named
  rw [scoreAction, found] at improvement confidence
  constructor
  · rw [improvement]
    exact pyRound_pyRound _ 6
  · rw [confidence, ← score]
    exact pyRound_pyRound _ 4

end Evidence

/-- A recommendation about a top factor carries the result that removes its change alone, with
the confidence its score gives. -/
def OwnEvidence (rt : Runtime ℚ) (attribution : CausalAttribution) (topK : Int)
    (results : List CounterfactualResult)
    (recommendations : List OptimizationRecommendation) : Prop :=
  ∀ rec ∈ recommendations, ∀ factor ∈ topFactors attribution topK,
    rec.action.changeId = factorChangeId rt factor →
      ∃ result ∈ results, result.metadata.changeIds = [factorChangeId rt factor] ∧
        rec.expectedImprovement = result.delta ∧ rec.confidence = result.confidence ∧
        result.confidence = pyRound factor.score 4

theorem topFactors_rounded (rt : Runtime ℚ) {event : DriftEvent}
    {store : List (EvaluationRecord ℚ)} {topK : Int} {factor : CausalFactor}
    (top : factor ∈ topFactors (attributeDrift rt event store) topK) :
    pyRound factor.score 4 = factor.score := by
  obtain ⟨change, _, maxDelta, maxMagnitude, rfl⟩ := factor_change rt (mem_of_topFactors top)
  exact scoreFeature_rounded event change maxDelta maxMagnitude

/-- The ranking is always in order; each recommendation has its own evidence only where the
result of removing all the top factors says the same, which is where their scores are equal. -/
theorem recommendations_own_evidence_iff (rt : Runtime ℚ) (event : DriftEvent)
    (store : List (EvaluationRecord ℚ)) {topK : Int} {results : List CounterfactualResult}
    (ran : runCounterfactualAnalysis rt event (attributeDrift rt event store) store none topK =
      .ok results) :
    (OwnEvidence rt (attributeDrift rt event store) topK results
        (scoreActions (generateActions rt (attributeDrift rt event store)) results) ∧
      Ranked (scoreActions (generateActions rt (attributeDrift rt event store)) results)) ↔
      ∀ first ∈ topFactors (attributeDrift rt event store) topK,
        ∀ second ∈ topFactors (attributeDrift rt event store) topK,
          first.score = second.score := by
  have lowest : ∀ factor ∈ topFactors (attributeDrift rt event store) topK,
      ∃ low ∈ topFactors (attributeDrift rt event store) topK,
        low.score = lowestScore (topFactors (attributeDrift rt event store) topK) :=
    fun factor top => lowestScore_mem (List.ne_nil_of_mem top)
  constructor
  · rintro ⟨own, _⟩
    have all : ∀ factor ∈ topFactors (attributeDrift rt event store) topK,
        factor.score = lowestScore (topFactors (attributeDrift rt event store) topK) := by
      intro factor top
      obtain ⟨low, isTop, least⟩ := lowest factor top
      have generated : generateAction rt factor ∈
          generateActions rt (attributeDrift rt event store) :=
        List.mem_map_of_mem (mem_sortByScore.mpr (mem_of_topFactors top))
      obtain ⟨rec, given, same⟩ := exists_recommendation results generated
      have names : rec.action.changeId = factorChangeId rt factor := by rw [same]; rfl
      obtain ⟨result, _, _, _, agrees, scored⟩ := own rec given factor top names
      have told := (evidence_of_top ran given top names).2
      rw [agrees, scored, topFactors_rounded rt top, ← least, topFactors_rounded rt isTop] at told
      rw [told, least]
    intro first top second top'
    rw [all first top, all second top']
  · intro equal
    refine ⟨?_, scoreActions_ranked _ _⟩
    intro rec given factor top names
    obtain ⟨low, isTop, least⟩ := lowest factor top
    obtain ⟨improvement, confidence⟩ := evidence_of_top ran given top names
    refine ⟨_, factor_result ran top, rfl, improvement, ?_, rfl⟩
    rw [confidence, ← least, equal low isTop factor top]
    rfl

def configuredRecord (runId version prompt : String) (timestamp : ℚ) : EvaluationRecord ℚ :=
  ⟨runId, [⟨"js_divergence", 1 / 4, Dict.empty, .metricResult⟩],
    Dict.empty.set "prompt" (.str prompt), some version, runId, timestamp⟩

def configuredStore : List (EvaluationRecord ℚ) :=
  [configuredRecord "r1" "v1" "short" 1, configuredRecord "r2" "v2" "short" 2,
    configuredRecord "r3" "v2" "long" 3]

def configuredEvent : DriftEvent :=
  ⟨"js_divergence", 2, 3, 1 / 4, ["r2", "r3"], Dict.empty, "e1"⟩

theorem configuredStore_infoDict : ∀ record ∈ configuredStore, InfoDict record :=
  infoDict_of_none (by decide +kernel)

theorem recommendations_own_evidence_iff_configured : ∃ results,
    runCounterfactualAnalysis (decimalRuntime []) configuredEvent
      (attributeDrift (decimalRuntime []) configuredEvent configuredStore) configuredStore none 1 =
        .ok results ∧
    ((OwnEvidence (decimalRuntime [])
          (attributeDrift (decimalRuntime []) configuredEvent configuredStore) 1 results
          (scoreActions (generateActions (decimalRuntime [])
            (attributeDrift (decimalRuntime []) configuredEvent configuredStore)) results) ∧
        Ranked (scoreActions (generateActions (decimalRuntime [])
          (attributeDrift (decimalRuntime []) configuredEvent configuredStore)) results)) ↔
      ∀ first ∈ topFactors
          (attributeDrift (decimalRuntime []) configuredEvent configuredStore) 1,
        ∀ second ∈ topFactors
            (attributeDrift (decimalRuntime []) configuredEvent configuredStore) 1,
          first.score = second.score) := by
  have ran := runCounterfactualAnalysis_eq (decimalRuntime []) configuredEvent
    (attributeDrift (decimalRuntime []) configuredEvent configuredStore)
    configuredStore_infoDict none 1
  exact ⟨_, ran, recommendations_own_evidence_iff (decimalRuntime []) configuredEvent
    configuredStore ran⟩

/-- With two changes the release is recommended with the confidence of the other one. -/
theorem evidence_overwritten : ¬ ∀ (rt : Runtime ℚ) (event : DriftEvent)
    (store : List (EvaluationRecord ℚ)) (topK : Int) (results : List CounterfactualResult),
    ((attributeDrift rt event store).factors.map (factorChangeId rt)).Nodup → 1 ≤ topK →
    runCounterfactualAnalysis rt event (attributeDrift rt event store) store none topK =
      .ok results →
    OwnEvidence rt (attributeDrift rt event store) topK results
      (scoreActions (generateActions rt (attributeDrift rt event store)) results) := by
  intro all
  have ran := runCounterfactualAnalysis_eq (decimalRuntime []) configuredEvent
    (attributeDrift (decimalRuntime []) configuredEvent configuredStore)
    configuredStore_infoDict none 3
  have own := all _ _ _ _ _ (by decide +kernel) (by decide) ran
  have higher : ∃ factor ∈ topFactors
      (attributeDrift (decimalRuntime []) configuredEvent configuredStore) 3,
      pyRound factor.score 4 ≠ pyRound (lowestScore (topFactors
        (attributeDrift (decimalRuntime []) configuredEvent configuredStore) 3)) 4 := by
    decide +kernel
  obtain ⟨factor, top, apart⟩ := higher
  have generated : generateAction (decimalRuntime []) factor ∈ generateActions
      (decimalRuntime []) (attributeDrift (decimalRuntime []) configuredEvent configuredStore) :=
    List.mem_map_of_mem (mem_sortByScore.mpr (mem_of_topFactors top))
  obtain ⟨rec, given, same⟩ := exists_recommendation _ generated
  have names : rec.action.changeId = factorChangeId (decimalRuntime []) factor := by
    rw [same]
    rfl
  obtain ⟨result, _, _, _, agrees, scored⟩ := own rec given factor top names
  have told := (evidence_of_top ran given top names).2
  rw [agrees, scored] at told
  exact apart told

end RagDrift.Optimization
