import RagDrift.Causal.Fusion
import RagDrift.Numeric.RoundedMax

set_option autoImplicit false

/- Fusing drift results one after another: what it leaves in the priors. -/
namespace RagDrift.Causal

variable (engine : CausalLatentFusionEngine)

/-- Every result fused into what the results before it left. -/
def fuseAll (results : List LatentDriftResult) (graph : CausalGraph) : CausalGraph :=
  results.foldl (fun graph result => fuseDriftIntoCausalGraph engine result (some graph)) graph

/-- The failure probabilities that some track scores give for a type of node. -/
def probsFor (scores : List (String × ℚ)) (nodeType : String) : List ℚ :=
  (scores.filter fun score => score.1 = nodeType).map fun score =>
    computeFailureProb score.2 engine.sensitivity

/-- All track scores of some results. -/
def trackScores (results : List LatentDriftResult) : List (String × ℚ) :=
  results.flatMap resolveTrackScore

/-- The scores that `fuse_dual_track` gives to the two types. -/
def dualScores (retrievalResult generationResult : Option LatentDriftResult) :
    List (String × ℚ) :=
  (retrievalResult.map fun result => ("retrieval", result.driftScore)).toList ++
    (generationResult.map fun result => ("generation", result.driftScore)).toList

/-- The largest given probability, rounded, where it is above the first prior. -/
def settledPrior (scores : List (String × ℚ)) (nodeType : String) (prior : ℚ) : ℚ :=
  match (probsFor engine scores nodeType).max? with
  | some largest => if largest > prior then pyRound largest 6 else prior
  | none => prior

def settle (scores : List (String × ℚ)) (node : CausalNode) : CausalNode :=
  { node with priorFailureProb := settledPrior engine scores node.nodeType node.priorFailureProb }

theorem settledPrior_eq (scores : List (String × ℚ)) (nodeType : String) (prior : ℚ) :
    settledPrior engine scores nodeType prior =
      RoundedMax.settled (fun value => pyRound value 6) prior
        (probsFor engine scores nodeType) := by
  rw [settledPrior, RoundedMax.settled]
  cases (probsFor engine scores nodeType).max? with
  | none => rfl
  | some largest => rfl

variable {engine}

theorem computeFailureProb_mem_unit (score sensitivity : ℚ) :
    0 ≤ computeFailureProb score sensitivity ∧ computeFailureProb score sensitivity ≤ 1 :=
  ⟨le_min zero_le_one (le_max_left 0 _), min_le_left 1 _⟩

/-- One node under one score after another: the scores of other tracks leave it as it is. -/
theorem foldl_raisePrior (scores : List (String × ℚ)) (node : CausalNode) :
    scores.foldl (fun node score =>
        raisePrior score.1 (computeFailureProb score.2 engine.sensitivity) node) node =
      { node with
        priorFailureProb := (probsFor engine scores node.nodeType).foldl
          (RoundedMax.raise fun value => pyRound value 6) node.priorFailureProb } := by
  induction scores generalizing node with
  | nil => rfl
  | cons score rest ih =>
      rw [List.foldl_cons, ih]
      by_cases target : score.1 = node.nodeType
      · have same : (raisePrior score.1 (computeFailureProb score.2 engine.sensitivity)
            node).nodeType = node.nodeType := by
          rw [raisePrior]
          split_ifs <;> rfl
        rw [same, probsFor, probsFor, List.filter_cons_of_pos (by simpa using target),
          List.map_cons, List.foldl_cons, RoundedMax.raise]
        by_cases above : computeFailureProb score.2 engine.sensitivity > node.priorFailureProb
        · rw [raisePrior, if_pos ⟨target.symm, above⟩, if_pos above]
        · rw [raisePrior, if_neg (fun both => above both.2), if_neg above]
      · rw [raisePrior, if_neg (fun both => target both.1.symm), probsFor, probsFor,
          List.filter_cons_of_neg (by simpa using target)]

theorem foldl_map_raisePrior (scores : List (String × ℚ)) (nodes : List CausalNode) :
    scores.foldl (fun nodes score => nodes.map
        (raisePrior score.1 (computeFailureProb score.2 engine.sensitivity))) nodes =
      nodes.map fun node => scores.foldl (fun node score =>
        raisePrior score.1 (computeFailureProb score.2 engine.sensitivity) node) node := by
  induction scores generalizing nodes with
  | nil => simp
  | cons score rest ih =>
      rw [List.foldl_cons, ih, List.map_map]
      rfl

theorem foldl_map_raisePrior_eq_settle (scores : List (String × ℚ)) (nodes : List CausalNode) :
    scores.foldl (fun nodes score => nodes.map
        (raisePrior score.1 (computeFailureProb score.2 engine.sensitivity))) nodes =
      nodes.map (settle engine scores) := by
  rw [foldl_map_raisePrior]
  apply List.map_congr_left
  intro node _
  rw [foldl_raisePrior, RoundedMax.foldl_raise (fun _ _ below => pyRound_mono 6 below)
    (fun value => pyRound_pyRound value 6), settle, settledPrior_eq]

theorem fuseAll_foldl (results : List LatentDriftResult) (graph : CausalGraph) :
    (fuseAll engine results graph).nodes =
      (trackScores results).foldl (fun nodes score => nodes.map
        (raisePrior score.1 (computeFailureProb score.2 engine.sensitivity))) graph.nodes := by
  induction results generalizing graph with
  | nil => rfl
  | cons result rest ih =>
      rw [trackScores, List.flatMap_cons, List.foldl_append]
      exact ih (fuseDriftIntoCausalGraph engine result (some graph))

theorem fuseAll_nodes (results : List LatentDriftResult) (graph : CausalGraph) :
    (fuseAll engine results graph).nodes =
      graph.nodes.map (settle engine (trackScores results)) := by
  rw [fuseAll_foldl, foldl_map_raisePrior_eq_settle]

theorem settledPrior_mem_unit (scores : List (String × ℚ)) (nodeType : String) {prior : ℚ}
    (nonneg : 0 ≤ prior) (below : prior ≤ 1) :
    0 ≤ settledPrior engine scores nodeType prior ∧
      settledPrior engine scores nodeType prior ≤ 1 := by
  rw [settledPrior_eq]
  have each : ∀ value ∈ probsFor engine scores nodeType,
      0 ≤ pyRound value 6 ∧ pyRound value 6 ≤ 1 := by
    intro value given
    obtain ⟨score, _, rfl⟩ := List.mem_map.mp given
    have unit := computeFailureProb_mem_unit score.2 engine.sensitivity
    exact pyRound_mem_unit 6 unit.1 unit.2
  exact @RoundedMax.settled_of _ _ (fun value => pyRound value 6)
    (fun value => 0 ≤ value ∧ value ≤ 1) _ _ ⟨nonneg, below⟩ each

theorem settle_congr {scores others : List (String × ℚ)}
    (same : ∀ score, score ∈ scores ↔ score ∈ others) (node : CausalNode) :
    settle engine scores node = settle engine others node := by
  have probs : ∀ value, value ∈ probsFor engine scores node.nodeType ↔
      value ∈ probsFor engine others node.nodeType := by
    intro value
    simp only [probsFor, List.mem_map, List.mem_filter, same]
  rw [settle, settle, settledPrior_eq, settledPrior_eq, RoundedMax.settled_congr probs]

theorem fuseDualTrack_nodes (engine : CausalLatentFusionEngine)
    (retrieval generation : Option LatentDriftResult) (graph : CausalGraph) :
    (fuseDualTrack engine retrieval generation (some graph)).nodes =
      graph.nodes.map (settle engine (dualScores retrieval generation)) := by
  rw [← foldl_map_raisePrior_eq_settle]
  cases retrieval <;> cases generation <;> rfl

variable (engine) in
/-- What a run of fusions leaves in the nodes is a function of the scores it was given. -/
theorem fuseAll_closed_form (graph : CausalGraph)
    (bounded : ∀ node ∈ graph.nodes, 0 ≤ node.priorFailureProb ∧ node.priorFailureProb ≤ 1)
    (results : List LatentDriftResult) :
    (fuseAll engine results graph).nodes =
        graph.nodes.map (settle engine (trackScores results)) ∧
      (∀ node ∈ (fuseAll engine results graph).nodes,
        0 ≤ node.priorFailureProb ∧ node.priorFailureProb ≤ 1) ∧
      (∀ others : List LatentDriftResult, (∀ result, result ∈ others ↔ result ∈ results) →
        (fuseAll engine others graph).nodes = (fuseAll engine results graph).nodes) ∧
      ∀ retrieval generation both : LatentDriftResult,
        both.metricBreakdown =
          [("retrieval", retrieval.driftScore), ("generation", generation.driftScore)] →
        (fuseDualTrack engine (some retrieval) (some generation) (some graph)).nodes =
          (fuseDriftIntoCausalGraph engine both (some graph)).nodes := by
  refine ⟨fuseAll_nodes results graph, ?_, ?_, ?_⟩
  · intro node inside
    rw [fuseAll_nodes] at inside
    obtain ⟨first, there, rfl⟩ := List.mem_map.mp inside
    exact settledPrior_mem_unit _ _ (bounded first there).1 (bounded first there).2
  · intro others same
    rw [fuseAll_nodes, fuseAll_nodes]
    apply List.map_congr_left
    intro node _
    apply settle_congr
    intro score
    simp only [trackScores, List.mem_flatMap, same]
  · intro retrieval generation both breakdown
    have scores : resolveTrackScore both = dualScores (some retrieval) (some generation) := by
      rw [resolveTrackScore, breakdown, if_pos (List.cons_ne_nil _ _)]
      rfl
    rw [fuseDualTrack_nodes, ← scores]
    exact (foldl_map_raisePrior_eq_settle _ graph.nodes).symm

theorem fuseAll_closed_form_default :
    let graph := fuseAll .default
      [⟨1 / 3, "retrieval", []⟩, ⟨0, "unified", [("generation", 1 / 7), ("retrieval", 3)]⟩]
      defaultGraph
    graph.nodes.map (·.priorFailureProb) = [1, 1, 285714 / 1000000, 285714 / 1000000] ∧
      graph.nodes = (fuseAll .default
        [⟨0, "unified", [("generation", 1 / 7), ("retrieval", 3)]⟩, ⟨1 / 3, "retrieval", []⟩,
          ⟨1 / 3, "retrieval", []⟩] defaultGraph).nodes := by
  have closed := fuseAll_closed_form .default defaultGraph (by decide +kernel)
    [⟨1 / 3, "retrieval", []⟩, ⟨0, "unified", [("generation", 1 / 7), ("retrieval", 3)]⟩]
  refine ⟨by decide +kernel, (closed.2.2.1 _ ?_).symm⟩
  intro result
  simp only [List.mem_cons, List.not_mem_nil, or_false]
  tauto

end RagDrift.Causal
