import RagDrift.Causal.FusionOrder
import Mathlib.Data.List.Forall2

set_option autoImplicit false

/- When a fusion lowers a prior: a probability that passes the guard is stored rounded, and may
be rounded to below what it replaces. -/
namespace RagDrift.Causal

open RoundedMax (le_settled_iff)

/-- Node by node, no prior of the graph is below the one it had. -/
def NeverLowered (before after : CausalGraph) : Prop :=
  List.Forall₂ (fun old new : CausalNode => old.priorFailureProb ≤ new.priorFailureProb)
    before.nodes after.nodes

/-- For no node the largest probability given to its type is above the prior and, rounded,
below it. -/
def KeepsPriors (engine : CausalLatentFusionEngine) (scores : List (String × ℚ))
    (graph : CausalGraph) : Prop :=
  ∀ node ∈ graph.nodes, ∀ largest, (probsFor engine scores node.nodeType).max? = some largest →
    ¬ (pyRound largest 6 < node.priorFailureProb ∧ node.priorFailureProb < largest)

variable {engine : CausalLatentFusionEngine} {graph after : CausalGraph}
  {scores : List (String × ℚ)}

theorem fuseDriftIntoCausalGraph_nodes (engine : CausalLatentFusionEngine)
    (result : LatentDriftResult) (graph : CausalGraph) :
    (fuseDriftIntoCausalGraph engine result (some graph)).nodes =
      graph.nodes.map (settle engine (resolveTrackScore result)) :=
  foldl_map_raisePrior_eq_settle _ _

theorem neverLowered_iff (settled : after.nodes = graph.nodes.map (settle engine scores)) :
    NeverLowered graph after ↔ KeepsPriors engine scores graph := by
  rw [NeverLowered, settled, List.forall₂_map_right_iff, List.forall₂_same, KeepsPriors]
  apply forall₂_congr
  intro node _
  rw [settle, settledPrior_eq, le_settled_iff]

variable (engine graph) in
theorem fusion_never_lowers_iff :
    (∀ result, NeverLowered graph (fuseDriftIntoCausalGraph engine result (some graph)) ↔
      KeepsPriors engine (resolveTrackScore result) graph) ∧
    ∀ retrieval generation,
      NeverLowered graph (fuseDualTrack engine retrieval generation (some graph)) ↔
        KeepsPriors engine (dualScores retrieval generation) graph := by
  constructor
  · intro result
    exact neverLowered_iff (fuseDriftIntoCausalGraph_nodes engine result graph)
  · intro retrieval generation
    exact neverLowered_iff (fuseDualTrack_nodes engine retrieval generation graph)

def sevenDigits : CausalGraph :=
  ⟨[⟨"vector_index", "retrieval", 1234564 / 10000000, "", Dict.empty⟩], [], Dict.empty⟩

/-- The probability 0.12345645 is above the prior 0.1234564 and stored as 0.123456. -/
theorem fusion_lowers :
    ¬ ∀ (engine : CausalLatentFusionEngine) (graph : CausalGraph),
      (∀ node ∈ graph.nodes, 0 ≤ node.priorFailureProb ∧ node.priorFailureProb ≤ 1) →
      (∀ result, NeverLowered graph (fuseDriftIntoCausalGraph engine result (some graph))) ∧
      ∀ retrieval generation,
        NeverLowered graph (fuseDualTrack engine retrieval generation (some graph)) := by
  intro all
  have kept := (all .default sevenDigits (by decide +kernel)).1
    ⟨61728225 / 1000000000, "retrieval", []⟩
  rw [NeverLowered, fuseDriftIntoCausalGraph_nodes] at kept
  cases kept with
  | cons first _ => exact absurd first (by decide +kernel)

/-- The other fusion lowers the prior in the same way. -/
example : ¬ NeverLowered sevenDigits (fuseDualTrack .default
    (some ⟨61728225 / 1000000000, "retrieval", []⟩) none (some sevenDigits)) := by
  rintro ⟨⟩
  rename_i first _
  exact absurd first (by decide +kernel)

end RagDrift.Causal
