import RagDrift.Python.Round
import RagDrift.Json.Dict

set_option autoImplicit false

/- `evaluator.causal.fusion`: latent drift scores as failure probabilities of pipeline
components. -/
namespace RagDrift.Causal

/-- The scores of `evaluator.latent_drift.schemas.LatentDriftResult`. -/
structure LatentDriftResult where
  driftScore : ℚ
  track : String
  metricBreakdown : List (String × ℚ)

structure CausalNode where
  nodeId : String
  nodeType : String
  priorFailureProb : ℚ
  description : String
  metadata : Dict ℚ

structure CausalGraph where
  nodes : List CausalNode
  edges : List (String × String)
  metadata : Dict ℚ

structure CausalLatentFusionEngine where
  sensitivity : ℚ
  defaultNodes : Bool

def CausalLatentFusionEngine.default : CausalLatentFusionEngine := ⟨2, true⟩

def computeFailureProb (driftScore sensitivity : ℚ) : ℚ :=
  min 1 (max 0 (driftScore * sensitivity))

def defaultGraph : CausalGraph where
  nodes := [
    ⟨"vector_index", "retrieval", 0, "Vector database / index quality", Dict.empty⟩,
    ⟨"embedding_model", "retrieval", 0, "Embedding model used for retrieval", Dict.empty⟩,
    ⟨"prompt_template", "generation", 0, "Prompt template for LLM generation", Dict.empty⟩,
    ⟨"llm_router", "generation", 0, "LLM routing and model selection", Dict.empty⟩]
  edges := [("vector_index", "embedding_model"), ("embedding_model", "prompt_template"),
    ("prompt_template", "llm_router")]
  metadata := Dict.empty

/-- The breakdown when there is one, else the main score under its own track. -/
def resolveTrackScore (result : LatentDriftResult) : List (String × ℚ) :=
  if result.metricBreakdown ≠ [] then result.metricBreakdown
  else [(result.track, result.driftScore)]

/-- A probability only replaces a lower one. -/
def raisePrior (nodeType : String) (prob : ℚ) (node : CausalNode) : CausalNode :=
  if node.nodeType = nodeType ∧ prob > node.priorFailureProb then
    { node with priorFailureProb := pyRound prob 6 }
  else node

def fuseDriftIntoCausalGraph (engine : CausalLatentFusionEngine) (result : LatentDriftResult)
    (graph : Option CausalGraph) : CausalGraph :=
  let graph := graph.getD (if engine.defaultNodes then defaultGraph else ⟨[], [], Dict.empty⟩)
  let trackScores := resolveTrackScore result
  { nodes := trackScores.foldl (fun nodes score =>
      nodes.map (raisePrior score.1 (computeFailureProb score.2 engine.sensitivity))) graph.nodes
    edges := graph.edges
    metadata := graph.metadata.setAll
      [("fusion_source", .str "latent_drift"),
        ("track_scores", .ofDict (Dict.empty.setAll
          (trackScores.map fun score => (score.1, .num score.2)))),
        ("sensitivity", .num engine.sensitivity)] }

def fuseDualTrack (engine : CausalLatentFusionEngine)
    (retrievalResult generationResult : Option LatentDriftResult)
    (graph : Option CausalGraph) : CausalGraph :=
  let graph := graph.getD (if engine.defaultNodes then defaultGraph else ⟨[], [], Dict.empty⟩)
  let raised (nodeType : String) (result : Option LatentDriftResult) (nodes : List CausalNode) :=
    match result with
    | some result =>
        nodes.map (raisePrior nodeType (computeFailureProb result.driftScore engine.sensitivity))
    | none => nodes
  let score (result : Option LatentDriftResult) := (result.map (·.driftScore)).getD 0
  { nodes := raised "generation" generationResult (raised "retrieval" retrievalResult graph.nodes)
    edges := graph.edges
    metadata := graph.metadata.setAll
      [("fusion_source", .str "dual_track_drift"),
        ("retrieval_score", .num (score retrievalResult)),
        ("generation_score", .num (score generationResult)),
        ("sensitivity", .num engine.sensitivity)] }

end RagDrift.Causal
