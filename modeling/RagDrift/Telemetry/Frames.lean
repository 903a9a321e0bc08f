import RagDrift.Json.Dict

set_option autoImplicit false

/- `evaluator.schemas.telemetry`: what the drift statistics read of a frame. -/
namespace RagDrift.Telemetry

variable {N : Type}

structure GraphTopologyPayload (N : Type) where
  nodes : List (Dict N)
  edges : List (Dict N)
  deriving DecidableEq

structure QueryPayload (N : Type) where
  embedding : Option (List N)
  deriving DecidableEq

structure RetrievalContextPayload (N : Type) where
  denseEmbeddings : Option (List (List N))
  graphTopology : Option (GraphTopologyPayload N)
  deriving DecidableEq

structure ExecutionMetadataPayload where
  agentHops : Option (List String)
  reflectionIterations : Int
  deriving DecidableEq

structure OutputPayload (N : Type) where
  responseEmbedding : Option (List N)
  deriving DecidableEq

structure RAGEvaluationFrame (N : Type) where
  query : QueryPayload N
  context : RetrievalContextPayload N
  metadata : ExecutionMetadataPayload
  output : OutputPayload N
  deriving DecidableEq

end RagDrift.Telemetry
