import RagDrift.Schemas.Fields
import RagDrift.Telemetry.Frames

set_option autoImplicit false

/- `evaluator.schemas.telemetry` with all its fields: what the payloads of a frame are written as,
and how they are validated. -/
namespace RagDrift.Schemas

abbrev GraphTopologyPayload.fields : List String := ["nodes", "edges", "density", "metadata"]

structure GraphTopologyPayload where
  nodes : List (Dict Number)
  edges : List (Dict Number)
  density : Option Number
  metadata : Dict Number
  modelExtra : Extra GraphTopologyPayload.fields
  deriving DecidableEq

abbrev QueryPayload.fields : List String := ["text", "embedding"]

structure QueryPayload where
  text : String
  embedding : Option (List Number)
  modelExtra : Extra QueryPayload.fields
  deriving DecidableEq

abbrev RetrievalContextPayload.fields : List String :=
  ["text_chunks", "dense_embeddings", "graph_topology"]

structure RetrievalContextPayload where
  textChunks : List String
  denseEmbeddings : Option (List (List Number))
  graphTopology : Option GraphTopologyPayload
  modelExtra : Extra RetrievalContextPayload.fields
  deriving DecidableEq

/-- The texts of `rag_type`. -/
inductive RagType where
  | naive
  | agentic
  | graphRag
  | swarm
  | custom
  deriving DecidableEq

def RagType.text : RagType → String
  | .naive => "naive"
  | .agentic => "agentic"
  | .graphRag => "graph_rag"
  | .swarm => "swarm"
  | .custom => "custom"

abbrev ExecutionMetadataPayload.fields : List String :=
  ["rag_type", "agent_hops", "reflection_iterations", "latency_ms", "extra"]

structure ExecutionMetadataPayload where
  ragType : RagType
  agentHops : Option (List String)
  reflectionIterations : Int
  latencyMs : Option Number
  extra : Dict Number
  modelExtra : Extra ExecutionMetadataPayload.fields
  deriving DecidableEq

abbrev OutputPayload.fields : List String :=
  ["generated_answer", "response_embedding", "confidence_score"]

structure OutputPayload where
  generatedAnswer : String
  responseEmbedding : Option (List Number)
  confidenceScore : Option Number
  modelExtra : Extra OutputPayload.fields
  deriving DecidableEq

abbrev RAGEvaluationFrame.fields : List String :=
  ["trace_id", "timestamp", "query", "context", "metadata", "output"]

/-- `T` are the datetimes. -/
structure RAGEvaluationFrame (T : Type) where
  traceId : String
  timestamp : T
  query : QueryPayload
  context : RetrievalContextPayload
  metadata : ExecutionMetadataPayload
  output : OutputPayload
  modelExtra : Extra RAGEvaluationFrame.fields
  deriving DecidableEq

/-- What the drift statistics read of a frame. -/
def RAGEvaluationFrame.statistics {T : Type} (frame : RAGEvaluationFrame T) :
    RagDrift.Telemetry.RAGEvaluationFrame Number where
  query := ⟨frame.query.embedding⟩
  context := ⟨frame.context.denseEmbeddings,
    frame.context.graphTopology.map fun graph => ⟨graph.nodes, graph.edges⟩⟩
  metadata := ⟨frame.metadata.agentHops, frame.metadata.reflectionIterations⟩
  output := ⟨frame.output.responseEmbedding⟩

/-- How pydantic validates a value of a built-in type, the text of a datetime, and the text of a
JSON document. -/
structure Pydantic (T : Type) where
  str : PyVal Number → Option String
  float : PyVal Number → Option Number
  int : PyVal Number → Option Int
  datetime : PyVal Number → Option T
  isoformat : T → String
  toJson : PyVal Number → String
  fromJson : String → Option (PyVal Number)

/-- A value of a type is validated as itself, `None` is no float, a datetime is accepted in the
form in which it is written, and JSON that can be written is read back. -/
structure Pydantic.Sound {T : Type} (pydantic : Pydantic T) : Prop where
  str : ∀ text, pydantic.str (.str text) = some text
  float : ∀ number, pydantic.float (.num number) = some number
  float_none : pydantic.float .none = none
  int : ∀ number : Int, pydantic.int (.num (.finite number)) = some number
  datetime : ∀ time, ∃ accepted, pydantic.datetime (.str (pydantic.isoformat time)) = some accepted
  json : ∀ value : PyVal Number, value.nulled = value →
    pydantic.fromJson (pydantic.toJson value) = some value

/-- What `default_factory` draws for a frame without an id and a time. -/
structure Drawn (T : Type) where
  uuid4 : String
  utcnow : T

/- The dictionaries of JSON mode, with the numbers as they are. -/

def floats (numbers : List Number) : PyVal Number := .arr (numbers.map .num)

def strings (texts : List String) : PyVal Number := .arr (texts.map .str)

def dicts (entries : List (Dict Number)) : PyVal Number := .arr (entries.map .ofDict)

def GraphTopologyPayload.filled (payload : GraphTopologyPayload) :
    Filled GraphTopologyPayload.fields where
  known := [("nodes", dicts payload.nodes), ("edges", dicts payload.edges),
    ("density", orNone .num payload.density), ("metadata", .ofDict payload.metadata)]
  names := rfl
  extra := payload.modelExtra

def GraphTopologyPayload.document (payload : GraphTopologyPayload) : PyVal Number :=
  .ofDict (payload.filled.dict (by decide))

def QueryPayload.filled (payload : QueryPayload) : Filled QueryPayload.fields where
  known := [("text", .str payload.text), ("embedding", orNone floats payload.embedding)]
  names := rfl
  extra := payload.modelExtra

def QueryPayload.document (payload : QueryPayload) : PyVal Number :=
  .ofDict (payload.filled.dict (by decide))

def RetrievalContextPayload.filled (payload : RetrievalContextPayload) :
    Filled RetrievalContextPayload.fields where
  known := [("text_chunks", strings payload.textChunks),
    ("dense_embeddings", orNone (fun rows => .arr (rows.map floats)) payload.denseEmbeddings),
    ("graph_topology", orNone GraphTopologyPayload.document payload.graphTopology)]
  names := rfl
  extra := payload.modelExtra

def RetrievalContextPayload.document (payload : RetrievalContextPayload) : PyVal Number :=
  .ofDict (payload.filled.dict (by decide))

def ExecutionMetadataPayload.filled (payload : ExecutionMetadataPayload) :
    Filled ExecutionMetadataPayload.fields where
  known := [("rag_type", .str payload.ragType.text),
    ("agent_hops", orNone strings payload.agentHops),
    ("reflection_iterations", .num (.finite payload.reflectionIterations)),
    ("latency_ms", orNone .num payload.latencyMs), ("extra", .ofDict payload.extra)]
  names := rfl
  extra := payload.modelExtra

def ExecutionMetadataPayload.document (payload : ExecutionMetadataPayload) : PyVal Number :=
  .ofDict (payload.filled.dict (by decide))

def OutputPayload.filled (payload : OutputPayload) : Filled OutputPayload.fields where
  known := [("generated_answer", .str payload.generatedAnswer),
    ("response_embedding", orNone floats payload.responseEmbedding),
    ("confidence_score", orNone .num payload.confidenceScore)]
  names := rfl
  extra := payload.modelExtra

def OutputPayload.document (payload : OutputPayload) : PyVal Number :=
  .ofDict (payload.filled.dict (by decide))

section Frames

variable {T : Type} (pydantic : Pydantic T)

def RAGEvaluationFrame.filled (frame : RAGEvaluationFrame T) :
    Filled RAGEvaluationFrame.fields where
  known := [("trace_id", .str frame.traceId),
    ("timestamp", .str (pydantic.isoformat frame.timestamp)), ("query", frame.query.document),
    ("context", frame.context.document), ("metadata", frame.metadata.document),
    ("output", frame.output.document)]
  names := rfl
  extra := frame.modelExtra

def RAGEvaluationFrame.document (frame : RAGEvaluationFrame T) : PyVal Number :=
  .ofDict ((frame.filled pydantic).dict (by decide))

/-- `model_dump_json`. -/
def RAGEvaluationFrame.modelDumpJson (frame : RAGEvaluationFrame T) : String :=
  pydantic.toJson (frame.document pydantic).nulled

def GraphTopologyPayload.validate (value : PyVal Number) : Option GraphTopologyPayload := do
  let data ← value.asDict?
  let nodes ← required data "nodes" (listOf PyVal.asDict?)
  let edges ← required data "edges" (listOf PyVal.asDict?)
  let density ← withDefault data "density" none (nullable pydantic.float)
  let metadata ← withDefault data "metadata" .empty PyVal.asDict?
  return ⟨nodes, edges, density, metadata, extraOf _ data⟩

def QueryPayload.validate (value : PyVal Number) : Option QueryPayload := do
  let data ← value.asDict?
  let text ← required data "text" pydantic.str
  let embedding ← withDefault data "embedding" none (nullable (listOf pydantic.float))
  return ⟨text, embedding, extraOf _ data⟩

def RetrievalContextPayload.validate (value : PyVal Number) : Option RetrievalContextPayload := do
  let data ← value.asDict?
  let textChunks ← required data "text_chunks" (listOf pydantic.str)
  let denseEmbeddings ← withDefault data "dense_embeddings" none
    (nullable (listOf (listOf pydantic.float)))
  let graphTopology ← withDefault data "graph_topology" none
    (nullable (GraphTopologyPayload.validate pydantic))
  return ⟨textChunks, denseEmbeddings, graphTopology, extraOf _ data⟩

def RagType.ofText? (text : String) : Option RagType :=
  [.naive, .agentic, .graphRag, .swarm, .custom].find? fun ragType => ragType.text = text

def ExecutionMetadataPayload.validate (value : PyVal Number) :
    Option ExecutionMetadataPayload := do
  let data ← value.asDict?
  let ragType ← required data "rag_type" fun value => value.asText?.bind RagType.ofText?
  let agentHops ← withDefault data "agent_hops" none (nullable (listOf pydantic.str))
  let reflectionIterations ← withDefault data "reflection_iterations" 0 pydantic.int
  let latencyMs ← withDefault data "latency_ms" none (nullable pydantic.float)
  let extra ← withDefault data "extra" .empty PyVal.asDict?
  return ⟨ragType, agentHops, reflectionIterations, latencyMs, extra, extraOf _ data⟩

def OutputPayload.validate (value : PyVal Number) : Option OutputPayload := do
  let data ← value.asDict?
  let generatedAnswer ← required data "generated_answer" pydantic.str
  let responseEmbedding ← withDefault data "response_embedding" none
    (nullable (listOf pydantic.float))
  let confidenceScore ← withDefault data "confidence_score" none (nullable pydantic.float)
  return ⟨generatedAnswer, responseEmbedding, confidenceScore, extraOf _ data⟩

def RAGEvaluationFrame.validate (drawn : Drawn T) (value : PyVal Number) :
    Option (RAGEvaluationFrame T) := do
  let data ← value.asDict?
  let traceId ← withDefault data "trace_id" drawn.uuid4 pydantic.str
  let timestamp ← withDefault data "timestamp" drawn.utcnow pydantic.datetime
  let query ← required data "query" (QueryPayload.validate pydantic)
  let context ← required data "context" (RetrievalContextPayload.validate pydantic)
  let metadata ← required data "metadata" (ExecutionMetadataPayload.validate pydantic)
  let output ← required data "output" (OutputPayload.validate pydantic)
  return ⟨traceId, timestamp, query, context, metadata, output, extraOf _ data⟩

/-- `model_validate_json`. -/
def RAGEvaluationFrame.modelValidateJson (drawn : Drawn T) (text : String) :
    Option (RAGEvaluationFrame T) :=
  (pydantic.fromJson text).bind (RAGEvaluationFrame.validate pydantic drawn)

end Frames

end RagDrift.Schemas
