import RagDrift.Ingestion.RunSchema
import RagDrift.Optimization.Selectors

set_option autoImplicit false

/- `evaluator.rag_pipelines.base`: the response of a pipeline, and the bridges between it and a
run. -/
namespace RagDrift.RagPipelines

open Ingestion (RAGRun RAGSystemInfo)
open Optimization.Selectors (truthy)

variable {N : Type}

structure RAGResponse (N : Type) where
  query : String
  retrievedContexts : List String
  generatedAnswer : String
  queryEmbedding : List N
  reflectionIterations : Int
  finalConfidence : N
  metadata : Dict N
  deriving DecidableEq

/-- What `RAGSystemInfo` is called with; a dataclass does not check the types. -/
structure SystemInfoArgs (N : Type) where
  name : PyVal N
  model : PyVal N
  embeddingModel : PyVal N
  retriever : PyVal N
  version : PyVal N
  deriving DecidableEq

/-- The fields of the run that `to_ragrun` fills in; all others are `None`. -/
structure BridgedRun (N : Type) where
  schemaVersion : String
  runId : String
  query : String
  retrievedDocs : List String
  queryEmbedding : Option (List N)
  answer : Option String
  systemInfo : Option (SystemInfoArgs N)
  metadata : Dict N
  timestamp : N
  deriving DecidableEq

/-- What `__post_init__` draws for a run without an id and a time. -/
structure PostInit (N : Type) where
  uuid4 : String
  time : N

/-- `SCHEMA_VERSION`. -/
def schemaVersion : String := "1.0"

section ToRagrun

variable [DecidableEq N] [Zero N]

/-- `metadata.get(key) or default`. -/
def getOr (metadata : Dict N) (key default : String) : PyVal N :=
  if truthy (metadata.get key) then metadata.get key else .str default

def rebuiltInfo (metadata : Dict N) : Option (SystemInfoArgs N) :=
  if "pipeline_name" ∈ metadata.keys then
    some {
      name := getOr metadata "pipeline_name" ""
      model := getOr metadata "model" ""
      embeddingModel := getOr metadata "embedding_model" "default"
      retriever := getOr metadata "retriever" "default"
      version := getOr metadata "version" "0.0.0" }
  else none

def RAGResponse.toRagrun (ofInt : Int → N) (postInit : PostInit N) (response : RAGResponse N) :
    BridgedRun N where
  schemaVersion := schemaVersion
  runId := postInit.uuid4
  query := response.query
  retrievedDocs := response.retrievedContexts
  queryEmbedding := if response.queryEmbedding = [] then none else some response.queryEmbedding
  answer := some response.generatedAnswer
  systemInfo := rebuiltInfo response.metadata
  metadata := (response.metadata.set "reflection_iterations"
    (.num (ofInt response.reflectionIterations))).set "final_confidence"
      (.num response.finalConfidence)
  timestamp := postInit.time

end ToRagrun

/-- What pydantic takes for an `int` and for a `float`. -/
structure Validators (N : Type) where
  int : PyVal N → Option Int
  float : PyVal N → Option N

def optionText : Option String → PyVal N
  | some text => .str text
  | none => .none

def asdict (info : RAGSystemInfo) : Dict N :=
  Dict.empty.setAll
    [("name", .str info.name), ("model", optionText info.model),
      ("embedding_model", optionText info.embeddingModel),
      ("retriever", optionText info.retriever), ("version", optionText info.version)]

/-- `d.setdefault(key, value)`. -/
def setDefault (d : Dict N) (key : String) (value : PyVal N) : Dict N :=
  if key ∈ d.keys then d else d.set key value

/-- The metadata with the identity of the run folded in. -/
def foldedMetadata [Zero N] (run : RAGRun N) : Dict N :=
  let defaults := setDefault (setDefault run.metadata "reflection_iterations" (.num 0))
    "final_confidence" (.num 0)
  let identified := ((defaults.set "run_id" (.str run.runId)).set "schema_version"
    (.str run.schemaVersion)).set "timestamp" (.num run.timestamp)
  match run.systemInfo with
  | some info => identified.set "system_info" (.ofDict (asdict info))
  | none => identified

/-- `RAGResponse.from_ragrun`; `none` is a `ValidationError`. -/
def fromRagrun [Zero N] (validators : Validators N) (run : RAGRun N) : Option (RAGResponse N) := do
  let metadata := foldedMetadata run
  let reflectionIterations ← validators.int (metadata.get "reflection_iterations")
  let finalConfidence ← validators.float (metadata.get "final_confidence")
  return {
    query := run.query
    retrievedContexts := run.retrievedDocs
    generatedAnswer := run.answer.getD ""
    queryEmbedding := run.queryEmbedding.getD []
    reflectionIterations
    finalConfidence
    metadata := (metadata.erase "reflection_iterations").erase "final_confidence" }

end RagDrift.RagPipelines
