import RagDrift.Json.Dict
import RagDrift.Text.Lines

set_option autoImplicit false

/- `ingestion.run_schema`: one run of a RAG system. -/
namespace RagDrift.Ingestion

variable {N : Type}

structure RAGSystemInfo where
  name : String
  model : Option String
  embeddingModel : Option String
  retriever : Option String
  version : Option String
  deriving DecidableEq

/-- `__post_init__` fills in a missing id and time, so a run always has both. -/
structure RAGRun (N : Type) where
  schemaVersion : String
  runId : String
  query : String
  retrievedDocs : List String
  retrievedDocIds : Option (List String)
  retrievedEmbeddings : Option (List (List N))
  queryEmbedding : Option (List N)
  answer : Option String
  answerEmbedding : Option (List N)
  systemInfo : Option RAGSystemInfo
  metadata : Dict N
  timestamp : N
  systemVersion : Option String

/-- The invariants of a run, each with the text of its `ValueError`. -/
def RAGRun.validate (run : RAGRun N) : Except String Unit :=
  if Text.strip run.query.toList = [] then .error "query must not be empty"
  else if run.retrievedDocs = [] then .error "retrieved_docs must not be empty"
  else if run.retrievedDocIds.any fun ids => ids.length ≠ run.retrievedDocs.length then
    .error "retrieved_doc_ids length must match retrieved_docs length"
  else if run.retrievedEmbeddings.any fun rows => rows.length ≠ run.retrievedDocs.length then
    .error "retrieved_embeddings length must match retrieved_docs length"
  else .ok ()

end RagDrift.Ingestion
