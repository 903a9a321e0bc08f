import RagDrift.Ingestion.RunSchema
import RagDrift.Optimization.Selectors
import RagDrift.Telemetry.Frames

set_option autoImplicit false

/- `RAGRun.to_evaluation_frame`: a run as a frame of telemetry. -/
namespace RagDrift.Ingestion

open Exceptions (bind_ok_iff)
open Optimization.Selectors (truthy)
open Telemetry (RAGEvaluationFrame)

variable {N : Type}

/-- What `datetime.fromtimestamp`, `int` and `float` make of a value, and what pydantic takes
for a `float`; the first and the last only decide whether there is a frame. -/
structure Coercions (N : Type) where
  fromTimestamp : N → Bool
  int : PyVal N → Option Int
  float : PyVal N → Option N
  validFloat : PyVal N → Bool

inductive BridgeError where
  /-- `datetime.fromtimestamp(timestamp)` -/
  | timestamp
  /-- `int(self.metadata.get("reflection_iterations", 0) or 0)` -/
  | reflectionIterations
  /-- The payload does not take `agent_hops` or `latency_ms`. -/
  | metadataPayload
  /-- `float(self.metadata["final_confidence"])` -/
  | finalConfidence
  deriving DecidableEq

/-- `list[str] | None`. -/
def agentHops? [DecidableEq N] (value : PyVal N) : Option (Option (List String)) :=
  if value.json = .null then some none else value.asTexts?.map some

def accept {A : Type} (reason : BridgeError) : Option A → Except BridgeError A
  | some value => .ok value
  | none => .error reason

section ToFrame

variable [DecidableEq N] [Zero N]

/-- `ExecutionMetadataPayload` as a run fills it in. -/
def RAGRun.executionMetadata (coercions : Coercions N) (run : RAGRun N) :
    Except BridgeError Telemetry.ExecutionMetadataPayload := do
  let iterations := run.metadata.get "reflection_iterations"
  let reflectionIterations ←
    accept .reflectionIterations (if truthy iterations then coercions.int iterations else some 0)
  let agentHops ← accept .metadataPayload (agentHops? (run.metadata.get "agent_hops"))
  let latencyMs := run.metadata.get "latency_ms"
  if latencyMs = PyVal.none ∨ coercions.validFloat latencyMs then
    return ⟨agentHops, reflectionIterations⟩
  else throw .metadataPayload

def RAGRun.toEvaluationFrame (coercions : Coercions N) (run : RAGRun N) :
    Except BridgeError (RAGEvaluationFrame N) := do
  accept .timestamp (if coercions.fromTimestamp run.timestamp then some () else none)
  let metadata ← run.executionMetadata coercions
  let confidence := run.metadata.get "final_confidence"
  let _ ← accept .finalConfidence
    (if truthy confidence then (coercions.float confidence).map some else some none)
  return {
    query := ⟨run.queryEmbedding⟩
    context := ⟨run.retrievedEmbeddings, none⟩
    metadata
    output := ⟨run.answerEmbedding⟩ }

/-- The three embeddings of a frame are those of its run. -/
theorem toEvaluationFrame_embeddings {coercions : Coercions N} {run : RAGRun N}
    {frame : RAGEvaluationFrame N} (bridged : run.toEvaluationFrame coercions = .ok frame) :
    frame.query.embedding = run.queryEmbedding ∧
      frame.output.responseEmbedding = run.answerEmbedding ∧
      frame.context.denseEmbeddings = run.retrievedEmbeddings := by
  obtain ⟨_, _, afterTime⟩ := bind_ok_iff.mp bridged
  obtain ⟨metadata, _, afterMetadata⟩ := bind_ok_iff.mp afterTime
  obtain ⟨_, _, returned⟩ := bind_ok_iff.mp afterMetadata
  cases returned
  exact ⟨rfl, rfl, rfl⟩

end ToFrame

end RagDrift.Ingestion
