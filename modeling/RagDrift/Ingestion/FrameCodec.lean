import RagDrift.Ingestion.Startup
import RagDrift.Json.AllNumbers
import RagDrift.Json.RoundTrip
import RagDrift.Schemas.Survival

set_option autoImplicit false

/- A frame through the stream: what the worker makes of the entry that `enqueue` writes for it. -/
namespace RagDrift.Ingestion

open Json (NumText)
open Schemas (Pydantic Drawn RAGEvaluationFrame)

variable {B T : Type}

/-- The buffers with the codec of the frames. -/
def frameSetup (pydantic : Pydantic T) (drawn : Drawn T) (batchSize : B → Int) :
    Setup B (RAGEvaluationFrame T) where
  modelDumpJson := RAGEvaluationFrame.modelDumpJson pydantic
  modelValidateJson := RAGEvaluationFrame.modelValidateJson pydantic drawn
  batchSize := batchSize

section Codec

variable {pydantic : Pydantic T} (sound : pydantic.Sound) (drawn : Drawn T) (batchSize : B → Int)
  (frame : RAGEvaluationFrame T)
include sound

theorem modelValidateJson_modelDumpJson :
    RAGEvaluationFrame.modelValidateJson pydantic drawn (frame.modelDumpJson pydantic) =
      RAGEvaluationFrame.validate pydantic drawn (frame.document pydantic).nulled := by
  rw [RAGEvaluationFrame.modelValidateJson, RAGEvaluationFrame.modelDumpJson,
    sound.json _ (PyVal.nulled_nulled _), Option.bind_some]

/-- A received frame differs from the sent one in its nulled numbers only. -/
theorem decode_written_frame_iff (received : RAGEvaluationFrame T) :
    (frameSetup pydantic drawn batchSize).decode
        ((frameSetup pydantic drawn batchSize).written frame) = .frame received ↔
      frame.Finite ∧ frame.nulled pydantic = received := by
  have codec : (frameSetup pydantic drawn batchSize).modelValidateJson
      ((frameSetup pydantic drawn batchSize).modelDumpJson frame) =
        RAGEvaluationFrame.validate pydantic drawn (frame.document pydantic).nulled :=
    modelValidateJson_modelDumpJson sound drawn frame
  rw [decode_written, Setup.validated, codec, ← RAGEvaluationFrame.survives sound drawn frame]
  cases RAGEvaluationFrame.validate pydantic drawn (frame.document pydantic).nulled with
  | none => simp
  | some other => simp

/-- The worker takes the text of a frame exactly where no embedding holds a NaN or an infinity. -/
theorem frame_survives_stream_iff :
    (∃ received, (frameSetup pydantic drawn batchSize).decode
        ((frameSetup pydantic drawn batchSize).written frame) = .frame received) ↔
      frame.Finite := by
  constructor
  · rintro ⟨received, taken⟩
    exact ((decode_written_frame_iff sound drawn batchSize frame received).mp taken).1
  · intro finite
    exact ⟨_, (decode_written_frame_iff sound drawn batchSize frame _).mpr ⟨finite, rfl⟩⟩

/-- All other frames are acknowledged without being stored. -/
theorem decode_written_invalid (broken : ¬ frame.Finite) :
    (frameSetup pydantic drawn batchSize).decode
      ((frameSetup pydantic drawn batchSize).written frame) = .invalid := by
  rw [decode_written, Setup.validated]
  split
  · rename_i received accepted
    have taken : (frameSetup pydantic drawn batchSize).decode
        ((frameSetup pydantic drawn batchSize).written frame) = .frame received := by
      rw [decode_written, Setup.validated, accepted]
    exact absurd ((decode_written_frame_iff sound drawn batchSize frame received).mp taken).1 broken
  · rfl

end Codec

/-- A frame that holds nothing but what it must, and an embedding of the query. -/
def sampleFrame (embedding : List Number) : RAGEvaluationFrame String where
  traceId := "trace"
  timestamp := "2026-01-01T00:00:00Z"
  query := ⟨"question", some embedding, .none _⟩
  context := ⟨["chunk"], none, none, .none _⟩
  metadata := ⟨.naive, none, 0, none, .empty, .none _⟩
  output := ⟨"answer", none, none, .none _⟩
  modelExtra := .none _

/-- The text of the sample frame around the embedding, without blanks as pydantic writes it. -/
def sampleText (embedding : String) : List Char :=
  ["\x7b\"trace_id\":\"trace\",", "\"timestamp\":", "\"2026-01-01T", "00:00:00Z\",",
    "\"query\":\x7b", "\"text\":\"question\",", "\"embedding\":", embedding,
    "\x7d,\"context\":\x7b", "\"text_chunks\":",
    "[\"chunk\"],", "\"dense_embeddings\":", "null,", "\"graph_topology\":",
    "null\x7d,", "\"metadata\":\x7b", "\"rag_type\":", "\"naive\",", "\"agent_hops\":", "null,",
    "\"reflection_", "iterations\":0,", "\"latency_ms\":", "null,", "\"extra\":\x7b\x7d\x7d,",
    "\"output\":\x7b", "\"generated_", "answer\":\"answer\",", "\"response_", "embedding\":null,",
    "\"confidence_", "score\":null\x7d\x7d"].flatMap String.toList

def sampleTexts : List (List Char) := [sampleText "[null]", sampleText "[1.0]"]

def readJson (text : List Char) : Option (PyVal Number) :=
  (Json.loads text).bind fun json =>
    if distinct : json.KeysDistinct then some ⟨json, distinct⟩ else none

def writeJson (value : PyVal Number) : List Char :=
  (sampleTexts.find? fun text => readJson text = some value).getD (Json.dumps value.json)

theorem readJson_dumps (value : PyVal Number) :
    readJson (Json.dumps value.json) = some value := by
  rw [readJson, Json.loads_dumps value.json value.distinct, Option.bind_some,
    dif_pos value.distinct]

theorem readJson_writeJson (value : PyVal Number) : readJson (writeJson value) = some value := by
  rw [writeJson]
  generalize sampleTexts = texts
  cases found : texts.find? fun text => readJson text = some value with
  | none => exact readJson_dumps value
  | some text => simpa using List.find?_some found

def wholeNumber : Number → Option Int
  | .finite value => if value.den = 1 then some value.num else none
  | _ => none

/-- Pydantic on JSON without conversions between types; datetimes are their texts. -/
def samplePydantic : Pydantic String where
  str := PyVal.asText?
  float := PyVal.asPlainNumber?
  int value := value.asPlainNumber?.bind wholeNumber
  datetime := PyVal.asText?
  isoformat := id
  toJson value := String.ofList (writeJson value)
  fromJson text := readJson text.toList

theorem samplePydantic_json (value : PyVal Number) :
    samplePydantic.fromJson (samplePydantic.toJson value) = some value := by
  dsimp only [samplePydantic]
  rw [String.toList_ofList]
  exact readJson_writeJson value

theorem samplePydantic_sound : samplePydantic.Sound where
  str _ := rfl
  float _ := rfl
  float_none := rfl
  int number := by
    simp [samplePydantic, wholeNumber]
  datetime time := ⟨time, rfl⟩
  json value _ := samplePydantic_json value

def sampleDrawn : Drawn String := ⟨"drawn", "2026-01-01T00:00:00Z"⟩

/-- The document of the frame is a request that is accepted. -/
theorem nanFrame_accepted :
    RAGEvaluationFrame.validate samplePydantic sampleDrawn
      ((sampleFrame [.nan]).document samplePydantic) = some (sampleFrame [.nan]) := by
  decide +kernel

-- What is written for it has lost the number.
example : writeJson ((sampleFrame [.nan]).document samplePydantic).nulled =
    sampleText "[null]" := by
  decide +kernel

theorem nanFrame_not_finite : ¬ (sampleFrame [.nan]).Finite := by
  intro finite
  have all := finite.query [.nan] rfl .nan List.mem_cons_self
  cases all

theorem accepted_frame_dropped : ¬ ∀ (pydantic : Pydantic String) (drawn : Drawn String)
    (batchSize : Unit → Int) (request : PyVal Number) (frame : RAGEvaluationFrame String),
    pydantic.Sound → RAGEvaluationFrame.validate pydantic drawn request = some frame →
      ∃ received, (frameSetup pydantic drawn batchSize).decode
        ((frameSetup pydantic drawn batchSize).written frame) = .frame received := by
  intro always
  obtain ⟨received, taken⟩ := always samplePydantic sampleDrawn (fun _ => 100) _
    (sampleFrame [.nan]) samplePydantic_sound nanFrame_accepted
  rw [decode_written_invalid samplePydantic_sound _ _ _ nanFrame_not_finite] at taken
  cases taken

theorem frame_survives_stream_iff_sample :
    (∃ received, (frameSetup samplePydantic sampleDrawn fun _ : Unit => 100).decode
        ((frameSetup samplePydantic sampleDrawn fun _ : Unit => 100).written (sampleFrame [1])) =
          .frame received) ↔ (sampleFrame [1]).Finite :=
  frame_survives_stream_iff samplePydantic_sound sampleDrawn _ (sampleFrame [1])

end RagDrift.Ingestion
