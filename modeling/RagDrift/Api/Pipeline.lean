import RagDrift.Api.Payloads
import RagDrift.Json.Fractions
import RagDrift.Optimization.Guarded
import RagDrift.Storage.Copies

set_option autoImplicit false

/- `api.routes`: the stages of the pipeline as endpoints, each of which decodes the results of
the stages before from JSON and reads the store again, and the stages of `/optimize`. -/
namespace RagDrift

open Json (NumText)
open Storage (PyErr EvaluationRecord Disk Draws)
open Temporal (DriftEvent)
open Causal (CausalAttribution attributeDrift)
open Counterfactual (CounterfactualResult ResultMetadata runCounterfactualAnalysis)
open Optimization (releaseRuntime releaseStore releaseEvent)

namespace Counterfactual

/-- A `float` that is a whole number. -/
def asWhole? (value : PyVal ℚ) : Option Int :=
  value.asPlainNumber?.bind fun number => if number.den = 1 then some number.num else none

theorem asWhole?_num (number : Int) : asWhole? (.num (number : ℚ)) = some number := by
  simp [asWhole?]

def ResultMetadata.toDict (metadata : ResultMetadata) : Dict ℚ :=
  Dict.empty.setAll ([("metric_name", .str metadata.metricName),
    ("num_interventions", .num metadata.numInterventions),
    ("scenario_description", .str metadata.scenarioDescription),
    ("change_ids", .texts metadata.changeIds)] ++
    metadata.runId.toList.map fun runId => ("run_id", .str runId))

def ResultMetadata.fromDict (data : Dict ℚ) : Except DecodeError ResultMetadata := do
  let metricName ← data.required "metric_name" PyVal.asText?
  let numInterventions ← data.required "num_interventions" asWhole?
  let scenarioDescription ← data.required "scenario_description" PyVal.asText?
  let changeIds ← data.required "change_ids" PyVal.asTexts?
  let runId ← data.optional "run_id" none fun value => value.asText?.map some
  return ⟨metricName, numInterventions.toNat, scenarioDescription, changeIds, runId⟩

theorem ResultMetadata.fromDict_toDict (metadata : ResultMetadata) :
    fromDict metadata.toDict = .ok metadata := by
  obtain ⟨metricName, numInterventions, scenarioDescription, changeIds, runId⟩ := metadata
  have whole : asWhole? (.num ((numInterventions : Nat) : ℚ)) = some (numInterventions : Int) :=
    asWhole?_num numInterventions
  cases runId <;>
    · simp [fromDict, toDict, Dict.optional, Dict.required, Dict.setAll, Dict.get?_set,
        PyVal.asTexts?_texts, whole]
      rfl

/-- The two ids, of the result and of its scenario, are drawn for every result. -/
def CounterfactualResult.toDict (resultId scenarioId : String) (result : CounterfactualResult) :
    Dict ℚ :=
  Dict.empty.setAll
    [("result_id", .str resultId), ("scenario_id", .str scenarioId),
      ("original_metric", .num result.originalMetric),
      ("counterfactual_metric", .num result.counterfactualMetric),
      ("delta", .num result.delta), ("confidence", .num result.confidence),
      ("metadata", .ofDict result.metadata.toDict)]

def CounterfactualResult.fromDict (data : Dict ℚ) : Except DecodeError CounterfactualResult := do
  let originalMetric ← data.required "original_metric" PyVal.asPlainNumber?
  let counterfactualMetric ← data.required "counterfactual_metric" PyVal.asPlainNumber?
  let delta ← data.required "delta" PyVal.asPlainNumber?
  let confidence ← data.required "confidence" PyVal.asPlainNumber?
  let metadata ← data.optional "metadata" .empty PyVal.asDict?
  let metadata ← ResultMetadata.fromDict metadata
  return ⟨originalMetric, counterfactualMetric, delta, confidence, metadata⟩

theorem CounterfactualResult.fromDict_toDict (resultId scenarioId : String)
    (result : CounterfactualResult) :
    fromDict (result.toDict resultId scenarioId) = .ok result := by
  simp [fromDict, toDict, Dict.optional, Dict.required, Dict.setAll, Dict.get?_set,
    PyVal.asDict?_ofDict]
  simp only [bind, Except.bind, ResultMetadata.fromDict_toDict]
  rfl

end Counterfactual

namespace Api

/-- What ends a request with an error. -/
inductive ApiError where
  /-- The body is no JSON object with the fields of the schema. -/
  | unprocessable
  | badRequest (payload : String) (reason : DecodeError)
  | internal (reason : PyErr)
  /-- A record of the store holds a value of another type than it should. -/
  | untypedRecord
  deriving DecidableEq

structure AttributionRequest where
  driftEvent : Dict ℚ

structure AttributionResponse where
  attribution : Dict ℚ
  driftEventId : String
  metricName : String
  numFactors : Nat
  confidence : ℚ

def AttributionResponse.of (attributionId : String) (attribution : CausalAttribution) :
    AttributionResponse where
  attribution := attribution.toDict attributionId
  driftEventId := attribution.driftEventId
  metricName := attribution.metricName
  numFactors := attribution.factors.length
  confidence := attribution.confidence

theorem default_topK : (1 : Int) ≤ 3 := by decide

structure CounterfactualRequest where
  driftEvent : Dict ℚ
  attribution : Dict ℚ
  topK : Int
  positive : 1 ≤ topK

structure CounterfactualResponse where
  results : List (Dict ℚ)
  driftEventId : String
  count : Nat

/-- Two new ids for every result. -/
def CounterfactualResponse.of (uuid4 : Nat → String) (driftEventId : String)
    (results : List CounterfactualResult) : CounterfactualResponse where
  results := results.zipIdx.map fun item =>
    item.1.toDict (uuid4 (2 * item.2)) (uuid4 (2 * item.2 + 1))
  driftEventId := driftEventId
  count := results.length

/-- The server: its history file, what a load of it draws for records stored without an id or
a time, and the ids that `uuid.uuid4()` gives in one request. -/
structure Server where
  rt : Runtime ℚ
  disk : Disk
  draws : Draws ℚ
  uuid4 : Nat → String

section Numbers

variable [NumText ℚ]

def Server.store (server : Server) : Except ApiError (List (EvaluationRecord ℚ)) :=
  match Storage.loadRecords server.draws server.disk with
  | .ok (some records) => .ok records
  | .ok none => .error .untypedRecord
  | .error reason => .error (.internal reason)

/-- `POST /attribution`. -/
def getAttribution (server : Server) (request : AttributionRequest) :
    Except ApiError AttributionResponse := do
  let driftEvent ← (DriftEvent.fromDict (server.uuid4 0) request.driftEvent).mapError
    (.badRequest "drift_event")
  let records ← server.store
  return .of (server.uuid4 1) (attributeDrift server.rt driftEvent records)

/-- `POST /counterfactual`. -/
def runCounterfactual (server : Server) (request : CounterfactualRequest) :
    Except ApiError CounterfactualResponse := do
  let driftEvent ← (DriftEvent.fromDict (server.uuid4 0) request.driftEvent).mapError
    (.badRequest "drift_event")
  let attribution ← (CausalAttribution.fromDict request.attribution).mapError
    (.badRequest "attribution")
  let records ← server.store
  let results ← (runCounterfactualAnalysis server.rt driftEvent attribution records none
    request.topK).mapError .internal
  return .of (fun index => server.uuid4 (index + 1)) driftEvent.eventId results

/-- A dictionary written as JSON by one side and read by the other. -/
def transmit (data : Dict ℚ) : Except ApiError (Dict ℚ) :=
  match (Json.loads (Json.dumps (.obj data.members)) : Option (Json ℚ)).bind Json.toDict? with
  | some received => .ok received
  | none => .error .unprocessable

/-- A field that the schema of a body requires. -/
def bodyField {A : Type} (body : Dict ℚ) (key : String) (view : PyVal ℚ → Option A) :
    Except ApiError A :=
  match (body.get? key).bind view with
  | some value => .ok value
  | none => .error .unprocessable

def AttributionRequest.toDict (request : AttributionRequest) : Dict ℚ :=
  Dict.empty.setAll [("drift_event", .ofDict request.driftEvent)]

def AttributionRequest.ofBody (body : Dict ℚ) : Except ApiError AttributionRequest := do
  let driftEvent ← bodyField body "drift_event" PyVal.asDict?
  return ⟨driftEvent⟩

def AttributionResponse.toDict (response : AttributionResponse) : Dict ℚ :=
  Dict.empty.setAll
    [("attribution", .ofDict response.attribution), ("drift_event_id", .str response.driftEventId),
      ("metric_name", .str response.metricName), ("num_factors", .num response.numFactors),
      ("confidence", .num response.confidence)]

def CounterfactualRequest.toDict (request : CounterfactualRequest) : Dict ℚ :=
  Dict.empty.setAll
    [("drift_event", .ofDict request.driftEvent), ("attribution", .ofDict request.attribution),
      ("top_k", .num request.topK)]

/-- `top_k` has a default and a lower bound. -/
def CounterfactualRequest.ofBody (body : Dict ℚ) : Except ApiError CounterfactualRequest := do
  let driftEvent ← bodyField body "drift_event" PyVal.asDict?
  let attribution ← bodyField body "attribution" PyVal.asDict?
  match body.get? "top_k" with
  | none => return ⟨driftEvent, attribution, 3, default_topK⟩
  | some value =>
      match Counterfactual.asWhole? value with
      | none => .error .unprocessable
      | some topK =>
          if positive : 1 ≤ topK then return ⟨driftEvent, attribution, topK, positive⟩
          else .error .unprocessable

def CounterfactualResponse.toDict (response : CounterfactualResponse) : Dict ℚ :=
  Dict.empty.setAll
    [("results", .dicts response.results), ("drift_event_id", .str response.driftEventId),
      ("count", .num response.count)]

def postAttribution (server : Server) (body : Dict ℚ) : Except ApiError (Dict ℚ) := do
  let received ← transmit body
  let request ← AttributionRequest.ofBody received
  let response ← getAttribution server request
  transmit response.toDict

def postCounterfactual (server : Server) (body : Dict ℚ) : Except ApiError (Dict ℚ) := do
  let received ← transmit body
  let request ← CounterfactualRequest.ofBody received
  let response ← runCounterfactual server request
  transmit response.toDict

/-- What a client of the two endpoints has in the end: the attribution it was given, which it
passes on as it is, and the results, both read back as objects. -/
def stagedPipeline (first second : Server) (event : DriftEvent) (topK : Int)
    (positive : 1 ≤ topK) : Except ApiError (CausalAttribution × List CounterfactualResult) := do
  let answer ← postAttribution first (AttributionRequest.toDict ⟨event.toDict⟩)
  let attribution ← bodyField answer "attribution" PyVal.asDict?
  let given ← (CausalAttribution.fromDict attribution).mapError (.badRequest "attribution")
  let answer ← postCounterfactual second
    (CounterfactualRequest.toDict ⟨event.toDict, attribution, topK, positive⟩)
  let results ← bodyField answer "results" PyVal.asDicts?
  let results ← (results.mapM CounterfactualResult.fromDict).mapError (.badRequest "results")
  return (given, results)

/-- The stages of `/optimize` for an event. -/
def optimizeStages (server : Server) (event : DriftEvent) (topK : Int) :
    Except ApiError (CausalAttribution × List CounterfactualResult) := do
  let records ← server.store
  let attribution := attributeDrift server.rt event records
  let counterfx ← (runCounterfactualAnalysis server.rt event attribution records none
    topK).mapError .internal
  return (attribution, counterfx)

theorem transmit_eq (data : Dict ℚ) : transmit data = .ok data := by
  rw [transmit, Json.loads_dumps _ data.distinct, Option.bind_some, Json.toDict?_members]

omit [NumText ℚ] in
theorem AttributionRequest.ofBody_toDict (request : AttributionRequest) :
    ofBody request.toDict = .ok request := by
  simp only [ofBody, toDict, bodyField, Dict.setAll, List.foldl_cons, List.foldl_nil,
    Dict.get?_set_self, Option.bind_some, PyVal.asDict?_ofDict]
  rfl

omit [NumText ℚ] in
theorem CounterfactualRequest.ofBody_toDict (request : CounterfactualRequest) :
    ofBody request.toDict = .ok request := by
  obtain ⟨driftEvent, attribution, topK, positive⟩ := request
  simp [ofBody, toDict, bodyField, Dict.setAll, Dict.get?_set, PyVal.asDict?_ofDict,
    Counterfactual.asWhole?_num, positive]
  rfl

/-- The server computes with this runtime and reads these records from its file. -/
def Server.Reads (server : Server) (rt : Runtime ℚ) (records : List (EvaluationRecord ℚ)) : Prop :=
  server.rt = rt ∧ server.store = .ok records

/-- What was saved is read, whatever a load draws. -/
theorem Server.reads_saved (rt : Runtime ℚ) (records : List (EvaluationRecord ℚ))
    (draws : Draws ℚ) (uuid4 : Nat → String) :
    Server.Reads ⟨rt, records.foldl Storage.save Disk.fresh, draws, uuid4⟩ rt records := by
  refine ⟨rfl, ?_⟩
  rw [Server.store, (Storage.store_round_trip records draws).1]

variable {server first second : Server} {rt : Runtime ℚ} {records : List (EvaluationRecord ℚ)}

theorem postAttribution_event (reads : server.Reads rt records) (event : DriftEvent) :
    postAttribution server (AttributionRequest.toDict ⟨event.toDict⟩) =
      .ok (AttributionResponse.of (server.uuid4 1) (attributeDrift rt event records)).toDict := by
  have decoded := DriftEvent.fromDict_toDict (server.uuid4 0) event
  rw [postAttribution, transmit_eq]
  simp only [bind, Except.bind, AttributionRequest.ofBody_toDict, getAttribution, decoded,
    Except.mapError, reads.2, reads.1, pure, Except.pure, transmit_eq]

theorem postCounterfactual_event (reads : server.Reads rt records) (event : DriftEvent)
    (attributionId : String) (attribution : CausalAttribution) (topK : Int) (positive : 1 ≤ topK) :
    postCounterfactual server (CounterfactualRequest.toDict
        ⟨event.toDict, attribution.toDict attributionId, topK, positive⟩) =
      ((runCounterfactualAnalysis rt event attribution records none topK).map fun results =>
        (CounterfactualResponse.of (fun index => server.uuid4 (index + 1)) event.eventId
          results).toDict).mapError .internal := by
  have decoded := DriftEvent.fromDict_toDict (server.uuid4 0) event
  have given := CausalAttribution.fromDict_toDict attributionId attribution
  rw [postCounterfactual, transmit_eq]
  simp only [bind, Except.bind, CounterfactualRequest.ofBody_toDict, runCounterfactual, decoded,
    given, Except.mapError, reads.2, reads.1, pure, Except.pure]
  cases runCounterfactualAnalysis rt event attribution records none topK with
  | error reason => rfl
  | ok results => simp only [Except.map, transmit_eq]

omit [NumText ℚ] in
theorem attribution_of_answer (attributionId : String) (attribution : CausalAttribution) :
    bodyField (AttributionResponse.of attributionId attribution).toDict "attribution"
      PyVal.asDict? = .ok (attribution.toDict attributionId) := by
  simp [AttributionResponse.of, AttributionResponse.toDict, bodyField, Dict.setAll, Dict.get?_set,
    PyVal.asDict?_ofDict]

omit [NumText ℚ] in
/-- The results of a response, read back. -/
theorem results_of_answer (uuid4 : Nat → String) (eventId : String)
    (results : List CounterfactualResult) :
    ∃ dicts, bodyField (CounterfactualResponse.of uuid4 eventId results).toDict "results"
        PyVal.asDicts? = .ok dicts ∧
      dicts.mapM CounterfactualResult.fromDict = .ok results := by
  refine ⟨(CounterfactualResponse.of uuid4 eventId results).results, ?_, ?_⟩
  · simp [CounterfactualResponse.toDict, bodyField, Dict.setAll, Dict.get?_set,
      PyVal.asDicts?_dicts]
  · have general : ∀ start, ((results.zipIdx start).map fun item =>
        item.1.toDict (uuid4 (2 * item.2)) (uuid4 (2 * item.2 + 1))).mapM
          CounterfactualResult.fromDict = .ok results := by
      induction results with
      | nil =>
          intro start
          rfl
      | cons result rest ih =>
          intro start
          rw [List.zipIdx_cons, List.map_cons, List.mapM_cons,
            CounterfactualResult.fromDict_toDict, ih]
          rfl
    exact general 0

/-- The endpoints one after the other give what the stages give in one process, where each of
the loads gives the same records. -/
theorem staged_eq_optimize (readsFirst : first.Reads rt records)
    (readsSecond : second.Reads rt records) (reads : server.Reads rt records)
    (event : DriftEvent) (topK : Int) (positive : 1 ≤ topK) :
    stagedPipeline first second event topK positive = optimizeStages server event topK := by
  have given := CausalAttribution.fromDict_toDict (first.uuid4 1)
    (attributeDrift rt event records)
  rw [stagedPipeline, postAttribution_event readsFirst, optimizeStages, reads.1, reads.2]
  simp only [bind, Except.bind, attribution_of_answer, given, Except.mapError,
    postCounterfactual_event readsSecond]
  cases runCounterfactualAnalysis rt event (attributeDrift rt event records) records none
      topK with
  | error reason => rfl
  | ok results =>
      obtain ⟨dicts, field, read⟩ := results_of_answer
        (fun index => second.uuid4 (index + 1)) event.eventId results
      simp only [Except.map, field, read]

end Numbers

def releaseServer (uuid4 : Nat → String) : Server :=
  ⟨releaseRuntime, releaseStore.foldl Storage.save Disk.fresh, ⟨fun _ => "", fun _ => 0⟩, uuid4⟩

theorem staged_eq_optimize_release :
    stagedPipeline (releaseServer toString) (releaseServer fun index => toString (index + 1))
        releaseEvent 3 default_topK = optimizeStages (releaseServer fun _ => "") releaseEvent 3 :=
  staged_eq_optimize (Server.reads_saved _ _ _ _) (Server.reads_saved _ _ _ _)
    (Server.reads_saved _ _ _ _) releaseEvent 3 default_topK

end Api

end RagDrift
