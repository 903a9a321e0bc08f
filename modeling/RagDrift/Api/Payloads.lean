import RagDrift.Causal.Attribution
import RagDrift.Json.Reading
import RagDrift.Optimization.Models

set_option autoImplicit false

/- `to_dict` and `from_dict` of the objects that travel in requests and responses. -/
namespace RagDrift

open Temporal (DriftEvent)
open Causal (CausalFactor CausalAttribution)
open Optimization (OptimizationAction)

variable {N : Type}

/-- `None` for an id: `__post_init__` fills in a new one. -/
def PyVal.asTextOr? (uuid4 : String) (value : PyVal N) : Option String :=
  match value.json with
  | .null => some uuid4
  | _ => value.asText?

def PyVal.asTexts? (value : PyVal N) : Option (List String) :=
  value.asItems?.bind (List.mapM PyVal.asText?)

def PyVal.texts (list : List String) : PyVal N := .arr (list.map .str)

theorem PyVal.asTexts?_texts (list : List String) :
    (PyVal.texts list : PyVal N).asTexts? = some list := by
  rw [asTexts?, texts, asItems?_arr]
  exact mapM_undoes asText?_str list

namespace Temporal.DriftEvent

def toDict (event : DriftEvent) : Dict ℚ :=
  Dict.empty.setAll
    [("event_id", .str event.eventId), ("metric_name", .str event.metricName),
      ("start_timestamp", .num event.startTimestamp), ("end_timestamp", .num event.endTimestamp),
      ("magnitude", .num event.magnitude), ("involved_run_ids", .texts event.involvedRunIds),
      ("metadata", .ofDict event.metadata)]

def fromDict (uuid4 : String) (data : Dict ℚ) : Except DecodeError DriftEvent := do
  let eventId ← data.optional "event_id" uuid4 (PyVal.asTextOr? uuid4)
  let metricName ← data.required "metric_name" PyVal.asText?
  let startTimestamp ← data.required "start_timestamp" PyVal.asPlainNumber?
  let endTimestamp ← data.required "end_timestamp" PyVal.asPlainNumber?
  let magnitude ← data.required "magnitude" PyVal.asPlainNumber?
  let involvedRunIds ← data.optional "involved_run_ids" [] PyVal.asTexts?
  let metadata ← data.optional "metadata" .empty PyVal.asDict?
  return ⟨metricName, startTimestamp, endTimestamp, magnitude, involvedRunIds, metadata, eventId⟩

theorem fromDict_toDict (uuid4 : String) (event : DriftEvent) :
    fromDict uuid4 event.toDict = .ok event := by
  simp [fromDict, toDict, Dict.optional, Dict.required, Dict.setAll, Dict.get?_set,
    PyVal.asTexts?_texts, PyVal.asDict?_ofDict]
  rfl

end Temporal.DriftEvent

namespace Causal.CausalFactor

def toDict (factor : CausalFactor) : Dict ℚ :=
  Dict.empty.setAll
    [("factor_name", .str factor.factorName), ("score", .num factor.score),
      ("related_run_ids", .texts factor.relatedRunIds), ("metadata", .ofDict factor.metadata)]

def fromDict (data : Dict ℚ) : Except DecodeError CausalFactor := do
  let factorName ← data.required "factor_name" PyVal.asText?
  let score ← data.required "score" PyVal.asPlainNumber?
  let relatedRunIds ← data.optional "related_run_ids" [] PyVal.asTexts?
  let metadata ← data.optional "metadata" .empty PyVal.asDict?
  return ⟨factorName, score, relatedRunIds, metadata⟩

theorem fromDict_toDict (factor : CausalFactor) : fromDict factor.toDict = .ok factor := by
  simp [fromDict, toDict, Dict.optional, Dict.required, Dict.setAll, Dict.get?_set,
    PyVal.asTexts?_texts, PyVal.asDict?_ofDict]
  rfl

end Causal.CausalFactor

/-- The dictionaries in a list. -/
def PyVal.asDicts? (value : PyVal N) : Option (List (Dict N)) :=
  value.asItems?.bind (List.mapM PyVal.asDict?)

def PyVal.dicts (list : List (Dict N)) : PyVal N := .arr (list.map .ofDict)

theorem PyVal.asDicts?_dicts (list : List (Dict N)) : (PyVal.dicts list).asDicts? = some list := by
  rw [asDicts?, dicts, asItems?_arr]
  exact mapM_undoes asDict?_ofDict list

namespace Causal.CausalAttribution

/-- Nothing reads the id of an attribution, which `toDict` is given. -/
def toDict (attributionId : String) (attribution : CausalAttribution) : Dict ℚ :=
  Dict.empty.setAll
    [("attribution_id", .str attributionId), ("drift_event_id", .str attribution.driftEventId),
      ("metric_name", .str attribution.metricName),
      ("factors", .dicts (attribution.factors.map CausalFactor.toDict)),
      ("confidence", .num attribution.confidence), ("metadata", .ofDict attribution.metadata)]

def fromDict (data : Dict ℚ) : Except DecodeError CausalAttribution := do
  let driftEventId ← data.required "drift_event_id" PyVal.asText?
  let metricName ← data.required "metric_name" PyVal.asText?
  let factors ← data.optional "factors" [] PyVal.asDicts?
  let factors ← factors.mapM CausalFactor.fromDict
  let confidence ← data.optional "confidence" 0 PyVal.asPlainNumber?
  let metadata ← data.optional "metadata" .empty PyVal.asDict?
  return ⟨driftEventId, metricName, factors, confidence, metadata⟩

theorem fromDict_toDict (attributionId : String) (attribution : CausalAttribution) :
    fromDict (attribution.toDict attributionId) = .ok attribution := by
  have factors : (attribution.factors.map CausalFactor.toDict).mapM CausalFactor.fromDict =
      .ok attribution.factors :=
    mapM_undoes CausalFactor.fromDict_toDict attribution.factors
  simp [fromDict, toDict, Dict.optional, Dict.required, Dict.setAll, Dict.get?_set,
    PyVal.asDicts?_dicts, PyVal.asDict?_ofDict]
  simp only [bind, Except.bind, factors]

end Causal.CausalAttribution

namespace Optimization.OptimizationAction

/-- Everything but the id, which is drawn anew for every action. -/
def fields (action : OptimizationAction ℚ) : List (String × PyVal ℚ) :=
  [("action_type", .str action.actionType), ("target_run_id", .str action.targetRunId),
    ("change_id", .str action.changeId), ("description", .str action.description),
    ("metadata", .ofDict action.metadata)]

def toDict (actionId : String) (action : OptimizationAction ℚ) : Dict ℚ :=
  Dict.empty.setAll (("action_id", .str actionId) :: action.fields)

def fromDict (data : Dict ℚ) : Except DecodeError (OptimizationAction ℚ) := do
  let actionType ← data.optional "action_type" "" PyVal.asText?
  let targetRunId ← data.optional "target_run_id" "" PyVal.asText?
  let changeId ← data.optional "change_id" "" PyVal.asText?
  let description ← data.optional "description" "" PyVal.asText?
  let metadata ← data.optional "metadata" .empty PyVal.asDict?
  return ⟨actionType, targetRunId, changeId, description, metadata⟩

theorem fromDict_toDict (actionId : String) (action : OptimizationAction ℚ) :
    fromDict (action.toDict actionId) = .ok action := by
  simp [fromDict, toDict, fields, Dict.optional, Dict.setAll, Dict.get?_set,
    PyVal.asDict?_ofDict]
  rfl

/-- Without its id, an encoded action is its fields. -/
theorem toDict_erase (actionId : String) (action : OptimizationAction ℚ) :
    (action.toDict actionId).erase "action_id" = Dict.empty.setAll action.fields := by
  apply Dict.ext
  simp [toDict, fields, Dict.setAll, Dict.set, Dict.erase, Dict.empty, Json.setMember,
    Json.eraseMember]

end Optimization.OptimizationAction

end RagDrift
