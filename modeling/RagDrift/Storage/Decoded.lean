import RagDrift.Storage.Copies
import RagDrift.Storage.Tolerance

set_option autoImplicit false

/- What `to_dict` makes of a record that was decoded, whatever its fields hold, and what a later
load makes of the line that is written. -/
namespace RagDrift.Storage

open Json (dumps NumText)
open Exceptions (bind_ok_iff map_ok_iff toOption_some_iff exists_of_mem_results)

variable {N : Type}

def LoadedRecord.postInit (uuid4 : String) (now : N) (record : LoadedRecord N) :
    LoadedRecord N :=
  { record with
    recordId := some (record.recordId.getD (.str uuid4))
    timestamp := some (record.timestamp.getD (.num now)) }

/-- `EvaluationRecord.from_dict`, with what is drawn for the record at an index. -/
def decode (draws : Draws N) (index : Nat) (data : Json N) : Except PyErr (LoadedRecord N) :=
  (LoadedRecord.fromDict data).map (LoadedRecord.postInit (draws.uuid4 index) (draws.time index))

section ToDict

variable [DecidableEq N] [Zero N] [One N]

def hashable : Json N → Bool
  | .arr _ | .obj _ => false
  | _ => true

/-- `d[key] = value` where keys need not be texts. -/
def setEntry (key value : Json N) : List (Json N × Json N) → List (Json N × Json N)
  | [] => [(key, value)]
  | (other, old) :: rest =>
      if other.canon = key.canon then (other, value) :: rest
      else (other, old) :: setEntry key value rest

def keyAndValue (entry : Json N) : Except PyErr (Json N × Json N) := do
  match ← iterate entry with
  | [key, value] => if hashable key then return (key, value) else throw .typeError
  | _ => throw .valueError

/-- `dict(m)`. -/
def dictOf : Json N → Except PyErr (List (Json N × Json N))
  | .obj members => .ok (members.map fun member => (.str member.1, member.2))
  | m => do
      let entries ← iterate m
      let pairs ← entries.mapM keyAndValue
      return pairs.foldl (fun d pair => setEntry pair.1 pair.2 d) []

variable [NumText N]

/-- How `json.dumps` writes a key. -/
def keyText : Json N → String
  | .str text => text
  | key => String.ofList (dumps key)

def LoadedMetric.toDict : LoadedMetric N → Except PyErr (Json N)
  | .metricResult metricName value metadata =>
      .ok (.obj [("metric_name", metricName), ("value", value), ("metadata", metadata),
        ("_type", .str "MetricResult")])
  | .driftResult metricName value metadata baselineRunId currentRunId =>
      .ok (.obj [("metric_name", metricName), ("value", value), ("metadata", metadata),
        ("baseline_run_id", baselineRunId), ("current_run_id", currentRunId),
        ("_type", .str "DriftResult")])
  | .qualityResult metricName value metadata runId =>
      .ok (.obj [("metric_name", metricName), ("value", value), ("metadata", metadata),
        ("run_id", runId), ("_type", .str "QualityResult")])
  | .raw item =>
      (dictOf item).map fun entries => .obj (entries.map fun entry => (keyText entry.1, entry.2))

/-- The dictionary of a record, in the form in which it is written. -/
def LoadedRecord.toDict (record : LoadedRecord N) : Except PyErr (Json N) := do
  let metrics ← record.metrics.mapM LoadedMetric.toDict
  return .obj [("record_id", record.recordId.getD .null), ("run_id", record.runId),
    ("timestamp", record.timestamp.getD .null), ("system_version", record.systemVersion),
    ("metrics", .arr metrics), ("metadata", record.metadata)]

/-- The record that is decoded from the written form of a record, if there is one. -/
def LoadedRecord.reloaded (record : LoadedRecord N) : Option (LoadedRecord N) :=
  record.toDict.toOption.bind fun value => (LoadedRecord.fromDict value.reread).toOption

theorem LoadedRecord.toDict_shaped {record : LoadedRecord N} {value : Json N}
    (written : record.toDict = .ok value) : RecordShaped value := by
  obtain ⟨metrics, _, same⟩ := bind_ok_iff.mp written
  exact ⟨_, _, (Except.ok.inj same).symm⟩

omit [DecidableEq N] [Zero N] [One N] [NumText N] in
theorem loadValue_obj (members : List (String × Json N)) :
    loadValue (.obj members) = .ok (LoadedRecord.fromDict (.obj members)).toOption := by
  rw [loadValue, fromDict_obj]
  cases decoded : decodedMetrics members with
  | error reason =>
      rw [decodedMetrics_error decoded]
      rfl
  | ok metrics => rfl

/-- A written line is either read as the reloaded record or skipped. -/
theorem loadValue_written {record : LoadedRecord N} {value : Json N}
    (written : record.toDict = .ok value) : loadValue value.reread = .ok record.reloaded := by
  obtain ⟨recordId, members, rfl⟩ := LoadedRecord.toDict_shaped written
  rw [LoadedRecord.reloaded, written, Json.reread, loadValue_obj]
  rfl

end ToDict

def LoadedMetric.Distinct : LoadedMetric N → Prop
  | .metricResult metricName value metadata =>
      metricName.KeysDistinct ∧ value.KeysDistinct ∧ metadata.KeysDistinct
  | .driftResult metricName value metadata baselineRunId currentRunId =>
      metricName.KeysDistinct ∧ value.KeysDistinct ∧ metadata.KeysDistinct ∧
        baselineRunId.KeysDistinct ∧ currentRunId.KeysDistinct
  | .qualityResult metricName value metadata runId =>
      metricName.KeysDistinct ∧ value.KeysDistinct ∧ metadata.KeysDistinct ∧ runId.KeysDistinct
  | .raw item => item.KeysDistinct

/-- An optional field that is filled, and not with `None`. -/
def Filled (field : Option (Json N)) : Prop :=
  ∃ value, field = some value ∧ notNone value = some value ∧ value.KeysDistinct

structure LoadedRecord.Complete (record : LoadedRecord N) : Prop where
  runId : record.runId.KeysDistinct
  metrics : ∀ metric ∈ record.metrics, metric.Distinct
  metadata : record.metadata.KeysDistinct
  systemVersion : record.systemVersion.KeysDistinct
  recordId : Filled record.recordId
  timestamp : Filled record.timestamp

theorem lookup_distinct {data : List (String × Json N)} (distinct : (Json.obj data).KeysDistinct)
    (name : String) {default : Json N} (fine : default.KeysDistinct) :
    ((data.lookup name).getD default).KeysDistinct := by
  cases found : data.lookup name with
  | none => exact fine
  | some value =>
      exact ((Json.keysDistinct_obj_iff data).mp distinct).2 _ (Json.mem_of_lookup found)

theorem kwargs_distinct {required optional : List String} {data : List (String × Json N)}
    (distinct : (Json.obj data).KeysDistinct) {field : String → Json N → Json N}
    (read : kwargs required optional data = .ok field) (name : String) {default : Json N}
    (fine : default.KeysDistinct) : (field name default).KeysDistinct := by
  unfold kwargs at read
  split_ifs at read
  cases read
  exact lookup_distinct distinct name fine

theorem LoadedMetric.fromDict_distinct {data : List (String × Json N)}
    (distinct : (Json.obj data).KeysDistinct) {metric : LoadedMetric N}
    (read : LoadedMetric.fromDict data = .ok metric) : metric.Distinct := by
  have inner : (Json.obj (Json.eraseMember "_type" data)).KeysDistinct :=
    Json.keysDistinct_eraseMember distinct
  have empty : (Json.obj [] : Json N).KeysDistinct := Dict.empty.distinct
  unfold LoadedMetric.fromDict at read
  split at read <;> obtain ⟨field, fields, same⟩ := bind_ok_iff.mp read <;> cases same
  · have all := kwargs_distinct inner fields
    exact ⟨all _ trivial, all _ trivial, all _ empty, all _ trivial, all _ trivial⟩
  · have all := kwargs_distinct inner fields
    exact ⟨all _ trivial, all _ trivial, all _ empty, all _ trivial⟩
  · have all := kwargs_distinct inner fields
    exact ⟨all _ trivial, all _ trivial, all _ empty⟩

theorem iterate_distinct {value : Json N} (distinct : value.KeysDistinct) {items : List (Json N)}
    (read : iterate value = .ok items) : ∀ item ∈ items, item.KeysDistinct := by
  intro item inside
  cases value with
  | null | bool _ | num _ => cases read
  | arr others =>
      cases read
      exact (Json.keysDistinctItems_iff _).mp distinct item inside
  | str text =>
      cases read
      obtain ⟨c, _, rfl⟩ := List.mem_map.mp inside
      trivial
  | obj members =>
      cases read
      obtain ⟨member, _, rfl⟩ := List.mem_map.mp inside
      trivial

theorem loadMetrics_distinct {items : List (Json N)} (distinct : ∀ item ∈ items, item.KeysDistinct)
    {metrics : List (LoadedMetric N)} (read : loadMetrics items = .ok metrics) :
    ∀ metric ∈ metrics, metric.Distinct := by
  induction items generalizing metrics with
  | nil =>
      cases read
      simp
  | cons item rest ih =>
      obtain ⟨first, here, read⟩ := bind_ok_iff.mp read
      obtain ⟨others, later, same⟩ := bind_ok_iff.mp read
      cases same
      rw [List.forall_mem_cons] at distinct ⊢
      refine ⟨?_, ih distinct.2 later⟩
      cases item with
      | obj data => exact LoadedMetric.fromDict_distinct distinct.1 here
      | null | bool _ | num _ | str _ | arr _ =>
          cases here
          exact distinct.1

theorem filled_of_lookup {data : List (String × Json N)} (distinct : (Json.obj data).KeysDistinct)
    (name : String) {drawn : Json N} (fine : notNone drawn = some drawn)
    (plain : drawn.KeysDistinct) :
    Filled (some (((data.lookup name).bind notNone).getD drawn)) := by
  refine ⟨_, rfl, ?_⟩
  have given : ((data.lookup name).getD .null).KeysDistinct := lookup_distinct distinct name trivial
  cases found : data.lookup name with
  | none => exact ⟨fine, plain⟩
  | some value =>
      rw [found] at given
      cases value with
      | null => exact ⟨fine, plain⟩
      | bool _ | num _ | str _ | arr _ | obj _ => exact ⟨rfl, given⟩

/-- What is decoded from a dictionary is complete. -/
theorem decode_complete {draws : Draws N} {index : Nat} {data : Dict N} {record : LoadedRecord N}
    (decoded : decode draws index (.obj data.members) = .ok record) : record.Complete := by
  obtain ⟨loaded, read, rfl⟩ := map_ok_iff.mp decoded
  rw [fromDict_obj] at read
  obtain ⟨metrics, looped, rfl⟩ := map_ok_iff.mp read
  obtain ⟨items, iterated, loadedMetrics⟩ := bind_ok_iff.mp looped
  have empty : (Json.obj [] : Json N).KeysDistinct := Dict.empty.distinct
  have entry : ((data.members.lookup "metrics").getD (.arr [])).KeysDistinct :=
    lookup_distinct data.distinct "metrics" trivial
  exact {
    runId := lookup_distinct data.distinct "run_id" trivial
    metrics := loadMetrics_distinct (iterate_distinct entry iterated) loadedMetrics
    metadata := lookup_distinct data.distinct "metadata" empty
    systemVersion := lookup_distinct data.distinct "system_version" trivial
    recordId := filled_of_lookup data.distinct "record_id" rfl trivial
    timestamp := filled_of_lookup data.distinct "timestamp" rfl trivial }

section Reloaded

variable [DecidableEq N] [Zero N] [One N] [NumText N]

/-- An item of the metrics that was decoded to a metric. -/
def LoadedMetric.Decoded : LoadedMetric N → Prop
  | .raw _ => False
  | _ => True

/-- A metric is written as what it was decoded from. -/
theorem LoadedMetric.toDict_decoded {metric : LoadedMetric N} (decoded : metric.Decoded)
    (distinct : metric.Distinct) :
    ∃ data, metric.toDict = .ok (.obj data) ∧ (Json.obj data).KeysDistinct ∧
      LoadedMetric.fromDict data = .ok metric := by
  cases metric with
  | raw item => cases decoded
  | metricResult metricName value metadata =>
      obtain ⟨first, second, third⟩ := distinct
      refine ⟨_, rfl, ?_, rfl⟩
      rw [Json.keysDistinct_obj_iff]
      exact ⟨by simp, by simpa [Json.KeysDistinct] using ⟨first, second, third⟩⟩
  | driftResult metricName value metadata baselineRunId currentRunId =>
      obtain ⟨first, second, third, fourth, fifth⟩ := distinct
      refine ⟨_, rfl, ?_, rfl⟩
      rw [Json.keysDistinct_obj_iff]
      exact ⟨by simp, by simpa [Json.KeysDistinct] using ⟨first, second, third, fourth, fifth⟩⟩
  | qualityResult metricName value metadata runId =>
      obtain ⟨first, second, third, fourth⟩ := distinct
      refine ⟨_, rfl, ?_, rfl⟩
      rw [Json.keysDistinct_obj_iff]
      exact ⟨by simp, by simpa [Json.KeysDistinct] using ⟨first, second, third, fourth⟩⟩

theorem mapM_toDict_decoded {metrics : List (LoadedMetric N)}
    (decoded : ∀ metric ∈ metrics, metric.Decoded)
    (distinct : ∀ metric ∈ metrics, metric.Distinct) :
    ∃ items, metrics.mapM LoadedMetric.toDict = .ok items ∧
      (∀ item ∈ items, item.KeysDistinct) ∧ loadMetrics items = .ok metrics := by
  induction metrics with
  | nil => exact ⟨[], rfl, by simp, rfl⟩
  | cons metric rest ih =>
      rw [List.forall_mem_cons] at decoded distinct
      obtain ⟨data, here, keys, read⟩ := LoadedMetric.toDict_decoded decoded.1 distinct.1
      obtain ⟨items, others, fine, loaded⟩ := ih decoded.2 distinct.2
      refine ⟨.obj data :: items, ?_, List.forall_mem_cons.mpr ⟨keys, fine⟩, ?_⟩
      · rw [List.mapM_cons, here, others]
        rfl
      · rw [loadMetrics, LoadedMetric.ofItem, read, loaded]
        rfl

theorem reloaded_of_decoded {record : LoadedRecord N} (complete : record.Complete)
    (decoded : ∀ metric ∈ record.metrics, metric.Decoded) : record.reloaded = some record := by
  obtain ⟨items, written, fine, read⟩ := mapM_toDict_decoded decoded complete.metrics
  obtain ⟨recordId, hasId, idGiven, idKeys⟩ := complete.recordId
  obtain ⟨timestamp, hasTime, timeGiven, timeKeys⟩ := complete.timestamp
  have toDict : record.toDict = .ok (.obj [("record_id", recordId), ("run_id", record.runId),
      ("timestamp", timestamp), ("system_version", record.systemVersion),
      ("metrics", .arr items), ("metadata", record.metadata)]) := by
    rw [LoadedRecord.toDict, written, hasId, hasTime]
    rfl
  rw [LoadedRecord.reloaded, toDict, Except.toOption, Option.bind_some, Json.reread_of_distinct]
  · have looped : decodedMetrics [("record_id", recordId), ("run_id", record.runId),
        ("timestamp", timestamp), ("system_version", record.systemVersion),
        ("metrics", .arr items), ("metadata", record.metadata)] = .ok record.metrics := read
    rw [fromDict_obj, looped]
    obtain ⟨runId, metrics, metadata, systemVersion, _, _⟩ := record
    cases hasId
    cases hasTime
    simp [Except.map, Except.toOption, recordWith, Json.lookup_cons, idGiven, timeGiven]
  · rw [Json.keysDistinct_obj_iff]
    refine ⟨by simp, ?_⟩
    simp only [List.forall_mem_cons, List.not_mem_nil, false_imp_iff, implies_true, and_true]
    exact ⟨idKeys, complete.runId, timeKeys, complete.systemVersion,
      (Json.keysDistinctItems_iff items).mpr fine, complete.metadata⟩

omit [DecidableEq N] [Zero N] [One N] [NumText N] in
theorem LoadedMetric.fromDict_decoded {data : List (String × Json N)} {metric : LoadedMetric N}
    (read : LoadedMetric.fromDict data = .ok metric) : metric.Decoded := by
  unfold LoadedMetric.fromDict at read
  split at read <;> obtain ⟨field, _, same⟩ := bind_ok_iff.mp read <;> cases same <;> trivial

omit [DecidableEq N] [Zero N] [One N] [NumText N] in
theorem loadMetrics_decoded {items : List (Json N)}
    (objects : ∀ item ∈ items, ∃ data, item = .obj data) {metrics : List (LoadedMetric N)}
    (read : loadMetrics items = .ok metrics) :
    ∀ metric ∈ metrics, metric.Decoded := by
  induction items generalizing metrics with
  | nil =>
      cases read
      simp
  | cons item rest ih =>
      obtain ⟨first, here, read⟩ := bind_ok_iff.mp read
      obtain ⟨others, later, same⟩ := bind_ok_iff.mp read
      cases same
      rw [List.forall_mem_cons] at objects ⊢
      obtain ⟨⟨data, rfl⟩, objects⟩ := objects
      exact ⟨LoadedMetric.fromDict_decoded here, ih objects later⟩

theorem LoadedMetric.toDict_obj {metric : LoadedMetric N} {item : Json N}
    (written : metric.toDict = .ok item) : ∃ data, item.reread = .obj data := by
  cases metric with
  | raw m =>
      obtain ⟨entries, _, rfl⟩ := map_ok_iff.mp written
      exact ⟨_, rfl⟩
  | metricResult _ _ _ | driftResult _ _ _ _ _ | qualityResult _ _ _ _ =>
      cases written
      exact ⟨_, rfl⟩

/-- Whatever an item was, its written form is read as a metric or not at all. -/
theorem reloaded_decoded {record other : LoadedRecord N} (reloaded : record.reloaded = some other) :
    ∀ metric ∈ other.metrics, metric.Decoded := by
  obtain ⟨value, written, read⟩ := Option.bind_eq_some_iff.mp reloaded
  obtain ⟨items, looped, same⟩ := bind_ok_iff.mp (toOption_some_iff.mp written)
  cases same
  have entry : decodedMetrics (Json.rereadMembers [] [("record_id", record.recordId.getD .null),
      ("run_id", record.runId), ("timestamp", record.timestamp.getD .null),
      ("system_version", record.systemVersion), ("metrics", .arr items),
      ("metadata", record.metadata)]) = loadMetrics (items.map Json.reread) := by
    simp [Json.rereadMembers, Json.setMember, decodedMetrics, Json.lookup_cons, Json.reread,
      Json.rereadItems_eq_map, iterate]
    rfl
  rw [toOption_some_iff, Json.reread, fromDict_obj, entry] at read
  obtain ⟨metrics, loaded, rfl⟩ := map_ok_iff.mp read
  refine loadMetrics_decoded ?_ loaded
  intro item inside
  obtain ⟨before, member, rfl⟩ := List.mem_map.mp inside
  obtain ⟨metric, _, wrote⟩ := exists_of_mem_results looped member
  exact LoadedMetric.toDict_obj wrote

/-- A written record is read back unless an item of its metrics is no dictionary. -/
theorem reloaded_eq_self_iff {record : LoadedRecord N} (complete : record.Complete) :
    record.reloaded = some record ↔ ∀ metric ∈ record.metrics, metric.Decoded :=
  ⟨reloaded_decoded, reloaded_of_decoded complete⟩

end Reloaded

end RagDrift.Storage
