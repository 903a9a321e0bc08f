import RagDrift.Json.Document
import RagDrift.Json.Dict

set_option autoImplicit false

/- `evaluator.metrics.results` and `evaluator.storage.models`: what an evaluation leaves
behind, its JSON form, and the object that form is decoded to. -/
namespace RagDrift.Storage

variable {N : Type}

/-- The exceptions the modelled code can meet. -/
inductive PyErr where
  | typeError
  | attributeError
  | valueError
  deriving DecidableEq

/-- `MetricResult` and its two subclasses, with the fields each one adds. -/
inductive MetricKind where
  | metricResult
  | driftResult (baselineRunId currentRunId : Option String)
  | qualityResult (runId : Option String)
  deriving DecidableEq

structure MetricResult (N : Type) where
  metricName : String
  value : N
  metadata : Dict N
  kind : MetricKind

/-- `__post_init__` fills in a missing id and timestamp, so a record always has both. -/
structure EvaluationRecord (N : Type) where
  runId : String
  metrics : List (MetricResult N)
  metadata : Dict N
  systemVersion : Option String
  recordId : String
  timestamp : N

def optionText : Option String → Json N
  | none => .null
  | some text => .str text

def MetricKind.extraFields : MetricKind → List (String × Json N)
  | .metricResult => []
  | .driftResult baselineRunId currentRunId =>
      [("baseline_run_id", optionText baselineRunId), ("current_run_id", optionText currentRunId)]
  | .qualityResult runId => [("run_id", optionText runId)]

def MetricKind.typeName : MetricKind → String
  | .metricResult => "MetricResult"
  | .driftResult _ _ => "DriftResult"
  | .qualityResult _ => "QualityResult"

def MetricResult.toDict (metric : MetricResult N) : Json N :=
  .obj ([("metric_name", .str metric.metricName), ("value", .num metric.value),
      ("metadata", .obj metric.metadata.members)] ++
    metric.kind.extraFields ++ [("_type", .str metric.kind.typeName)])

def EvaluationRecord.members (record : EvaluationRecord N) : List (String × Json N) :=
  [("run_id", .str record.runId), ("timestamp", .num record.timestamp),
    ("system_version", optionText record.systemVersion),
    ("metrics", .arr (record.metrics.map MetricResult.toDict)),
    ("metadata", .obj record.metadata.members)]

def EvaluationRecord.toDict (record : EvaluationRecord N) : Json N :=
  .obj (("record_id", .str record.recordId) :: record.members)

theorem optionText_distinct (text : Option String) : (optionText text : Json N).KeysDistinct := by
  cases text <;> trivial

theorem MetricResult.toDict_distinct (metric : MetricResult N) : metric.toDict.KeysDistinct := by
  obtain ⟨metricName, value, metadata, kind⟩ := metric
  have inner := metadata.distinct
  cases kind <;>
    simp only [toDict, MetricKind.extraFields, MetricKind.typeName, Json.keysDistinct_obj_iff,
      List.cons_append, List.nil_append] <;>
    refine ⟨by simp, ?_⟩ <;>
    simp [Json.KeysDistinct, optionText_distinct] <;>
    exact inner

theorem EvaluationRecord.toDict_distinct (record : EvaluationRecord N) :
    record.toDict.KeysDistinct := by
  have metrics : (Json.arr (record.metrics.map MetricResult.toDict)).KeysDistinct := by
    rw [Json.KeysDistinct, Json.keysDistinctItems_iff]
    intro item inside
    obtain ⟨metric, _, rfl⟩ := List.mem_map.mp inside
    exact metric.toDict_distinct
  rw [toDict, members, Json.keysDistinct_obj_iff]
  refine ⟨by simp, ?_⟩
  intro member inside
  simp only [List.mem_cons, List.not_mem_nil, or_false] at inside
  rcases inside with rfl | rfl | rfl | rfl | rfl | rfl
  · trivial
  · trivial
  · trivial
  · exact optionText_distinct _
  · exact metrics
  · exact record.metadata.distinct

/- Python does not check the annotations, so a decoded object holds whatever its line held. -/

inductive LoadedMetric (N : Type) where
  | metricResult (metricName value metadata : Json N)
  | driftResult (metricName value metadata baselineRunId currentRunId : Json N)
  | qualityResult (metricName value metadata runId : Json N)
  | raw (item : Json N)

/-- `none` for the id or the timestamp: `__post_init__` draws a new one on every load. -/
structure LoadedRecord (N : Type) where
  runId : Json N
  metrics : List (LoadedMetric N)
  metadata : Json N
  systemVersion : Json N
  recordId : Option (Json N)
  timestamp : Option (Json N)

/-- `cls(**data)`: a missing required field or an unknown one is a `TypeError`. -/
def kwargs (required optional : List String) (data : List (String × Json N)) :
    Except PyErr (String → Json N → Json N) :=
  if (∀ name ∈ required, (data.lookup name).isSome) ∧
      ∀ member ∈ data, member.1 ∈ required ∨ member.1 ∈ optional then
    .ok fun name default => (data.lookup name).getD default
  else .error .typeError

def LoadedMetric.fromDict (data : List (String × Json N)) : Except PyErr (LoadedMetric N) :=
  let rest := Json.eraseMember "_type" data
  match data.lookup "_type" with
  | some (.str "DriftResult") => do
      let field ← kwargs ["metric_name", "value"]
        ["metadata", "baseline_run_id", "current_run_id"] rest
      return .driftResult (field "metric_name" .null) (field "value" .null)
        (field "metadata" (.obj [])) (field "baseline_run_id" .null) (field "current_run_id" .null)
  | some (.str "QualityResult") => do
      let field ← kwargs ["metric_name", "value"] ["metadata", "run_id"] rest
      return .qualityResult (field "metric_name" .null) (field "value" .null)
        (field "metadata" (.obj [])) (field "run_id" .null)
  | _ => do
      let field ← kwargs ["metric_name", "value"] ["metadata"] rest
      return .metricResult (field "metric_name" .null) (field "value" .null)
        (field "metadata" (.obj []))

/-- What `for m in metrics_data` runs over. -/
def iterate : Json N → Except PyErr (List (Json N))
  | .arr items => .ok items
  | .str text => .ok (text.toList.map fun c => .str (String.singleton c))
  | .obj members => .ok (members.map fun member => .str member.1)
  | .null | .bool _ | .num _ => .error .typeError

def LoadedMetric.ofItem : Json N → Except PyErr (LoadedMetric N)
  | .obj data => LoadedMetric.fromDict data
  | item => .ok (.raw item)

def loadMetrics : List (Json N) → Except PyErr (List (LoadedMetric N))
  | [] => .ok []
  | item :: rest => do
      let metric ← LoadedMetric.ofItem item
      let metrics ← loadMetrics rest
      return metric :: metrics

def notNone : Json N → Option (Json N)
  | .null => none
  | value => some value

def LoadedRecord.fromDict : Json N → Except PyErr (LoadedRecord N)
  | .obj data => do
      let items ← iterate ((data.lookup "metrics").getD (.arr []))
      let metrics ← loadMetrics items
      return {
        runId := (data.lookup "run_id").getD (.str "")
        metrics := metrics
        metadata := (data.lookup "metadata").getD (.obj [])
        systemVersion := (data.lookup "system_version").getD .null
        recordId := (data.lookup "record_id").bind notNone
        timestamp := (data.lookup "timestamp").bind notNone }
  | _ => .error .attributeError

def MetricResult.loaded (metric : MetricResult N) : LoadedMetric N :=
  match metric.kind with
  | .metricResult =>
      .metricResult (.str metric.metricName) (.num metric.value) (.obj metric.metadata.members)
  | .driftResult baselineRunId currentRunId =>
      .driftResult (.str metric.metricName) (.num metric.value) (.obj metric.metadata.members)
        (optionText baselineRunId) (optionText currentRunId)
  | .qualityResult runId =>
      .qualityResult (.str metric.metricName) (.num metric.value) (.obj metric.metadata.members)
        (optionText runId)

def EvaluationRecord.loaded (record : EvaluationRecord N) : LoadedRecord N where
  runId := .str record.runId
  metrics := record.metrics.map MetricResult.loaded
  metadata := .obj record.metadata.members
  systemVersion := optionText record.systemVersion
  recordId := some (.str record.recordId)
  timestamp := some (.num record.timestamp)

theorem MetricResult.ofItem_toDict (metric : MetricResult N) :
    LoadedMetric.ofItem metric.toDict = .ok metric.loaded := by
  obtain ⟨metricName, value, metadata, kind⟩ := metric
  cases kind <;> rfl

theorem loadMetrics_toDict (metrics : List (MetricResult N)) :
    loadMetrics (metrics.map MetricResult.toDict) = .ok (metrics.map MetricResult.loaded) := by
  induction metrics with
  | nil => rfl
  | cons metric rest ih =>
      rw [List.map_cons, loadMetrics, metric.ofItem_toDict, ih]
      rfl

theorem EvaluationRecord.fromDict_toDict (record : EvaluationRecord N) :
    LoadedRecord.fromDict record.toDict = .ok record.loaded := by
  have read : LoadedRecord.fromDict record.toDict =
      (loadMetrics (record.metrics.map MetricResult.toDict)).bind fun metrics =>
        .ok { record.loaded with metrics := metrics } := rfl
  rw [read, loadMetrics_toDict]
  rfl

theorem optionText_injective : Function.Injective (optionText (N := N)) := by
  intro left right same
  cases left <;> cases right <;> simp_all [optionText]

theorem MetricResult.loaded_injective :
    Function.Injective (MetricResult.loaded : MetricResult N → LoadedMetric N) := by
  rintro ⟨name, value, metadata, kind⟩ ⟨name', value', metadata', kind'⟩ same
  cases kind <;> cases kind' <;>
    simp only [loaded, LoadedMetric.metricResult.injEq, LoadedMetric.driftResult.injEq,
      LoadedMetric.qualityResult.injEq, Json.str.injEq, Json.num.injEq, Json.obj.injEq,
      optionText_injective.eq_iff, reduceCtorEq] at same
  · obtain ⟨rfl, rfl, members⟩ := same
    rw [Dict.ext members]
  · obtain ⟨rfl, rfl, members, rfl, rfl⟩ := same
    rw [Dict.ext members]
  · obtain ⟨rfl, rfl, members, rfl⟩ := same
    rw [Dict.ext members]

theorem EvaluationRecord.loaded_injective :
    Function.Injective (EvaluationRecord.loaded : EvaluationRecord N → LoadedRecord N) := by
  rintro ⟨runId, metrics, metadata, version, recordId, timestamp⟩
    ⟨runId', metrics', metadata', version', recordId', timestamp'⟩ same
  simp only [loaded, LoadedRecord.mk.injEq, Json.str.injEq, Json.num.injEq, Json.obj.injEq,
    Option.some.injEq, optionText_injective.eq_iff,
    (MetricResult.loaded_injective (N := N)).list_map.eq_iff] at same
  obtain ⟨rfl, rfl, members, rfl, rfl, rfl⟩ := same
  rw [Dict.ext members]

end RagDrift.Storage
