import RagDrift.Json.Reading
import RagDrift.Storage.Models

set_option autoImplicit false

/- Decoded records whose fields hold what their annotations say. -/
namespace RagDrift.Storage

variable {N : Type}

def asOptionText? : Json N → Option (Option String)
  | .null => some none
  | .str text => some (some text)
  | _ => none

def LoadedMetric.typed? : LoadedMetric N → Option (MetricResult N)
  | .metricResult (.str metricName) (.num value) metadata => do
      let metadata ← metadata.toDict?
      return ⟨metricName, value, metadata, .metricResult⟩
  | .driftResult (.str metricName) (.num value) metadata baselineRunId currentRunId => do
      let metadata ← metadata.toDict?
      let baselineRunId ← asOptionText? baselineRunId
      let currentRunId ← asOptionText? currentRunId
      return ⟨metricName, value, metadata, .driftResult baselineRunId currentRunId⟩
  | .qualityResult (.str metricName) (.num value) metadata runId => do
      let metadata ← metadata.toDict?
      let runId ← asOptionText? runId
      return ⟨metricName, value, metadata, .qualityResult runId⟩
  | _ => none

/-- The id where the record was stored without one. -/
def LoadedRecord.recordIdOr (uuid4 : String) (record : LoadedRecord N) : Option String :=
  match record.recordId with
  | none => some uuid4
  | some (.str recordId) => some recordId
  | some _ => none

def LoadedRecord.timestampOr (now : N) (record : LoadedRecord N) : Option N :=
  match record.timestamp with
  | none => some now
  | some (.num timestamp) => some timestamp
  | some _ => none

/-- The record after `__post_init__`. -/
def LoadedRecord.typed? (uuid4 : String) (now : N) (record : LoadedRecord N) :
    Option (EvaluationRecord N) := do
  let runId ← match record.runId with
    | .str runId => some runId
    | _ => none
  let metrics ← record.metrics.mapM LoadedMetric.typed?
  let metadata ← record.metadata.toDict?
  let systemVersion ← asOptionText? record.systemVersion
  let recordId ← record.recordIdOr uuid4
  let timestamp ← record.timestampOr now
  return ⟨runId, metrics, metadata, systemVersion, recordId, timestamp⟩

theorem asOptionText?_optionText (text : Option String) :
    asOptionText? (optionText text : Json N) = some text := by
  cases text <;> rfl

theorem MetricResult.typed?_loaded (metric : MetricResult N) :
    metric.loaded.typed? = some metric := by
  obtain ⟨metricName, value, metadata, kind⟩ := metric
  cases kind with
  | metricResult => simp [loaded, LoadedMetric.typed?, Json.toDict?_members]
  | driftResult baselineRunId currentRunId =>
      simp [loaded, LoadedMetric.typed?, Json.toDict?_members, asOptionText?_optionText]
  | qualityResult runId =>
      simp [loaded, LoadedMetric.typed?, Json.toDict?_members, asOptionText?_optionText]

/-- A record that was encoded and decoded is the record. -/
theorem EvaluationRecord.typed?_loaded (uuid4 : String) (now : N) (record : EvaluationRecord N) :
    record.loaded.typed? uuid4 now = some record := by
  have metrics : (record.metrics.map MetricResult.loaded).mapM LoadedMetric.typed? =
      some record.metrics :=
    mapM_undoes MetricResult.typed?_loaded record.metrics
  simp [LoadedRecord.typed?, loaded, metrics, Json.toDict?_members, asOptionText?_optionText,
    LoadedRecord.recordIdOr, LoadedRecord.timestampOr]

/-- The dictionary a record is encoded as. -/
def EvaluationRecord.dict (record : EvaluationRecord N) : Dict N :=
  ⟨("record_id", .str record.recordId) :: record.members, record.toDict_distinct⟩

end RagDrift.Storage
