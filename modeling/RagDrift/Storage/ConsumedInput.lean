import RagDrift.Storage.Tolerance

set_option autoImplicit false

/- `from_dict` as the caller sees it: what it returns, and what it leaves of the dictionaries it
was given. -/
namespace RagDrift.Storage

variable {N : Type}

/-- `MetricResult.from_dict` pops the class name before anything can fail. -/
def LoadedMetric.takeDict (data : List (String × Json N)) :
    Except PyErr (LoadedMetric N) × List (String × Json N) :=
  (LoadedMetric.fromDict data, Json.eraseMember "_type" data)

def LoadedMetric.takeItem : Json N → Except PyErr (LoadedMetric N) × Json N
  | .obj data =>
      let (metric, left) := takeDict data
      (metric, .obj left)
  | item => (.ok (.raw item), item)

/-- An item that fails is the last one that is touched. -/
def takeMetrics : List (Json N) → Except PyErr (List (LoadedMetric N)) × List (Json N)
  | [] => (.ok [], [])
  | item :: rest =>
      match LoadedMetric.takeItem item with
      | (.error reason, left) => (.error reason, left :: rest)
      | (.ok metric, left) =>
          let (metrics, lefts) := takeMetrics rest
          (metrics.map (metric :: ·), left :: lefts)

/-- `EvaluationRecord.from_dict`. Only the items of a list can be dictionaries. -/
def LoadedRecord.takeDict : Json N → Except PyErr (LoadedRecord N) × Json N
  | .obj data =>
      match data.lookup "metrics" with
      | some (.arr items) =>
          let (metrics, lefts) := takeMetrics items
          (metrics.map (recordWith data), .obj (Json.setMember "metrics" (.arr lefts) data))
      | _ => (LoadedRecord.fromDict (.obj data), .obj data)
  | data => (LoadedRecord.fromDict data, data)

theorem takeItem_result (item : Json N) :
    (LoadedMetric.takeItem item).1 = LoadedMetric.ofItem item := by
  cases item <;> rfl

theorem takeMetrics_result (items : List (Json N)) : (takeMetrics items).1 = loadMetrics items := by
  induction items with
  | nil => rfl
  | cons item rest ih =>
      rw [loadMetrics, ← takeItem_result, ← ih, takeMetrics]
      cases LoadedMetric.takeItem item with
      | mk metric left =>
          cases metric with
          | error reason => rfl
          | ok metric =>
              cases takeMetrics rest with
              | mk metrics lefts => cases metrics <;> rfl

/-- The result is the one of the decoder that does not look at its input afterwards. -/
theorem takeDict_result (value : Json N) :
    (LoadedRecord.takeDict value).1 = LoadedRecord.fromDict value := by
  cases value with
  | null | bool _ | num _ | str _ | arr _ => rfl
  | obj data =>
      rw [LoadedRecord.takeDict]
      split
      · rename_i items entry
        have looped : decodedMetrics data = loadMetrics items := by
          rw [decodedMetrics, entry]
          rfl
        rw [fromDict_obj, looped, ← takeMetrics_result]
      · rfl

/-- An item after its class name was popped. -/
def untagged : Json N → Json N
  | .obj data => .obj (Json.eraseMember "_type" data)
  | item => item

theorem takeItem_left (item : Json N) : (LoadedMetric.takeItem item).2 = untagged item := by
  cases item <;> rfl

theorem takeMetrics_left {items : List (Json N)} {metrics : List (LoadedMetric N)}
    (read : loadMetrics items = .ok metrics) : (takeMetrics items).2 = items.map untagged := by
  induction items generalizing metrics with
  | nil => rfl
  | cons item rest ih =>
      obtain ⟨metric, here, read⟩ := Exceptions.bind_ok_iff.mp read
      obtain ⟨others, later, _⟩ := Exceptions.bind_ok_iff.mp read
      have pair : LoadedMetric.takeItem item = (.ok metric, untagged item) :=
        Prod.ext ((takeItem_result item).trans here) (takeItem_left item)
      rw [takeMetrics, pair, List.map_cons, ← ih later]

/-- The dictionary of a record with other entries for its metrics. -/
def EvaluationRecord.withItems (record : EvaluationRecord N) (items : List (Json N)) : Json N :=
  .obj [("record_id", .str record.recordId), ("run_id", .str record.runId),
    ("timestamp", .num record.timestamp), ("system_version", optionText record.systemVersion),
    ("metrics", .arr items), ("metadata", .obj record.metadata.members)]

theorem withItems_toDict (record : EvaluationRecord N) :
    record.withItems (record.metrics.map MetricResult.toDict) = record.toDict := rfl

/-- After a call every metric has lost its class name. -/
theorem takeDict_left (record : EvaluationRecord N) :
    (LoadedRecord.takeDict record.toDict).2 =
      record.withItems (record.metrics.map fun metric => untagged metric.toDict) := by
  have step : (LoadedRecord.takeDict record.toDict).2 =
      record.withItems (takeMetrics (record.metrics.map MetricResult.toDict)).2 := rfl
  rw [step, takeMetrics_left (loadMetrics_toDict record.metrics), List.map_map]
  rfl

theorem untagged_ne (metric : MetricResult N) : untagged metric.toDict ≠ metric.toDict := by
  obtain ⟨metricName, value, metadata, kind⟩ := metric
  intro same
  have lengths := congrArg List.length (Json.obj.inj same)
  cases kind <;> simp [MetricKind.extraFields, Json.eraseMember] at lengths

theorem withItems_injective (record : EvaluationRecord N) {items others : List (Json N)}
    (same : record.withItems items = record.withItems others) : items = others := by
  simpa [EvaluationRecord.withItems] using same

/-- Only a record without metrics leaves its dictionary as it was. -/
theorem takeDict_left_iff (record : EvaluationRecord N) :
    (LoadedRecord.takeDict record.toDict).2 = record.toDict ↔ record.metrics = [] := by
  rw [takeDict_left]
  constructor
  · intro same
    have items := withItems_injective record (same.trans (withItems_toDict record).symm)
    cases metrics : record.metrics with
    | nil => rfl
    | cons metric rest =>
        rw [metrics, List.map_cons, List.map_cons] at items
        exact absurd (List.cons.inj items).1 (untagged_ne metric)
  · intro empty
    rw [← withItems_toDict, empty]
    rfl

/-- An instance of the base class. -/
def MetricResult.Plain (metric : MetricResult N) : Prop := metric.kind = .metricResult

instance (metric : MetricResult N) : Decidable metric.Plain :=
  inferInstanceAs (Decidable (metric.kind = .metricResult))

theorem ofItem_untagged (metric : MetricResult N) :
    LoadedMetric.ofItem (untagged metric.toDict) =
      if metric.Plain then .ok metric.loaded else .error .typeError := by
  obtain ⟨metricName, value, metadata, kind⟩ := metric
  cases kind <;> rfl

theorem loadMetrics_untagged (metrics : List (MetricResult N)) :
    loadMetrics (metrics.map fun metric => untagged metric.toDict) =
      if ∀ metric ∈ metrics, metric.Plain then .ok (metrics.map MetricResult.loaded)
      else .error .typeError := by
  induction metrics with
  | nil => rfl
  | cons metric rest ih =>
      rw [List.map_cons, loadMetrics, ofItem_untagged, ih]
      simp only [List.forall_mem_cons]
      by_cases first : metric.Plain
      · by_cases others : ∀ other ∈ rest, other.Plain
        · rw [if_pos first, if_pos others, if_pos ⟨first, others⟩]
          rfl
        · have mixed : ¬ (metric.Plain ∧ ∀ other ∈ rest, other.Plain) := fun both => others both.2
          rw [if_pos first, if_neg others, if_neg mixed]
          rfl
      · have mixed : ¬ (metric.Plain ∧ ∀ other ∈ rest, other.Plain) := fun both => first both.1
        rw [if_neg first, if_neg mixed]
        rfl

theorem fromDict_withItems (record : EvaluationRecord N) (items : List (Json N)) :
    LoadedRecord.fromDict (record.withItems items) =
      (loadMetrics items).map fun metrics => { record.loaded with metrics := metrics } := rfl

/-- The classes of the metrics are gone with their names, and the fields of the subclasses are no
arguments of the base class. -/
theorem takeDict_again (record : EvaluationRecord N) :
    (LoadedRecord.takeDict (LoadedRecord.takeDict record.toDict).2).1 =
      if ∀ metric ∈ record.metrics, metric.Plain then .ok record.loaded
      else .error .typeError := by
  rw [takeDict_result, takeDict_left, fromDict_withItems, loadMetrics_untagged]
  split
  · rfl
  · rfl

theorem takeDict_first (record : EvaluationRecord N) :
    (LoadedRecord.takeDict record.toDict).1 = .ok record.loaded := by
  rw [takeDict_result, record.fromDict_toDict]

/-- Two calls give the same record where no metric is of a subclass. -/
theorem decodes_twice_iff (record : EvaluationRecord N) :
    (LoadedRecord.takeDict (LoadedRecord.takeDict record.toDict).2).1 =
        (LoadedRecord.takeDict record.toDict).1 ↔ ∀ metric ∈ record.metrics, metric.Plain := by
  rw [takeDict_again, takeDict_first]
  split
  · rename_i plain
    exact ⟨fun _ => plain, fun _ => rfl⟩
  · rename_i subclass
    exact ⟨nofun, fun plain => absurd plain subclass⟩

/-- The dictionary of a record can be decoded, is the same afterwards, and gives the same record
again. -/
structure Reusable (record : EvaluationRecord N) : Prop where
  unchanged : (LoadedRecord.takeDict record.toDict).2 = record.toDict
  again : ∃ loaded, (LoadedRecord.takeDict record.toDict).1 = .ok loaded ∧
    (LoadedRecord.takeDict (LoadedRecord.takeDict record.toDict).2).1 = .ok loaded

theorem reusable_iff (record : EvaluationRecord N) : Reusable record ↔ record.metrics = [] := by
  constructor
  · intro reusable
    exact (takeDict_left_iff record).mp reusable.unchanged
  · intro empty
    have unchanged := (takeDict_left_iff record).mpr empty
    refine ⟨unchanged, record.loaded, takeDict_first record, ?_⟩
    rw [unchanged]
    exact takeDict_first record

def driftRecord : EvaluationRecord Int where
  runId := "run-1"
  metrics := [⟨"js_divergence", 1, Dict.empty, .driftResult (some "run-0") (some "run-1")⟩]
  metadata := Dict.empty
  systemVersion := none
  recordId := "record-1"
  timestamp := 0

theorem driftRecord_consumed : ¬ ∀ record : EvaluationRecord Int, Reusable record := by
  intro always
  have same := (always driftRecord).unchanged
  rw [takeDict_left] at same
  have items := withItems_injective driftRecord (same.trans (withItems_toDict driftRecord).symm)
  exact untagged_ne _ (List.cons.inj items).1

end RagDrift.Storage
