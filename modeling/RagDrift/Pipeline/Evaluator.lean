import RagDrift.Storage.SaveHistory
import RagDrift.Causal.Changes
import RagDrift.Ingestion.RunSchema

set_option autoImplicit false

/- `evaluator.pipeline.evaluator`: an evaluation leaves one record in the history, and the
change extractor later compares the records of neighbouring evaluations. -/
namespace RagDrift.Pipeline

open Storage (EvaluationRecord MetricResult PyErr Disk Holds CleanStart)
open Ingestion (RAGRun)
open Json (NumText)
open Causal

variable {N : Type}

/-- The two metric domains the evaluator delegates to; either may raise. -/
structure Metrics (N : Type) where
  evaluateDrift : RAGRun N → RAGRun N → Except PyErr (MetricResult N)
  evaluateAllFromRun : RAGRun N → Except PyErr (List (MetricResult N))

/-- One call of `evaluate`, with the id and the time its record is given. -/
structure EvaluateCall (N : Type) where
  baselineRun : RAGRun N
  currentRun : RAGRun N
  recordId : String
  timestamp : N

def pipelineName (run : RAGRun N) : PyVal N :=
  match run.systemInfo with
  | some info => .str info.name
  | none => .none

/-- The record `_persist_if_needed` builds. -/
def EvaluateCall.record (call : EvaluateCall N) (metrics : List (MetricResult N)) :
    EvaluationRecord N where
  runId := call.currentRun.runId
  metrics := metrics
  metadata := Dict.empty.setAll
    [("baseline_run_id", .str call.baselineRun.runId),
      ("pipeline_name", pipelineName call.currentRun)]
  systemVersion := call.currentRun.systemVersion
  recordId := call.recordId
  timestamp := call.timestamp

def EvaluateCall.results (scores : Metrics N) (call : EvaluateCall N) :
    Except PyErr (MetricResult N × List (MetricResult N)) := do
  let drift ← scores.evaluateDrift call.baselineRun call.currentRun
  let quality ← scores.evaluateAllFromRun call.currentRun
  return (drift, quality)

variable [NumText N]

/-- The history store is optional; without one nothing is saved. -/
def persistIfNeeded (store : Option Disk) (call : EvaluateCall N)
    (metrics : List (MetricResult N)) : Option Disk :=
  store.map fun disk => Storage.save disk (call.record metrics)

def evaluate (scores : Metrics N) (store : Option Disk) (call : EvaluateCall N) :
    Except PyErr ((MetricResult N × List (MetricResult N)) × Option Disk) := do
  let (drift, quality) ← call.results scores
  return ((drift, quality), persistIfNeeded store call (drift :: quality))

/-- The store behind a sequence of calls; one that raises leaves it as it was. -/
def evaluateAll (scores : Metrics N) (store : Option Disk) (calls : List (EvaluateCall N)) :
    Option Disk :=
  calls.foldl (fun current call =>
    match evaluate scores current call with
    | .ok (_, after) => after
    | .error _ => current) store

def EvaluateCall.record? (scores : Metrics N) (call : EvaluateCall N) :
    Option (EvaluationRecord N) :=
  match call.results scores with
  | .ok (drift, quality) => some (call.record (drift :: quality))
  | .error _ => none

theorem evaluateAll_holds (scores : Metrics N) (calls : List (EvaluateCall N)) {disk : Disk}
    {before : List (EvaluationRecord N)} (holds : Holds disk before)
    (clean : disk.tmp = none) :
    ∃ after, evaluateAll scores (some disk) calls = some after ∧ after.tmp = none ∧
      Holds after (before ++ calls.filterMap (EvaluateCall.record? scores)) := by
  induction calls generalizing disk before with
  | nil =>
      refine ⟨disk, rfl, clean, ?_⟩
      rw [List.filterMap_nil, List.append_nil]
      exact holds
  | cons call rest ih =>
      have stepped : evaluateAll scores (some disk) (call :: rest) =
          evaluateAll scores (match evaluate scores (some disk) call with
            | .ok (_, after) => after
            | .error _ => some disk) rest := rfl
      rw [stepped, List.filterMap_cons]
      cases ran : call.results scores with
      | error reason =>
          simp only [evaluate, ran, EvaluateCall.record?, Bind.bind, Except.bind]
          exact ih holds clean
      | ok results =>
          obtain ⟨drift, quality⟩ := results
          have start : CleanStart disk := Or.inr (by rw [clean]; rfl)
          obtain ⟨after, reached, cleanAfter, holdsAfter⟩ :=
            ih (holds.save start (call.record (drift :: quality))) rfl
          refine ⟨after, ?_, cleanAfter, ?_⟩
          · simpa only [evaluate, ran, Bind.bind, Except.bind, pure, Except.pure,
              persistIfNeeded, Option.map_some] using reached
          · simpa only [EvaluateCall.record?, ran, List.append_assoc,
              List.singleton_append] using holdsAfter

/-- The system behind two runs differs. -/
def SystemChanged (left right : RAGRun N) : Prop :=
  left.systemVersion ≠ right.systemVersion ∨ left.systemInfo ≠ right.systemInfo

/-- `cur` is the next call behind `prev` that does not raise. -/
def NextCompleted (scores : Metrics N) (calls : List (EvaluateCall N))
    (prev cur : EvaluateCall N) : Prop :=
  ∃ front back, (calls.filter fun call => (call.record? scores).isSome) =
    front ++ prev :: cur :: back

omit [NumText N] in
theorem record_get (call : EvaluateCall N) (metrics : List (MetricResult N)) (key : String) :
    (call.record metrics).metadata.get key =
      if key = "pipeline_name" then pipelineName call.currentRun
      else if key = "baseline_run_id" then .str call.baselineRun.runId else .none := by
  simp only [EvaluateCall.record, Dict.setAll, List.foldl_cons, List.foldl_nil, Dict.get_set]
  rfl

section Compare

variable [Zero N] [One N]

omit [NumText N] in
theorem pipelineName_same_iff (left right : RAGRun N) :
    (pipelineName left).Same (pipelineName right) ↔
      left.systemInfo.map (·.name) = right.systemInfo.map (·.name) := by
  unfold pipelineName
  cases left.systemInfo with
  | none =>
      cases right.systemInfo with
      | none => simp only [PyVal.Same.refl]
      | some info => simp [PyVal.Same, PyVal.str, PyVal.none, Json.canon]
  | some info =>
      cases right.systemInfo with
      | none => simp [PyVal.Same, PyVal.str, PyVal.none, Json.canon]
      | some other =>
          simp only [PyVal.same_str_iff, Option.map_some, Option.some.injEq]

omit [NumText N] in
/-- What the extractor can see of an evaluation: the version, the pipeline name and the id of
the baseline run. -/
theorem record_unchanged_iff [DecidableEq N] (prev cur : EvaluateCall N)
    (before after : List (MetricResult N)) :
    Unchanged (prev.record before) (cur.record after) ↔
      prev.currentRun.systemVersion = cur.currentRun.systemVersion ∧
      prev.currentRun.systemInfo.map (·.name) = cur.currentRun.systemInfo.map (·.name) ∧
      prev.baselineRun.runId = cur.baselineRun.runId := by
  rw [← pipelineName_same_iff, ← PyVal.same_str_iff (N := N), Unchanged]
  simp only [record_get]
  constructor
  · rintro ⟨version, same⟩
    exact ⟨version, same "pipeline_name", same "baseline_run_id"⟩
  · rintro ⟨version, pipeline, baseline⟩
    refine ⟨version, ?_⟩
    intro key
    split
    · exact pipeline
    · split
      · exact baseline
      · exact PyVal.Same.refl _

end Compare

omit [NumText N] in
theorem record?_some {scores : Metrics N} {call : EvaluateCall N} {record : EvaluationRecord N}
    (kept : call.record? scores = some record) : ∃ metrics, record = call.record metrics := by
  unfold EvaluateCall.record? at kept
  split at kept
  · rename_i drift quality _
    exact ⟨drift :: quality, (Option.some.inj kept).symm⟩
  · cases kept

omit [NumText N] in
theorem records_increasing [LinearOrder N] (scores : Metrics N) {calls : List (EvaluateCall N)}
    (increasing : (calls.map EvaluateCall.timestamp).Pairwise (· < ·)) :
    (calls.filterMap (EvaluateCall.record? scores)).Pairwise
      fun left right => left.timestamp < right.timestamp := by
  rw [List.pairwise_map] at increasing
  rw [List.pairwise_filterMap]
  refine increasing.imp ?_
  intro left right before record kept record' kept'
  obtain ⟨_, rfl⟩ := record?_some kept
  obtain ⟨_, rfl⟩ := record?_some kept'
  exact before

omit [NumText N] in
theorem records_consecutive [LinearOrder N] {scores : Metrics N} {calls : List (EvaluateCall N)}
    (increasing : (calls.map EvaluateCall.timestamp).Pairwise (· < ·))
    {prev cur : EvaluateCall N} (next : NextCompleted scores calls prev cur) :
    ∃ before after, Consecutive (calls.filterMap (EvaluateCall.record? scores))
      (prev.record before) (cur.record after) := by
  obtain ⟨front, back, split⟩ := next
  have sorted : sortRecords (calls.filterMap (EvaluateCall.record? scores)) =
      calls.filterMap (EvaluateCall.record? scores) :=
    sortRecords_of_sorted ((records_increasing scores increasing).imp le_of_lt)
  have completed : ∀ call ∈ front ++ prev :: cur :: back, (call.record? scores).isSome := by
    rw [← split]
    exact fun call inside => (List.mem_filter.mp inside).2
  obtain ⟨record, kept⟩ := Option.isSome_iff_exists.mp (completed prev (by simp))
  obtain ⟨record', kept'⟩ := Option.isSome_iff_exists.mp (completed cur (by simp))
  obtain ⟨before, rfl⟩ := record?_some kept
  obtain ⟨after, rfl⟩ := record?_some kept'
  refine ⟨before, after, front.filterMap (EvaluateCall.record? scores),
    back.filterMap (EvaluateCall.record? scores), ?_⟩
  have dropped : calls.filterMap (EvaluateCall.record? scores) =
      (calls.filter fun call => (call.record? scores).isSome).filterMap
        (EvaluateCall.record? scores) := by
    rw [List.filterMap_filter]
    apply List.filterMap_congr
    intro call _
    cases call.record? scores <;> rfl
  rw [sorted, dropped, split, List.filterMap_append, List.filterMap_cons, kept,
    List.filterMap_cons, kept']

/-- `extract_change_events` on the store these calls leave behind reports an event at the
record of the given time. -/
def ReportedAt [LinearOrder N] [Zero N] [One N] (rt : Runtime N) (scores : Metrics N)
    (calls : List (EvaluateCall N)) (timestamp : N) : Prop :=
  ∃ disk records, evaluateAll scores (some Disk.fresh) calls = some disk ∧
    Storage.loadAll disk = .ok (records.map EvaluationRecord.loaded) ∧
    ∃ event ∈ extractChangeEvents rt records, event.timestamp = timestamp

theorem reportedAt_iff [LinearOrder N] [Zero N] [One N] (rt : Runtime N) (scores : Metrics N)
    {calls : List (EvaluateCall N)}
    (increasing : (calls.map EvaluateCall.timestamp).Pairwise (· < ·))
    {prev cur : EvaluateCall N} (next : NextCompleted scores calls prev cur) :
    ReportedAt rt scores calls cur.timestamp ↔
      ¬ (prev.currentRun.systemVersion = cur.currentRun.systemVersion ∧
        prev.currentRun.systemInfo.map (·.name) = cur.currentRun.systemInfo.map (·.name) ∧
        prev.baselineRun.runId = cur.baselineRun.runId) := by
  obtain ⟨disk, reached, _, holds⟩ := evaluateAll_holds scores calls Storage.holds_fresh rfl
  rw [List.nil_append] at holds
  obtain ⟨before, after, consecutive⟩ := records_consecutive increasing next
  have distinct : TimesDistinct (calls.filterMap (EvaluateCall.record? scores)) := by
    rw [TimesDistinct, List.Nodup, List.pairwise_map]
    exact (records_increasing scores increasing).imp ne_of_lt
  have reported := event_at_iff rt distinct consecutive
  have time : (cur.record after).timestamp = cur.timestamp := rfl
  rw [record_unchanged_iff, time] at reported
  rw [← reported]
  constructor
  · rintro ⟨disk', records, reached', loaded, found⟩
    rw [reached, Option.some.injEq] at reached'
    subst reached'
    rw [holds.loadAll, Except.ok.injEq] at loaded
    rw [EvaluationRecord.loaded_injective.list_map loaded]
    exact found
  · exact fun found => ⟨disk, _, reached, holds.loadAll, found⟩

/-- A change is reported between two evaluations exactly when the system changed, provided
the version or the pipeline name differs, or the baseline run differs together with the rest
of the system information. -/
theorem change_reported_iff [LinearOrder N] [Zero N] [One N] (rt : Runtime N)
    (scores : Metrics N) {calls : List (EvaluateCall N)}
    (increasing : (calls.map EvaluateCall.timestamp).Pairwise (· < ·))
    {prev cur : EvaluateCall N} (next : NextCompleted scores calls prev cur) :
    (ReportedAt rt scores calls cur.timestamp ↔
        SystemChanged prev.currentRun cur.currentRun) ↔
      prev.currentRun.systemVersion ≠ cur.currentRun.systemVersion ∨
      prev.currentRun.systemInfo.map (·.name) ≠ cur.currentRun.systemInfo.map (·.name) ∨
      (prev.baselineRun.runId ≠ cur.baselineRun.runId ↔
        prev.currentRun.systemInfo ≠ cur.currentRun.systemInfo) := by
  rw [reportedAt_iff rt scores increasing next, SystemChanged]
  by_cases version : prev.currentRun.systemVersion = cur.currentRun.systemVersion
  · by_cases name : prev.currentRun.systemInfo.map (·.name) =
        cur.currentRun.systemInfo.map (·.name)
    · simp only [version, name, true_and, ne_eq, not_true, false_or]
    · have info : prev.currentRun.systemInfo ≠ cur.currentRun.systemInfo :=
        fun same => name (by rw [same])
      simp only [version, name, info, false_and, and_false, not_false_iff, ne_eq, not_true,
        or_true, true_or]
  · simp only [version, false_and, not_false_iff, ne_eq, true_or]

def systemRun (runId model : String) : RAGRun Int where
  schemaVersion := "1.0"
  runId := runId
  query := "q"
  retrievedDocs := ["d"]
  retrievedDocIds := none
  retrievedEmbeddings := none
  queryEmbedding := some [1]
  answer := none
  answerEmbedding := none
  systemInfo := some ⟨"rag", some model, none, none, none⟩
  metadata := Dict.empty
  timestamp := 0
  systemVersion := some "v1"

def qualityResult (metricName runId : String) : MetricResult Int :=
  ⟨metricName, 1, Dict.empty, .qualityResult (some runId)⟩

/-- Equal embeddings have no divergence, and the judge is content with every answer. -/
def equalMetrics : Metrics Int where
  evaluateDrift baseline current :=
    .ok ⟨"js_divergence", 0, Dict.empty.setAll
      [("is_drifted", .bool false), ("method", .str "jensen_shannon")],
      .driftResult (some baseline.runId) (some current.runId)⟩
  evaluateAllFromRun run :=
    .ok [qualityResult "faithfulness" run.runId, qualityResult "context_precision" run.runId]

def modelCalls : List (EvaluateCall Int) :=
  [⟨systemRun "b" "m1", systemRun "r1" "m1", "a", 1⟩,
    ⟨systemRun "b" "m1", systemRun "r2" "m2", "b", 2⟩]

theorem modelCalls_next : NextCompleted equalMetrics modelCalls
    ⟨systemRun "b" "m1", systemRun "r1" "m1", "a", 1⟩
    ⟨systemRun "b" "m1", systemRun "r2" "m2", "b", 2⟩ := ⟨[], [], rfl⟩

theorem change_reported_iff_model :
    (ReportedAt (wholeRuntime []) equalMetrics modelCalls 2 ↔
        SystemChanged (systemRun "r1" "m1") (systemRun "r2" "m2")) ↔
      (systemRun "r1" "m1").systemVersion ≠ (systemRun "r2" "m2").systemVersion ∨
      (systemRun "r1" "m1").systemInfo.map (·.name) ≠
        (systemRun "r2" "m2").systemInfo.map (·.name) ∨
      ((systemRun "b" "m1").runId ≠ (systemRun "b" "m1").runId ↔
        (systemRun "r1" "m1").systemInfo ≠ (systemRun "r2" "m2").systemInfo) :=
  change_reported_iff (wholeRuntime []) equalMetrics (by decide)
    modelCalls_next

/-- Another model under the same pipeline name is not reported. -/
theorem model_change_unreported : ¬ ∀ (rt : Runtime Int) (scores : Metrics Int)
    (calls : List (EvaluateCall Int)) (prev cur : EvaluateCall Int),
    (calls.map EvaluateCall.timestamp).Pairwise (· < ·) →
    NextCompleted scores calls prev cur →
    (ReportedAt rt scores calls cur.timestamp ↔
      SystemChanged prev.currentRun cur.currentRun) := by
  intro all
  have reported := (all (wholeRuntime []) equalMetrics modelCalls _ _ (by decide)
    modelCalls_next).mpr (Or.inr (by decide))
  rw [reportedAt_iff _ _ (by decide) modelCalls_next] at reported
  exact reported ⟨rfl, rfl, rfl⟩

end RagDrift.Pipeline
