import RagDrift.Api.Histories
import RagDrift.Json.Fractions
import RagDrift.Pipeline.Evaluator

set_option autoImplicit false

/- What the drift detector reads from the history that evaluations leave behind. -/
namespace RagDrift.Pipeline

open Exceptions (bind_ok_iff)
open Ingestion (RAGRun)
open Storage (Disk EvaluationRecord Holds MetricResult PyErr)
open Temporal (Point detectDriftEvents detectDriftFromStore getMetricSeriesWithRuns recordPoints)

/-- The divergence of two runs with its verdict, and the two scores of the language model, which
are numbers for every answer it gives. -/
structure Judges where
  computeJensenShannonDrift : RAGRun ℚ → RAGRun ℚ → Except PyErr (ℚ × Bool)
  faithfulness : RAGRun ℚ → ℚ
  contextPrecision : RAGRun ℚ → ℚ

def validated (run : RAGRun ℚ) : Except PyErr Unit := run.validate.mapError fun _ => .valueError

/-- The `DriftResult` of `evaluate_drift`. -/
def driftResult (baselineRun currentRun : RAGRun ℚ) (score : ℚ × Bool) : MetricResult ℚ where
  metricName := "js_divergence"
  value := score.1
  metadata := Dict.empty.setAll [("is_drifted", .bool score.2), ("method", .str "jensen_shannon")]
  kind := .driftResult (some baselineRun.runId) (some currentRun.runId)

def scored (metricName : String) (run : RAGRun ℚ) (value : ℚ) : MetricResult ℚ :=
  ⟨metricName, value, .empty, .qualityResult (some run.runId)⟩

/-- `evaluate_drift` and `evaluate_all_from_run`. -/
def Judges.metrics (judges : Judges) : Metrics ℚ where
  evaluateDrift baselineRun currentRun := do
    validated baselineRun
    validated currentRun
    let score ← judges.computeJensenShannonDrift baselineRun currentRun
    return driftResult baselineRun currentRun score
  evaluateAllFromRun run := do
    validated run
    return [scored "faithfulness" run (judges.faithfulness run),
      scored "context_precision" run (judges.contextPrecision run)]

/-- The point of the series of a metric that a call adds: the number it returned. -/
def EvaluateCall.point? (judges : Judges) (metricName : String) (call : EvaluateCall ℚ) :
    Option Point :=
  match call.results judges.metrics with
  | .ok (drift, quality) =>
      ((drift :: quality).find? (·.metricName = metricName)).map fun metric =>
        ⟨call.timestamp, metric.value, call.currentRun.runId⟩
  | .error _ => none

variable {judges : Judges}

/-- What a call returns names three metrics. -/
theorem results_ok {call : EvaluateCall ℚ} {drift : MetricResult ℚ}
    {quality : List (MetricResult ℚ)}
    (ran : call.results judges.metrics = .ok (drift, quality)) :
    ∃ score faithfulness precision, drift = driftResult call.baselineRun call.currentRun score ∧
      quality = [scored "faithfulness" call.currentRun faithfulness,
        scored "context_precision" call.currentRun precision] := by
  obtain ⟨found, compared, ran⟩ := bind_ok_iff.mp ran
  obtain ⟨rest, judged, returned⟩ := bind_ok_iff.mp ran
  cases returned
  obtain ⟨_, _, compared⟩ := bind_ok_iff.mp compared
  obtain ⟨_, _, compared⟩ := bind_ok_iff.mp compared
  obtain ⟨score, _, made⟩ := bind_ok_iff.mp compared
  obtain ⟨_, _, listed⟩ := bind_ok_iff.mp judged
  cases made
  cases listed
  exact ⟨score, _, _, rfl, rfl⟩

/-- The points of the record of a call. -/
theorem record?_points (judges : Judges) (metricName : String) (call : EvaluateCall ℚ) :
    ((call.record? judges.metrics).toList.flatMap (recordPoints metricName)) =
      (call.point? judges metricName).toList := by
  cases ran : call.results judges.metrics with
  | error reason => simp [EvaluateCall.record?, EvaluateCall.point?, ran]
  | ok results =>
      obtain ⟨drift, quality⟩ := results
      obtain ⟨score, faithfulness, precision, rfl, rfl⟩ := results_ok ran
      simp only [EvaluateCall.record?, EvaluateCall.point?, ran, Option.toList_some,
        List.flatMap_singleton, recordPoints, EvaluateCall.record]
      by_cases drift : metricName = "js_divergence"
      · subst drift
        rfl
      by_cases faithful : metricName = "faithfulness"
      · subst faithful
        rfl
      by_cases precise : metricName = "context_precision"
      · subst precise
        rfl
      simp [driftResult, scored, Ne.symm drift, Ne.symm faithful, Ne.symm precise]

variable {J : Type}

/-- The store behind calls during which the metrics may answer differently. -/
def evaluateEach (judges : J → Judges) (call : J → EvaluateCall ℚ) (store : Option Disk)
    (calls : List J) : Option Disk :=
  calls.foldl (fun current item => evaluateAll (judges item).metrics current [call item]) store

/-- The records that the calls leave behind. -/
def keptRecords (judges : J → Judges) (call : J → EvaluateCall ℚ) (calls : List J) :
    List (EvaluationRecord ℚ) :=
  calls.filterMap fun item => (call item).record? (judges item).metrics

theorem keptRecords_cons (judges : J → Judges) (call : J → EvaluateCall ℚ) (item : J)
    (rest : List J) :
    keptRecords judges call (item :: rest) =
      [call item].filterMap (EvaluateCall.record? (judges item).metrics) ++
        keptRecords judges call rest := by
  rw [keptRecords, List.filterMap_cons, List.filterMap_cons]
  cases (call item).record? (judges item).metrics <;> rfl

theorem evaluateEach_holds (judges : J → Judges) (call : J → EvaluateCall ℚ) (calls : List J)
    {disk : Disk} {before : List (EvaluationRecord ℚ)} (holds : Holds disk before)
    (clean : disk.tmp = none) :
    ∃ after, evaluateEach judges call (some disk) calls = some after ∧
      Holds after (before ++ keptRecords judges call calls) := by
  induction calls generalizing disk before with
  | nil =>
      refine ⟨disk, rfl, ?_⟩
      rw [keptRecords, List.filterMap_nil, List.append_nil]
      exact holds
  | cons item rest ih =>
      obtain ⟨middle, ran, cleanMiddle, kept⟩ :=
        evaluateAll_holds (judges item).metrics [call item] holds clean
      obtain ⟨after, reached, holdsAfter⟩ := ih kept cleanMiddle
      refine ⟨after, ?_, ?_⟩
      · rw [← reached, ← ran]
        rfl
      · rw [List.append_assoc] at holdsAfter
        rw [keptRecords_cons]
        exact holdsAfter

/-- The points of the records of some calls, in their order. -/
theorem records_points (judges : J → Judges) (call : J → EvaluateCall ℚ) (metricName : String)
    (calls : List J) :
    (keptRecords judges call calls).flatMap (recordPoints metricName) =
      calls.filterMap fun item => (call item).point? (judges item) metricName := by
  rw [keptRecords, List.filterMap_eq_flatMap_toList, List.flatMap_assoc,
    List.filterMap_eq_flatMap_toList]
  congr 1
  funext item
  exact record?_points (judges item) metricName (call item)

/-- The series behind calls that came in the order of their times. -/
theorem series_points (judges : J → Judges) (call : J → EvaluateCall ℚ) {calls : List J}
    {before : List (EvaluationRecord ℚ)}
    (later : ∀ old ∈ before, ∀ item ∈ calls, old.timestamp ≤ (call item).timestamp)
    (ordered : calls.Pairwise fun first second => (call first).timestamp ≤ (call second).timestamp)
    (metricName : String) :
    getMetricSeriesWithRuns (before ++ keptRecords judges call calls) metricName =
      getMetricSeriesWithRuns before metricName ++
        calls.filterMap fun item => (call item).point? (judges item) metricName := by
  have behind : ∀ old ∈ before, ∀ new ∈ keptRecords judges call calls,
      old.timestamp ≤ new.timestamp := by
    intro old there new inside
    obtain ⟨item, called, made⟩ := List.mem_filterMap.mp inside
    obtain ⟨metrics, rfl⟩ := record?_some made
    exact later old there item called
  have sorted : Causal.TimeSorted (keptRecords judges call calls) := by
    rw [Causal.TimeSorted, keptRecords, List.pairwise_filterMap]
    refine ordered.imp ?_
    intro first second less record made record' made'
    obtain ⟨_, rfl⟩ := record?_some made
    obtain ⟨_, rfl⟩ := record?_some made'
    exact less
  rw [Temporal.getMetricSeriesWithRuns_append behind,
    Temporal.getMetricSeriesWithRuns_eq (keptRecords judges call calls),
    Causal.sortRecords_of_sorted sorted, records_points]

/-- Behind the evaluations that were kept before, the detector reads exactly what the calls
returned, one number for each of them and none for those that raised. -/
theorem detects_what_was_returned (judges : J → Judges) (call : J → EvaluateCall ℚ)
    {calls : List J} {disk : Disk} {before : List (EvaluationRecord ℚ)}
    (holds : Holds disk before) (clean : disk.tmp = none)
    (later : ∀ old ∈ before, ∀ item ∈ calls, old.timestamp ≤ (call item).timestamp)
    (ordered : calls.Pairwise fun first second =>
      (call first).timestamp ≤ (call second).timestamp) :
    ∃ after records, evaluateEach judges call (some disk) calls = some after ∧
      Storage.loadAll after = .ok (records.map EvaluationRecord.loaded) ∧
      ∀ uuid4 metricName windowSize threshold,
        detectDriftFromStore uuid4 records metricName windowSize threshold =
          detectDriftEvents uuid4 (getMetricSeriesWithRuns before metricName ++
            calls.filterMap fun item => (call item).point? (judges item) metricName) windowSize
              threshold metricName := by
  obtain ⟨after, ran, kept⟩ := evaluateEach_holds judges call calls holds clean
  refine ⟨after, _, ran, kept.loadAll, ?_⟩
  intro uuid4 metricName windowSize threshold
  rw [detectDriftFromStore, series_points judges call later ordered metricName]

/-- Judges that give both runs the same score. -/
def evenJudges (score : ℚ) : Judges where
  computeJensenShannonDrift _ _ := .ok (0, false)
  faithfulness _ := score
  contextPrecision _ := score

def askedRun (runId query : String) : RAGRun ℚ where
  schemaVersion := "1.0"
  runId := runId
  query := query
  retrievedDocs := ["d"]
  retrievedDocIds := none
  retrievedEmbeddings := none
  queryEmbedding := some [1]
  answer := none
  answerEmbedding := none
  systemInfo := none
  metadata := .empty
  timestamp := 0
  systemVersion := some "v1"

/-- The second of these calls raises, and the last gets another score for the same run. -/
def askedCalls : List (ℚ × EvaluateCall ℚ) :=
  [(1, ⟨askedRun "b" "q", askedRun "r1" "q", "a", 1⟩),
    (1, ⟨askedRun "b" "q", askedRun "r2" "", "b", 2⟩),
    (1 / 2, ⟨askedRun "b" "q", askedRun "r1" "q", "c", 3⟩)]

theorem detects_what_was_returned_fresh :
    ∃ after records,
      evaluateEach (evenJudges ∘ Prod.fst) Prod.snd (some Disk.fresh) askedCalls = some after ∧
      Storage.loadAll after = .ok (records.map EvaluationRecord.loaded) ∧
      ∀ uuid4 metricName windowSize threshold,
        detectDriftFromStore uuid4 records metricName windowSize threshold =
          detectDriftEvents uuid4 (getMetricSeriesWithRuns [] metricName ++
            askedCalls.filterMap fun item => item.2.point? (evenJudges item.1) metricName)
              windowSize threshold metricName :=
  detects_what_was_returned (evenJudges ∘ Prod.fst) Prod.snd Storage.holds_fresh rfl (by simp)
    (by simp [askedCalls]; norm_num)

example : askedCalls.filterMap (fun item => item.2.point? (evenJudges item.1) "faithfulness") =
    [⟨1, 1, "r1"⟩, ⟨3, 1 / 2, "r1"⟩] := rfl

end RagDrift.Pipeline
