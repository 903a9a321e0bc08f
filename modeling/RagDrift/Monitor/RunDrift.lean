import RagDrift.Ingestion.EvaluationFrame
import RagDrift.Monitor.Reordered

set_option autoImplicit false

/- Vector drift between two windows of runs, and between the frames of these runs. -/
namespace RagDrift.Monitor

open Exceptions (mapM_ok_iff)
open Ingestion (RAGRun Coercions toEvaluationFrame_embeddings)
open Telemetry (RAGEvaluationFrame)

variable {S : Type}

section Runs

variable {N : Type}

/-- The first of the three places of a run that holds an embedding. -/
def runEmbedding? (run : RAGRun N) : Option (List N) :=
  (run.queryEmbedding.or run.answerEmbedding).or (run.retrievedEmbeddings.getD []).head?

/-- `_collect_vector_embeddings_from_runs`. -/
def collectVectorEmbeddingsFromRuns (runs : List (RAGRun N)) :
    Except VectorError (Option (List (List N))) :=
  let vectors := runs.filterMap runEmbedding?
  if vectors = [] then .ok none
  else if ∀ row ∈ vectors, row.length = width vectors then .ok (some vectors)
  else .error .inhomogeneousShape

/-- No embedding of the run is an array without entries. -/
structure Filled (run : RAGRun N) : Prop where
  query : run.queryEmbedding ≠ some []
  answer : run.answerEmbedding ≠ some []
  retrieved : ∀ rows ∈ run.retrievedEmbeddings, [] ∉ rows

theorem runEmbedding?_ne_nil {run : RAGRun N} (filled : Filled run) {embedding : List N}
    (picked : runEmbedding? run = some embedding) : embedding ≠ [] := by
  rintro rfl
  unfold runEmbedding? at picked
  rcases Option.or_eq_some_iff.mp picked with early | ⟨_, first⟩
  · rcases Option.or_eq_some_iff.mp early with query | ⟨_, answer⟩
    · exact filled.query query
    · exact filled.answer answer
  · cases rows : run.retrievedEmbeddings with
    | none =>
        rw [rows] at first
        cases first
    | some retrieved =>
        rw [rows] at first
        exact filled.retrieved retrieved rows (List.mem_of_head? first)

variable [DecidableEq N] [Zero N]

/-- Both paths pick the same vectors: a frame drops only those that are empty. -/
theorem frameVectors_of_bridged {coercions : Coercions N} {runs : List (RAGRun N)}
    {frames : List (RAGEvaluationFrame N)} (filled : ∀ run ∈ runs, Filled run)
    (bridged : runs.mapM (RAGRun.toEvaluationFrame coercions) = .ok frames) :
    frameVectors frames = runs.filterMap runEmbedding? := by
  have picked : frames.filterMap frameEmbedding? = runs.filterMap runEmbedding? := by
    have related := mapM_ok_iff.mp bridged
    clear bridged filled
    induction related with
    | nil => rfl
    | cons here _ ih =>
        obtain ⟨query, answer, retrieved⟩ := toEvaluationFrame_embeddings here
        rw [List.filterMap_cons, List.filterMap_cons, ih, frameEmbedding?, runEmbedding?, query,
          answer, retrieved]
  rw [frameVectors, picked, List.filter_eq_self]
  intro embedding inside
  obtain ⟨run, member, found⟩ := List.mem_filterMap.mp inside
  simpa using runEmbedding?_ne_nil (filled run member) found

theorem collectVectorEmbeddings_of_bridged {coercions : Coercions N} {runs : List (RAGRun N)}
    {frames : List (RAGEvaluationFrame N)} (filled : ∀ run ∈ runs, Filled run)
    (bridged : runs.mapM (RAGRun.toEvaluationFrame coercions) = .ok frames) :
    collectVectorEmbeddingsFromRuns runs = collectVectorEmbeddings frames := by
  simp only [collectVectorEmbeddingsFromRuns, collectVectorEmbeddings,
    frameVectors_of_bridged filled bridged]

end Runs

/-- `evaluate_vector_drift_between_runs`. -/
noncomputable def DriftMonitor.evaluateVectorDriftBetweenRuns (monitor : DriftMonitor ℝ)
    (pca : List (List ℝ) → List ℝ → ℝ) (baselineRuns currentRuns : List (RAGRun ℝ))
    (draws : Draws S) : Except VectorError (VectorDrift ℝ) := do
  let baselineVectors ← collectVectorEmbeddingsFromRuns baselineRuns
  let currentVectors ← collectVectorEmbeddingsFromRuns currentRuns
  match baselineVectors, currentVectors with
  | some baseline, some current =>
      if width baseline ≠ width current then
        return .none
      else
        let (jsScore, jsDrifted) ← monitor.computeJensenShannonDrift pca baseline current
        if baseline.length < 2 ∨ current.length < 2 then
          return ⟨jsScore, 0, jsDrifted⟩
        else
          let (mmdScore, _, mmdDrifted) := monitor.computeMmdDrift baseline current draws
          return ⟨jsScore, mmdScore, jsDrifted || mmdDrifted⟩
  | _, _ => return .none

/-- Runs and their frames have one verdict, of whatever dimensions their embeddings are. -/
theorem runs_frames_same_verdict (coercions : Coercions ℝ) (monitor : DriftMonitor ℝ)
    (pca : List (List ℝ) → List ℝ → ℝ) (draws : Draws S) {B C : List (RAGRun ℝ)}
    {framesB framesC : List (RAGEvaluationFrame ℝ)}
    (filledB : ∀ run ∈ B, Filled run) (filledC : ∀ run ∈ C, Filled run)
    (bridgedB : B.mapM (RAGRun.toEvaluationFrame coercions) = .ok framesB)
    (bridgedC : C.mapM (RAGRun.toEvaluationFrame coercions) = .ok framesC) :
    monitor.evaluateVectorDriftBetweenRuns pca B C draws =
      monitor.evaluateVectorDrift pca framesB framesC draws := by
  unfold DriftMonitor.evaluateVectorDriftBetweenRuns DriftMonitor.evaluateVectorDrift
  rewrite [collectVectorEmbeddings_of_bridged filledB bridgedB,
    collectVectorEmbeddings_of_bridged filledC bridgedC]
  rfl

/-- Times of the years 1970 to 9999 and numbers that are no texts. -/
noncomputable def plainCoercions : Coercions ℝ where
  fromTimestamp time := decide (0 ≤ time ∧ time ≤ (253402300799 : ℚ))
  int value := value.asNumber?.map fun number => if 0 ≤ number then ⌊number⌋ else ⌈number⌉
  float value := value.asNumber?
  validFloat value := value.asNumber?.isSome

def embeddedRun (queryEmbedding answerEmbedding : Option (List ℝ)) : RAGRun ℝ where
  schemaVersion := "1.0"
  runId := "run"
  query := "query"
  retrievedDocs := ["document"]
  retrievedDocIds := none
  retrievedEmbeddings := some [[1, 1]]
  queryEmbedding
  answer := none
  answerEmbedding
  systemInfo := none
  metadata := .empty
  timestamp := 0
  systemVersion := none

theorem embeddedRun_bridged (queryEmbedding answerEmbedding : Option (List ℝ)) :
    (embeddedRun queryEmbedding answerEmbedding).toEvaluationFrame plainCoercions =
      .ok ⟨⟨queryEmbedding⟩, ⟨some [[1, 1]], none⟩, ⟨none, 0⟩, ⟨answerEmbedding⟩⟩ := by
  have known : plainCoercions.fromTimestamp 0 = true := by
    simp only [plainCoercions, decide_eq_true_eq]
    norm_num
  simp only [RAGRun.toEvaluationFrame, embeddedRun, known, if_true]
  rfl

theorem embeddedRun_filled {queryEmbedding answerEmbedding : Option (List ℝ)}
    (query : queryEmbedding ≠ some []) (answer : answerEmbedding ≠ some []) :
    Filled (embeddedRun queryEmbedding answerEmbedding) where
  query
  answer
  retrieved := by simp [embeddedRun]

theorem runs_frames_same_verdict_answers :
    plainState.monitor.evaluateVectorDriftBetweenRuns firstAxis [embeddedRun none (some [0, 0])]
        [embeddedRun none none] unshuffled =
      plainState.monitor.evaluateVectorDrift firstAxis
        [⟨⟨none⟩, ⟨some [[1, 1]], none⟩, ⟨none, 0⟩, ⟨some [0, 0]⟩⟩]
        [⟨⟨none⟩, ⟨some [[1, 1]], none⟩, ⟨none, 0⟩, ⟨none⟩⟩] unshuffled :=
  runs_frames_same_verdict plainCoercions plainState.monitor firstAxis unshuffled
    (List.forall_mem_singleton.mpr (embeddedRun_filled (by simp) (by simp)))
    (List.forall_mem_singleton.mpr (embeddedRun_filled (by simp) (by simp)))
    (mapM_ok_iff.mpr (.cons (embeddedRun_bridged _ _) .nil))
    (mapM_ok_iff.mpr (.cons (embeddedRun_bridged _ _) .nil))

end RagDrift.Monitor
