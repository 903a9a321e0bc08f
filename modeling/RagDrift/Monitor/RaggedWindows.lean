import RagDrift.Monitor.Calibration

set_option autoImplicit false

/- Windows whose embeddings differ in length. -/
namespace RagDrift.Monitor

open Exceptions (bind_ok_iff)
open Telemetry (RAGEvaluationFrame)

variable {S : Type}

/-- `_evaluate_vector_drift` returns, and returns no drift where the embeddings it reads cannot
be compared. -/
def DriftMonitor.Tolerates (monitor : DriftMonitor ℝ) (pca : List (List ℝ) → List ℝ → ℝ)
    (baselineFrames currentFrames : List (RAGEvaluationFrame ℝ)) (draws : Draws S) : Prop :=
  ∃ result, monitor.evaluateVectorDrift pca baselineFrames currentFrames draws = .ok result ∧
    (¬ OneDimension (baselineFrames ++ currentFrames) → result = .none)

section Windows

variable {monitor : DriftMonitor ℝ} {pca : List (List ℝ) → List ℝ → ℝ}
  {F G : List (RAGEvaluationFrame ℝ)} {draws : Draws S}

theorem oneDimension_of_returned {result : VectorDrift ℝ}
    (returned : monitor.evaluateVectorDrift pca F G draws = .ok result) :
    OneDimension F ∧ OneDimension G := by
  obtain ⟨_, before, rest⟩ := bind_ok_iff.mp returned
  obtain ⟨_, after, _⟩ := bind_ok_iff.mp rest
  exact ⟨oneDimension_of_collected before, oneDimension_of_collected after⟩

/-- Windows that are even in themselves are not compared where they differ. -/
theorem evaluateVectorDrift_incompatible (before : OneDimension F) (after : OneDimension G)
    (apart : ¬ OneDimension (F ++ G)) :
    monitor.evaluateVectorDrift pca F G draws = .ok .none := by
  obtain ⟨dimensionF, allF⟩ := id before
  obtain ⟨dimensionG, allG⟩ := id after
  have together : frameVectors (F ++ G) = frameVectors F ++ frameVectors G := by
    rw [frameVectors, List.filterMap_append, List.filter_append, frameVectors, frameVectors]
  rw [DriftMonitor.evaluateVectorDrift, collectVectorEmbeddings_eq before,
    collectVectorEmbeddings_eq after]
  by_cases noBaseline : frameVectors F = []
  · simp only [noBaseline, if_true]
    rfl
  by_cases noCurrent : frameVectors G = []
  · simp only [noBaseline, noCurrent, if_true, if_false]
    rfl
  have widths : width (frameVectors F) ≠ width (frameVectors G) := by
    rw [width_eq noBaseline allF, width_eq noCurrent allG]
    rintro rfl
    refine apart ⟨dimensionF, ?_⟩
    intro row inside
    rw [together] at inside
    exact (List.mem_append.mp inside).elim (allF row) (allG row)
  simp only [noBaseline, noCurrent, if_false, bind, Except.bind]
  rw [if_pos widths]
  rfl

/-- Only the lengths inside one window decide whether the call raises. -/
theorem evaluateVectorDrift_tolerates_iff (monitor : DriftMonitor ℝ)
    (pca : List (List ℝ) → List ℝ → ℝ) (F G : List (RAGEvaluationFrame ℝ)) (draws : Draws S) :
    monitor.Tolerates pca F G draws ↔ OneDimension F ∧ OneDimension G := by
  constructor
  · rintro ⟨_, returned, _⟩
    exact oneDimension_of_returned returned
  · rintro ⟨before, after⟩
    by_cases together : OneDimension (F ++ G)
    · obtain ⟨result, returned⟩ := evaluateVectorDrift_total before after
      exact ⟨result, returned, fun apart => absurd together apart⟩
    · exact ⟨.none, evaluateVectorDrift_incompatible before after together, fun _ => rfl⟩

end Windows

/-- Only the response is embedded, by a model of one dimension. -/
def responseFrame : RAGEvaluationFrame ℝ :=
  ⟨⟨none⟩, ⟨none, none⟩, ⟨none, 0⟩, ⟨some [0]⟩⟩

theorem oddFrame_ragged : ¬ OneDimension [vectorFrame 0, responseFrame] := by
  rintro ⟨dimension, all⟩
  have wide := all [0, 0] (by simp [frameVectors, frameEmbedding?, vectorFrame, responseFrame])
  have narrow := all [0] (by simp [frameVectors, frameEmbedding?, vectorFrame, responseFrame])
  rw [← wide] at narrow
  cases narrow

theorem evaluateVectorDrift_not_total : ¬ ∀ (monitor : DriftMonitor ℝ)
    (pca : List (List ℝ) → List ℝ → ℝ) (F G : List (RAGEvaluationFrame ℝ)) (draws : Draws Unit),
    monitor.Tolerates pca F G draws := by
  intro always
  obtain ⟨result, returned, _⟩ := always plainState.monitor firstAxis
    [vectorFrame 0, responseFrame] forwards unshuffled
  exact oddFrame_ragged (oneDimension_of_returned returned).1

end RagDrift.Monitor
