import RagDrift.Collections.Recent
import RagDrift.Json.Reading
import RagDrift.Numeric.Deviation

set_option autoImplicit false

/- `evaluator.latent_drift.adaptive` and `LatentDriftEngine.compute_drift`: a threshold from the
scores of a rolling window. Scores are real numbers. -/
namespace RagDrift.LatentDrift

/-- `collections.deque(maxlen=size)`. -/
structure Deque (A : Type) (size : Nat) where
  entries : List A
  bounded : entries.length ≤ size

namespace Deque

variable {A : Type} {size : Nat}

def empty : Deque A size := ⟨[], Nat.zero_le size⟩

/-- An entry over the size pushes the first one out. -/
def append (deque : Deque A size) (entry : A) : Deque A size where
  entries := (deque.entries ++ [entry]).rtake size
  bounded := by
    rw [Collections.length_rtake]
    exact Nat.min_le_left _ _

end Deque

structure AdaptiveThresholdManager where
  baseThreshold : ℝ
  sensitivityZ : ℝ
  windowSize : Nat
  minThreshold : ℝ
  maxThreshold : ℝ
  scores : Deque ℝ windowSize

namespace AdaptiveThresholdManager

/-- `__init__`; a deque refuses a negative size. -/
def new (baseThreshold sensitivityZ : ℝ) (windowSize : Nat) (minThreshold maxThreshold : ℝ) :
    AdaptiveThresholdManager :=
  ⟨baseThreshold, sensitivityZ, windowSize, minThreshold, maxThreshold, .empty⟩

def update (manager : AdaptiveThresholdManager) (score : ℝ) : AdaptiveThresholdManager :=
  { manager with scores := manager.scores.append score }

noncomputable def getThreshold (manager : AdaptiveThresholdManager) : ℝ :=
  let scores := manager.scores.entries
  if scores.length < 2 then manager.baseThreshold
  else
    let n : ℝ := scores.length
    let meanScore := scores.sum / n
    let variance := (scores.map fun s => (s - meanScore) ^ 2).sum / (n - 1)
    let stdScore := √variance
    let threshold := meanScore + manager.sensitivityZ * stdScore
    max manager.minThreshold (min manager.maxThreshold threshold)

end AdaptiveThresholdManager

inductive DriftError where
  | runtimeError
  | valueError

/-- `evaluator.latent_drift.schemas.LatentDriftResult`. -/
structure LatentDriftResult where
  driftScore : ℝ
  driftDetected : Bool
  threshold : ℝ
  nSamplesBaseline : Nat
  nSamplesCurrent : Nat
  metricUsed : String
  track : String
  metricBreakdown : List (String × ℝ)
  metadata : Dict ℝ

/-- What `fit` leaves: the PCA, the number of projected baseline vectors, and the metric between
these and the projection of other vectors, which may raise. -/
structure Fitted where
  nComponents : Nat
  explainedVarianceRatio : List ℝ
  nSamplesBaseline : Nat
  computeMetric : List (List ℝ) → Except DriftError ℝ

/-- `fitted` is `none` before `fit`. -/
structure LatentDriftEngine where
  threshold : ℝ
  metric : String
  kdeSampleSize : Nat
  thresholdManager : Option AdaptiveThresholdManager
  fitted : Option Fitted

namespace LatentDriftEngine

/-- The result, and the engine with the score in its window. -/
noncomputable def computeDrift (engine : LatentDriftEngine) (currentVectors : List (List ℝ)) :
    Except DriftError (LatentDriftResult × LatentDriftEngine) :=
  match engine.fitted with
  | none => .error .runtimeError
  | some fitted => do
      let driftScore ← fitted.computeMetric currentVectors
      let thresholdManager := engine.thresholdManager.map fun manager => manager.update driftScore
      let effectiveThreshold :=
        (thresholdManager.map AdaptiveThresholdManager.getThreshold).getD engine.threshold
      let result : LatentDriftResult :=
        { driftScore := driftScore
          driftDetected := driftScore > effectiveThreshold
          threshold := effectiveThreshold
          nSamplesBaseline := fitted.nSamplesBaseline
          nSamplesCurrent := currentVectors.length
          metricUsed := engine.metric
          track := "unified"
          metricBreakdown := []
          metadata := Dict.empty.setAll
            [("pca_components", .num fitted.nComponents),
              ("explained_variance_ratio", .arr (fitted.explainedVarianceRatio.map .num)),
              ("metric", .str engine.metric), ("kde_sample_size", .num engine.kdeSampleSize),
              ("adaptive_threshold", .bool engine.thresholdManager.isSome)] }
      return (result, { engine with thresholdManager := thresholdManager })

end LatentDriftEngine

end RagDrift.LatentDrift
