import RagDrift.LatentDrift.Adaptive
import RagDrift.LatentDrift.Jsd
import RagDrift.LatentDrift.Streaming

set_option autoImplicit false

/- The metrics of `evaluator.latent_drift.engine`, and how the engine is fitted:
`evaluator.latent_drift.pca` and `evaluator.latent_drift.kde`. -/
namespace RagDrift.LatentDrift

noncomputable section

/-- What `sklearn.decomposition.PCA` finds in the rows it is fitted on: a map of rows. -/
structure Components where
  nComponents : Nat
  explainedVarianceRatio : List ℝ
  transform : List ℝ → Fin nComponents → ℝ

/-- A fitted `scipy.stats.gaussian_kde`. -/
structure GaussianKde (n : Nat) where
  evaluate : List (Fin n → ℝ) → List ℝ
  length_evaluate : ∀ points, (evaluate points).length = points.length

structure Libraries where
  /-- `PCA(n_components)`, fitted on rows. -/
  pca : List (List ℝ) → Int → Components
  /-- It raises where the covariance of the rows is singular. -/
  gaussianKde : {n : Nat} → List (Fin n → ℝ) → Except DriftError (GaussianKde n)
  /-- `RandomState(seed).normal(0, 1, size=(rows, columns))`. -/
  normal : (seed rows columns : Nat) → Fin rows → Fin columns → ℝ
  /-- `RandomState(seed).choice(population, size, replace=False)`. -/
  choice : (seed population size : Nat) → List (Fin population)

variable (libraries : Libraries)

/-- A fitted PCA refuses rows of another length than those it was fitted on. -/
structure Pca extends Components where
  nFeatures : Nat

/-- scikit-learn asks for at least one row and one column. -/
def checkArray (vectors : List (List ℝ)) (nFeatures : Nat) : Except DriftError Unit :=
  if vectors ≠ [] ∧ 0 < nFeatures ∧ ∀ row ∈ vectors, row.length = nFeatures then .ok ()
  else .error .valueError

def fitPca (baselineVectors : List (List ℝ)) (nComponents : Int) : Except DriftError Pca := do
  let nFeatures := (baselineVectors.headD []).length
  checkArray baselineVectors nFeatures
  let maxComponents := min baselineVectors.length nFeatures
  let actualComponents := min nComponents maxComponents
  return ⟨libraries.pca baselineVectors actualComponents, nFeatures⟩

def projectVectors (pca : Pca) (vectors : List (List ℝ)) :
    Except DriftError (List (Fin pca.nComponents → ℝ)) := do
  checkArray vectors pca.nFeatures
  return vectors.map pca.transform

def fitKde {n : Nat} (vectors : List (Fin n → ℝ)) : Except DriftError (GaussianKde n) :=
  if vectors.length < 2 then .error .valueError else libraries.gaussianKde vectors

/-- `_build_shared_grid` with its default of 1000 points. -/
def buildSharedGrid {n : Nat} (baselineProj currentProj : List (Fin n → ℝ)) :
    List (Fin n → ℝ) :=
  let combined := baselineProj ++ currentProj
  if 1000 < combined.length then
    (libraries.choice 0 combined.length 1000).map combined.get
  else combined

/-- The densities of both sides over the shared grid. Where no KDE fits the current rows they are
all `_EPSILON`. -/
def gridDensities {n : Nat} (kdeBaseline : GaussianKde n)
    (baselineProj currentProj : List (Fin n → ℝ)) : List ℝ × List ℝ :=
  let grid := buildSharedGrid libraries baselineProj currentProj
  let pDensity := kdeBaseline.evaluate grid
  match fitKde libraries currentProj with
  | .ok kdeCurrent => (pDensity, kdeCurrent.evaluate grid)
  | .error _ => (pDensity, pDensity.map fun _ => epsilon)

/-- The 100 directions of `compute_swd`, drawn with its default seed. -/
def swdProjections (nFeatures : Nat) : Projections nFeatures :=
  randomProjections (libraries.normal 42 nFeatures 100)

/-- `_compute_metric`; a JSD engine without a fitted KDE is refused by `compute_drift`. -/
def computeMetric (metric : String) {n : Nat} (kdeBaseline : Option (GaussianKde n))
    (baselineProj currentProj : List (Fin n → ℝ)) : Except DriftError ℝ :=
  if metric = "mmd" then
    (computeMmd ⟨n, baselineProj⟩ ⟨n, currentProj⟩ none).mapError fun _ => .valueError
  else if metric = "swd" then
    (computeSwd (swdProjections libraries) ⟨n, baselineProj⟩ ⟨n, currentProj⟩).mapError
      fun _ => .valueError
  else if metric = "jsd" then
    match kdeBaseline with
    | none => .error .runtimeError
    | some kdeBaseline =>
        let (pDensity, qDensity) := gridDensities libraries kdeBaseline baselineProj currentProj
        .ok (computeJsd pDensity qDensity)
  else .error .valueError

namespace LatentDriftEngine

/-- `_VALID_METRICS`. -/
def validMetrics : List String := ["mmd", "swd", "jsd"]

/-- `__init__`; `pca_components` is an argument of the methods that read it. -/
def new (threshold : ℝ) (metric : String) (kdeSampleSize : Nat)
    (thresholdManager : Option AdaptiveThresholdManager) : Except DriftError LatentDriftEngine :=
  if metric ∈ validMetrics then
    .ok ⟨threshold, metric, kdeSampleSize, thresholdManager, none⟩
  else .error .valueError

/-- `self.pca`, `self._baseline_proj` and `self.kde_baseline`. -/
structure Baseline where
  pca : Pca
  proj : List (Fin pca.nComponents → ℝ)
  kde : Option (GaussianKde pca.nComponents)

def fitBaseline (metric : String) (pcaComponents : Int) (baselineVectors : List (List ℝ)) :
    Except DriftError Baseline := do
  let pca ← fitPca libraries baselineVectors pcaComponents
  let proj ← projectVectors pca baselineVectors
  if metric = "jsd" then
    let kde ← fitKde libraries proj
    return ⟨pca, proj, some kde⟩
  else return ⟨pca, proj, none⟩

/-- What `compute_drift` uses of a fitted baseline. -/
def Baseline.fitted (metric : String) (baseline : Baseline) : Fitted where
  nComponents := baseline.pca.nComponents
  explainedVarianceRatio := baseline.pca.explainedVarianceRatio
  nSamplesBaseline := baseline.proj.length
  computeMetric currentVectors := do
    let currentProj ← projectVectors baseline.pca currentVectors
    computeMetric libraries metric baseline.kde baseline.proj currentProj

def fit (engine : LatentDriftEngine) (pcaComponents : Int) (baselineVectors : List (List ℝ)) :
    Except DriftError LatentDriftEngine := do
  let baseline ← fitBaseline libraries engine.metric pcaComponents baselineVectors
  return { engine with fitted := some (baseline.fitted libraries engine.metric) }

structure DualTrackResults where
  retrieval : LatentDriftResult
  generation : LatentDriftResult
  unified : LatentDriftResult

/-- One of the three results. -/
def trackResult (engine : LatentDriftEngine) (pca : Pca) (breakdown : List (String × ℝ))
    (track : String) (score : ℝ) (nSamplesBaseline nSamplesCurrent : Nat) :
    LatentDriftResult where
  driftScore := score
  driftDetected := score > engine.threshold
  threshold := engine.threshold
  nSamplesBaseline := nSamplesBaseline
  nSamplesCurrent := nSamplesCurrent
  metricUsed := engine.metric
  track := track
  metricBreakdown := breakdown
  metadata := Dict.empty.setAll [("pca_components", .num pca.nComponents)]

/-- The results, and the engine fitted on both baselines. -/
def computeDualTrackDrift (engine : LatentDriftEngine) (pcaComponents : Int)
    (baselineRetrieval currentRetrieval baselineGeneration currentGeneration : List (List ℝ)) :
    Except DriftError (DualTrackResults × LatentDriftEngine) := do
  let baselineVectors ← (StreamingDriftBuffer.vstack
    (baselineRetrieval ++ baselineGeneration)).mapError fun _ => DriftError.valueError
  let baseline ← fitBaseline libraries engine.metric pcaComponents baselineVectors
  let baseRetProj := baseline.proj.take baselineRetrieval.length
  let baseGenProj := (baseline.proj.drop baselineRetrieval.length).take baselineGeneration.length
  let curRetProj ← projectVectors baseline.pca currentRetrieval
  let curGenProj ← projectVectors baseline.pca currentGeneration
  let retScore ← computeMetric libraries engine.metric baseline.kde baseRetProj curRetProj
  let genScore ← computeMetric libraries engine.metric baseline.kde baseGenProj curGenProj
  let combinedCurr := curRetProj ++ curGenProj
  let unifiedScore ← computeMetric libraries engine.metric baseline.kde baseline.proj combinedCurr
  let breakdown := [("retrieval", retScore), ("generation", genScore), ("unified", unifiedScore)]
  let result := engine.trackResult baseline.pca breakdown
  let results : DualTrackResults :=
    { retrieval := result "retrieval" retScore baseRetProj.length curRetProj.length
      generation := result "generation" genScore baseGenProj.length curGenProj.length
      unified := result "unified" unifiedScore baseline.proj.length combinedCurr.length }
  return (results,
    { engine with fitted := some (baseline.fitted libraries engine.metric) })

end LatentDriftEngine

/-- `compute_latent_drift` with its default `kde_sample_size`. -/
def computeLatentDrift (baseline current : List (List ℝ)) (track : String) (threshold : ℝ)
    (metric : String) (pcaComponents : Int) : Except DriftError LatentDriftResult := do
  let engine ← LatentDriftEngine.new threshold metric 1000 none
  let fitted ← engine.fit libraries pcaComponents baseline
  let (result, _) ← fitted.computeDrift current
  return { result with track }

end

end RagDrift.LatentDrift
