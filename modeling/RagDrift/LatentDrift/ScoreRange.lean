import RagDrift.LatentDrift.Scored
import Mathlib.Analysis.SpecialFunctions.Pow.Real
import Mathlib.Analysis.Real.Pi.Bounds

set_option autoImplicit false

/- Which scores the documented range of a result holds: `mmd` and `jsd` are clipped to it, `swd` is
the distance itself. -/
namespace RagDrift.LatentDrift

open LatentDriftEngine
open Matching (transport)
open Numeric (mean mean_nonneg)

/-- `Bounded [0, 1]`. -/
def InRange (score : ℝ) : Prop := 0 ≤ score ∧ score ≤ 1

theorem clip01_inRange (score : ℝ) : InRange (clip01 score) :=
  ⟨le_min (le_max_right _ _) zero_le_one, min_le_right _ _⟩

/-- How far the values of two samples are from each other in the mean, if on each direction the
sorted values of both are matched. -/
noncomputable def meanTransport {d : Nat} (projections : Projections d)
    (X Y : List (Fin d → ℝ)) : ℝ :=
  mean (projections.directions.map fun direction =>
    transport (sort (project X direction)) (sort (project Y direction)))

section Distances

variable {d : Nat} {projections : Projections d} {X Y : List (Fin d → ℝ)}

theorem slicedDistance_eq_meanTransport (someX : X ≠ []) (someY : Y ≠ []) :
    slicedDistance projections X Y = meanTransport projections X Y := by
  have same : ∀ direction, wasserstein1d (project X direction) (project Y direction) =
      transport (sort (project X direction)) (sort (project Y direction)) := by
    intro direction
    exact wasserstein1d_eq_transport (project_ne_nil someX direction)
      (project_ne_nil someY direction)
  simp only [slicedDistance, meanTransport, same]

theorem meanTransport_nonneg (projections : Projections d) (X Y : List (Fin d → ℝ)) :
    0 ≤ meanTransport projections X Y := by
  apply mean_nonneg
  intro distance inside
  obtain ⟨direction, _, rfl⟩ := List.mem_map.mp inside
  exact Matching.transport_nonneg _ _

variable {libraries : Libraries} {metric : String} {kde : Option (GaussianKde d)} {score : ℝ}

/-- A `swd` score is in the range where the samples are at most 1 apart. -/
theorem computeMetric_inRange_iff (someX : X ≠ []) (someY : Y ≠ [])
    (ran : computeMetric libraries metric kde X Y = .ok score) :
    InRange score ↔
      (metric = "swd" → meanTransport (swdProjections libraries d) X Y ≤ 1) := by
  rcases computeMetric_cases ran with ⟨rfl, rfl⟩ | ⟨rfl, rfl⟩ | ⟨rfl, fitted, _, rfl⟩
  · exact ⟨fun _ swd => absurd swd (by decide), fun _ => clip01_inRange _⟩
  · rw [slicedDistance_eq_meanTransport someX someY]
    exact ⟨fun range _ => range.2, fun near => ⟨meanTransport_nonneg _ X Y, near rfl⟩⟩
  · exact ⟨fun _ swd => absurd swd (by decide), fun _ => clip01_inRange _⟩

end Distances

variable {libraries : Libraries} {engine fittedEngine next : LatentDriftEngine}
  {pcaComponents : Int} {pca : Pca}

/-- A metric other than `swd`, or the rows are at most 1 apart after their projection. -/
def Near (libraries : Libraries) (metric : String) (pca : Pca)
    (baseline current : List (List ℝ)) : Prop :=
  metric = "swd" → meanTransport (swdProjections libraries pca.nComponents)
    (baseline.map pca.transform) (current.map pca.transform) ≤ 1

theorem map_transform_ne_nil {rows : List (List ℝ)} (some : rows ≠ []) :
    rows.map pca.transform ≠ [] := by
  simpa using some

section OneFeature

noncomputable section

def sampleVariance (values : List ℝ) : ℝ :=
  Deviation.squares values (Deviation.mean values) / (values.length - 1)

/-- The squared bandwidth of Scott's rule in one dimension. -/
def scottBandwidth (values : List ℝ) : ℝ :=
  sampleVariance values * (values.length : ℝ) ^ ((-2 / 5 : ℚ) : ℝ)

def gaussianDensity (values : List ℝ) (bandwidth point : ℝ) : ℝ :=
  (values.map fun value => Real.exp (-(point - value) ^ 2 / ((2 : ℚ) * bandwidth))).sum /
    (values.length * √((2 : ℚ) * Real.pi * bandwidth))

/-- A KDE that gives each point its density. -/
def pointwiseKde {n : Nat} (density : (Fin n → ℝ) → ℝ) : GaussianKde n where
  evaluate points := points.map density
  length_evaluate _ := List.length_map _

/-- The Gaussian KDE of rows of one number. -/
def scottKde {n : Nat} (rows : List (Fin n → ℝ)) : Except DriftError (GaussianKde n) :=
  let values := rows.map fun row => ∑ k, row k
  if sampleVariance values = 0 then .error .valueError
  else .ok (pointwiseKde fun point =>
    gaussianDensity values (scottBandwidth values) (∑ k, point k))

/-- Of rows of one number the PCA takes their mean away. A direction in one dimension is 1 or -1,
whatever is drawn. -/
def oneFeature : Libraries where
  pca rows _ :=
    ⟨1, [1], fun row _ => row.headD 0 - mean (rows.map fun other => other.headD 0)⟩
  gaussianKde := scottKde
  normal _ _ _ _ _ := 1
  choice _ population size := (List.finRange population).take size

def swdEngine : LatentDriftEngine := ⟨(15 / 100 : ℚ), "swd", 1000, none, none⟩

end

/-- The rows `[0]` and `[1]`, and the same rows 100 further on. -/
def nearZero : List (List ℝ) := [[0], [1]]

def farOff : List (List ℝ) := [[(100 : ℚ)], [(101 : ℚ)]]

theorem slicedDistance_oneFeature (X Y : List (Fin 1 → ℝ)) :
    slicedDistance (swdProjections oneFeature 1) X Y =
      wasserstein1d (X.map fun row => row 0) (Y.map fun row => row 0) := by
  have directions : (swdProjections oneFeature 1).directions =
      List.replicate 100 fun _ => (1 : ℝ) := by
    simp [swdProjections, randomProjections, oneFeature]
  have along : ∀ rows : List (Fin 1 → ℝ), project rows (fun _ => 1) =
      rows.map fun row => row 0 := by
    intro rows
    simp [project, dotProduct]
  rw [slicedDistance, directions, List.map_replicate, along, along]
  exact Numeric.mean_replicate (by decide) _

/-- The PCA of rows of one number with this mean. -/
def centred (centre : ℝ) : Pca := ⟨⟨1, [1], fun row _ => row.headD 0 - centre⟩, 1⟩

theorem fittedPca_oneFeature {rows : List (List ℝ)} (single : (rows.headD []).length = 1)
    (pcaComponents : Int) :
    fittedPca oneFeature rows pcaComponents =
      centred (mean (rows.map fun row => row.headD 0)) := by
  rw [fittedPca, single]
  rfl

theorem fittedPca_nearZero : fittedPca oneFeature nearZero 5 = centred (1 / 2) := by
  rw [fittedPca_oneFeature rfl]
  norm_num [nearZero, mean]

theorem swdEngine_far : ∃ fitted result next,
    swdEngine.fit oneFeature 5 nearZero = .ok fitted ∧
      fitted.computeDrift farOff = .ok (result, next) ∧ result.driftScore = 100 := by
  have accepts : ∀ rows ∈ [nearZero, farOff], (centred (1 / 2)).Accepts rows := by
    simp [nearZero, farOff, Pca.Accepts, centred]
  have fitted := @fitBaseline_plain oneFeature 5 "swd" nearZero (by decide)
  rw [fittedPca_nearZero] at fitted
  apply computeDrift_returns (fitted (accepts nearZero (by simp))) (accepts farOff (by simp))
  show computeMetric oneFeature "swd" (none : Option (GaussianKde 1))
    [fun _ => 0 - 1 / 2, fun _ => 1 - 1 / 2] [fun _ => 100 - 1 / 2, fun _ => 101 - 1 / 2] = _
  rw [computeMetric_swd, slicedDistance_oneFeature, List.map_cons, List.map_singleton,
    List.map_cons, List.map_singleton,
    wasserstein1d_eq_transport (List.cons_ne_nil _ _) (List.cons_ne_nil _ _)]
  norm_num [sort, transport, Matching.matchCost, Matching.repeatEach, List.replicate]

end OneFeature

/-- The documented range holds of every score of `mmd` and `jsd`, and of a `swd` score where the
rows are at most 1 apart. -/
theorem scores_in_range_iff :
    (∀ baseline current result, fitPca libraries baseline pcaComponents = .ok pca →
      engine.fit libraries pcaComponents baseline = .ok fittedEngine →
      fittedEngine.computeDrift current = .ok (result, next) →
      (InRange result.driftScore ↔ Near libraries engine.metric pca baseline current)) ∧
    ∀ baselineRetrieval currentRetrieval baselineGeneration currentGeneration results,
      baselineRetrieval ≠ [] → baselineGeneration ≠ [] →
      fitPca libraries (baselineRetrieval ++ baselineGeneration) pcaComponents = .ok pca →
      engine.computeDualTrackDrift libraries pcaComponents baselineRetrieval currentRetrieval
        baselineGeneration currentGeneration = .ok (results, next) →
      (InRange results.retrieval.driftScore ↔
        Near libraries engine.metric pca baselineRetrieval currentRetrieval) ∧
      (InRange results.generation.driftScore ↔
        Near libraries engine.metric pca baselineGeneration currentGeneration) ∧
      (InRange results.unified.driftScore ↔
        Near libraries engine.metric pca (baselineRetrieval ++ baselineGeneration)
          (currentRetrieval ++ currentGeneration)) := by
  constructor
  · intro baseline current result same fitted ran
    obtain ⟨base, on, accepts, compared⟩ := computeDrift_scored fitted ran
    obtain rfl := Except.ok.inj (on.pca.symm.trans same)
    exact computeMetric_inRange_iff (map_transform_ne_nil on.accepts.1)
      (map_transform_ne_nil accepts.1) compared
  · intro baselineRetrieval currentRetrieval baselineGeneration currentGeneration results
      someRetrieval someGeneration same ran
    obtain ⟨base, run⟩ := computeDualTrackDrift_ok ran
    have on := fitBaseline_ok run.fitted
    obtain rfl := Except.ok.inj (on.pca.symm.trans same)
    refine ⟨?_, ?_, ?_⟩
    · exact computeMetric_inRange_iff (map_transform_ne_nil someRetrieval)
        (map_transform_ne_nil run.acceptsRetrieval.1) run.retrieval
    · exact computeMetric_inRange_iff (map_transform_ne_nil someGeneration)
        (map_transform_ne_nil run.acceptsGeneration.1) run.generation
    · exact computeMetric_inRange_iff (map_transform_ne_nil on.accepts.1)
        (map_transform_ne_nil (List.append_ne_nil_of_left_ne_nil run.acceptsRetrieval.1 _))
        run.unified

theorem scores_in_range_iff_far : ∃ fitted result next,
    swdEngine.fit oneFeature 5 nearZero = .ok fitted ∧
    fitted.computeDrift farOff = .ok (result, next) ∧
    (InRange result.driftScore ↔ Near oneFeature "swd" (centred (1 / 2)) nearZero farOff) := by
  obtain ⟨fitted, result, next, fit, ran, _⟩ := swdEngine_far
  have accepts : (fittedPca oneFeature nearZero 5).Accepts nearZero := by
    simp [nearZero, Pca.Accepts, fittedPca]
  have pca := fitPca_eq accepts
  rw [fittedPca_nearZero] at pca
  exact ⟨fitted, result, next, fit, ran, scores_in_range_iff.1 nearZero farOff result pca fit ran⟩

/-- An accepted engine reports a score of 100. -/
theorem swd_out_of_range : ¬ ∀ (libraries : Libraries) (engine fitted next : LatentDriftEngine)
    (pcaComponents : Int) (baseline current : List (List ℝ)) (result : LatentDriftResult),
    LatentDriftEngine.new engine.threshold engine.metric engine.kdeSampleSize
      engine.thresholdManager = .ok engine →
    engine.fit libraries pcaComponents baseline = .ok fitted →
    fitted.computeDrift current = .ok (result, next) → InRange result.driftScore := by
  intro all
  obtain ⟨fitted, result, next, fit, ran, score⟩ := swdEngine_far
  have accepted : LatentDriftEngine.new swdEngine.threshold swdEngine.metric
      swdEngine.kdeSampleSize swdEngine.thresholdManager = .ok swdEngine :=
    if_pos (by decide : "swd" ∈ validMetrics)
  have range := all oneFeature swdEngine fitted next 5 nearZero farOff result accepted fit ran
  rw [score] at range
  exact absurd range.2 (by norm_num)

end RagDrift.LatentDrift
