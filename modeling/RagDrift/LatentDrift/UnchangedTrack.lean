import RagDrift.LatentDrift.Scales
import RagDrift.LatentDrift.ScoreRange

set_option autoImplicit false

/- The score of a track whose rows did not change. The baseline KDE of a `jsd` engine is fitted on
both tracks, the current one on the track alone. -/
namespace RagDrift.LatentDrift

open LatentDriftEngine
open Numeric (mean)

section Same

variable {libraries : Libraries} {n : Nat} {X : List (Fin n → ℝ)} {score : ℝ}

theorem computeMetric_self {metric : String} {kde : Option (GaussianKde n)} (some : X ≠ [])
    (ran : computeMetric libraries metric kde X X = .ok score) (other : metric ≠ "jsd") :
    score = 0 := by
  rcases computeMetric_cases ran with ⟨_, rfl⟩ | ⟨_, rfl⟩ | ⟨jsd, _⟩
  · exact kernelDistance_self X none
  · exact slicedDistance_self _ some
  · exact absurd jsd other

/-- Where both densities have one shape over the grid, the score is 0, and only there if no
midpoint is below the floor. -/
def ShapesDecide (libraries : Libraries) (kde : GaussianKde n) (X : List (Fin n → ℝ))
    (score : ℝ) : Prop :=
  let densities := gridDensities libraries kde X X
  (shape densities.1 = shape densities.2 → score = 0) ∧
    ((∀ pair ∈ (shape densities.1).zip (shape densities.2), epsilon ≤ (pair.1 + pair.2) / (2 : ℚ)) →
      (score = 0 ↔ shape densities.1 = shape densities.2))

theorem length_gridDensities (kde : GaussianKde n) (X Y : List (Fin n → ℝ)) :
    (gridDensities libraries kde X Y).1.length = (gridDensities libraries kde X Y).2.length := by
  unfold gridDensities
  dsimp only
  split
  · rename_i current _
    exact (kde.length_evaluate _).trans (current.length_evaluate _).symm
  · exact (List.length_map _).symm

theorem computeMetric_shapesDecide {kde : GaussianKde n}
    (ran : computeMetric libraries "jsd" (some kde) X X = .ok score) :
    ShapesDecide libraries kde X score := by
  rw [computeMetric_jsd, Except.ok.injEq] at ran
  subst ran
  refine ⟨computeJsd_of_shape, ?_⟩
  intro floor
  simp only [Rat.cast_ofNat] at floor
  constructor
  · intro none
    by_contra apart
    exact (computeJsd_pos (length_gridDensities kde X X) apart floor).ne' none
  · exact computeJsd_of_shape

end Same

section Zeros

/-- The other track. -/
def zeros : List (List ℝ) := [[0], [0]]

/-- The rows of `nearZero`, about the mean 1/4 of both tracks. -/
noncomputable def centredRows : List (Fin 1 → ℝ) := [fun _ => 0 - 1 / 4, fun _ => 1 - 1 / 4]

theorem scottKde_eq {X : List (Fin 1 → ℝ)} {values : List ℝ}
    (coordinates : X.map (fun row => row 0) = values) (spread : sampleVariance values ≠ 0) :
    scottKde X = .ok (pointwiseKde fun point =>
      gaussianDensity values (scottBandwidth values) (point 0)) := by
  have single : X.map (fun row => ∑ k, row k) = values := by
    simpa using coordinates
  unfold scottKde
  rw [single, if_neg spread]
  simp

theorem scale_pos {values : List ℝ} {bandwidth : ℝ} (some : values ≠ [])
    (positive : 0 < bandwidth) : 0 < (values.length : ℝ) * √(2 * Real.pi * bandwidth) := by
  have count : (0 : ℝ) < values.length := Nat.cast_pos.mpr (List.length_pos_iff.mpr some)
  have circle := Real.pi_pos
  positivity

/-- The KDE of two values is the same at both of them. -/
theorem density_two (a b bandwidth : ℝ) :
    gaussianDensity [a, b] bandwidth a = gaussianDensity [a, b] bandwidth b := by
  have square : (a - b) ^ 2 = (b - a) ^ 2 := by ring
  simp only [gaussianDensity, List.map_cons, List.map_nil, List.sum_cons, List.sum_nil, sub_self,
    square, add_zero]
  rw [add_comm]

section Repeated

variable {a b bandwidth : ℝ}

/-- It is higher at the value that is repeated. -/
theorem density_repeated (apart : a ≠ b) (positive : 0 < bandwidth) :
    gaussianDensity [a, b, a, a] bandwidth b < gaussianDensity [a, b, a, a] bandwidth a := by
  have square : (b - a) ^ 2 = (a - b) ^ 2 := by ring
  have gap : 0 < (a - b) ^ 2 / (2 * bandwidth) :=
    div_pos (sq_pos_of_ne_zero (sub_ne_zero.mpr apart)) (mul_pos two_pos positive)
  have less : Real.exp (-(a - b) ^ 2 / (2 * bandwidth)) < 1 := by
    rw [Real.exp_lt_one_iff, neg_div]
    linarith
  apply div_lt_div_of_pos_right _ (scale_pos (List.cons_ne_nil _ _) positive)
  simp only [List.map_cons, List.map_nil, List.sum_cons, List.sum_nil, sub_self, square]
  norm_num
  linarith

/-- The three repeated values alone are far above the floor. -/
theorem epsilon_lt_density (a b : ℝ) (positive : 0 < bandwidth) (small : bandwidth ≤ 1 / 4) :
    epsilon < gaussianDensity [a, b, a, a] bandwidth a := by
  have root : √(2 * Real.pi * bandwidth) ≤ 2 := by
    rw [Real.sqrt_le_left two_pos.le]
    have half := mul_le_mul Real.pi_le_four small positive.le four_pos.le
    linarith
  have floor : epsilon ≤ 1 / 8 := by norm_num [epsilon]
  have other := Real.exp_pos (-(a - b) ^ 2 / (2 * bandwidth))
  have product := mul_le_mul floor root (Real.sqrt_nonneg _) (by norm_num)
  apply (lt_div_iff₀ (scale_pos (List.cons_ne_nil _ _) positive)).mpr
  simp only [List.map_cons, List.map_nil, List.sum_cons, List.sum_nil, sub_self, List.length_cons,
    List.length_nil]
  norm_num
  linarith

end Repeated

/-- The values of both tracks, of which one is `1 - 1 / 4`. -/
noncomputable def bothValues : List ℝ := [0 - 1 / 4, 1 - 1 / 4, 0 - 1 / 4, 0 - 1 / 4]

theorem variance_both : sampleVariance bothValues = 1 / 4 := by
  norm_num [bothValues, sampleVariance, Deviation.squares, Deviation.mean]

theorem bandwidth_both : 0 < scottBandwidth bothValues ∧ scottBandwidth bothValues ≤ 1 / 4 := by
  have count : (1 : ℝ) ≤ bothValues.length := Nat.one_le_cast.mpr (by simp [bothValues])
  have positive : 0 < (bothValues.length : ℝ) ^ (-2 / 5 : ℝ) :=
    Real.rpow_pos_of_pos (by linarith) _
  have atMost : (bothValues.length : ℝ) ^ (-2 / 5 : ℝ) ≤ 1 :=
    Real.rpow_le_one_of_one_le_of_nonpos count (by norm_num)
  rw [scottBandwidth, variance_both]
  constructor <;> linarith

/-- The baseline KDE, and the one of the first track alone. -/
noncomputable def kdeOf (values : List ℝ) : GaussianKde 1 :=
  pointwiseKde fun point => gaussianDensity values (scottBandwidth values) (point 0)

theorem evaluate_kdeOf (values : List ℝ) :
    (kdeOf values).evaluate (centredRows ++ centredRows) =
      let density := gaussianDensity values (scottBandwidth values)
      [density (0 - 1 / 4), density (1 - 1 / 4), density (0 - 1 / 4), density (1 - 1 / 4)] := rfl

theorem shape_current :
    shape ((kdeOf [0 - 1 / 4, 1 - 1 / 4]).evaluate (centredRows ++ centredRows)) =
      List.replicate 4 (1 / ((4 : ℕ) : ℝ)) := by
  rw [evaluate_kdeOf]
  dsimp only
  rw [density_two]
  have const : ∀ (value : ℝ), ∀ other ∈ [value, value, value, value],
      max other epsilon = max value epsilon := by
    simp
  exact shape_of_const (const _)

theorem shape_baseline (level : ℝ) :
    shape ((kdeOf bothValues).evaluate (centredRows ++ centredRows)) ≠
      List.replicate 4 level := by
  obtain ⟨positive, small⟩ := bandwidth_both
  have floor := epsilon_lt_density (0 - 1 / 4) (1 - 1 / 4) positive small
  have less : gaussianDensity bothValues (scottBandwidth bothValues) (1 - 1 / 4) <
      gaussianDensity bothValues (scottBandwidth bothValues) (0 - 1 / 4) :=
    density_repeated (by norm_num) positive
  rw [evaluate_kdeOf]
  apply shape_ne_replicate (List.mem_cons_of_mem _ List.mem_cons_self) List.mem_cons_self
  exact max_lt (lt_max_of_lt_left less) (lt_max_of_lt_left floor)

/-- What `jsd` makes of the first track. -/
noncomputable def alarm : ℝ :=
  computeJsd ((kdeOf bothValues).evaluate (centredRows ++ centredRows))
    ((kdeOf [0 - 1 / 4, 1 - 1 / 4]).evaluate (centredRows ++ centredRows))

theorem alarm_pos : 0 < alarm := by
  rw [alarm, computeJsd_comm]
  have length : ∀ values, ((kdeOf values).evaluate (centredRows ++ centredRows)).length = 4 :=
    fun values => rfl
  apply computeJsd_flat_pos ((length _).trans (length _).symm)
  · rw [length]
    decide
  · exact shape_current
  · rw [shape_current]
    exact (shape_baseline _).symm

theorem fitKde_both : fitKde oneFeature
    ((nearZero ++ zeros).map (centred (1 / 4)).transform) = .ok (kdeOf bothValues) := by
  apply scottKde_eq
  · rfl
  · rw [variance_both]
    norm_num

theorem fitKde_current : fitKde oneFeature centredRows =
    .ok (kdeOf [0 - 1 / 4, 1 - 1 / 4]) := by
  apply scottKde_eq
  · rfl
  · norm_num [sampleVariance, Deviation.squares, Deviation.mean]

theorem gridDensities_alarm : gridDensities oneFeature (kdeOf bothValues) centredRows centredRows =
    ((kdeOf bothValues).evaluate (centredRows ++ centredRows),
      (kdeOf [0 - 1 / 4, 1 - 1 / 4]).evaluate (centredRows ++ centredRows)) := by
  have grid : buildSharedGrid oneFeature centredRows centredRows =
      centredRows ++ centredRows := by
    rw [buildSharedGrid]
    exact if_neg (by simp [centredRows])
  rw [gridDensities, grid, fitKde_current]

/-- The first track did not change, nor did the second. -/
theorem jsd_alarm {engine : LatentDriftEngine} (jsd : engine.metric = "jsd") :
    ∃ results next, engine.computeDualTrackDrift oneFeature 5 nearZero nearZero zeros zeros =
      .ok (results, next) ∧ results.retrieval.driftScore = alarm := by
  have pca : fittedPca oneFeature (nearZero ++ zeros) 5 = centred (1 / 4) := by
    rw [fittedPca_oneFeature rfl]
    norm_num [nearZero, zeros, mean]
  have accepts : ∀ rows ∈ [nearZero ++ zeros, nearZero, zeros],
      (centred (1 / 4)).Accepts rows := by
    simp [nearZero, zeros, Pca.Accepts, centred]
  have fitted := @fitBaseline_jsd oneFeature 5 (nearZero ++ zeros)
  rw [pca] at fitted
  have baseline := fitted (accepts _ (by simp)) fitKde_both
  rw [← jsd] at baseline
  obtain ⟨_, _, _, run⟩ := DualRun.of_fitted (by rw [jsd]; decide) baseline
    (accepts nearZero (by simp)) (accepts zeros (by simp))
  obtain ⟨results, next, ran, score, _⟩ := run.returns
  refine ⟨results, next, ran, ?_⟩
  have compared := run.retrieval
  rw [jsd] at compared
  have known := @computeMetric_jsd oneFeature 1 centredRows centredRows (kdeOf bothValues)
  rw [gridDensities_alarm] at known
  rw [score]
  exact Except.ok.inj (compared.symm.trans known)

end Zeros

section Engines

variable (libraries : Libraries) (engine : LatentDriftEngine) (pcaComponents : Int)
  (rows otherBaseline otherCurrent : List (List ℝ))

/-- What a call says of the unchanged track, as the first of both and as the second. -/
def UnchangedScores (Holds : ℝ → Prop) : Prop :=
  (∀ results next, engine.computeDualTrackDrift libraries pcaComponents rows rows otherBaseline
    otherCurrent = .ok (results, next) → Holds results.retrieval.driftScore) ∧
  ∀ results next, engine.computeDualTrackDrift libraries pcaComponents otherBaseline otherCurrent
    rows rows = .ok (results, next) → Holds results.generation.driftScore

/-- Both calls return. -/
def Returns : Prop :=
  (∃ results, engine.computeDualTrackDrift libraries pcaComponents rows rows otherBaseline
    otherCurrent = .ok results) ∧
  ∃ results, engine.computeDualTrackDrift libraries pcaComponents otherBaseline otherCurrent
    rows rows = .ok results

/-- Non-empty tracks of one dimension. -/
def SameDimension : Prop :=
  ∃ d, 0 < d ∧ ∀ track ∈ [rows, otherBaseline, otherCurrent],
    track ≠ [] ∧ ∀ row ∈ track, row.length = d

variable {libraries engine pcaComponents rows otherBaseline otherCurrent}

theorem unchanged_of_plain (other : engine.metric ≠ "jsd") :
    UnchangedScores libraries engine pcaComponents rows otherBaseline otherCurrent (· = 0) := by
  constructor
  · intro results next ran
    obtain ⟨base, run⟩ := computeDualTrackDrift_ok ran
    exact computeMetric_self (map_transform_ne_nil run.acceptsRetrieval.1) run.retrieval other
  · intro results next ran
    obtain ⟨base, run⟩ := computeDualTrackDrift_ok ran
    exact computeMetric_self (map_transform_ne_nil run.acceptsGeneration.1) run.generation other

theorem exists_run {baselineRetrieval currentRetrieval baselineGeneration currentGeneration :
    List (List ℝ)} {d : Nat} (valid : engine.metric ∈ validMetrics) (other : engine.metric ≠ "jsd")
    (positive : 0 < d)
    (same : ∀ track ∈ [baselineRetrieval, currentRetrieval, baselineGeneration,
      currentGeneration], track ≠ [] ∧ ∀ row ∈ track, row.length = d) :
    ∃ results, engine.computeDualTrackDrift libraries pcaComponents baselineRetrieval
      currentRetrieval baselineGeneration currentGeneration = .ok results := by
  simp only [List.forall_mem_cons, List.not_mem_nil, false_imp_iff, implies_true,
    and_true] at same
  obtain ⟨⟨someBase, baseRet⟩, ⟨someRet, curRet⟩, ⟨_, baseGen⟩, someGen, curGen⟩ := same
  have features : ((baselineRetrieval ++ baselineGeneration).headD []).length = d := by
    cases baselineRetrieval with
    | nil => exact absurd rfl someBase
    | cons first rest => exact baseRet first List.mem_cons_self
  have accepts : ∀ track : List (List ℝ), track ≠ [] → (∀ row ∈ track, row.length = d) →
      (fittedPca libraries (baselineRetrieval ++ baselineGeneration) pcaComponents).Accepts
        track := by
    intro track some lengths
    refine ⟨some, ?_, ?_⟩
    · exact positive.trans_eq features.symm
    · intro row inside
      exact (lengths row inside).trans features.symm
  have fitted := fitBaseline_plain other (accepts (baselineRetrieval ++ baselineGeneration)
    (List.append_ne_nil_of_left_ne_nil someBase _)
    (List.forall_mem_append.mpr ⟨baseRet, baseGen⟩))
  obtain ⟨_, _, _, run⟩ := DualRun.of_fitted valid fitted (accepts currentRetrieval someRet curRet)
    (accepts currentGeneration someGen curGen)
  obtain ⟨results, next, ran, _⟩ := run.returns
  exact ⟨(results, next), ran⟩

theorem returns_of_plain (valid : engine.metric ∈ validMetrics) (other : engine.metric ≠ "jsd")
    (same : SameDimension rows otherBaseline otherCurrent) :
    Returns libraries engine pcaComponents rows otherBaseline otherCurrent := by
  obtain ⟨d, positive, tracks⟩ := same
  simp only [List.forall_mem_cons, List.not_mem_nil, false_imp_iff, implies_true,
    and_true] at tracks
  obtain ⟨unchanged, baseline, current⟩ := tracks
  constructor
  · apply exists_run valid other positive
    exact List.forall_mem_cons.mpr ⟨unchanged, List.forall_mem_cons.mpr
      ⟨unchanged, List.forall_mem_cons.mpr ⟨baseline, List.forall_mem_singleton.mpr current⟩⟩⟩
  · apply exists_run valid other positive
    exact List.forall_mem_cons.mpr ⟨baseline, List.forall_mem_cons.mpr
      ⟨current, List.forall_mem_cons.mpr ⟨unchanged, List.forall_mem_singleton.mpr unchanged⟩⟩⟩

/-- A KDE of all projected baseline rows, and what it decides of the unchanged ones. -/
def DecidedByShapes (libraries : Libraries) (baseline : Baseline) (rows : List (List ℝ))
    (score : ℝ) : Prop :=
  ∃ kde, fitKde libraries baseline.proj = .ok kde ∧
    ShapesDecide libraries kde (rows.map baseline.pca.transform) score

theorem decided_of_jsd {fittedRows : List (List ℝ)} {baseline : Baseline} {score : ℝ}
    (jsd : engine.metric = "jsd")
    (fitted : fitBaseline libraries engine.metric pcaComponents fittedRows = .ok baseline)
    (ran : computeMetric libraries engine.metric baseline.kde (rows.map baseline.pca.transform)
      (rows.map baseline.pca.transform) = .ok score) :
    DecidedByShapes libraries baseline rows score := by
  obtain ⟨kde, found, same⟩ := (fitBaseline_ok fitted).kde jsd
  rw [same, jsd] at ran
  exact ⟨kde, found, computeMetric_shapesDecide ran⟩

/-- An accepted engine reports no drift of an unchanged track if and only if its metric is not
`jsd`; with `jsd` the shapes of both densities decide. -/
theorem unchanged_track_iff (accepted : engine.metric ∈ validMetrics) :
    ((∀ libraries pcaComponents rows otherBaseline otherCurrent,
      UnchangedScores libraries engine pcaComponents rows otherBaseline otherCurrent (· = 0)) ↔
        engine.metric ≠ "jsd") ∧
    (engine.metric ≠ "jsd" → ∀ libraries pcaComponents rows otherBaseline otherCurrent,
      SameDimension rows otherBaseline otherCurrent →
        Returns libraries engine pcaComponents rows otherBaseline otherCurrent) ∧
    (engine.metric = "jsd" → ∀ libraries pcaComponents rows otherBaseline otherCurrent baseline
      results next,
      (fitBaseline libraries engine.metric pcaComponents (rows ++ otherBaseline) = .ok baseline →
        engine.computeDualTrackDrift libraries pcaComponents rows rows otherBaseline
          otherCurrent = .ok (results, next) →
        DecidedByShapes libraries baseline rows results.retrieval.driftScore) ∧
      (fitBaseline libraries engine.metric pcaComponents (otherBaseline ++ rows) = .ok baseline →
        engine.computeDualTrackDrift libraries pcaComponents otherBaseline otherCurrent rows
          rows = .ok (results, next) →
        DecidedByShapes libraries baseline rows results.generation.driftScore)) := by
  refine ⟨⟨?_, ?_⟩, ?_, ?_⟩
  · intro unchanged jsd
    obtain ⟨results, next, ran, score⟩ := jsd_alarm jsd
    have none := (unchanged oneFeature 5 nearZero zeros zeros).1 results next ran
    rw [score] at none
    exact alarm_pos.ne' none
  · intro other libraries pcaComponents rows otherBaseline otherCurrent
    exact unchanged_of_plain other
  · intro other libraries pcaComponents rows otherBaseline otherCurrent
    exact returns_of_plain accepted other
  · intro jsd libraries pcaComponents rows otherBaseline otherCurrent baseline results next
    constructor
    · intro fitted ran
      obtain ⟨base, run⟩ := computeDualTrackDrift_ok ran
      obtain rfl := Except.ok.inj (run.fitted.symm.trans fitted)
      exact decided_of_jsd jsd fitted run.retrieval
    · intro fitted ran
      obtain ⟨base, run⟩ := computeDualTrackDrift_ok ran
      obtain rfl := Except.ok.inj (run.fitted.symm.trans fitted)
      exact decided_of_jsd jsd fitted run.generation

noncomputable def jsdEngine : LatentDriftEngine := { swdEngine with metric := "jsd" }

theorem sameDimension_zeros : SameDimension nearZero zeros zeros :=
  ⟨1, one_pos, by simp [nearZero, zeros]⟩

theorem unchanged_track_iff_plain : ∃ results next,
    swdEngine.computeDualTrackDrift oneFeature 5 nearZero nearZero zeros zeros =
      .ok (results, next) ∧ results.retrieval.driftScore = 0 := by
  have laws := unchanged_track_iff (by decide : swdEngine.metric ∈ validMetrics)
  have other : swdEngine.metric ≠ "jsd" := by decide
  obtain ⟨⟨⟨results, next⟩, ran⟩, _⟩ := laws.2.1 other oneFeature 5 _ _ _ sameDimension_zeros
  exact ⟨results, next, ran, (laws.1.mpr other oneFeature 5 _ _ _).1 results next ran⟩

/-- Neither track changed, and the first one is reported as drifting. -/
theorem jsd_unchanged_alarm : ¬ ∀ (libraries : Libraries) (engine : LatentDriftEngine)
    (pcaComponents : Int) (rows otherBaseline otherCurrent : List (List ℝ))
    (results : DualTrackResults) (next : LatentDriftEngine),
    engine.metric ∈ validMetrics → SameDimension rows otherBaseline otherCurrent →
    engine.computeDualTrackDrift libraries pcaComponents rows rows otherBaseline otherCurrent =
      .ok (results, next) → results.retrieval.driftScore = 0 := by
  intro all
  obtain ⟨results, next, ran, score⟩ := jsd_alarm (rfl : jsdEngine.metric = "jsd")
  have none := all oneFeature jsdEngine 5 nearZero zeros zeros results next (by decide)
    sameDimension_zeros ran
  rw [score] at none
  exact alarm_pos.ne' none

end Engines

end RagDrift.LatentDrift
