import RagDrift.Monitor.Calibration
import RagDrift.Monitor.RunDrift
import RagDrift.Numeric.TwoPoints
import RagDrift.Storage.Models
import Mathlib.Analysis.Complex.ExponentialBounds

set_option autoImplicit false

/- `evaluator.metrics.drift.jsd`: drift between two runs, which compares two samples of one row
each. -/
namespace RagDrift.Monitor

open Ingestion (RAGRun)
open Numeric (amin amax percentile histogram peak)
open Storage (MetricResult)

noncomputable section

inductive RunDriftError where
  /-- The text of `RAGRun.validate`. -/
  | invalid (text : String)
  /-- `"RAGRun {run.run_id} has no usable embedding for drift evaluation"` -/
  | noEmbedding (runId : String)
  /-- `np.vstack` of rows of different lengths. -/
  | lengths
  | vector (reason : VectorError)

/-- `_run_to_embedding_series`: the one row of the frame. -/
def runToEmbeddingSeries (run : RAGRun ℝ) : Except RunDriftError (List ℝ) :=
  match runEmbedding? run with
  | some embedding => .ok embedding
  | none => .error (.noEmbedding run.runId)

def driftResult (score : ℝ × Bool) (baselineRun currentRun : RAGRun ℝ) : MetricResult ℝ where
  metricName := "js_divergence"
  value := score.1
  metadata := Dict.empty.setAll
    [("is_drifted", .bool score.2), ("method", .str "jensen_shannon")]
  kind := .driftResult (some baselineRun.runId) (some currentRun.runId)

/-- `evaluate_drift`; the monitor is a new one. -/
def evaluateDrift (config : EvaluatorConfig) (pca : List (List ℝ) → List ℝ → ℝ)
    (baselineRun currentRun : RAGRun ℝ) : Except RunDriftError (MetricResult ℝ) := do
  baselineRun.validate.mapError .invalid
  currentRun.validate.mapError .invalid
  let monitor := DriftMonitor.ofConfig config
  let baseline ← runToEmbeddingSeries baselineRun
  let current ← runToEmbeddingSeries currentRun
  if baseline.length ≠ current.length then throw .lengths
  else
    let score ← (monitor.computeJensenShannonDrift pca [baseline] [current]).mapError .vector
    return driftResult score baselineRun currentRun

section Points

variable {a b : ℝ}

theorem cubeRoot_two_le : (2 : ℝ) ^ (1 / 3 : ℝ) ≤ 2 := by
  calc (2 : ℝ) ^ (1 / 3 : ℝ) ≤ 2 ^ (1 : ℝ) :=
        Real.rpow_le_rpow_of_exponent_le (by norm_num) (by norm_num)
    _ = 2 := Real.rpow_one 2

/-- The rule asks for two bins, and the least number is ten. -/
theorem freedmanDiaconis_pair (apart : a ≠ b) : freedmanDiaconisBinCount [a, b] = 10 := by
  have spread : 0 < max a b - min a b := by
    rw [max_sub_min_eq_abs']
    exact abs_pos.mpr (sub_ne_zero.mpr apart)
  have quartiles : percentile [a, b] 75 - percentile [a, b] 25 = (max a b - min a b) / 2 := by
    rw [Numeric.percentile_pair a b (by norm_num), Numeric.percentile_pair a b (by norm_num)]
    ring
  have root : 0 < (2 : ℝ) ^ (1 / 3 : ℝ) := by positivity
  have positive : 0 < (max a b - min a b) / 2 := by linarith
  have binWidth : 2 * ((max a b - min a b) / 2) / (([a, b].length : ℝ)) ^ (1 / 3 : ℝ) =
      (max a b - min a b) / 2 ^ (1 / 3 : ℝ) := by
    simp only [List.length_cons, List.length_nil]
    norm_num
    ring
  have few : ⌈(max a b - min a b) / ((max a b - min a b) / (2 : ℝ) ^ (1 / 3 : ℝ))⌉₊ ≤ 2 := by
    rw [div_div_cancel₀ spread.ne', Nat.ceil_le]
    exact_mod_cast cubeRoot_two_le
  unfold freedmanDiaconisBinCount
  rw [if_neg (by simp)]
  simp only [quartiles, Numeric.amax_pair, Numeric.amin_pair, binWidth]
  rw [if_pos ⟨positive, spread⟩, if_pos (div_pos spread root)]
  omega

end Points

section Peaks

variable {bins i j : Nat} {high u w : ℝ}

theorem eps_pos : 0 < eps := by norm_num [eps]

theorem masses_peak (inside : i < bins) (large : eps ≤ high) :
    masses (peak bins i high 0) = peak bins i (high / (high + (bins - 1) * eps))
      (eps / (high + (bins - 1) * eps)) := by
  unfold masses
  rw [Numeric.map_peak, max_eq_right large, max_eq_left eps_pos.le]
  simp only [Numeric.sum_peak inside, Numeric.map_peak]

/-- What two peaks at different places lose against the distribution between them. -/
def peakLoss (u w middle : ℝ) : ℝ := u * Real.log (u / middle) + w * Real.log (w / middle)

theorem relativeEntropy_peaks (i_inside : i < bins) (j_inside : j < bins) (apart : i ≠ j)
    (positive : 0 < w) :
    relativeEntropy (peak bins i u w)
      (List.zipWith (fun a b => (a + b) / 2) (peak bins i u w) (peak bins j u w)) =
        peakLoss u w ((u + w) / 2) := by
  have terms : ∀ bin, (if bin = i then u else w) *
      Real.log ((if bin = i then u else w) /
        (((if bin = i then u else w) + (if bin = j then u else w)) / 2)) =
      (if bin = i then u * Real.log (u / ((u + w) / 2)) else 0) +
        (if bin = j then w * Real.log (w / ((u + w) / 2)) else 0) := by
    intro bin
    by_cases atI : bin = i
    · subst atI
      simp only [apart, if_true, if_false, add_zero]
    · by_cases atJ : bin = j
      · simp only [atJ, if_true, if_false, zero_add, add_comm w u, apart.symm]
      · simp only [atI, atJ, if_false, add_zero, add_self_div_two, div_self positive.ne',
          Real.log_one, mul_zero]
  simp only [relativeEntropy, peak, List.zipWith_map, List.zipWith_self]
  rw [Numeric.sum_map_range, Finset.sum_congr rfl fun bin _ => terms bin,
    Finset.sum_add_distrib, Finset.sum_ite_eq', Finset.sum_ite_eq',
    if_pos (Finset.mem_range.mpr i_inside), if_pos (Finset.mem_range.mpr j_inside), peakLoss]

theorem jensenshannon_peaks (i_inside : i < bins) (j_inside : j < bins) (apart : i ≠ j)
    (positive : 0 < w) (normal : u + (bins - 1) * w = 1) :
    jensenshannon (peak bins i u w) (peak bins j u w) = Real.sqrt (peakLoss u w ((u + w) / 2)) := by
  have unchanged : ∀ place, (peak bins place u w).map (fun mass => mass / 1) =
      peak bins place u w := by
    intro place
    simp only [div_one, List.map_id']
  have middle : List.zipWith (fun a b : ℝ => (a + b) / 2) (peak bins i u w) (peak bins j u w) =
      List.zipWith (fun a b : ℝ => (a + b) / 2) (peak bins j u w) (peak bins i u w) := by
    rw [List.zipWith_comm]
    simp only [add_comm]
  unfold jensenshannon
  simp only [Numeric.sum_peak i_inside, Numeric.sum_peak j_inside, normal, unchanged]
  rw [relativeEntropy_peaks i_inside j_inside apart positive, middle,
    relativeEntropy_peaks j_inside i_inside apart.symm positive, add_self_div_two]

/-- A mass outside the peak of a ten millionth loses almost nothing of `log 2`. -/
theorem peakLoss_large (positive : 0 < w) (normal : u + 9 * w = 1) (small : w ≤ u / 10 ^ 7) :
    0.8 ^ 2 < peakLoss u w ((u + w) / 2) := by
  have peakPositive : 0 < u := by linarith
  have sum : 0 < u + w := by linarith
  -- The peak itself keeps `log 2` up to the ratio of the two masses.
  have kept : u * (Real.log 2 - w / u) ≤ u * Real.log (u / ((u + w) / 2)) := by
    have ratio : u / ((u + w) / 2) = 2 / (1 + w / u) := by
      field_simp
    have below : Real.log (1 + w / u) ≤ w / u := by
      have bound := Real.log_le_sub_one_of_pos (show 0 < 1 + w / u by positivity)
      linarith
    rw [ratio, Real.log_div (by norm_num) (by positivity)]
    gcongr
  -- The other term is an entropy of a mass near 0.
  have lost : -(w * Real.log (w / ((u + w) / 2))) ≤ 1 / 10 ^ 3 := by
    have share : 0 < w / ((u + w) / 2) := by positivity
    have tiny : w / ((u + w) / 2) ≤ (1 / 10 ^ 3) ^ 2 := by
      rw [div_le_iff₀ (by positivity)]
      linarith
    have root : Real.sqrt (w / ((u + w) / 2)) ≤ 1 / 10 ^ 3 :=
      Real.sqrt_le_iff.mpr ⟨by norm_num, tiny⟩
    have entropy := Numeric.neg_mul_log_le share
    have half : (u + w) / 2 ≤ 1 / 2 := by linarith
    calc -(w * Real.log (w / ((u + w) / 2)))
        = (u + w) / 2 * -(w / ((u + w) / 2) * Real.log (w / ((u + w) / 2))) := by
          field_simp
      _ ≤ (u + w) / 2 * (2 * Real.sqrt (w / ((u + w) / 2))) := by gcongr
      _ ≤ 1 / 2 * (2 * (1 / 10 ^ 3)) := by gcongr
      _ = 1 / 10 ^ 3 := by norm_num
  have first : u * (Real.log 2 - w / u) = u * Real.log 2 - w := by
    field_simp
  have log := Real.log_two_gt_d9
  unfold peakLoss
  nlinarith

end Peaks

section Rows

variable {a b : ℝ}

/-- The two values are the ends of the range, so they fall into the first and the last bin. -/
theorem binOf_pair (apart : a ≠ b) :
    Numeric.binOf 10 (min a b) (max a b) a ≠ Numeric.binOf 10 (min a b) (max a b) b := by
  rcases lt_or_gt_of_ne apart with below | above
  · rw [min_eq_left below.le, max_eq_right below.le, Numeric.binOf_lo, Numeric.binOf_hi below]
    decide
  · rw [min_eq_right above.le, max_eq_left above.le, Numeric.binOf_lo, Numeric.binOf_hi above]
    decide

theorem binOf_lt {lo hi value : ℝ} : Numeric.binOf 10 lo hi value < 10 := by
  unfold Numeric.binOf
  omega

theorem masses_pair (near : |a - b| ≤ 10 ^ 6) (apart : eps ≤ |a - b|) :
    0.8 < jensenshannon (masses (histogram 10 (min a b) (max a b) [a]))
      (masses (histogram 10 (min a b) (max a b) [b])) := by
  have positive : 0 < |a - b| := eps_pos.trans_le apart
  have differ : a ≠ b := sub_ne_zero.mp (abs_pos.mp positive)
  rw [Numeric.histogram_single (min_le_left a b) (le_max_left a b),
    Numeric.histogram_single (min_le_right a b) (le_max_right a b), max_sub_min_eq_abs']
  generalize height : 1 / (|a - b| / (10 : ℕ)) = high
  have tall : 1 / 10 ^ 5 ≤ high := by
    rw [← height, one_div_div, div_le_div_iff₀ (by norm_num) positive]
    push_cast
    linarith
  have clipped : eps = 1 / 10 ^ 12 := by norm_num [eps]
  have large : eps ≤ high := by
    rw [clipped]
    linarith
  have total : 0 < high + 9 * eps := by
    rw [clipped]
    linarith
  have count : (((10 : ℕ) : ℝ) - 1) = 9 := by norm_num
  have normal : high / (high + 9 * eps) + 9 * (eps / (high + 9 * eps)) = 1 := by
    field_simp
  have small : eps / (high + 9 * eps) ≤ high / (high + 9 * eps) / 10 ^ 7 := by
    rw [div_right_comm]
    gcongr
    rw [clipped]
    linarith
  rw [masses_peak binOf_lt large, masses_peak binOf_lt large, count,
    jensenshannon_peaks binOf_lt binOf_lt (binOf_pair differ) (div_pos eps_pos total)
      (by rw [count]; exact normal)]
  exact Real.lt_sqrt_of_sq_lt (peakLoss_large (div_pos eps_pos total) normal small)

/-- `|x - y|`. -/
def euclidean (x y : List ℝ) : ℝ := Real.sqrt (sqeuclidean x y)

/-- What a fit of one component on two rows does: it measures them along the line they span. -/
def Isometric (pca : List (List ℝ) → List ℝ → ℝ) : Prop :=
  ∀ x y : List ℝ, x.length = y.length → |pca [x, y] x - pca [x, y] y| = euclidean x y

variable {pca : List (List ℝ) → List ℝ → ℝ} {x y : List ℝ}

theorem jensenShannonDistributions_rows (wide : 1 ≤ x.length)
    (distance : |pca [x, y] x - pca [x, y] y| = euclidean x y) :
    (euclidean x y < eps → ∃ p, jensenShannonDistributions pca [x] [y] = .ok (p, p)) ∧
    (eps ≤ euclidean x y → euclidean x y ≤ 10 ^ 6 →
      ∃ p q, jensenShannonDistributions pca [x] [y] = .ok (p, q) ∧ 0.8 < jensenshannon p q) := by
  have columns : width ([x] ++ [y]) ≠ 0 := by
    show x.length ≠ 0
    omega
  have fitted : jensenShannonDistributions pca [x] [y] =
      if |pca [x, y] x - pca [x, y] y| < eps then
        let bins := freedmanDiaconisBinCount [pca [x, y] x, pca [x, y] y]
        .ok (List.replicate bins (1 / (bins : ℝ)), List.replicate bins (1 / (bins : ℝ)))
      else
        let bins := freedmanDiaconisBinCount [pca [x, y] x, pca [x, y] y]
        let lo := min (pca [x, y] x) (pca [x, y] y)
        let hi := max (pca [x, y] x) (pca [x, y] y)
        .ok (masses (histogram bins lo hi [pca [x, y] x]),
          masses (histogram bins lo hi [pca [x, y] y])) := by
    unfold jensenShannonDistributions
    rw [if_neg columns, ← max_sub_min_eq_abs', ← Numeric.amax_pair, ← Numeric.amin_pair]
    rfl
  rw [distance] at fitted
  constructor
  · intro near
    rw [fitted, if_pos near]
    exact ⟨_, rfl⟩
  · intro apart bounded
    have differ : pca [x, y] x ≠ pca [x, y] y := by
      rw [← sub_ne_zero, ← abs_pos, distance]
      exact eps_pos.trans_le apart
    rw [fitted, if_neg (not_lt.mpr apart)]
    simp only [freedmanDiaconis_pair differ]
    exact ⟨_, _, rfl, masses_pair (distance ▸ bounded) (distance ▸ apart)⟩

theorem computeJensenShannonDrift_rows (monitor : DriftMonitor ℝ)
    (pca : List (List ℝ) → List ℝ → ℝ) (y : List ℝ) (wide : 1 ≤ x.length) :
    ∃ p q, jensenShannonDistributions pca [x] [y] = .ok (p, q) ∧
      monitor.computeJensenShannonDrift pca [x] [y] =
        .ok (jensenshannon p q, monitor.isDrifted (jensenshannon p q) 0 0) := by
  have columns : width ([x] ++ [y]) ≠ 0 := by
    show x.length ≠ 0
    omega
  have returned : ∃ pair, jensenShannonDistributions pca [x] [y] = .ok pair := by
    rw [jensenShannonDistributions, if_neg columns]
    dsimp only
    split <;> exact ⟨_, rfl⟩
  obtain ⟨⟨p, q⟩, returned⟩ := returned
  refine ⟨p, q, returned, ?_⟩
  rw [DriftMonitor.computeJensenShannonDrift, returned]
  rfl

end Rows

section Configured

variable {config : EvaluatorConfig}

structure EvaluatorConfig.Nonnegative (config : EvaluatorConfig) : Prop where
  drift : 0 ≤ config.driftThreshold
  mmd : 0 ≤ config.mmdThreshold
  kl : 0 ≤ config.perComponentKlThreshold

/-- The thresholds of `evaluator.config`. -/
def defaultConfig : EvaluatorConfig where
  driftThreshold := (15 / 100 : ℚ)
  mmdThreshold := (1 / 10 : ℚ)
  perComponentKlThreshold := (1 / 2 : ℚ)
  minBaselineFrames := 20

theorem defaultConfig_nonnegative : defaultConfig.Nonnegative := by
  constructor <;> norm_num [defaultConfig]

theorem isDrifted_ofConfig (score : ℝ) : (DriftMonitor.ofConfig config).isDrifted score 0 0 =
    decide (config.driftThreshold < score ∨ config.mmdThreshold < 0 ∨
      config.perComponentKlThreshold < 0) := rfl

/-- Nothing but the equality of the two embeddings is scored: whatever their direction, rows
nearer than `eps` have no drift, and rows that are further apart have nearly the largest one. -/
theorem evaluateDrift_saturates (config : EvaluatorConfig) {pca : List (List ℝ) → List ℝ → ℝ}
    (isometric : Isometric pca) {baselineRun currentRun : RAGRun ℝ}
    (validBaseline : baselineRun.validate = .ok ()) (validCurrent : currentRun.validate = .ok ())
    {x y : List ℝ} (selectedBaseline : runEmbedding? baselineRun = some x)
    (selectedCurrent : runEmbedding? currentRun = some y) (sameLength : x.length = y.length)
    (wide : 1 ≤ x.length) :
    ∃ value drifted, evaluateDrift config pca baselineRun currentRun =
        .ok (driftResult (value, drifted) baselineRun currentRun) ∧
      (euclidean x y < eps → value = 0 ∧ (config.Nonnegative → drifted = false)) ∧
      (eps ≤ euclidean x y → euclidean x y ≤ 10 ^ 6 →
        0.8 < value ∧ (config.driftThreshold ≤ 0.8 → drifted = true)) := by
  obtain ⟨near, apart⟩ := jensenShannonDistributions_rows wide (isometric x y sameLength)
  obtain ⟨p, q, distributions, scored⟩ :=
    computeJensenShannonDrift_rows (.ofConfig config) pca y wide
  refine ⟨jensenshannon p q, (DriftMonitor.ofConfig config).isDrifted (jensenshannon p q) 0 0,
    ?_, ?_, ?_⟩
  · simp only [evaluateDrift, validBaseline, validCurrent, runToEmbeddingSeries, selectedBaseline,
      selectedCurrent, sameLength, scored, bind, Except.bind, Except.mapError, ne_eq,
      not_true_eq_false, if_false]
    rfl
  · intro closer
    obtain ⟨same, equal⟩ := near closer
    obtain ⟨rfl, rfl⟩ := Prod.mk.inj (Except.ok.inj (distributions.symm.trans equal))
    rw [jensenshannon_self]
    refine ⟨rfl, ?_⟩
    intro nonneg
    simp only [isDrifted_ofConfig, not_lt.mpr nonneg.drift, not_lt.mpr nonneg.mmd,
      not_lt.mpr nonneg.kl, or_self, decide_false]
  · intro further bounded
    obtain ⟨p', q', equal, large⟩ := apart further bounded
    obtain ⟨rfl, rfl⟩ := Prod.mk.inj (Except.ok.inj (distributions.symm.trans equal))
    refine ⟨large, ?_⟩
    intro low
    rw [isDrifted_ofConfig, decide_eq_true_eq]
    exact .inl (low.trans_lt large)

/-- The centred place of a row on the line through two rows. -/
def linePca (rows : List (List ℝ)) (row : List ℝ) : ℝ :=
  match rows with
  | [x, y] => euclidean x row - (1 / 2 : ℚ) * euclidean x y
  | _ => 0

theorem euclidean_self (x : List ℝ) : euclidean x x = 0 := by
  simp [euclidean, sqeuclidean, List.zipWith_self]

theorem linePca_isometric : Isometric linePca := by
  intro x y _
  have nonneg : 0 ≤ euclidean x y := Real.sqrt_nonneg _
  show |euclidean x x - _ - (euclidean x y - _)| = euclidean x y
  rw [euclidean_self, sub_sub_sub_cancel_right, zero_sub, abs_neg, abs_of_nonneg nonneg]

theorem embeddedRun_valid (queryEmbedding answerEmbedding : Option (List ℝ)) :
    (embeddedRun queryEmbedding answerEmbedding).validate = .ok () := by
  have text : Text.strip "query".toList ≠ [] := by decide
  exact if_neg text

theorem euclidean_three_four : euclidean [0, 0] [3, 4] = 5 := by
  have squares : sqeuclidean [0, 0] [3, 4] = 5 ^ 2 := by norm_num [sqeuclidean]
  rw [euclidean, squares, Real.sqrt_sq (by norm_num)]

theorem evaluateDrift_saturates_default :
    (∃ value drifted, evaluateDrift defaultConfig linePca (embeddedRun (some [0, 0]) none)
        (embeddedRun none (some [3, 4])) =
        .ok (driftResult (value, drifted) (embeddedRun (some [0, 0]) none)
          (embeddedRun none (some [3, 4]))) ∧ 0.8 < value ∧ drifted = true) ∧
      ∃ value drifted, evaluateDrift defaultConfig linePca (embeddedRun (some [0, 0]) none)
        (embeddedRun none (some [0, 0])) =
        .ok (driftResult (value, drifted) (embeddedRun (some [0, 0]) none)
          (embeddedRun none (some [0, 0]))) ∧ value = 0 ∧ drifted = false := by
  constructor
  · obtain ⟨value, drifted, returned, _, apart⟩ := evaluateDrift_saturates defaultConfig
      linePca_isometric (embeddedRun_valid (some [0, 0]) none)
      (embeddedRun_valid none (some [3, 4])) (x := [0, 0]) (y := [3, 4]) rfl rfl rfl (by simp)
    rw [euclidean_three_four] at apart
    obtain ⟨large, alarm⟩ := apart (by norm_num [eps]) (by norm_num)
    exact ⟨value, drifted, returned, large, alarm (by norm_num [defaultConfig])⟩
  · obtain ⟨value, drifted, returned, near, _⟩ := evaluateDrift_saturates defaultConfig
      linePca_isometric (embeddedRun_valid (some [0, 0]) none)
      (embeddedRun_valid none (some [0, 0])) (x := [0, 0]) (y := [0, 0]) rfl rfl rfl (by simp)
    rw [euclidean_self] at near
    obtain ⟨zero, silent⟩ := near (by norm_num [eps])
    exact ⟨value, drifted, returned, zero, silent defaultConfig_nonnegative⟩

end Configured

end

end RagDrift.Monitor
