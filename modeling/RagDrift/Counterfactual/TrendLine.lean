import RagDrift.Counterfactual.Estimator
import RagDrift.Numeric.LeastSquares

set_option autoImplicit false

/- The trend estimate reads the least-squares line of the points at the target. -/
namespace RagDrift.Counterfactual

open LeastSquares

variable {points : List (ℚ × ℚ)}

theorem trendAdjustedEstimate_eq (points : List (ℚ × ℚ)) (target : ℚ) :
    trendAdjustedEstimate points target =
      if |spread points| < 1 / 10 ^ 12 then meanV points
      else LeastSquares.slope points * target + intercept points := rfl

theorem spread_pos (apart : 1 / 10 ^ 12 ≤ spread points) : 0 < spread points :=
  lt_of_lt_of_le (by norm_num) apart

/-- Where the timestamps are far enough apart, the guard lets the line through. -/
theorem trend_of_apart (apart : 1 / 10 ^ 12 ≤ spread points) (target : ℚ) :
    trendAdjustedEstimate points target =
      LeastSquares.slope points * target + intercept points := by
  rw [trendAdjustedEstimate_eq, abs_of_pos (spread_pos apart), if_neg (not_lt.mpr apart)]

theorem trend_of_collinear (some : points ≠ []) (apart : 1 / 10 ^ 12 ≤ spread points) {m c : ℚ}
    (on : ∀ point ∈ points, point.2 = m * point.1 + c) (target : ℚ) :
    trendAdjustedEstimate points target = m * target + c := by
  obtain ⟨slopes, intercepts⟩ := eq_of_collinear some (spread_pos apart) on
  rw [trend_of_apart apart, slopes, intercepts]

theorem trend_affine (some : points ≠ []) (apart : 1 / 10 ^ 12 ≤ spread points)
    (a b target : ℚ) :
    trendAdjustedEstimate (affine a b points) target =
      a * trendAdjustedEstimate points target + b := by
  have same : 1 / 10 ^ 12 ≤ spread (affine a b points) := by
    rw [spread_affine]
    exact apart
  rw [trend_of_apart same, trend_of_apart apart, intercept, intercept, LeastSquares.slope,
    LeastSquares.slope, spread_affine, meanT_affine, meanV_affine some, covariation_affine some]
  ring

theorem trend_shift (some : points ≠ []) (apart : 1 / 10 ^ 12 ≤ spread points) (s target : ℚ) :
    trendAdjustedEstimate (shift s points) (target + s) = trendAdjustedEstimate points target := by
  have same : 1 / 10 ^ 12 ≤ spread (shift s points) := by
    rw [spread_shift some]
    exact apart
  rw [trend_of_apart same, trend_of_apart apart, intercept, intercept, LeastSquares.slope,
    LeastSquares.slope, spread_shift some, meanT_shift some, meanV_shift, covariation_shift some]
  ring

/-- The estimate lies on the one line with the least loss; so it is exact on collinear points
and follows a change of the values' scale and origin and of the origin of time. -/
theorem trend_is_least_squares (points : List (ℚ × ℚ)) (target : ℚ) (many : 3 ≤ points.length)
    (apart : 1 / 10 ^ 12 ≤ spread points) :
    (∃ m c, (∀ m' c', loss points m c ≤ loss points m' c') ∧
      (∀ m' c', loss points m' c' ≤ loss points m c → m' = m ∧ c' = c) ∧
      trendAdjustedEstimate points target = m * target + c) ∧
    (∀ m c, (∀ point ∈ points, point.2 = m * point.1 + c) →
      trendAdjustedEstimate points target = m * target + c) ∧
    (∀ a b, trendAdjustedEstimate (points.map fun point => (point.1, a * point.2 + b)) target =
      a * trendAdjustedEstimate points target + b) ∧
    ∀ s, trendAdjustedEstimate (points.map fun point => (point.1 + s, point.2)) (target + s) =
      trendAdjustedEstimate points target := by
  have some : points ≠ [] := by
    rintro rfl
    simp at many
  refine ⟨⟨LeastSquares.slope points, intercept points, ?_, ?_, trend_of_apart apart target⟩,
    ?_, ?_, ?_⟩
  · exact loss_le some (spread_pos apart)
  · intro m c good
    exact eq_of_loss_le some (spread_pos apart) good
  · intro m c on
    exact trend_of_collinear some apart on target
  · intro a b
    exact trend_affine some apart a b target
  · intro s
    exact trend_shift some apart s target

def unevenSteps : List (ℚ × ℚ) := [(0, 1), (1, 2), (2, 4)]

theorem trend_is_least_squares_steps :
    (∃ m c, (∀ m' c', loss unevenSteps m c ≤ loss unevenSteps m' c') ∧
      (∀ m' c', loss unevenSteps m' c' ≤ loss unevenSteps m c → m' = m ∧ c' = c) ∧
      trendAdjustedEstimate unevenSteps 3 = m * 3 + c) ∧
    (∀ m c, (∀ point ∈ unevenSteps, point.2 = m * point.1 + c) →
      trendAdjustedEstimate unevenSteps 3 = m * 3 + c) ∧
    (∀ a b, trendAdjustedEstimate (unevenSteps.map fun point => (point.1, a * point.2 + b)) 3 =
      a * trendAdjustedEstimate unevenSteps 3 + b) ∧
    ∀ s, trendAdjustedEstimate (unevenSteps.map fun point => (point.1 + s, point.2)) (3 + s) =
      trendAdjustedEstimate unevenSteps 3 :=
  trend_is_least_squares unevenSteps 3 (by decide) (by decide +kernel)

end RagDrift.Counterfactual
