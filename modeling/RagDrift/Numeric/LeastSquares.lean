import Mathlib.Algebra.Order.Field.Basic
import Mathlib.Algebra.BigOperators.Ring.List
import Mathlib.Tactic.FieldSimp
import Mathlib.Tactic.Linarith
import Mathlib.Tactic.LinearCombination
import Mathlib.Tactic.Positivity
import Mathlib.Tactic.Ring

set_option autoImplicit false

/- The straight line through points that leaves the least sum of squared residuals, over any
ordered field. -/
namespace RagDrift.LeastSquares

variable {K : Type} [Field K]

/-- What a line leaves of the points. -/
def loss (points : List (K × K)) (m c : K) : K :=
  (points.map fun point => (point.2 - (m * point.1 + c)) ^ 2).sum

def mean (values : List K) : K := values.sum / values.length

def meanT (points : List (K × K)) : K := mean (points.map Prod.fst)

def meanV (points : List (K × K)) : K := mean (points.map Prod.snd)

/-- The squared deviations of the first coordinates. -/
def spread (points : List (K × K)) : K :=
  (points.map fun point => (point.1 - meanT points) ^ 2).sum

def covariation (points : List (K × K)) : K :=
  (points.map fun point => (point.1 - meanT points) * (point.2 - meanV points)).sum

def slope (points : List (K × K)) : K := covariation points / spread points

def intercept (points : List (K × K)) : K := meanV points - slope points * meanT points

theorem sum_sub (points : List (K × K)) (f : K × K → K) (centre : K) :
    (points.map fun point => f point - centre).sum =
      (points.map f).sum - points.length * centre := by
  induction points with
  | nil => simp
  | cons point rest ih =>
      simp only [List.map_cons, List.sum_cons, List.length_cons, Nat.cast_add, Nat.cast_one, ih]
      ring

/-- The residuals of a line written by its slope and its offset at two centres. -/
theorem sum_residuals (points : List (K × K)) (centreT centreV m d : K) :
    (points.map fun point => (point.2 - centreV - m * (point.1 - centreT) - d) ^ 2).sum =
      (points.map fun point => (point.2 - centreV) ^ 2).sum -
        2 * m * (points.map fun point => (point.1 - centreT) * (point.2 - centreV)).sum +
        m ^ 2 * (points.map fun point => (point.1 - centreT) ^ 2).sum + points.length * d ^ 2 -
        2 * d * ((points.map fun point => point.2 - centreV).sum -
          m * (points.map fun point => point.1 - centreT).sum) := by
  induction points with
  | nil => simp
  | cons point rest ih =>
      simp only [List.map_cons, List.sum_cons, List.length_cons, Nat.cast_add, Nat.cast_one, ih]
      ring

theorem slope_mul_spread {points : List (K × K)} (apart : spread points ≠ 0) :
    slope points * spread points = covariation points :=
  div_mul_cancel₀ _ apart

/-- Another scale and origin for the values. -/
def affine (a b : K) (points : List (K × K)) : List (K × K) :=
  points.map fun point => (point.1, a * point.2 + b)

/-- Another origin for the first coordinate. -/
def shift (s : K) (points : List (K × K)) : List (K × K) :=
  points.map fun point => (point.1 + s, point.2)

theorem meanT_affine (a b : K) (points : List (K × K)) :
    meanT (affine a b points) = meanT points := by
  rw [meanT, affine, List.map_map]
  rfl

theorem meanV_shift (s : K) (points : List (K × K)) : meanV (shift s points) = meanV points := by
  rw [meanV, shift, List.map_map]
  rfl

theorem spread_affine (a b : K) (points : List (K × K)) :
    spread (affine a b points) = spread points := by
  rw [spread, meanT_affine, affine, List.map_map]
  rfl

section Ordered

variable [LinearOrder K] [IsStrictOrderedRing K] {points : List (K × K)}

theorem sum_sq_nonneg (points : List (K × K)) (f : K × K → K) :
    0 ≤ (points.map fun point => f point ^ 2).sum := by
  apply List.sum_nonneg
  intro square inside
  obtain ⟨point, _, rfl⟩ := List.mem_map.mp inside
  exact sq_nonneg (f point)

theorem spread_nonneg (points : List (K × K)) : 0 ≤ spread points :=
  sum_sq_nonneg points _

theorem loss_nonneg (points : List (K × K)) (m c : K) : 0 ≤ loss points m c :=
  sum_sq_nonneg points _

theorem length_ne_zero (some : points ≠ []) : (points.length : K) ≠ 0 := by
  simpa using some

theorem sum_eq_mean {f : K × K → K} (some : points ≠ []) :
    (points.map f).sum = points.length * mean (points.map f) := by
  rw [mean, List.length_map, mul_div_cancel₀ _ (length_ne_zero some)]

/-- Deviations from the mean cancel out. -/
theorem sum_deviations {f : K × K → K} (some : points ≠ []) :
    (points.map fun point => f point - mean (points.map f)).sum = 0 := by
  rw [sum_sub, sum_eq_mean some, sub_self]

/-- The loss of any line, through the means. -/
theorem loss_eq (some : points ≠ []) (m c : K) :
    loss points m c = (points.map fun point => (point.2 - meanV points) ^ 2).sum -
      2 * m * covariation points + m ^ 2 * spread points +
        points.length * (m * meanT points + c - meanV points) ^ 2 := by
  have centred : loss points m c = (points.map fun point => (point.2 - meanV points -
      m * (point.1 - meanT points) - (m * meanT points + c - meanV points)) ^ 2).sum := by
    rw [loss]
    congr 2
    funext point
    ring
  have first : (points.map fun point => point.1 - meanT points).sum = 0 := sum_deviations some
  have second : (points.map fun point => point.2 - meanV points).sum = 0 := sum_deviations some
  rw [centred, sum_residuals, first, second, covariation, spread]
  ring

/-- What a line loses more than the best one. -/
theorem loss_sub (some : points ≠ []) (apart : spread points ≠ 0) (m c : K) :
    loss points m c = loss points (slope points) (intercept points) +
      spread points * (m - slope points) ^ 2 +
        points.length * (m * meanT points + c - meanV points) ^ 2 := by
  have through := slope_mul_spread apart
  rw [loss_eq some, loss_eq some, intercept]
  linear_combination (2 * m - 2 * slope points) * through

theorem loss_le (some : points ≠ []) (apart : 0 < spread points) (m c : K) :
    loss points (slope points) (intercept points) ≤ loss points m c := by
  rw [loss_sub some apart.ne' m c, add_assoc]
  apply le_add_of_nonneg_right
  positivity

/-- No other line does as well. -/
theorem eq_of_loss_le (some : points ≠ []) (apart : 0 < spread points) {m c : K}
    (good : loss points m c ≤ loss points (slope points) (intercept points)) :
    m = slope points ∧ c = intercept points := by
  rw [loss_sub some apart.ne' m c, add_assoc, add_le_iff_nonpos_right] at good
  have length : (0 : K) < points.length := by
    apply lt_of_le_of_ne
    · exact Nat.cast_nonneg _
    · exact (length_ne_zero some).symm
  have first : 0 ≤ spread points * (m - slope points) ^ 2 := by positivity
  have second : 0 ≤ points.length * (m * meanT points + c - meanV points) ^ 2 := by positivity
  have slopes : m = slope points := by
    have none : spread points * (m - slope points) ^ 2 = 0 := by linarith
    rw [mul_eq_zero, or_iff_right apart.ne', sq_eq_zero_iff, sub_eq_zero] at none
    exact none
  refine ⟨slopes, ?_⟩
  have none : points.length * (m * meanT points + c - meanV points) ^ 2 = 0 := by linarith
  rw [mul_eq_zero, or_iff_right length.ne', sq_eq_zero_iff] at none
  rw [intercept, ← slopes]
  linear_combination none

/-- A line that leaves nothing is the best one. -/
theorem eq_of_collinear (some : points ≠ []) (apart : 0 < spread points) {m c : K}
    (on : ∀ point ∈ points, point.2 = m * point.1 + c) :
    m = slope points ∧ c = intercept points := by
  have none : loss points m c = 0 := by
    apply List.sum_eq_zero
    intro square inside
    obtain ⟨point, member, rfl⟩ := List.mem_map.mp inside
    rw [on point member, sub_self, zero_pow two_ne_zero]
  apply eq_of_loss_le some apart
  rw [none]
  exact loss_nonneg points _ _

theorem mean_affine {f : K × K → K} (some : points ≠ []) (a b : K) :
    mean (points.map fun point => a * f point + b) = a * mean (points.map f) + b := by
  have sum : (points.map fun point => a * f point + b).sum =
      a * (points.map f).sum + points.length * b := by
    have negated := sum_sub points (fun point => a * f point) (-b)
    rw [List.sum_map_mul_left] at negated
    simpa using negated
  have length := length_ne_zero some
  rw [mean, mean, sum, List.length_map, List.length_map]
  field_simp

theorem meanV_affine (some : points ≠ []) (a b : K) :
    meanV (affine a b points) = a * meanV points + b := by
  rw [meanV, affine, List.map_map]
  exact mean_affine some a b

theorem meanT_shift (some : points ≠ []) (s : K) : meanT (shift s points) = meanT points + s := by
  have moved := mean_affine (f := Prod.fst) some 1 s
  rw [one_mul] at moved
  rw [meanT, meanT, ← moved, shift, List.map_map]
  simp [Function.comp_def]

theorem covariation_affine (some : points ≠ []) (a b : K) :
    covariation (affine a b points) = a * covariation points := by
  rw [covariation, meanT_affine, meanV_affine some, affine, List.map_map, covariation,
    ← List.sum_map_mul_left]
  congr 2
  funext point
  simp only [Function.comp_apply]
  ring

theorem spread_shift (some : points ≠ []) (s : K) :
    spread (shift s points) = spread points := by
  rw [spread, meanT_shift some, shift, List.map_map, spread]
  congr 2
  funext point
  simp only [Function.comp_apply]
  ring

theorem covariation_shift (some : points ≠ []) (s : K) :
    covariation (shift s points) = covariation points := by
  rw [covariation, meanT_shift some, meanV_shift, shift, List.map_map, covariation]
  congr 2
  funext point
  simp only [Function.comp_apply]
  ring

end Ordered

end RagDrift.LeastSquares
