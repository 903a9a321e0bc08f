import Mathlib.Algebra.BigOperators.Group.List.Basic
import Mathlib.Algebra.Order.Archimedean.Real.Basic
import Mathlib.Algebra.Order.Floor.Semiring
import Mathlib.Data.Multiset.Sort

set_option autoImplicit false

/- One-dimensional arrays in exact real arithmetic, as numpy's statistics see them. -/
namespace RagDrift.Numeric

noncomputable section

/-- `np.mean`. -/
def mean (values : List ℝ) : ℝ := values.sum / values.length

def sorted (values : List ℝ) : List ℝ := (values : Multiset ℝ).sort

/-- `np.min` and `np.max` of an array that is not empty. -/
def amin (values : List ℝ) : ℝ := values.min?.getD 0

def amax (values : List ℝ) : ℝ := values.max?.getD 0

/-- `np.median`: the mean of the two middle values, which are one value if the length is odd. -/
def median (values : List ℝ) : ℝ :=
  mean [(sorted values).getD ((values.length - 1) / 2) 0,
    (sorted values).getD (values.length / 2) 0]

/-- `np.percentile`, which interpolates linearly between two neighbours. -/
def percentile (values : List ℝ) (q : ℝ) : ℝ :=
  let place := (values.length - 1 : ℝ) * q / 100
  let lower := ⌊place⌋₊
  let upper := min (lower + 1) (values.length - 1)
  let below := (sorted values).getD lower 0
  below + (place - lower) * ((sorted values).getD upper 0 - below)

/-- The bin of a value; the last bin is closed on the right. -/
def binOf (bins : Nat) (lo hi value : ℝ) : Nat :=
  min ⌊(value - lo) / (hi - lo) * bins⌋₊ (bins - 1)

/-- `np.histogram(values, bins=bins, range=(lo, hi), density=True)`. -/
def histogram (bins : Nat) (lo hi : ℝ) (values : List ℝ) : List ℝ :=
  let kept := values.filter fun value => lo ≤ value ∧ value ≤ hi
  (List.range bins).map fun bin =>
    kept.countP (fun value => binOf bins lo hi value = bin) / ((hi - lo) / bins) / kept.length

theorem mean_perm {first second : List ℝ} (reordered : first.Perm second) :
    mean first = mean second := by
  rw [mean, mean, reordered.sum_eq, reordered.length_eq]

theorem median_perm {first second : List ℝ} (reordered : first.Perm second) :
    median first = median second := by
  have same : sorted first = sorted second := by
    rw [sorted, sorted, Multiset.coe_eq_coe.mpr reordered]
  rw [median, median, same, reordered.length_eq]

/-- A histogram does not see the order of the values. -/
theorem histogram_perm {first second : List ℝ} (reordered : first.Perm second) (bins : Nat)
    (lo hi : ℝ) : histogram bins lo hi first = histogram bins lo hi second := by
  have kept := reordered.filter fun value => decide (lo ≤ value ∧ value ≤ hi)
  simp only [histogram, kept.countP_eq, kept.length_eq]

theorem mean_replicate {count : Nat} (some : count ≠ 0) (value : ℝ) :
    mean (List.replicate count value) = value := by
  have nonzero : (count : ℝ) ≠ 0 := Nat.cast_ne_zero.mpr some
  rw [mean, List.sum_replicate, List.length_replicate, nsmul_eq_mul]
  exact mul_div_cancel_left₀ value nonzero

theorem mean_flatten_replicate {count : Nat} (some : count ≠ 0) (values : List ℝ) :
    mean (List.replicate count values).flatten = mean values := by
  have nonzero : (count : ℝ) ≠ 0 := Nat.cast_ne_zero.mpr some
  rw [mean, mean, List.sum_flatten, List.map_replicate, List.sum_replicate, nsmul_eq_mul,
    List.length_flatten, List.map_replicate, List.sum_replicate, smul_eq_mul, Nat.cast_mul]
  exact mul_div_mul_left _ _ nonzero

end

end RagDrift.Numeric
