import RagDrift.Numeric.Arrays
import Mathlib.Analysis.SpecialFunctions.Log.Basic
import Mathlib.Analysis.SpecialFunctions.Pow.Real

set_option autoImplicit false

/- Statistics of a sample of two values. -/
namespace RagDrift.Numeric

section Pair

variable (a b : ℝ)

theorem amin_pair : amin [a, b] = min a b := by
  simp [amin, List.min?]

theorem amax_pair : amax [a, b] = max a b := by
  simp [amax, List.max?]

theorem sorted_pair : sorted [a, b] = [min a b, max a b] := by
  have reordered : sorted [a, b] = sorted [min a b, max a b] := by
    have same : [a, b].Perm [min a b, max a b] := by
      rcases le_total a b with below | above
      · rw [min_eq_left below, max_eq_right below]
      · rw [min_eq_right above, max_eq_left above]
        exact List.Perm.swap _ _ _
    rw [sorted, sorted, Multiset.coe_eq_coe.mpr same]
  rw [reordered, sorted, Multiset.coe_sort]
  apply List.mergeSort_of_pairwise
  simp

/-- Between two values a percentile is as far as it is large. -/
theorem percentile_pair {q : ℝ} (small : q < 100) :
    percentile [a, b] q = min a b + q / 100 * (max a b - min a b) := by
  have place : (([a, b].length : ℝ) - 1) * q / 100 = q / 100 := by
    simp only [List.length_cons, List.length_nil]
    norm_num
  have lower : ⌊q / 100⌋₊ = 0 := Nat.floor_eq_zero.mpr (by linarith)
  unfold percentile
  simp only [place, lower, sorted_pair]
  simp

end Pair

section Histogram

variable {bins : Nat} {lo hi : ℝ}

/-- Entries of one size but for one place. -/
def peak (bins place : Nat) (high low : ℝ) : List ℝ :=
  (List.range bins).map fun bin => if bin = place then high else low

theorem histogram_single {value : ℝ} (above : lo ≤ value) (below : value ≤ hi) :
    histogram bins lo hi [value] =
      peak bins (binOf bins lo hi value) (1 / ((hi - lo) / bins)) 0 := by
  unfold histogram peak
  apply List.map_congr_left
  intro bin _
  have kept : [value].filter (fun value => lo ≤ value ∧ value ≤ hi) = [value] := by
    simp [above, below]
  rw [kept]
  by_cases here : bin = binOf bins lo hi value
  · simp [here]
  · simp [here, Ne.symm here]

theorem binOf_lo : binOf bins lo hi lo = 0 := by
  simp [binOf]

theorem binOf_hi (apart : lo < hi) : binOf bins lo hi hi = bins - 1 := by
  have whole : (hi - lo) / (hi - lo) = 1 := div_self (sub_pos.mpr apart).ne'
  simp [binOf, whole]

theorem sum_map_range (n : Nat) (f : Nat → ℝ) :
    ((List.range n).map f).sum = ∑ i ∈ Finset.range n, f i := rfl

theorem sum_peak {place : Nat} (inside : place < bins) (high low : ℝ) :
    (peak bins place high low).sum = high + (bins - 1) * low := by
  have split : ∀ bin, (if bin = place then high else low) =
      (if bin = place then high - low else 0) + low := by
    intro bin
    split <;> ring
  rw [peak, sum_map_range, Finset.sum_congr rfl fun bin _ => split bin, Finset.sum_add_distrib,
    Finset.sum_ite_eq' (Finset.range bins) place, if_pos (Finset.mem_range.mpr inside),
    Finset.sum_const, Finset.card_range, nsmul_eq_mul]
  ring

theorem map_peak (f : ℝ → ℝ) (place : Nat) (high low : ℝ) :
    (peak bins place high low).map f = peak bins place (f high) (f low) := by
  rw [peak, peak, List.map_map]
  apply List.map_congr_left
  intro bin _
  exact apply_ite f _ _ _

end Histogram

theorem neg_mul_log_le {s : ℝ} (positive : 0 < s) : -(s * Real.log s) ≤ 2 * Real.sqrt s := by
  have root : 0 < Real.sqrt s := Real.sqrt_pos.mpr positive
  have bound : Real.log (1 / Real.sqrt s) ≤ 1 / Real.sqrt s - 1 :=
    Real.log_le_sub_one_of_pos (by positivity)
  have half : Real.log (1 / Real.sqrt s) = -(Real.log s / 2) := by
    rw [one_div, Real.log_inv, Real.log_sqrt positive.le]
  have scaled : s * (1 / Real.sqrt s) = Real.sqrt s := by
    rw [mul_one_div, Real.div_sqrt]
  calc -(s * Real.log s) = 2 * (s * Real.log (1 / Real.sqrt s)) := by rw [half]; ring
    _ ≤ 2 * (s * (1 / Real.sqrt s - 1)) := by gcongr
    _ = 2 * Real.sqrt s - 2 * s := by rw [mul_sub, scaled]; ring
    _ ≤ 2 * Real.sqrt s := by linarith

end RagDrift.Numeric
