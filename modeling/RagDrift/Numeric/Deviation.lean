import Mathlib.Algebra.BigOperators.Group.List.Basic
import Mathlib.Analysis.Real.Sqrt
import Mathlib.Tactic.FieldSimp
import Mathlib.Tactic.Linarith
import Mathlib.Tactic.Positivity
import Mathlib.Tactic.Ring

set_option autoImplicit false

/- Mean and sample standard deviation of a list that one more value joins: when that value lies
more than a multiple of the deviation above the mean of the list it is then part of. -/
namespace RagDrift.Deviation

section Squares

variable {K : Type} [Field K]

def mean (values : List K) : K := values.sum / values.length

/-- The squared distances to a centre. -/
def squares (values : List K) (centre : K) : K :=
  (values.map fun value => (value - centre) ^ 2).sum

theorem squares_eq (values : List K) (centre : K) :
    squares values centre =
      (values.map fun value => value ^ 2).sum - 2 * centre * values.sum +
        values.length * centre ^ 2 := by
  induction values with
  | nil => simp [squares]
  | cons value rest ih =>
      rw [squares] at ih ⊢
      rw [List.map_cons, List.sum_cons, ih, List.map_cons, List.sum_cons, List.sum_cons,
        List.length_cons]
      push_cast
      ring

variable [CharZero K] {values : List K}

theorem length_ne_zero (some : values ≠ []) : (values.length : K) ≠ 0 :=
  Nat.cast_ne_zero.mpr fun none => some (List.length_eq_zero_iff.mp none)

theorem succ_length_ne_zero (values : List K) : (values.length : K) + 1 ≠ 0 :=
  Nat.cast_add_one_ne_zero values.length

/-- How far the new value is from the new mean. -/
theorem sub_mean_append (some : values ≠ []) (x : K) :
    x - mean (values ++ [x]) =
      values.length / (values.length + 1) * (x - mean values) := by
  have old := length_ne_zero some
  have new := succ_length_ne_zero values
  rw [mean, mean, List.sum_append, List.sum_singleton, List.length_append, List.length_singleton]
  push_cast
  field_simp
  ring

theorem squares_append (some : values ≠ []) (x : K) :
    squares (values ++ [x]) (mean (values ++ [x])) =
      squares values (mean values) +
        values.length / (values.length + 1) * (x - mean values) ^ 2 := by
  have old := length_ne_zero some
  have new := succ_length_ne_zero values
  rw [squares_eq, squares_eq, mean, mean, List.map_append, List.map_singleton, List.sum_append,
    List.sum_append, List.sum_singleton, List.sum_singleton, List.length_append,
    List.length_singleton]
  push_cast
  field_simp
  ring

end Squares

noncomputable def sampleStd (values : List ℝ) : ℝ :=
  √(squares values (mean values) / (values.length - 1))

theorem squares_nonneg (values : List ℝ) (centre : ℝ) : 0 ≤ squares values centre := by
  apply List.sum_nonneg
  intro square inside
  obtain ⟨value, _, rfl⟩ := List.mem_map.mp inside
  exact sq_nonneg _

variable {values : List ℝ} {z : ℝ}

/-- What is left of the squared distance once the new value's own part in the deviation is taken
off it. -/
noncomputable def margin (z : ℝ) (count : ℝ) : ℝ :=
  (count / (count + 1)) ^ 2 - z ^ 2 / (count + 1)

/-- The new value lies above its bar exactly where it lies above the old mean, by more than the
spread of the old values asks for. -/
theorem above_iff (some : values ≠ []) (nonneg : 0 ≤ z) (x : ℝ) :
    mean (values ++ [x]) + z * sampleStd (values ++ [x]) < x ↔
      0 < x - mean values ∧
        z ^ 2 * squares values (mean values) / values.length <
          margin z values.length * (x - mean values) ^ 2 := by
  have length : (0 : ℝ) < values.length := by
    rw [Nat.cast_pos]
    exact List.length_pos_iff.mpr some
  have share : (0 : ℝ) < values.length / (values.length + 1) := by positivity
  have count : (((values ++ [x]).length : ℕ) : ℝ) - 1 = values.length := by
    rw [List.length_append, List.length_singleton]
    push_cast
    ring
  have root : z * sampleStd (values ++ [x]) =
      √(z ^ 2 * ((squares values (mean values) +
        values.length / (values.length + 1) * (x - mean values) ^ 2) / values.length)) := by
    rw [Real.sqrt_mul (sq_nonneg z), Real.sqrt_sq nonneg, sampleStd, count, squares_append some]
  have apart : mean (values ++ [x]) + z * sampleStd (values ++ [x]) < x ↔
      z * sampleStd (values ++ [x]) <
        values.length / (values.length + 1) * (x - mean values) := by
    rw [← sub_mean_append some]
    constructor <;> intro less <;> linarith
  have squared : z ^ 2 * ((squares values (mean values) +
        values.length / (values.length + 1) * (x - mean values) ^ 2) / values.length) <
        (values.length / (values.length + 1) * (x - mean values)) ^ 2 ↔
      z ^ 2 * squares values (mean values) / values.length <
        margin z values.length * (x - mean values) ^ 2 := by
    have parts : z ^ 2 * ((squares values (mean values) +
          values.length / (values.length + 1) * (x - mean values) ^ 2) / values.length) =
        z ^ 2 * squares values (mean values) / values.length +
          z ^ 2 / (values.length + 1) * (x - mean values) ^ 2 := by
      field_simp
    rw [parts, margin, mul_pow, sub_mul, lt_sub_iff_add_lt]
  rw [apart, root]
  constructor
  · intro less
    have positive := (Real.sqrt_nonneg _).trans_lt less
    refine ⟨pos_of_mul_pos_right positive share.le, ?_⟩
    exact squared.mp ((Real.sqrt_lt' positive).mp less)
  · rintro ⟨positive, less⟩
    exact (Real.sqrt_lt' (mul_pos share positive)).mpr (squared.mpr less)

theorem asked_nonneg (z : ℝ) (values : List ℝ) :
    0 ≤ z ^ 2 * squares values (mean values) / values.length := by
  have squared := squares_nonneg values (mean values)
  positivity

/-- A value further up clears its own bar too, although it raises it. -/
theorem above_mono (some : values ≠ []) (nonneg : 0 ≤ z) {x y : ℝ} (further : x ≤ y)
    (above : mean (values ++ [x]) + z * sampleStd (values ++ [x]) < x) :
    mean (values ++ [y]) + z * sampleStd (values ++ [y]) < y := by
  rw [above_iff some nonneg] at above ⊢
  obtain ⟨positive, less⟩ := above
  have left : 0 < margin z values.length :=
    pos_of_mul_pos_left ((asked_nonneg z values).trans_lt less) (sq_nonneg _)
  have squared : (x - mean values) ^ 2 ≤ (y - mean values) ^ 2 :=
    pow_le_pow_left₀ positive.le (by linarith) 2
  refine ⟨by linarith, less.trans_le ?_⟩
  exact mul_le_mul_of_nonneg_left squared left.le

theorem margin_nonpos {count : ℝ} (nonneg : 0 ≤ count)
    (few : count ^ 2 ≤ z ^ 2 * (count + 1)) : margin z count ≤ 0 := by
  rw [margin, sub_nonpos, div_pow, div_le_div_iff₀ (by positivity) (by positivity)]
  have scaled := mul_le_mul_of_nonneg_right few (by linarith : 0 ≤ count + 1)
  linarith

/-- Among few values none is a given multiple of the deviation above the mean: one value is at
most `(n - 1) / √n` deviations away. -/
theorem not_above (some : values ≠ []) (nonneg : 0 ≤ z)
    (few : (values.length : ℝ) ^ 2 ≤ z ^ 2 * (values.length + 1)) (x : ℝ) :
    x ≤ mean (values ++ [x]) + z * sampleStd (values ++ [x]) := by
  by_contra above
  obtain ⟨_, less⟩ := (above_iff some nonneg x).mp (not_le.mp above)
  have asked := asked_nonneg z values
  have small : margin z values.length * (x - mean values) ^ 2 ≤ 0 :=
    mul_nonpos_of_nonpos_of_nonneg (margin_nonpos (Nat.cast_nonneg _) few) (sq_nonneg _)
  linarith

end RagDrift.Deviation
