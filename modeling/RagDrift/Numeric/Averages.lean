import Mathlib.Algebra.Order.BigOperators.Group.List
import Mathlib.Algebra.Order.Field.Basic
import Mathlib.Tactic.FieldSimp
import Mathlib.Tactic.Linarith

set_option autoImplicit false

/- Averages of a list lie between its bounds: the mean, and the average that is moved towards
one value after the other. -/
namespace RagDrift.Averages

variable {K : Type} [Field K] [LinearOrder K] [IsStrictOrderedRing K] {low high : K}
  {values : List K}

theorem le_mean (some : values ≠ []) (above : ∀ value ∈ values, low ≤ value) :
    low ≤ values.sum / values.length := by
  have length : (0 : K) < values.length := by
    rw [Nat.cast_pos]
    exact List.length_pos_iff.mpr some
  have sum := List.card_nsmul_le_sum values low above
  rw [nsmul_eq_mul, mul_comm] at sum
  rw [le_div_iff₀ length]
  exact sum

theorem mean_le (some : values ≠ []) (below : ∀ value ∈ values, value ≤ high) :
    values.sum / values.length ≤ high := by
  have length : (0 : K) < values.length := by
    rw [Nat.cast_pos]
    exact List.length_pos_iff.mpr some
  have sum := List.sum_le_card_nsmul values high below
  rw [nsmul_eq_mul, mul_comm] at sum
  rw [div_le_iff₀ length]
  exact sum

/-- One step from the average so far towards a value. -/
def blend (alpha average value : K) : K := alpha * value + (1 - alpha) * average

variable {alpha : K}

theorem le_blend (nonneg : 0 ≤ alpha) (small : alpha ≤ 1) {average value : K}
    (first : low ≤ average) (second : low ≤ value) : low ≤ blend alpha average value := by
  have towards := mul_le_mul_of_nonneg_left second nonneg
  have kept := mul_le_mul_of_nonneg_left first (sub_nonneg.mpr small)
  rw [blend]
  linarith

theorem blend_le (nonneg : 0 ≤ alpha) (small : alpha ≤ 1) {average value : K}
    (first : average ≤ high) (second : value ≤ high) : blend alpha average value ≤ high := by
  have towards := mul_le_mul_of_nonneg_left second nonneg
  have kept := mul_le_mul_of_nonneg_left first (sub_nonneg.mpr small)
  rw [blend]
  linarith

theorem le_foldl_blend (nonneg : 0 ≤ alpha) (small : alpha ≤ 1) {first : K} (start : low ≤ first)
    (above : ∀ value ∈ values, low ≤ value) : low ≤ values.foldl (blend alpha) first := by
  induction values generalizing first with
  | nil => exact start
  | cons value rest ih =>
      apply ih
      · exact le_blend nonneg small start (above value List.mem_cons_self)
      · intro later inside
        exact above later (List.mem_cons_of_mem _ inside)

theorem foldl_blend_le (nonneg : 0 ≤ alpha) (small : alpha ≤ 1) {first : K} (start : first ≤ high)
    (below : ∀ value ∈ values, value ≤ high) : values.foldl (blend alpha) first ≤ high := by
  induction values generalizing first with
  | nil => exact start
  | cons value rest ih =>
      apply ih
      · exact blend_le nonneg small start (below value List.mem_cons_self)
      · intro later inside
        exact below later (List.mem_cons_of_mem _ inside)

end RagDrift.Averages
