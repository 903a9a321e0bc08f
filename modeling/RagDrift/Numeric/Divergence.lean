import Mathlib.Analysis.SpecialFunctions.Log.Base
import Mathlib.Tactic.FieldSimp
import Mathlib.Tactic.Linarith
import Mathlib.Tactic.Positivity
import Mathlib.Tactic.Ring

set_option autoImplicit false

/- The Jensen-Shannon divergence of two arrays of masses, place by place. -/
namespace RagDrift.Divergence

/-- What one mass adds to its divergence from a midpoint. -/
noncomputable def share (a m : ℝ) : ℝ := a * Real.logb (2 : ℚ) (a / m)

theorem share_eq (a m : ℝ) : share a m = a * Real.logb 2 (a / m) := by
  rw [share, Rat.cast_ofNat]

theorem share_self (a : ℝ) : share a a = 0 := by
  by_cases none : a = 0
  · rw [none, share, zero_mul]
  · rw [share, div_self none, Real.logb_one, mul_zero]

section Bounds

variable {a b m : ℝ}

theorem sub_lt_share (positive : 0 < a) (middle : 0 < m) (apart : a ≠ m) :
    (a - m) / Real.log 2 < share a m := by
  have base : 0 < Real.log 2 := Real.log_pos one_lt_two
  have ratio : m / a ≠ 1 := by
    intro same
    exact apart ((div_eq_one_iff_eq positive.ne').mp same).symm
  have below := Real.log_lt_sub_one_of_pos (div_pos middle positive) ratio
  have inverse : Real.log (a / m) = -Real.log (m / a) := by
    rw [← Real.log_inv, inv_div]
  rw [share_eq, Real.logb, inverse, ← mul_div_assoc]
  apply div_lt_div_of_pos_right _ base
  have scaled := mul_lt_mul_of_pos_left below positive
  rw [mul_sub, mul_div_cancel₀ m positive.ne', mul_one] at scaled
  linarith

theorem sub_le_share (positive : 0 < a) (middle : 0 < m) :
    (a - m) / Real.log 2 ≤ share a m := by
  by_cases same : a = m
  · rw [same, share_self, sub_self, zero_div]
  · exact (sub_lt_share positive middle same).le

/-- The differences to the midpoint cancel. -/
theorem shares_pos (left : 0 < a) (right : 0 < b) (apart : a ≠ b) :
    0 < share a ((a + b) / 2) / 2 + share b ((a + b) / 2) / 2 := by
  have middle : 0 < (a + b) / 2 := by positivity
  have below : a ≠ (a + b) / 2 := by
    intro same
    exact apart (by linarith)
  have first := sub_lt_share left middle below
  have second := sub_le_share right middle
  have cancels : (a - (a + b) / 2) / Real.log 2 + (b - (a + b) / 2) / Real.log 2 = 0 := by
    rw [← add_div]
    ring
  linarith

theorem shares_nonneg (left : 0 < a) (right : 0 < b) :
    0 ≤ share a ((a + b) / 2) / 2 + share b ((a + b) / 2) / 2 := by
  by_cases same : a = b
  · rw [same, add_self_div_two, share_self, zero_div, add_zero]
  · exact (shares_pos left right same).le

end Bounds

end RagDrift.Divergence
