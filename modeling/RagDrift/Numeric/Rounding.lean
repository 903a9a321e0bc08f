import RagDrift.Numeric.Averages
import Mathlib.Tactic.Positivity
import Mathlib.Tactic.Ring

set_option autoImplicit false

/- Averages in an arithmetic that rounds every result. Rounding keeps the order, so an average
lies between those of as many copies of a lower and of an upper bound, and these are as close to
the bounds as the rounding errors of the steps allow. -/
namespace RagDrift.Averages

variable {K : Type} [Field K] [LinearOrder K] [IsStrictOrderedRing K]

/-- Rounding to a floating-point format: `unit` is the relative error, of a magnitude of at
least `tiny`. -/
structure Rounding (K : Type) [Field K] [LinearOrder K] where
  round : K → K
  unit : K
  tiny : K
  unit_nonneg : 0 ≤ unit
  unit_le_one : unit ≤ 1
  tiny_nonneg : 0 ≤ tiny
  tiny_le_one : tiny ≤ 1
  mono : Monotone round
  round_zero : round 0 = 0
  round_one : round 1 = 1
  close : ∀ x, |round x - x| ≤ unit * (|x| + tiny)

namespace Rounding

/-- The arithmetic that does not round. -/
def exact : Rounding K where
  round := id
  unit := 0
  tiny := 0
  unit_nonneg := le_refl 0
  unit_le_one := zero_le_one
  tiny_nonneg := le_refl 0
  tiny_le_one := zero_le_one
  mono := monotone_id
  round_zero := rfl
  round_one := rfl
  close := by simp

variable (r : Rounding K)

def sum (values : List K) : K := values.foldl (fun total value => r.round (total + value)) 0

def mean (values : List K) : K := r.round (r.sum values / values.length)

/-- One step of a moving average. -/
def blend (alpha average value : K) : K :=
  r.round (r.round (alpha * value) + r.round (r.round (1 - alpha) * average))

/-- How far `count` copies of `bound` may be averaged away from it, where a step has `errors`
rounding errors. -/
def slack (errors count : Nat) (bound : K) : K :=
  ((1 + errors * r.unit) ^ count - 1) * (|bound| + r.tiny)

variable {r} {values : List K} {low high alpha : K}

theorem magnitude_nonneg (x : K) : 0 ≤ |x| + r.tiny := add_nonneg (abs_nonneg x) r.tiny_nonneg

theorem growth_nonneg (errors count : Nat) : 0 ≤ (1 + errors * r.unit) ^ count - 1 := by
  have base : 1 ≤ 1 + errors * r.unit :=
    le_add_of_nonneg_right (mul_nonneg (Nat.cast_nonneg errors) r.unit_nonneg)
  exact sub_nonneg.mpr (one_le_pow₀ base)

omit [IsStrictOrderedRing K] in
theorem slack_succ (errors count : Nat) (bound : K) :
    r.slack errors (count + 1) bound =
      (1 + errors * r.unit) * r.slack errors count bound +
        errors * r.unit * (|bound| + r.tiny) := by
  rw [slack, slack, pow_succ]
  ring

/- A rounded sum. -/

theorem foldl_sum_le {start bound : K} (first : start ≤ bound)
    (below : ∀ value ∈ values, value ≤ high) :
    values.foldl (fun total value => r.round (total + value)) start ≤
      (List.replicate values.length high).foldl (fun total value => r.round (total + value))
        bound := by
  induction values generalizing start bound with
  | nil => exact first
  | cons value rest ih =>
      apply ih
      · exact r.mono (add_le_add first (below value List.mem_cons_self))
      · intro later inside
        exact below later (List.mem_cons_of_mem _ inside)

theorem le_foldl_sum {start bound : K} (first : bound ≤ start)
    (above : ∀ value ∈ values, low ≤ value) :
    (List.replicate values.length low).foldl (fun total value => r.round (total + value)) bound ≤
      values.foldl (fun total value => r.round (total + value)) start := by
  induction values generalizing start bound with
  | nil => exact first
  | cons value rest ih =>
      apply ih
      · exact r.mono (add_le_add first (above value List.mem_cons_self))
      · intro later inside
        exact above later (List.mem_cons_of_mem _ inside)

omit [IsStrictOrderedRing K] in
theorem sum_copies_succ (count : Nat) (x : K) :
    r.sum (List.replicate (count + 1) x) = r.round (r.sum (List.replicate count x) + x) := by
  rw [sum, List.replicate_succ', List.foldl_append]
  rfl

/-- The sum of copies, up to one rounding error a copy. -/
theorem sum_copies_close (count : Nat) (x : K) :
    |r.sum (List.replicate count x) - count * x| ≤ count * r.slack 1 count x := by
  induction count with
  | zero => simp [sum]
  | succ count ih =>
      have size : 0 ≤ |x| + r.tiny := magnitude_nonneg x
      have grown : 0 ≤ r.slack 1 count x := mul_nonneg (growth_nonneg 1 count) size
      have copies : (0 : K) ≤ count := Nat.cast_nonneg count
      have unit := r.unit_nonneg
      have rounded := r.close (r.sum (List.replicate count x) + x)
      have part : |r.sum (List.replicate count x) + x| ≤
          count * r.slack 1 count x + (count + 1) * |x| := by
        have split : r.sum (List.replicate count x) + x =
            (r.sum (List.replicate count x) - count * x) + (count + 1) * x := by ring
        have whole : |(count + 1 : K) * x| = (count + 1) * |x| := by
          rw [abs_mul, abs_of_nonneg (by positivity)]
        rw [split]
        calc _ ≤ |r.sum (List.replicate count x) - count * x| + |(count + 1 : K) * x| :=
              abs_add_le _ _
          _ ≤ count * r.slack 1 count x + (count + 1) * |x| := by rw [whole]; linarith
      have total : |r.sum (List.replicate (count + 1) x) - (count + 1) * x| ≤
          count * r.slack 1 count x +
            r.unit * (count * r.slack 1 count x + (count + 1) * (|x| + r.tiny)) := by
        have split : r.sum (List.replicate (count + 1) x) - (count + 1) * x =
            (r.round (r.sum (List.replicate count x) + x) - (r.sum (List.replicate count x) + x)) +
              (r.sum (List.replicate count x) - count * x) := by
          rw [sum_copies_succ]
          ring
        have tiny : r.tiny ≤ (count + 1) * r.tiny := by
          nlinarith [mul_nonneg copies r.tiny_nonneg]
        have scaled : r.unit * (|r.sum (List.replicate count x) + x| + r.tiny) ≤
            r.unit * (count * r.slack 1 count x + (count + 1) * (|x| + r.tiny)) := by
          apply mul_le_mul_of_nonneg_left _ unit
          linarith
        rw [split]
        calc _ ≤ |r.round (r.sum (List.replicate count x) + x) -
                (r.sum (List.replicate count x) + x)| +
                |r.sum (List.replicate count x) - count * x| := abs_add_le _ _
          _ ≤ _ := by linarith
      rw [slack_succ]
      push_cast
      calc _ ≤ _ := total
        _ ≤ _ := by nlinarith [mul_nonneg unit grown]

theorem mean_copies_close {count : Nat} (some : count ≠ 0) (x : K) :
    |r.mean (List.replicate count x) - x| ≤ r.slack 1 (count + 1) x := by
  have positive : (0 : K) < count := Nat.cast_pos.mpr (Nat.pos_of_ne_zero some)
  have unit := r.unit_nonneg
  have near : |r.sum (List.replicate count x) / count - x| ≤ r.slack 1 count x := by
    have scaled : r.sum (List.replicate count x) / count - x =
        (r.sum (List.replicate count x) - count * x) / count := by
      field_simp
    rw [scaled, abs_div, abs_of_pos positive, div_le_iff₀ positive,
      mul_comm (r.slack 1 count x)]
    exact sum_copies_close count x
  have rounded := r.close (r.sum (List.replicate count x) / count)
  have size : |r.sum (List.replicate count x) / count| ≤ r.slack 1 count x + |x| := by
    have split : r.sum (List.replicate count x) / count =
        (r.sum (List.replicate count x) / count - x) + x := by ring
    rw [split]
    exact (abs_add_le _ _).trans (add_le_add near (le_refl _))
  have split : r.mean (List.replicate count x) - x =
      (r.round (r.sum (List.replicate count x) / count) -
        r.sum (List.replicate count x) / count) +
        (r.sum (List.replicate count x) / count - x) := by
    rw [mean, List.length_replicate]
    ring
  have scaled := mul_le_mul_of_nonneg_left size unit
  rw [split, slack_succ]
  calc _ ≤ |r.round (r.sum (List.replicate count x) / count) -
          r.sum (List.replicate count x) / count| +
          |r.sum (List.replicate count x) / count - x| := abs_add_le _ _
    _ ≤ _ := by push_cast; linarith

/-- The rounded mean is within its slack of the bounds of the values. -/
theorem mean_mem (some : values ≠ []) (bounds : ∀ value ∈ values, low ≤ value ∧ value ≤ high) :
    low - r.slack 1 (values.length + 1) low ≤ r.mean values ∧
      r.mean values ≤ high + r.slack 1 (values.length + 1) high := by
  have count : values.length ≠ 0 := mt List.length_eq_zero_iff.mp some
  have length : (0 : K) ≤ values.length := Nat.cast_nonneg _
  have lower : r.mean (List.replicate values.length low) ≤ r.mean values := by
    rw [mean, mean, List.length_replicate]
    apply r.mono
    exact div_le_div_of_nonneg_right
      (le_foldl_sum (le_refl 0) fun value inside => (bounds value inside).1) length
  have upper : r.mean values ≤ r.mean (List.replicate values.length high) := by
    rw [mean, mean, List.length_replicate]
    apply r.mono
    exact div_le_div_of_nonneg_right
      (foldl_sum_le (le_refl 0) fun value inside => (bounds value inside).2) length
  constructor
  · have near := (abs_le.mp (mean_copies_close (r := r) count low)).1
    linarith
  · have near := (abs_le.mp (mean_copies_close (r := r) count high)).2
    linarith

/- A rounded moving average. -/

section Blend

variable (nonneg : 0 ≤ alpha) (small : alpha ≤ 1)
include nonneg small

theorem weight_mem : 0 ≤ r.round (1 - alpha) ∧ r.round (1 - alpha) ≤ 1 := by
  constructor
  · calc 0 = r.round 0 := r.round_zero.symm
      _ ≤ r.round (1 - alpha) := r.mono (sub_nonneg.mpr small)
  · calc r.round (1 - alpha) ≤ r.round 1 := r.mono (sub_le_self 1 nonneg)
      _ = 1 := r.round_one

theorem blend_mono {average average' value value' : K} (first : average ≤ average')
    (second : value ≤ value') : r.blend alpha average value ≤ r.blend alpha average' value' := by
  have weight := (weight_mem (r := r) nonneg small).1
  apply r.mono
  apply add_le_add
  · exact r.mono (mul_le_mul_of_nonneg_left second nonneg)
  · exact r.mono (mul_le_mul_of_nonneg_left first weight)

theorem foldl_blend_le_copies {start bound : K} (first : start ≤ bound)
    (below : ∀ value ∈ values, value ≤ high) :
    values.foldl (r.blend alpha) start ≤
      (List.replicate values.length high).foldl (r.blend alpha) bound := by
  induction values generalizing start bound with
  | nil => exact first
  | cons value rest ih =>
      apply ih
      · exact blend_mono nonneg small first (below value List.mem_cons_self)
      · intro later inside
        exact below later (List.mem_cons_of_mem _ inside)

theorem copies_le_foldl_blend {start bound : K} (first : bound ≤ start)
    (above : ∀ value ∈ values, low ≤ value) :
    (List.replicate values.length low).foldl (r.blend alpha) bound ≤
      values.foldl (r.blend alpha) start := by
  induction values generalizing start bound with
  | nil => exact first
  | cons value rest ih =>
      apply ih
      · exact blend_mono nonneg small first (above value List.mem_cons_self)
      · intro later inside
        exact above later (List.mem_cons_of_mem _ inside)

/-- The three products and differences of a step, before they are added up. -/
theorem parts_close (x average : K) :
    |r.round (alpha * x) + r.round (r.round (1 - alpha) * average) -
        (alpha * x + (1 - alpha) * average)| ≤
      r.unit * (|x| + r.tiny) + 3 * r.unit * (|average| + r.tiny) := by
  have unit := r.unit_nonneg
  have tiny := r.tiny_nonneg
  have weight := weight_mem (r := r) nonneg small
  have towards : |r.round (alpha * x) - alpha * x| ≤ r.unit * (|x| + r.tiny) := by
    have size : |alpha * x| ≤ |x| := by
      rw [abs_mul, abs_of_nonneg nonneg]
      exact mul_le_of_le_one_left (abs_nonneg x) small
    exact (r.close _).trans (mul_le_mul_of_nonneg_left (by linarith) unit)
  have kept : |r.round (r.round (1 - alpha) * average) - r.round (1 - alpha) * average| ≤
      r.unit * (|average| + r.tiny) := by
    have size : |r.round (1 - alpha) * average| ≤ |average| := by
      rw [abs_mul, abs_of_nonneg weight.1]
      exact mul_le_of_le_one_left (abs_nonneg average) weight.2
    exact (r.close _).trans (mul_le_mul_of_nonneg_left (by linarith) unit)
  have factor : |r.round (1 - alpha) - (1 - alpha)| ≤ 2 * r.unit := by
    have size : |1 - alpha| ≤ 1 := by
      rw [abs_of_nonneg (sub_nonneg.mpr small)]
      linarith
    calc _ ≤ r.unit * (|1 - alpha| + r.tiny) := r.close _
      _ ≤ r.unit * 2 := mul_le_mul_of_nonneg_left (by linarith [r.tiny_le_one]) unit
      _ = 2 * r.unit := mul_comm _ _
  have shifted : |(r.round (1 - alpha) - (1 - alpha)) * average| ≤ 2 * r.unit * |average| := by
    rw [abs_mul]
    exact mul_le_mul_of_nonneg_right factor (abs_nonneg average)
  have split : r.round (alpha * x) + r.round (r.round (1 - alpha) * average) -
      (alpha * x + (1 - alpha) * average) =
      (r.round (alpha * x) - alpha * x) +
        ((r.round (r.round (1 - alpha) * average) - r.round (1 - alpha) * average) +
          (r.round (1 - alpha) - (1 - alpha)) * average) := by ring
  rw [split]
  calc _ ≤ |r.round (alpha * x) - alpha * x| +
        |(r.round (r.round (1 - alpha) * average) - r.round (1 - alpha) * average) +
          (r.round (1 - alpha) - (1 - alpha)) * average| := abs_add_le _ _
    _ ≤ |r.round (alpha * x) - alpha * x| +
        (|r.round (r.round (1 - alpha) * average) - r.round (1 - alpha) * average| +
          |(r.round (1 - alpha) - (1 - alpha)) * average|) :=
        add_le_add (le_refl _) (abs_add_le _ _)
    _ ≤ _ := by nlinarith [mul_nonneg unit tiny]

/-- A step from an average that is `off` of `x` towards `x`. -/
theorem blend_close {x average off : K} (near : |average - x| ≤ off) :
    |r.blend alpha average x - x| ≤ (1 + 9 * r.unit) * off + 9 * r.unit * (|x| + r.tiny) := by
  have unit := r.unit_nonneg
  have far : 0 ≤ off := (abs_nonneg _).trans near
  have size : |average| ≤ |x| + off := by
    have split : average = (average - x) + x := by ring
    rw [split]
    linarith [abs_add_le (average - x) x]
  have parts := parts_close (r := r) nonneg small x average
  generalize added : r.round (alpha * x) + r.round (r.round (1 - alpha) * average) = total at parts
  have error : |total - (alpha * x + (1 - alpha) * average)| ≤
      4 * r.unit * (|x| + r.tiny) + 3 * r.unit * off := by
    refine parts.trans ?_
    nlinarith [mul_le_mul_of_nonneg_left size unit]
  have exactly : |alpha * x + (1 - alpha) * average - x| ≤ off := by
    have split : alpha * x + (1 - alpha) * average - x = (1 - alpha) * (average - x) := by ring
    rw [split, abs_mul, abs_of_nonneg (sub_nonneg.mpr small)]
    calc _ ≤ 1 * |average - x| :=
          mul_le_mul_of_nonneg_right (sub_le_self 1 nonneg) (abs_nonneg _)
      _ ≤ off := by rwa [one_mul]
  have sum : |total - x| ≤ off + (4 * r.unit * (|x| + r.tiny) + 3 * r.unit * off) := by
    have split : total - x = (total - (alpha * x + (1 - alpha) * average)) +
        (alpha * x + (1 - alpha) * average - x) := by ring
    rw [split]
    linarith [abs_add_le (total - (alpha * x + (1 - alpha) * average))
      (alpha * x + (1 - alpha) * average - x)]
  have whole : |total| ≤ |x| + (off + (4 * r.unit * (|x| + r.tiny) + 3 * r.unit * off)) := by
    have split : total = (total - x) + x := by ring
    rw [split]
    linarith [abs_add_le (total - x) x]
  have rounded : |r.round total - total| ≤ r.unit *
      (|x| + (off + (4 * r.unit * (|x| + r.tiny) + 3 * r.unit * off)) + r.tiny) :=
    (r.close total).trans (mul_le_mul_of_nonneg_left (by linarith) unit)
  have magnitude : 0 ≤ |x| + r.tiny := magnitude_nonneg x
  have square : r.unit * r.unit ≤ r.unit := mul_le_of_le_one_left unit r.unit_le_one
  have squares := mul_le_mul_of_nonneg_right square magnitude
  have squares' := mul_le_mul_of_nonneg_right square far
  rw [blend, added]
  have split : r.round total - x = (r.round total - total) + (total - x) := by ring
  rw [split]
  calc _ ≤ |r.round total - total| + |total - x| := abs_add_le _ _
    _ ≤ _ := by nlinarith [mul_nonneg unit far, mul_nonneg unit magnitude]

theorem foldl_blend_copies_close (count : Nat) (x : K) :
    |(List.replicate count x).foldl (r.blend alpha) x - x| ≤ r.slack 9 count x := by
  induction count with
  | zero => simp [slack]
  | succ count ih =>
      rw [List.replicate_succ', List.foldl_append, List.foldl_cons, List.foldl_nil, slack_succ]
      exact_mod_cast blend_close nonneg small ih

/-- The rounded moving average is within its slack of the bounds of the values. -/
theorem foldl_blend_mem {first : K} (start : low ≤ first ∧ first ≤ high)
    (bounds : ∀ value ∈ values, low ≤ value ∧ value ≤ high) :
    low - r.slack 9 values.length low ≤ values.foldl (r.blend alpha) first ∧
      values.foldl (r.blend alpha) first ≤ high + r.slack 9 values.length high := by
  constructor
  · have near := (abs_le.mp
      (foldl_blend_copies_close (r := r) nonneg small values.length low)).1
    have lower := copies_le_foldl_blend (r := r) nonneg small start.1
      fun value inside => (bounds value inside).1
    linarith
  · have near := (abs_le.mp
      (foldl_blend_copies_close (r := r) nonneg small values.length high)).2
    have upper := foldl_blend_le_copies (r := r) nonneg small start.2
      fun value inside => (bounds value inside).2
    linarith

end Blend

end Rounding

end RagDrift.Averages
