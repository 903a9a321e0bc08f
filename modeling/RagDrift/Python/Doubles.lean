import RagDrift.Numeric.Rounding
import RagDrift.Python.Number
import Mathlib.Data.Int.Log

set_option autoImplicit false

/- Python's float arithmetic: the exact result, rounded to the nearest double. -/
namespace RagDrift

open Averages (Rounding)

/-- The exponent of the last place of a double of this size. -/
def lastPlace (x : ℚ) : ℤ := max (Int.log 2 |x| - 52) (-1074)

/-- The nearest multiple of the last place, of two the even one. A result of `2 ^ 1024` or more
is left to `Number.rounded`. -/
def nearestDouble (x : ℚ) : ℚ := roundEven (x / 2 ^ lastPlace x) * 2 ^ lastPlace x

theorem roundEven_neg (x : ℚ) : roundEven (-x) = -roundEven x := by
  by_cases whole : Int.fract x = 0
  · obtain ⟨n, rfl⟩ : ∃ n : ℤ, x = n := ⟨⌊x⌋, by rw [← Int.floor_add_fract x, whole]; simp⟩
    rw [← Int.cast_neg, roundEven_intCast, roundEven_intCast]
  · have fraction : Int.fract (-x) = 1 - Int.fract x := Int.fract_neg whole
    have floor : ⌊-x⌋ = -⌊x⌋ - 1 := by
      have sum := Int.floor_add_fract (-x)
      have sum' := Int.floor_add_fract x
      have same : ((⌊-x⌋ : ℤ) : ℚ) = ((-⌊x⌋ - 1 : ℤ) : ℚ) := by
        push_cast
        linarith
      exact_mod_cast same
    have parity : Even (-⌊x⌋ - 1) ↔ ¬ Even ⌊x⌋ := by
      rw [Int.even_sub_one, even_neg]
    unfold roundEven
    rw [fraction, floor]
    by_cases low : Int.fract x < 1 / 2
    · rw [if_neg (by linarith), if_pos (by linarith), if_pos low]
      ring
    · by_cases high : 1 / 2 < Int.fract x
      · rw [if_pos (by linarith), if_neg low, if_pos high]
        ring
      · rw [if_neg (by linarith), if_neg (by linarith), if_neg low, if_neg high]
        by_cases even : Even ⌊x⌋
        · rw [if_neg (mt parity.mp (not_not.mpr even)), if_pos even]
          ring
        · rw [if_pos (parity.mpr even), if_neg even]
          ring

theorem roundEven_close (x : ℚ) : |roundEven x - x| ≤ 1 / 2 := by
  have sum := Int.floor_add_fract x
  have nonneg := Int.fract_nonneg x
  have small := Int.fract_lt_one x
  unfold roundEven
  rw [abs_le]
  split_ifs <;> push_cast <;> constructor <;> linarith

theorem place_pos (x : ℚ) : (0 : ℚ) < 2 ^ lastPlace x := zpow_pos (by norm_num) _

theorem lastPlace_neg (x : ℚ) : lastPlace (-x) = lastPlace x := by
  rw [lastPlace, lastPlace, abs_neg]

theorem nearestDouble_neg (x : ℚ) : nearestDouble (-x) = -nearestDouble x := by
  rw [nearestDouble, nearestDouble, lastPlace_neg, neg_div, roundEven_neg]
  push_cast
  ring

theorem nearestDouble_zero : nearestDouble 0 = 0 := by decide +kernel

theorem nearestDouble_nonneg {x : ℚ} (nonneg : 0 ≤ x) : 0 ≤ nearestDouble x := by
  have rounded : (0 : ℤ) ≤ roundEven (x / 2 ^ lastPlace x) := by
    rw [roundEven_nonneg_iff]
    have quotient : 0 ≤ x / 2 ^ lastPlace x := div_nonneg nonneg (place_pos x).le
    linarith
  exact mul_nonneg (Int.cast_nonneg rounded) (place_pos x).le

/-- Rounding does not cross a multiple of the last place. -/
theorem nearestDouble_le {x bound : ℚ} {n : ℤ} (below : x ≤ bound)
    (multiple : bound = n * 2 ^ lastPlace x) : nearestDouble x ≤ bound := by
  have place := place_pos x
  have rounded : roundEven (x / 2 ^ lastPlace x) ≤ n := by
    rw [← roundEven_intCast n]
    apply roundEven_mono
    rw [div_le_iff₀ place, ← multiple]
    exact below
  rw [nearestDouble, multiple]
  exact mul_le_mul_of_nonneg_right (Int.cast_le.mpr rounded) place.le

theorem le_nearestDouble {x bound : ℚ} {n : ℤ} (above : bound ≤ x)
    (multiple : bound = n * 2 ^ lastPlace x) : bound ≤ nearestDouble x := by
  have place := place_pos x
  have rounded : n ≤ roundEven (x / 2 ^ lastPlace x) := by
    rw [← roundEven_intCast n]
    apply roundEven_mono
    rw [le_div_iff₀ place, ← multiple]
    exact above
  rw [nearestDouble, multiple]
  exact mul_le_mul_of_nonneg_right (Int.cast_le.mpr rounded) place.le

theorem power_multiple {place power : ℤ} (atMost : place ≤ power) :
    ∃ n : ℤ, (2 : ℚ) ^ power = n * 2 ^ place := by
  obtain ⟨k, rfl⟩ := Int.le.dest atMost
  refine ⟨2 ^ k, ?_⟩
  rw [zpow_add₀ (by norm_num), zpow_natCast]
  push_cast
  ring

/-- Between two numbers with different last places lies a power of two, which both of them
respect. -/
theorem nearestDouble_mono_pos {x y : ℚ} (positive : 0 < x) (below : x ≤ y) :
    nearestDouble x ≤ nearestDouble y := by
  have logs : Int.log 2 |x| ≤ Int.log 2 |y| := by
    rw [abs_of_pos positive, abs_of_pos (positive.trans_le below)]
    exact Int.log_mono_right positive below
  by_cases same : lastPlace x = lastPlace y
  · rw [nearestDouble, nearestDouble, same]
    have place := place_pos y
    apply mul_le_mul_of_nonneg_right _ place.le
    exact Int.cast_le.mpr (roundEven_mono (div_le_div_of_nonneg_right below place.le))
  · have places : lastPlace x < lastPlace y := by
      unfold lastPlace at same ⊢
      omega
    have larger : Int.log 2 |x| < Int.log 2 |y| ∧ lastPlace x ≤ Int.log 2 |y| ∧
        lastPlace y ≤ Int.log 2 |y| := by
      unfold lastPlace at places ⊢
      omega
    obtain ⟨less, first, second⟩ := larger
    rw [abs_of_pos (positive.trans_le below)] at less first second
    rw [abs_of_pos positive] at less
    have lower : x ≤ 2 ^ Int.log 2 y := by
      have under := Int.lt_zpow_succ_log_self (b := 2) one_lt_two x
      have power : (2 : ℚ) ^ (Int.log 2 x + 1) ≤ 2 ^ Int.log 2 y :=
        zpow_le_zpow_right₀ (by norm_num) (by omega)
      exact under.le.trans (by exact_mod_cast power)
    have upper : (2 : ℚ) ^ Int.log 2 y ≤ y := by
      exact_mod_cast Int.zpow_log_le_self (b := 2) one_lt_two (positive.trans_le below)
    obtain ⟨n, multiple⟩ := power_multiple first
    obtain ⟨m, multiple'⟩ := power_multiple second
    exact (nearestDouble_le lower multiple).trans (le_nearestDouble upper multiple')

theorem nearestDouble_mono : Monotone nearestDouble := by
  intro x y below
  rcases lt_trichotomy x 0 with negative | rfl | positive
  · rcases lt_or_ge y 0 with negative' | nonneg
    · have mirrored := nearestDouble_mono_pos (neg_pos.mpr negative') (neg_le_neg below)
      rw [nearestDouble_neg, nearestDouble_neg] at mirrored
      exact neg_le_neg_iff.mp mirrored
    · have mirrored := nearestDouble_nonneg (neg_nonneg.mpr negative.le)
      rw [nearestDouble_neg] at mirrored
      exact (neg_nonneg.mp mirrored).trans (nearestDouble_nonneg nonneg)
  · rw [nearestDouble_zero]
    exact nearestDouble_nonneg below
  · exact nearestDouble_mono_pos positive below

/-- Half a last place: a relative error, but for results that are subnormal. -/
theorem nearestDouble_close (x : ℚ) :
    |nearestDouble x - x| ≤ 1 / 2 ^ 53 * (|x| + 1 / 2 ^ 1022) := by
  by_cases zero : x = 0
  · subst zero
    rw [nearestDouble_zero, sub_self, abs_zero, zero_add]
    positivity
  have place := place_pos x
  have exactly : x = x / 2 ^ lastPlace x * 2 ^ lastPlace x := by
    rw [div_mul_cancel₀ _ place.ne']
  have half : |nearestDouble x - x| ≤ 1 / 2 * 2 ^ lastPlace x := by
    have scaled : nearestDouble x - x =
        (roundEven (x / 2 ^ lastPlace x) - x / 2 ^ lastPlace x) * 2 ^ lastPlace x := by
      rw [sub_mul, ← exactly, nearestDouble]
    rw [scaled, abs_mul, abs_of_pos place]
    exact mul_le_mul_of_nonneg_right (roundEven_close _) place.le
  have size : (2 : ℚ) ^ lastPlace x ≤ 1 / 2 ^ 52 * (|x| + 1 / 2 ^ 1022) := by
    rcases le_total (Int.log 2 |x| - 52) (-1074) with subnormal | normal
    · have smallest : lastPlace x = -1074 := max_eq_right subnormal
      have nonneg := abs_nonneg x
      have power : (2 : ℚ) ^ (-1074 : ℤ) = 1 / 2 ^ 52 * (1 / 2 ^ 1022) := by
        rw [zpow_neg, one_div_mul_one_div, ← pow_add, one_div]
        exact congrArg (·⁻¹) (zpow_natCast (2 : ℚ) 1074)
      rw [smallest, power]
      apply mul_le_mul_of_nonneg_left (le_add_of_nonneg_left nonneg)
      positivity
    · have largest : lastPlace x = Int.log 2 |x| - 52 := max_eq_left normal
      have power := Int.zpow_log_le_self (b := 2) one_lt_two (abs_pos.mpr zero)
      rw [Nat.cast_ofNat] at power
      rw [largest, zpow_sub₀ (by norm_num)]
      have small : (0 : ℚ) ≤ 1 / 2 ^ 1022 := by positivity
      have scale : (2 : ℚ) ^ (52 : ℤ) = 2 ^ 52 := zpow_natCast 2 52
      rw [scale, div_eq_mul_one_div, mul_comm]
      apply mul_le_mul_of_nonneg_left (le_add_of_le_of_nonneg power small)
      positivity
  have halved : (1 / 2 : ℚ) * (1 / 2 ^ 52) = 1 / 2 ^ 53 := by norm_num
  calc _ ≤ 1 / 2 * 2 ^ lastPlace x := half
    _ ≤ 1 / 2 * (1 / 2 ^ 52 * (|x| + 1 / 2 ^ 1022)) :=
        mul_le_mul_of_nonneg_left size (by norm_num)
    _ = 1 / 2 ^ 53 * (|x| + 1 / 2 ^ 1022) := by rw [← mul_assoc, halved]

def binary64 : Rounding ℚ where
  round := nearestDouble
  unit := 1 / 2 ^ 53
  tiny := 1 / 2 ^ 1022
  unit_nonneg := by positivity
  unit_le_one := by norm_num
  tiny_nonneg := by positivity
  tiny_le_one := div_le_one_of_le₀ (one_le_pow₀ (by norm_num)) (by positivity)
  mono := nearestDouble_mono
  round_zero := nearestDouble_zero
  round_one := by decide +kernel
  close := nearestDouble_close

namespace Number

/-- The float of an exact result: one that is too large for a double is infinite. -/
def rounded (exact : ℚ) : Number :=
  if |nearestDouble exact| < 2 ^ 1024 then finite (nearestDouble exact)
  else if 0 < exact then inf
  else negInf

def neg : Number → Number
  | finite value => finite (-value)
  | inf => negInf
  | negInf => inf
  | nan => nan

def add : Number → Number → Number
  | finite left, finite right => rounded (left + right)
  | finite _, right => right
  | left, finite _ => left
  | inf, inf => inf
  | negInf, negInf => negInf
  | _, _ => nan

def sub (left right : Number) : Number := add left (neg right)

def sign : Number → ℤ
  | finite value => if 0 < value then 1 else if value < 0 then -1 else 0
  | inf => 1
  | negInf => -1
  | nan => 0

/-- A product with an infinite factor has its sign; that of an infinity and zero is NaN. -/
def infinite (sign : ℤ) : Number :=
  if 0 < sign then inf else if sign < 0 then negInf else nan

def mul : Number → Number → Number
  | finite left, finite right => rounded (left * right)
  | left, right => infinite (left.sign * right.sign)

/-- A quotient whose divisor is not zero; Python raises for zero. -/
def div : Number → Number → Number
  | finite left, finite right => rounded (left / right)
  | finite _, inf => finite 0
  | finite _, negInf => finite 0
  | left, finite right => if 0 < right then left else neg left
  | _, _ => nan

def abs : Number → Number
  | finite value => finite |value|
  | negInf => inf
  | other => other

variable {left right : Number} {x : ℚ}

theorem rounded_eq_finite {exact : ℚ} (same : rounded exact = finite x) :
    x = nearestDouble exact := by
  unfold rounded at same
  split_ifs at same
  exact (finite.inj same).symm

/-- A finite sum has finite terms. -/
theorem add_eq_finite (same : add left right = finite x) :
    ∃ p q, left = finite p ∧ right = finite q ∧ x = nearestDouble (p + q) := by
  cases left with
  | finite p =>
      cases right with
      | finite q => exact ⟨p, q, rfl, rfl, rounded_eq_finite same⟩
      | inf | negInf | nan => cases same
  | inf | negInf | nan => cases right <;> cases same

theorem infinite_ne_finite (sign : ℤ) (value : ℚ) : infinite sign ≠ finite value := by
  unfold infinite
  split_ifs <;> exact nofun

theorem mul_eq_finite (same : mul left right = finite x) :
    ∃ p q, left = finite p ∧ right = finite q ∧ x = nearestDouble (p * q) := by
  cases left with
  | finite p =>
      cases right with
      | finite q => exact ⟨p, q, rfl, rfl, rounded_eq_finite same⟩
      | inf | negInf | nan => exact absurd same (infinite_ne_finite _ _)
  | inf | negInf | nan => exact absurd same (infinite_ne_finite _ _)

theorem sub_eq_finite (same : sub left right = finite x) :
    ∃ p q, left = finite p ∧ right = finite q ∧ x = nearestDouble (p - q) := by
  obtain ⟨p, q, rfl, negated, rfl⟩ := add_eq_finite same
  cases right with
  | finite value =>
      cases negated
      exact ⟨p, value, rfl, rfl, by rw [sub_eq_add_neg]⟩
  | inf | negInf | nan => cases negated

theorem div_eq_finite {divisor : ℚ} (same : div left (finite divisor) = finite x) :
    ∃ p, left = finite p ∧ x = nearestDouble (p / divisor) := by
  cases left with
  | finite p => exact ⟨p, rfl, rounded_eq_finite same⟩
  | inf =>
      change (if 0 < divisor then inf else neg inf) = finite x at same
      split_ifs at same
      cases same
  | negInf =>
      change (if 0 < divisor then negInf else neg negInf) = finite x at same
      split_ifs at same
      cases same
  | nan =>
      change (if 0 < divisor then nan else neg nan) = finite x at same
      split_ifs at same
      cases same

/-- `sum(values)`. -/
def sum (values : List Number) : Number := values.foldl add (finite 0)

theorem foldl_add_finite {values : List ℚ} {start : Number}
    (same : (values.map finite).foldl add start = finite x) :
    ∃ first, start = finite first ∧
      x = values.foldl (fun total value => binary64.round (total + value)) first := by
  induction values generalizing start with
  | nil => exact ⟨x, same, rfl⟩
  | cons value rest ih =>
      obtain ⟨_, added, rfl⟩ := ih same
      obtain ⟨p, q, rfl, here, rfl⟩ := add_eq_finite added
      cases here
      exact ⟨p, rfl, rfl⟩

/-- `sum(values) / len(values)`. -/
def mean (values : List Number) : Number := div (sum values) (finite values.length)

theorem mean_eq_finite {values : List ℚ} (same : mean (values.map finite) = finite x) :
    x = binary64.mean values := by
  rw [mean, List.length_map] at same
  obtain ⟨total, summed, rfl⟩ := div_eq_finite same
  obtain ⟨first, start, rfl⟩ := foldl_add_finite summed
  cases start
  rfl

/-- One step of a moving average, from `average` to `value`. -/
def blend (alpha : Number) (average value : Number) : Number :=
  add (mul alpha value) (mul (sub (finite 1) alpha) average)

theorem foldl_blend_finite {values : List ℚ} {alpha : ℚ} {start : Number}
    (same : (values.map finite).foldl (blend (finite alpha)) start = finite x) :
    ∃ first, start = finite first ∧ x = values.foldl (binary64.blend alpha) first := by
  induction values generalizing start with
  | nil => exact ⟨x, same, rfl⟩
  | cons value rest ih =>
      obtain ⟨_, blended, rfl⟩ := ih same
      obtain ⟨p, q, towards, kept, rfl⟩ := add_eq_finite blended
      obtain ⟨_, _, weight, here, rfl⟩ := mul_eq_finite towards
      cases weight
      cases here
      obtain ⟨_, average, factor, rfl, rfl⟩ := mul_eq_finite kept
      obtain ⟨_, _, one, given, rfl⟩ := sub_eq_finite factor
      cases one
      cases given
      exact ⟨average, rfl, rfl⟩

end Number

end RagDrift
