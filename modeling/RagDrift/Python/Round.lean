import RagDrift.Python.Builtins
import Mathlib.Data.Rat.Floor
import Mathlib.Algebra.Order.Floor.Ring
import Mathlib.Tactic.Linarith
import Mathlib.Tactic.Positivity
import Mathlib.Tactic.FieldSimp

set_option autoImplicit false

/- Python's `round`: to the nearest multiple of a power of ten, ties to the even one. Floats
are taken as the rational numbers they are. -/
namespace RagDrift

/-- The nearest integer, the even one of two. -/
def roundEven (x : ℚ) : ℤ :=
  if Int.fract x < 1 / 2 then ⌊x⌋
  else if 1 / 2 < Int.fract x then ⌊x⌋ + 1
  else if Even ⌊x⌋ then ⌊x⌋ else ⌊x⌋ + 1

/-- `round(x, places)`. -/
def pyRound (x : ℚ) (places : Nat) : ℚ := roundEven (x * 10 ^ places) / 10 ^ places

theorem floor_le_roundEven (x : ℚ) : ⌊x⌋ ≤ roundEven x := by
  unfold roundEven
  split_ifs <;> omega

theorem roundEven_le_floor_add_one (x : ℚ) : roundEven x ≤ ⌊x⌋ + 1 := by
  unfold roundEven
  split_ifs <;> omega

theorem roundEven_mono {x y : ℚ} (below : x ≤ y) : roundEven x ≤ roundEven y := by
  rcases (Int.floor_mono below).lt_or_eq with less | same
  · calc roundEven x ≤ ⌊x⌋ + 1 := roundEven_le_floor_add_one x
      _ ≤ ⌊y⌋ := less
      _ ≤ roundEven y := floor_le_roundEven y
  · have fractions : Int.fract x ≤ Int.fract y := by
      rw [Int.fract, Int.fract, same]
      linarith
    unfold roundEven
    rw [same]
    split_ifs <;> first | omega | linarith

theorem roundEven_half : roundEven (1 / 2) = 0 := by
  decide +kernel

theorem roundEven_pos_iff (x : ℚ) : 0 < roundEven x ↔ 1 / 2 < x := by
  constructor
  · intro positive
    by_contra small
    have bounded := roundEven_mono (not_lt.mp small)
    rw [roundEven_half] at bounded
    omega
  · intro large
    rcases lt_or_ge ⌊x⌋ 1 with low | high
    · have floor : ⌊x⌋ = 0 := by
        have nonneg : 0 ≤ ⌊x⌋ := Int.floor_nonneg.mpr (by linarith)
        omega
      have fraction : Int.fract x = x := by
        rw [Int.fract, floor]
        simp
      rw [roundEven, fraction, if_neg (not_lt.mpr large.le), if_pos large, floor]
      decide
    · exact lt_of_lt_of_le (by omega) (floor_le_roundEven x)

theorem pyRound_mono (places : Nat) {x y : ℚ} (below : x ≤ y) :
    pyRound x places ≤ pyRound y places := by
  have scale : (0 : ℚ) < 10 ^ places := by positivity
  have rounded : roundEven (x * 10 ^ places) ≤ roundEven (y * 10 ^ places) :=
    roundEven_mono (mul_le_mul_of_nonneg_right below scale.le)
  rw [pyRound, pyRound, div_le_div_iff_of_pos_right scale]
  exact_mod_cast rounded

theorem roundEven_intCast (n : ℤ) : roundEven n = n := by
  rw [roundEven, Int.fract_intCast, if_pos (by norm_num), Int.floor_intCast]

theorem pyRound_intCast (n : ℤ) (places : Nat) : pyRound n places = n := by
  have scaled : (n : ℚ) * 10 ^ places = ((n * 10 ^ places : ℤ) : ℚ) := by push_cast; rfl
  rw [pyRound, scaled, roundEven_intCast]
  push_cast
  field_simp

/-- A rounded number stays as it is. -/
theorem pyRound_pyRound (x : ℚ) (places : Nat) :
    pyRound (pyRound x places) places = pyRound x places := by
  rw [pyRound, pyRound, div_mul_cancel₀ _ (by positivity), roundEven_intCast]

theorem pyRound_mem_unit {x : ℚ} (places : Nat) (nonneg : 0 ≤ x) (below : x ≤ 1) :
    0 ≤ pyRound x places ∧ pyRound x places ≤ 1 := by
  constructor
  · calc (0 : ℚ) = pyRound ((0 : ℤ) : ℚ) places := (pyRound_intCast 0 places).symm
      _ ≤ pyRound x places := pyRound_mono places (by exact_mod_cast nonneg)
  · calc pyRound x places ≤ pyRound ((1 : ℤ) : ℚ) places :=
          pyRound_mono places (by exact_mod_cast below)
      _ = 1 := pyRound_intCast 1 places

theorem pyRound_pos_iff (x : ℚ) (places : Nat) :
    0 < pyRound x places ↔ 1 / (2 * 10 ^ places) < x := by
  have scale : (0 : ℚ) < 10 ^ places := by positivity
  rw [pyRound, div_pos_iff_of_pos_right scale, Int.cast_pos, roundEven_pos_iff,
    div_lt_iff₀ (by positivity), div_lt_iff₀ (by positivity)]
  constructor
  · intro large
    linarith
  · intro large
    linarith

theorem roundEven_nonneg_iff (x : ℚ) : 0 ≤ roundEven x ↔ -(1 / 2) ≤ x := by
  have half : roundEven (-(1 / 2)) = 0 := by decide +kernel
  constructor
  · intro nonneg
    by_contra small
    rw [not_le] at small
    have floor : ⌊x⌋ < 0 := Int.floor_lt.mpr (by push_cast; linarith)
    rcases Int.lt_or_le ⌊x⌋ (-1) with low | high
    · have above := roundEven_le_floor_add_one x
      omega
    · have minusOne : ⌊x⌋ = -1 := by omega
      have fraction : Int.fract x < 1 / 2 := by
        rw [Int.fract, minusOne]
        push_cast
        linarith
      rw [roundEven, if_pos fraction] at nonneg
      omega
  · intro large
    rw [← half]
    exact roundEven_mono large

theorem pyRound_nonneg_iff (x : ℚ) (places : Nat) :
    0 ≤ pyRound x places ↔ -(1 / (2 * 10 ^ places)) ≤ x := by
  have scale : (0 : ℚ) < 10 ^ places := by positivity
  have half : -((1 : ℚ) / (2 * 10 ^ places)) = -(1 / 2) / 10 ^ places := by field_simp
  rw [pyRound, le_div_iff₀ scale, zero_mul, Int.cast_nonneg_iff, roundEven_nonneg_iff, half,
    div_le_iff₀ scale]

/-- `f"{x:.<places>f}"` for at least one place. -/
def fixedText (places : Nat) (x : ℚ) : String :=
  let scaled := (roundEven (x * 10 ^ places)).natAbs
  let fraction := toString (scaled % 10 ^ places)
  (if x < 0 then "-" else "") ++ toString (scaled / 10 ^ places) ++ "." ++
    String.ofList (List.replicate (places - fraction.length) '0') ++ fraction

/-- Numbers that are put into a text as they are have to be whole here. -/
def decimalRuntime (uuids : List (String × String)) : Runtime ℚ where
  uuid5 := uuidTable uuids
  str value :=
    match value.json with
    | .str text => text
    | .num number => String.ofList (Json.wholeText number.num)
    | .bool flag => if flag then "True" else "False"
    | _ => "None"
  fixed := fixedText

example : fixedText 4 (-1 / 3) = "-0.3333" := by decide +kernel

end RagDrift
