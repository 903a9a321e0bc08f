import RagDrift.Json.WholeNumbers
import Mathlib.Algebra.Order.Field.Rat

set_option autoImplicit false

/- Exact rational numbers as JSON numbers. A float has a decimal text, an arbitrary rational has
none, and is written as numerator and denominator. -/
namespace RagDrift.Json

def fractionText (number : ℚ) : List Char := wholeText number.num ++ '/' :: natText number.den

def parseFraction (text : List Char) : Option ℚ := do
  let numerator ← parseWhole (text.takeWhile (· ≠ '/'))
  let denominator ← parseNat ((text.dropWhile (· ≠ '/')).drop 1)
  return numerator / denominator

theorem natText_ne_slash (number : Nat) : ∀ c ∈ natText number, c ≠ '/' := by
  intro c inside
  obtain ⟨digit, small, rfl⟩ := mem_natText inside
  have plain : ∀ digit < 10, digitChar digit ≠ '/' := by decide
  exact plain digit small

theorem wholeText_ne_slash (number : Int) : ∀ c ∈ wholeText number, c ≠ '/' := by
  intro c inside
  rcases mem_wholeText inside with rfl | digits | fraction
  · decide
  · exact natText_ne_slash _ c digits
  · simp only [List.mem_cons, List.not_mem_nil, or_false] at fraction
    rcases fraction with rfl | rfl <;> decide

theorem parseFraction_fractionText (number : ℚ) :
    parseFraction (fractionText number) = some number := by
  have plain : ∀ c ∈ wholeText number.num, decide (c ≠ '/') = true := by
    simpa using wholeText_ne_slash number.num
  have front : (fractionText number).takeWhile (· ≠ '/') = wholeText number.num := by
    rw [fractionText, List.takeWhile_append_of_pos plain,
      List.takeWhile_cons_of_neg (by decide), List.append_nil]
  have back : (fractionText number).dropWhile (· ≠ '/') = '/' :: natText number.den := by
    rw [fractionText, List.dropWhile_append_of_pos plain, List.dropWhile_cons_of_neg (by decide)]
  rw [parseFraction, front, back, parseWhole_wholeText, List.drop_one, List.tail_cons,
    parseNat_natText]
  exact congrArg some (Rat.num_div_den number)

instance : NumText ℚ where
  repr := fractionText
  parse := parseFraction
  parse_repr := parseFraction_fractionText
  repr_ne_nil := by
    intro number
    simp [fractionText]
  repr_atom := by
    intro number c inside
    rw [fractionText, List.mem_append, List.mem_cons] at inside
    rcases inside with whole | rfl | digits
    · exact NumText.repr_atom number.num c whole
    · rfl
    · exact natText_atom _ c digits
  repr_ne_keyword := by
    intro number inside
    have slash : '/' ∈ fractionText number := by simp [fractionText]
    simp only [List.mem_cons, List.not_mem_nil, or_false] at inside
    rcases inside with keyword | keyword | keyword <;> rw [keyword] at slash <;>
      revert slash <;> decide

end RagDrift.Json
