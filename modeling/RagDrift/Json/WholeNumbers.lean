import RagDrift.Json.Text
import Mathlib.Data.Nat.Digits.Lemmas
import Mathlib.Data.Int.Basic

set_option autoImplicit false

/- The integers as JSON numbers: a whole `float` is written with its `.0`, and a number
without a fraction is read as well. -/
namespace RagDrift.Json

def digitChar (digit : Nat) : Char := Char.ofNat (48 + digit)
def digitValue (c : Char) : Nat := c.toNat - 48

theorem digitValue_digitChar : ∀ digit < 10, digitValue (digitChar digit) = digit := by decide
theorem digitChar_isDigit : ∀ digit < 10, (digitChar digit).isDigit = true := by decide
theorem digitChar_eq_zero : ∀ digit < 10, digitChar digit = '0' → digit = 0 := by decide
theorem digitChar_atom : ∀ digit < 10, isAtomChar (digitChar digit) = true := by decide
theorem digitChar_ne_minus : ∀ digit < 10, digitChar digit ≠ '-' := by decide

def natText (number : Nat) : List Char :=
  if number = 0 then ['0'] else ((Nat.digits 10 number).map digitChar).reverse

theorem mem_natText {number : Nat} {c : Char} (inside : c ∈ natText number) :
    ∃ digit < 10, c = digitChar digit := by
  unfold natText at inside
  split at inside
  · rw [List.mem_singleton] at inside
    exact ⟨0, by decide, inside⟩
  · rw [List.mem_reverse, List.mem_map] at inside
    obtain ⟨digit, member, rfl⟩ := inside
    exact ⟨digit, Nat.digits_lt_base (by decide) member, rfl⟩

/-- A JSON integer part: digits, without a leading zero unless it is the only one. -/
def parseNat (text : List Char) : Option Nat :=
  if text ≠ [] ∧ text.all Char.isDigit ∧ (text.length = 1 ∨ text.head? ≠ some '0') then
    some (Nat.ofDigits 10 (text.reverse.map digitValue))
  else none

theorem parseNat_natText (number : Nat) : parseNat (natText number) = some number := by
  by_cases zero : number = 0
  · subst number
    rfl
  · have small : ∀ digit ∈ Nat.digits 10 number, digit < 10 :=
      fun digit inside => Nat.digits_lt_base (by decide) inside
    have nonempty : Nat.digits 10 number ≠ [] := Nat.digits_ne_nil_iff_ne_zero.mpr zero
    have lead : (natText number).head? ≠ some '0' := by
      rw [natText, if_neg zero, List.head?_reverse, List.getLast?_map,
        List.getLast?_eq_some_getLast nonempty, Option.map_some]
      intro equal
      apply Nat.getLast_digit_ne_zero 10 zero
      exact digitChar_eq_zero _ (small _ (List.getLast_mem nonempty)) (Option.some.inj equal)
    have digits : (natText number).all Char.isDigit = true := by
      rw [List.all_eq_true]
      intro c inside
      obtain ⟨digit, below, rfl⟩ := mem_natText inside
      exact digitChar_isDigit digit below
    have written : natText number ≠ [] := by
      rw [natText, if_neg zero]
      simpa using nonempty
    rw [parseNat, if_pos ⟨written, digits, Or.inr lead⟩, natText, if_neg zero,
      List.reverse_reverse, List.map_map]
    have values : (Nat.digits 10 number).map (digitValue ∘ digitChar) = Nat.digits 10 number := by
      conv_rhs => rw [← List.map_id (Nat.digits 10 number)]
      apply List.map_congr_left
      exact fun digit inside => digitValue_digitChar digit (small digit inside)
    rw [values, Nat.ofDigits_digits]

theorem natText_atom (number : Nat) : ∀ c ∈ natText number, isAtomChar c = true := by
  intro c inside
  obtain ⟨digit, small, rfl⟩ := mem_natText inside
  exact digitChar_atom digit small

theorem natText_head (number : Nat) : ∃ digit rest, digit < 10 ∧
    natText number = digitChar digit :: rest := by
  cases text : natText number with
  | nil =>
      have read := parseNat_natText number
      rw [text] at read
      cases read
  | cons c rest =>
      have inside : c ∈ natText number := by
        rw [text]
        exact List.mem_cons_self
      obtain ⟨digit, small, rfl⟩ := mem_natText inside
      exact ⟨digit, rest, small, rfl⟩

/-- `float.__repr__` of a whole number. -/
def wholeText (number : Int) : List Char :=
  (if number < 0 then ['-'] else []) ++ natText number.natAbs ++ ['.', '0']

theorem mem_wholeText {number : Int} {c : Char} (inside : c ∈ wholeText number) :
    c = '-' ∨ c ∈ natText number.natAbs ∨ c ∈ ['.', '0'] := by
  rw [wholeText, List.mem_append, List.mem_append] at inside
  rcases inside with (sign | digits) | fraction
  · split at sign
    · exact Or.inl (List.mem_singleton.mp sign)
    · cases sign
  · exact Or.inr (Or.inl digits)
  · exact Or.inr (Or.inr fraction)

/-- The text in front of a fraction `.0`. -/
def dropFraction (text : List Char) : List Char :=
  if ['.', '0'] <:+ text then text.take (text.length - 2) else text

def parseWhole (text : List Char) : Option Int :=
  match dropFraction text with
  | '-' :: digits => (parseNat digits).map fun (number : Nat) => -Int.ofNat number
  | digits => (parseNat digits).map Int.ofNat

theorem dropFraction_append (text : List Char) : dropFraction (text ++ ['.', '0']) = text := by
  rw [dropFraction, if_pos (List.suffix_append text ['.', '0']), List.length_append]
  exact List.take_left

theorem parseWhole_wholeText (number : Int) : parseWhole (wholeText number) = some number := by
  rw [parseWhole, wholeText, dropFraction_append]
  split_ifs with negative
  · have value : -Int.ofNat number.natAbs = number := by
      rw [Int.ofNat_eq_natCast]
      omega
    simp only [List.singleton_append, parseNat_natText, Option.map_some, value]
  · obtain ⟨digit, rest, small, text⟩ := natText_head number.natAbs
    have head : digitChar digit ≠ '-' := digitChar_ne_minus digit small
    have read := parseNat_natText number.natAbs
    rw [text] at read
    rw [List.nil_append, text]
    split
    · rename_i equal
      exact absurd (List.cons.inj equal).1 head
    · have value : Int.ofNat number.natAbs = number := by
        rw [Int.ofNat_eq_natCast]
        omega
      simp only [read, Option.map_some, value]

instance : NumText Int where
  repr := wholeText
  parse := parseWhole
  parse_repr := parseWhole_wholeText
  repr_ne_nil := by
    intro number
    simp [wholeText]
  repr_atom := by
    intro number c inside
    rcases mem_wholeText inside with rfl | digits | fraction
    · rfl
    · exact natText_atom _ c digits
    · exact List.all_eq_true.mp rfl c fraction
  repr_ne_keyword := by
    intro number inside
    have fraction : ['.', '0'] <:+ wholeText number := List.suffix_append _ _
    simp only [List.mem_cons, List.not_mem_nil, or_false] at inside
    rcases inside with keyword | keyword | keyword <;> rw [keyword] at fraction <;>
      revert fraction <;> decide

example : dumps (.obj [("value", .num (3 : Int))]) = "\x7b\"value\": 3.0\x7d".toList := by
  decide +kernel

end RagDrift.Json
