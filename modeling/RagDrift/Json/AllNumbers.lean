import RagDrift.Json.Fractions
import RagDrift.Python.Number

set_option autoImplicit false

/- All numbers as JSON numbers: whole ones as floats, NaN and the infinities by their names. -/
namespace RagDrift.Json

def nanText : List Char := ['N', 'a', 'N']
def infText : List Char := ['I', 'n', 'f', 'i', 'n', 'i', 't', 'y']
def negInfText : List Char := ['-', 'I', 'n', 'f', 'i', 'n', 'i', 't', 'y']

def numberText : Number → List Char
  | .finite value => if value.den = 1 then wholeText value.num else fractionText value
  | .inf => infText
  | .negInf => negInfText
  | .nan => nanText

def parseNumber (text : List Char) : Option Number :=
  if text = nanText then some .nan
  else if text = infText then some .inf
  else if text = negInfText then some .negInf
  else if '/' ∈ text then (parseFraction text).map .finite
  else (parseWhole text).map fun (number : Int) => .finite number

theorem wholeText_dot (number : Int) : '.' ∈ wholeText number := by
  simp [wholeText]

theorem fractionText_slash (number : ℚ) : '/' ∈ fractionText number := by
  simp [fractionText]

/-- The text of a finite number is none of the names. -/
theorem finiteText_mark (value : ℚ) :
    '.' ∈ numberText (.finite value) ∨ '/' ∈ numberText (.finite value) := by
  rw [numberText]
  split
  · exact .inl (wholeText_dot _)
  · exact .inr (fractionText_slash _)

theorem finiteText_ne {value : ℚ} {name : List Char} (plain : '.' ∉ name ∧ '/' ∉ name) :
    numberText (.finite value) ≠ name := by
  intro same
  have mark := finiteText_mark value
  rw [same] at mark
  exact mark.elim plain.1 plain.2

theorem parseNumber_numberText (number : Number) :
    parseNumber (numberText number) = some number := by
  cases number with
  | inf | negInf | nan => rfl
  | finite value =>
      rw [parseNumber, if_neg (finiteText_ne (by decide)), if_neg (finiteText_ne (by decide)),
        if_neg (finiteText_ne (by decide)), numberText]
      by_cases whole : value.den = 1
      · have noSlash : '/' ∉ wholeText value.num := fun slash =>
          wholeText_ne_slash value.num '/' slash rfl
        rw [if_pos whole, if_neg noSlash, parseWhole_wholeText, Option.map_some,
          (Rat.den_eq_one_iff value).mp whole]
      · rw [if_neg whole, if_pos (fractionText_slash value), parseFraction_fractionText,
          Option.map_some]

instance : NumText Number where
  repr := numberText
  parse := parseNumber
  parse_repr := parseNumber_numberText
  repr_ne_nil := by
    intro number empty
    have read := parseNumber_numberText number
    rw [empty] at read
    cases read
  repr_atom := by
    intro number c inside
    cases number with
    | finite value =>
        rw [numberText] at inside
        split at inside
        · exact NumText.repr_atom value.num c inside
        · exact NumText.repr_atom value c inside
    | inf => exact List.all_eq_true.mp rfl c inside
    | negInf => exact List.all_eq_true.mp rfl c inside
    | nan => exact List.all_eq_true.mp rfl c inside
  repr_ne_keyword := by
    intro number inside
    simp only [List.mem_cons, List.not_mem_nil, or_false] at inside
    cases number with
    | finite value =>
        rcases inside with keyword | keyword | keyword <;>
          exact finiteText_ne (by decide) keyword
    | inf => revert inside; decide
    | negInf => revert inside; decide
    | nan => revert inside; decide

end RagDrift.Json
