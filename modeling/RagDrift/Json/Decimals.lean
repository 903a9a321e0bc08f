import RagDrift.Json.AllNumbers

set_option autoImplicit false

/- The numbers of a JSON text as Python's `json` reads them: a sign, digits without a leading
zero, a fraction and an exponent, or one of three names. -/
namespace RagDrift.Json

/-- A whole number times a power of ten, or a name. -/
inductive Decimal where
  | scaled (mantissa exponent : Int)
  | inf
  | negInf
  | nan
  deriving DecidableEq

def Decimal.value : Decimal → Number
  | .scaled mantissa (.ofNat power) => .finite (mantissa * 10 ^ power)
  | .scaled mantissa (.negSucc power) => .finite (mantissa / 10 ^ (power + 1))
  | .inf => .inf
  | .negInf => .negInf
  | .nan => .nan

def digitsValue (digits : List Char) : Nat := Nat.ofDigits 10 (digits.reverse.map digitValue)

/-- `[0-9]+` -/
def parseDigits (text : List Char) : Option Nat :=
  if text ≠ [] ∧ text.all Char.isDigit then some (digitsValue text) else none

/-- `[-+]?[0-9]+` -/
def parseSigned : List Char → Option Int
  | '-' :: digits => (parseDigits digits).map fun (number : Nat) => -Int.ofNat number
  | '+' :: digits => (parseDigits digits).map Int.ofNat
  | digits => (parseDigits digits).map Int.ofNat

/-- `([eE][-+]?[0-9]+)?` -/
def parseExponent : List Char → Option Int
  | [] => some 0
  | 'e' :: text => parseSigned text
  | 'E' :: text => parseSigned text
  | _ => none

/-- `(\.[0-9]+)?`, and the text behind it. -/
def splitFraction : List Char → Option (List Char × List Char)
  | '.' :: text =>
      if text.takeWhile Char.isDigit = [] then none
      else some (text.takeWhile Char.isDigit, text.dropWhile Char.isDigit)
  | text => some ([], text)

/-- The digits of both sides of the point make the whole number. -/
def parseUnsigned (text : List Char) : Option (Nat × Int) := do
  let whole := text.takeWhile Char.isDigit
  let _ ← parseNat whole
  let (fraction, rest) ← splitFraction (text.dropWhile Char.isDigit)
  let exponent ← parseExponent rest
  return (digitsValue (whole ++ fraction), exponent - fraction.length)

def parseScaled : List Char → Option Decimal
  | '-' :: text => (parseUnsigned text).map fun parts => .scaled (-Int.ofNat parts.1) parts.2
  | text => (parseUnsigned text).map fun parts => .scaled (Int.ofNat parts.1) parts.2

def parseDecimal (text : List Char) : Option Decimal :=
  if text = nanText then some .nan
  else if text = infText then some .inf
  else if text = negInfText then some .negInf
  else parseScaled text

def signedText (number : Int) : List Char :=
  (if number < 0 then ['-'] else []) ++ natText number.natAbs

/-- A decimal is written without a point. -/
def decimalText : Decimal → List Char
  | .scaled mantissa exponent => signedText mantissa ++ 'e' :: signedText exponent
  | .inf => infText
  | .negInf => negInfText
  | .nan => nanText

theorem natText_digits (number : Nat) : ∀ c ∈ natText number, c.isDigit = true := by
  intro c inside
  obtain ⟨digit, small, rfl⟩ := mem_natText inside
  exact digitChar_isDigit digit small

theorem natText_ne_nil (number : Nat) : natText number ≠ [] := by
  obtain ⟨digit, rest, _, text⟩ := natText_head number
  rw [text]
  exact List.cons_ne_nil _ _

theorem digitsValue_natText (number : Nat) : digitsValue (natText number) = number := by
  have read := parseNat_natText number
  rw [parseNat] at read
  split at read
  · exact Option.some.inj read
  · cases read

theorem parseDigits_natText (number : Nat) : parseDigits (natText number) = some number := by
  rw [parseDigits, if_pos ⟨natText_ne_nil number, List.all_eq_true.mpr (natText_digits number)⟩,
    digitsValue_natText]

/-- A text of digits has no sign. -/
theorem natText_unsigned {number : Nat} {c : Char} {rest : List Char}
    (text : natText number = c :: rest) : c ≠ '-' ∧ c ≠ '+' := by
  have digit : c.isDigit = true := natText_digits number c (text ▸ List.mem_cons_self)
  constructor
  · rintro rfl
    cases digit
  · rintro rfl
    cases digit

theorem parseSigned_signedText (number : Int) : parseSigned (signedText number) = some number := by
  have read := parseDigits_natText number.natAbs
  rw [signedText]
  split
  · show (parseDigits (natText number.natAbs)).map _ = some number
    rw [read, Option.map_some, Option.some.injEq, Int.ofNat_eq_natCast]
    omega
  · rw [List.nil_append]
    cases text : natText number.natAbs with
    | nil => exact absurd text (natText_ne_nil _)
    | cons c rest =>
        obtain ⟨minus, plus⟩ := natText_unsigned text
        rw [text] at read
        have plain : parseSigned (c :: rest) = (parseDigits (c :: rest)).map Int.ofNat := by
          rw [parseSigned]
          · exact fun _ same => minus (List.cons.inj same).1
          · exact fun _ same => plus (List.cons.inj same).1
        rw [plain, read, Option.map_some, Option.some.injEq, Int.ofNat_eq_natCast]
        omega

theorem parseUnsigned_text (number : Nat) (exponent : Int) :
    parseUnsigned (natText number ++ 'e' :: signedText exponent) = some (number, exponent) := by
  have front : (natText number ++ 'e' :: signedText exponent).takeWhile Char.isDigit =
      natText number := by
    rw [List.takeWhile_append_of_pos (natText_digits number),
      List.takeWhile_cons_of_neg (by decide), List.append_nil]
  have back : (natText number ++ 'e' :: signedText exponent).dropWhile Char.isDigit =
      'e' :: signedText exponent := by
    rw [List.dropWhile_append_of_pos (natText_digits number),
      List.dropWhile_cons_of_neg (by decide)]
  rw [parseUnsigned, front, back, parseNat_natText]
  show (parseSigned (signedText exponent)).bind _ = _
  rw [parseSigned_signedText, List.append_nil, digitsValue_natText]
  show some (number, exponent - (0 : Nat)) = _
  rw [Nat.cast_zero, sub_zero]

theorem parseScaled_text (mantissa exponent : Int) :
    parseScaled (signedText mantissa ++ 'e' :: signedText exponent) =
      some (.scaled mantissa exponent) := by
  have read := parseUnsigned_text mantissa.natAbs exponent
  rw [signedText]
  split
  · show (parseUnsigned (natText mantissa.natAbs ++ 'e' :: signedText exponent)).map _ = _
    have negated : -Int.ofNat mantissa.natAbs = mantissa := by
      rw [Int.ofNat_eq_natCast]
      omega
    rw [read, Option.map_some, negated]
  · rw [List.nil_append]
    cases text : natText mantissa.natAbs with
    | nil => exact absurd text (natText_ne_nil _)
    | cons c rest =>
        have minus := (natText_unsigned text).1
        have kept : Int.ofNat mantissa.natAbs = mantissa := by
          rw [Int.ofNat_eq_natCast]
          omega
        rw [text] at read
        rw [List.cons_append, parseScaled]
        · rw [← List.cons_append, read, Option.map_some, kept]
        · exact fun _ same => minus (List.cons.inj same).1

theorem decimalText_digit (mantissa exponent : Int) :
    ∃ c ∈ decimalText (.scaled mantissa exponent), c.isDigit = true := by
  obtain ⟨digit, rest, small, text⟩ := natText_head mantissa.natAbs
  refine ⟨digitChar digit, ?_, digitChar_isDigit digit small⟩
  simp [decimalText, signedText, text]

/-- The text of a decimal is none of the names and keywords. -/
theorem decimalText_ne {mantissa exponent : Int} {name : List Char}
    (letters : name.all fun c => !c.isDigit) :
    decimalText (.scaled mantissa exponent) ≠ name := by
  intro same
  obtain ⟨c, inside, digit⟩ := decimalText_digit mantissa exponent
  rw [same] at inside
  have letter := List.all_eq_true.mp letters c inside
  rw [digit] at letter
  cases letter

theorem parseDecimal_decimalText (number : Decimal) :
    parseDecimal (decimalText number) = some number := by
  cases number with
  | inf | negInf | nan => rfl
  | scaled mantissa exponent =>
      rw [parseDecimal, if_neg (decimalText_ne rfl), if_neg (decimalText_ne rfl),
        if_neg (decimalText_ne rfl)]
      exact parseScaled_text mantissa exponent

theorem signedText_atom (number : Int) : ∀ c ∈ signedText number, isAtomChar c = true := by
  intro c inside
  rw [signedText, List.mem_append] at inside
  rcases inside with sign | digits
  · split at sign
    · rw [List.mem_singleton.mp sign]
      rfl
    · cases sign
  · exact natText_atom _ c digits

instance : NumText Decimal where
  repr := decimalText
  parse := parseDecimal
  parse_repr := parseDecimal_decimalText
  repr_ne_nil := by
    intro number empty
    have read := parseDecimal_decimalText number
    rw [empty] at read
    cases read
  repr_atom := by
    intro number c inside
    cases number with
    | scaled mantissa exponent =>
        rw [decimalText, List.mem_append, List.mem_cons] at inside
        rcases inside with front | rfl | back
        · exact signedText_atom mantissa c front
        · rfl
        · exact signedText_atom exponent c back
    | inf => exact List.all_eq_true.mp rfl c inside
    | negInf => exact List.all_eq_true.mp rfl c inside
    | nan => exact List.all_eq_true.mp rfl c inside
  repr_ne_keyword := by
    intro number inside
    simp only [List.mem_cons, List.not_mem_nil, or_false] at inside
    cases number with
    | scaled mantissa exponent =>
        rcases inside with keyword | keyword | keyword <;> exact decimalText_ne rfl keyword
    | inf => revert inside; decide
    | negInf => revert inside; decide
    | nan => revert inside; decide

example : (parseDecimal "-12.50E-1".toList).map Decimal.value =
    some (.finite (-5 / 4)) := by
  decide +kernel

end RagDrift.Json
