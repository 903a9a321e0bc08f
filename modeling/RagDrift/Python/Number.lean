import RagDrift.Python.Round
import Mathlib.Order.WithBot

set_option autoImplicit false

/- The numbers Python compares: whole numbers and finite floats by their value, the two
infinities, and NaN, which compares false with everything. -/
namespace RagDrift

inductive Number where
  | finite (value : ℚ)
  | inf
  | negInf
  | nan
  deriving DecidableEq

namespace Number

/-- Where a number that is not NaN stands among the others. -/
def place : Number → WithBot (WithTop ℚ)
  | finite value => ((value : WithTop ℚ) : WithBot (WithTop ℚ))
  | inf => ((⊤ : WithTop ℚ) : WithBot (WithTop ℚ))
  | negInf => ⊥
  | nan => ⊥

instance : LT Number where
  lt left right := left ≠ nan ∧ right ≠ nan ∧ left.place < right.place

instance : LE Number where
  le left right := left ≠ nan ∧ right ≠ nan ∧ left.place ≤ right.place

instance : DecidableLT Number := fun left right =>
  inferInstanceAs (Decidable (left ≠ nan ∧ right ≠ nan ∧ left.place < right.place))

instance : DecidableLE Number := fun left right =>
  inferInstanceAs (Decidable (left ≠ nan ∧ right ≠ nan ∧ left.place ≤ right.place))

instance : Zero Number := ⟨finite 0⟩

instance : One Number := ⟨finite 1⟩

/-- The difference of two equal infinities is NaN. -/
instance : Sub Number where
  sub left right :=
    match left, right with
    | finite left, finite right => finite (left - right)
    | finite _, inf => negInf
    | finite _, negInf => inf
    | inf, finite _ => inf
    | inf, negInf => inf
    | negInf, finite _ => negInf
    | negInf, inf => negInf
    | _, _ => nan

section Ordered

variable {left right : Number} (first : left ≠ nan) (second : right ≠ nan)
include first second

theorem lt_iff_place : left < right ↔ left.place < right.place := by
  constructor
  · intro less
    exact less.2.2
  · intro less
    exact ⟨first, second, less⟩

theorem le_iff_place : left ≤ right ↔ left.place ≤ right.place := by
  constructor
  · intro atMost
    exact atMost.2.2
  · intro atMost
    exact ⟨first, second, atMost⟩

theorem not_lt_iff : ¬ left < right ↔ right ≤ left := by
  rw [lt_iff_place first second, le_iff_place second first, not_lt]

end Ordered

theorem not_lt_nan (left : Number) : ¬ left < nan := by
  intro less
  exact less.2.1 rfl

theorem not_nan_lt (right : Number) : ¬ nan < right := by
  intro less
  exact less.1 rfl

/-- `f"{x:.<places>f}"` for at least one place. -/
def fixedText (places : Nat) : Number → String
  | finite value => RagDrift.fixedText places value
  | inf => "inf"
  | negInf => "-inf"
  | nan => "nan"

/-- `str(x)` of a whole number, an infinity or NaN. -/
def text : Number → String
  | finite value => String.ofList (Json.wholeText value.num)
  | inf => "inf"
  | negInf => "-inf"
  | nan => "nan"

end Number

def numberRuntime (uuids : List (String × String)) : Runtime Number where
  uuid5 := uuidTable uuids
  str value :=
    match value.json with
    | .str text => text
    | .num number => number.text
    | .bool flag => if flag then "True" else "False"
    | _ => "None"
  fixed := Number.fixedText

end RagDrift
