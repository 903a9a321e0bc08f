import Mathlib.Order.Monotone.Basic
import Mathlib.Order.MinMax

set_option autoImplicit false

/- A stored value that is only ever replaced by a larger candidate, and replaced by the rounded
candidate: the comparisons mix rounded and unrounded values, the outcome does not. -/
namespace RagDrift.RoundedMax

variable {α : Type} [LinearOrder α]

def raise (round : α → α) (stored candidate : α) : α :=
  if candidate > stored then round candidate else stored

/-- What is left of some candidates: the rounded largest where it is above the first value. -/
def settled (round : α → α) (initial : α) (candidates : List α) : α :=
  candidates.max?.elim initial (raise round initial)

variable {round : α → α}

/-- Two candidates one after the other do what the larger one does. -/
theorem raise_raise (mono : Monotone round) (idem : ∀ value, round (round value) = round value)
    (stored first second : α) :
    raise round (raise round stored first) second = raise round stored (max first second) := by
  by_cases raised : first > stored
  · have above : max first second > stored := lt_max_of_lt_left raised
    rw [raise, raise, raise, if_pos raised, if_pos above]
    rcases le_total first second with larger | smaller
    · rw [max_eq_right larger]
      by_cases again : second > round first
      · rw [if_pos again]
      · -- the second is between the first and its rounded value
        rw [if_neg again]
        apply le_antisymm (mono larger)
        calc round second ≤ round (round first) := mono (not_lt.mp again)
          _ = round first := idem first
    · rw [max_eq_left smaller]
      by_cases again : second > round first
      · -- rounding took the first below the second, and takes the second there too
        rw [if_pos again]
        apply le_antisymm (mono smaller)
        calc round first = round (round first) := (idem first).symm
          _ ≤ round second := mono again.le
      · rw [if_neg again]
  · rw [raise, raise, if_neg raised, raise]
    by_cases again : second > stored
    · have larger : first ≤ second := (not_lt.mp raised).trans again.le
      rw [if_pos again, max_eq_right larger, if_pos again]
    · have below : ¬ max first second > stored :=
        not_lt.mpr (max_le (not_lt.mp raised) (not_lt.mp again))
      rw [if_neg again, if_neg below]

theorem foldl_raise (mono : Monotone round) (idem : ∀ value, round (round value) = round value)
    (initial : α) (candidates : List α) :
    candidates.foldl (raise round) initial = settled round initial candidates := by
  cases candidates with
  | nil => rfl
  | cons first rest =>
      rw [settled, List.max?_cons', List.foldl_cons, Option.elim_some]
      induction rest generalizing first with
      | nil => rfl
      | cons second rest ih =>
          rw [List.foldl_cons, List.foldl_cons, raise_raise mono idem, ih]

/-- Which candidates there were decides, not how often or in which order. -/
theorem settled_congr {candidates others : List α}
    (same : ∀ value, value ∈ candidates ↔ value ∈ others) (initial : α) :
    settled round initial candidates = settled round initial others := by
  have largest : candidates.max? = others.max? := by
    ext value
    rw [List.max?_eq_some_iff, List.max?_eq_some_iff]
    simp only [same]
  rw [settled, settled, largest]

/-- A property of the first value and of all rounded candidates is one of the outcome. -/
theorem settled_of {good : α → Prop} {initial : α} {candidates : List α} (first : good initial)
    (each : ∀ value ∈ candidates, good (round value)) :
    good (settled round initial candidates) := by
  rw [settled]
  cases largest : candidates.max? with
  | none => exact first
  | some value =>
      rw [Option.elim_some, raise]
      split_ifs
      · exact each value (List.max?_mem largest)
      · exact first

/-- The first value is lost only to a larger candidate that is rounded to below it. -/
theorem le_settled_iff (initial : α) (candidates : List α) :
    initial ≤ settled round initial candidates ↔
      ∀ largest, candidates.max? = some largest →
        ¬ (round largest < initial ∧ initial < largest) := by
  rw [settled]
  cases candidates.max? with
  | none => simp
  | some largest =>
      rw [Option.elim_some, raise]
      by_cases above : largest > initial
      · rw [if_pos above]
        constructor
        · intro kept other same lost
          cases same
          exact absurd lost.1 (not_lt.mpr kept)
        · intro kept
          by_contra low
          exact kept largest rfl ⟨not_le.mp low, above⟩
      · rw [if_neg above]
        constructor
        · intro _ other same lost
          cases same
          exact above lost.2
        · intro _
          exact le_refl initial

end RagDrift.RoundedMax
