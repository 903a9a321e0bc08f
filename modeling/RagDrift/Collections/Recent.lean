import Mathlib.Data.List.DropRight

set_option autoImplicit false

/- The most recent entries of a growing list: a window that each new entry joins and the oldest
one leaves holds the last entries of the whole history. -/
namespace RagDrift.Collections

variable {A : Type}

theorem length_rtake (entries : List A) (size : Nat) :
    (entries.rtake size).length = min size entries.length := by
  rw [List.rtake, List.length_drop]
  omega

theorem rtake_append (front back : List A) (size : Nat) :
    (front ++ back).rtake size = front.rtake (size - back.length) ++ back.rtake size := by
  rw [List.rtake_eq_reverse_take_reverse, List.rtake_eq_reverse_take_reverse,
    List.rtake_eq_reverse_take_reverse, List.reverse_append, List.take_append, List.reverse_append,
    List.length_reverse]

theorem rtake_of_length_le {entries : List A} {size : Nat} (few : entries.length ≤ size) :
    entries.rtake size = entries := by
  rw [List.rtake, Nat.sub_eq_zero_of_le few, List.drop_zero]

theorem rtake_rtake (entries : List A) {small large : Nat} (less : small ≤ large) :
    (entries.rtake large).rtake small = entries.rtake small := by
  rw [List.rtake_eq_reverse_take_reverse, List.rtake_eq_reverse_take_reverse,
    List.rtake_eq_reverse_take_reverse, List.reverse_reverse, List.take_take,
    Nat.min_eq_left less]

/-- What a window forgot of the entries before does not matter to the next window. -/
theorem rtake_concat (entries : List A) (size : Nat) (entry : A) :
    (entries.rtake size ++ [entry]).rtake size = (entries ++ [entry]).rtake size := by
  cases size with
  | zero => rw [List.rtake_zero, List.rtake_zero]
  | succ size =>
      rw [List.rtake_concat_succ, List.rtake_concat_succ,
        rtake_rtake entries (Nat.le_succ size)]

/-- Full and not empty, a window loses its first entry to the new one. -/
theorem tail_concat_eq_rtake {first : A} {rest : List A} {size : Nat}
    (full : (first :: rest).length = size) (entry : A) :
    rest ++ [entry] = ((first :: rest) ++ [entry]).rtake size := by
  subst full
  rw [List.length_cons, List.rtake_concat_succ, List.rtake, List.length_cons,
    Nat.add_sub_cancel_left, List.drop_one, List.tail_cons]

end RagDrift.Collections
