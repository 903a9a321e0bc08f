import Mathlib.Algebra.Order.Group.Abs
import Mathlib.Algebra.Order.Group.Basic
import Mathlib.Data.List.Basic

set_option autoImplicit false

/- Times at which something was let through, and the two ways of limiting it: a gap between
any two of them, and a bound on how many a window of time may hold. -/
namespace RagDrift.Timeline

variable {T : Type} [AddCommGroup T] [LinearOrder T]

/-- Any two times are at least `gap` apart. -/
def Spaced (gap : T) (times : List T) : Prop :=
  times.Pairwise fun left right => gap ≤ |left - right|

/-- The times in the closed window of a length that begins at `start`. -/
def inWindow (start length : T) (times : List T) : List T :=
  times.filter fun time => start ≤ time ∧ time ≤ start + length

/-- The times that lie at most `length` before `now`. -/
def recent (now length : T) (times : List T) : List T :=
  times.filter fun time => now - time ≤ length

/-- No closed window of the length holds more times than the limit. -/
def Sparse (length : T) (limit : Int) (times : List T) : Prop :=
  ∀ start, ((inWindow start length times).length : Int) ≤ limit

variable {gap length : T} {limit : Int} {times : List T}

theorem spaced_nil : Spaced gap ([] : List T) := List.Pairwise.nil

theorem sparse_nil (nonneg : 0 ≤ limit) : Sparse length limit ([] : List T) :=
  fun _ => nonneg

theorem Spaced.snoc (spaced : Spaced gap times) {now : T}
    (rested : ∀ time ∈ times, gap ≤ now - time) : Spaced gap (times ++ [now]) := by
  rw [Spaced, List.pairwise_append]
  refine ⟨spaced, List.pairwise_singleton _ _, ?_⟩
  intro time inside other last
  rw [List.mem_singleton] at last
  subst last
  rw [abs_sub_comm]
  exact (rested time inside).trans (le_abs_self _)

variable [IsOrderedAddMonoid T]

/-- A window that holds the newest time holds none that is not recent. -/
theorem inWindow_sublist_recent (times : List T) {start now : T} (holds : now ≤ start + length) :
    (inWindow start length times).Sublist (recent now length times) := by
  apply List.monotone_filter_right
  intro time inside
  rw [decide_eq_true_eq] at inside ⊢
  rw [sub_le_iff_le_add, add_comm]
  exact holds.trans (add_le_add_left inside.1 length)

theorem recent_later {checked now : T} (later : checked ≤ now) :
    (recent now length times).Sublist (recent checked length times) := by
  apply List.monotone_filter_right
  intro time inside
  rw [decide_eq_true_eq] at inside ⊢
  exact (sub_le_sub_right later time).trans inside

/-- Where the recent times leave room, one more may be added, at once or later. -/
theorem Sparse.snoc (sparse : Sparse length limit times) {checked now : T} (later : checked ≤ now)
    (room : ((recent checked length times).length : Int) < limit) :
    Sparse length limit (times ++ [now]) := by
  intro start
  rw [inWindow, List.filter_append, List.length_append]
  by_cases holds : start ≤ now ∧ now ≤ start + length
  · have bound := ((inWindow_sublist_recent times holds.2).trans
      (recent_later later)).length_le
    rw [inWindow] at bound
    rw [List.filter_cons_of_pos (by simpa using holds), List.filter_nil, List.length_singleton]
    omega
  · rw [List.filter_cons_of_neg (by simpa using holds), List.filter_nil, List.length_nil,
      Nat.add_zero]
    exact sparse start

/-- The times after `now - length` and up to `now`. -/
def sliding (now length : T) (times : List T) : List T :=
  times.filter fun time => now - length < time ∧ time ≤ now

/-- No such window holds more times than the limit. -/
def Capped (length : T) (limit : Int) (times : List T) : Prop :=
  ∀ now, ((sliding now length times).length : Int) ≤ limit

/-- The times that are still within reach of a window ending at `now` or later. -/
def prune (now length : T) (times : List T) : List T :=
  times.filter fun time => time > now - length

omit [IsOrderedAddMonoid T] in
theorem sliding_eq_prune {now : T} (latest : ∀ time ∈ times, time ≤ now) :
    sliding now length times = prune now length times := by
  apply List.filter_congr
  intro time inside
  simp only [latest time inside, and_true, gt_iff_lt]

theorem prune_prune {now later : T} (after : now ≤ later) (times : List T) :
    prune later length (prune now length times) = prune later length times := by
  rw [prune, prune, List.filter_filter]
  apply List.filter_congr
  intro time _
  rw [← Bool.decide_and, decide_eq_decide]
  constructor
  · exact And.left
  · intro recent
    exact ⟨recent, lt_of_le_of_lt (sub_le_sub_right after length) recent⟩

/-- Where the window ending now leaves room, one more may be added now. -/
theorem Capped.snoc (capped : Capped length limit times) {now : T}
    (latest : ∀ time ∈ times, time ≤ now)
    (room : ((sliding now length times).length : Int) < limit) :
    Capped length limit (times ++ [now]) := by
  intro ending
  rw [sliding, List.filter_append, List.length_append]
  by_cases holds : ending - length < now ∧ now ≤ ending
  · have fewer : (sliding ending length times).Sublist (sliding now length times) := by
      rw [sliding_eq_prune latest]
      apply List.monotone_filter_right
      intro time inside
      rw [decide_eq_true_eq] at inside ⊢
      exact lt_of_le_of_lt (sub_le_sub_right holds.2 length) inside.1
    have bound := fewer.length_le
    rw [sliding] at bound
    rw [List.filter_cons_of_pos (by simpa using holds), List.filter_nil, List.length_singleton]
    omega
  · rw [List.filter_cons_of_neg (by simpa using holds), List.filter_nil, List.length_nil,
      Nat.add_zero]
    exact capped ending

end RagDrift.Timeline
