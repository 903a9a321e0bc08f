import RagDrift.Collections.Sorting
import Mathlib.Data.List.Perm.Basic

set_option autoImplicit false

/- The answers of a query that orders items by a key and keeps the first of them: items with the
same key come in any order. -/
namespace RagDrift.Collections

variable {A B K : Type} [LinearOrder K] {key : A → K} {items answer : List A}

structure SortedBy (key : A → K) (items answer : List A) : Prop where
  perm : answer.Perm items
  ordered : answer.Pairwise fun first second => key first ≤ key second

/-- `ORDER BY key LIMIT limit` -/
def Fetched (key : A → K) (limit : Nat) (items taken : List A) : Prop :=
  ∃ answer, SortedBy key items answer ∧ taken = answer.take limit

namespace SortedBy

theorem exists_answer (key : A → K) (items : List A) : ∃ answer, SortedBy key items answer :=
  ⟨_, List.perm_insertionSort _ _, pairwise_insertionSort key items⟩

theorem map {change : A → B} {keyB : B → K} (same : ∀ item ∈ items, keyB (change item) = key item)
    (sorted : SortedBy key items answer) :
    SortedBy keyB (items.map change) (answer.map change) where
  perm := sorted.perm.map change
  ordered := by
    rw [List.pairwise_map]
    refine sorted.ordered.imp_of_mem ?_
    intro first second left right less
    rw [same first (sorted.perm.mem_iff.mp left), same second (sorted.perm.mem_iff.mp right)]
    exact less

/-- Where a key has one item only, there is one answer. -/
theorem unique {other : List A} (one : ∀ first ∈ items, ∀ second ∈ items,
    key first = key second → first = second) (sorted : SortedBy key items answer)
    (again : SortedBy key items other) : answer = other := by
  refine List.Perm.eq_of_pairwise ?_ sorted.ordered again.ordered
    (sorted.perm.trans again.perm.symm)
  intro first second left right less more
  exact one first (sorted.perm.mem_iff.mp left) second (again.perm.mem_iff.mp right)
    (le_antisymm less more)

variable {bound : K}

theorem filter_le (sorted : SortedBy key items answer) (bound : K) :
    SortedBy key (items.filter (key · ≤ bound)) (answer.filter (key · ≤ bound)) where
  perm := sorted.perm.filter _
  ordered := sorted.ordered.filter _

/-- The items below a cut come first. -/
theorem eq_append (sorted : SortedBy key items answer) (below : A → Prop) [DecidablePred below]
    (down : ∀ first second, key first ≤ key second → below second → below first) :
    answer = answer.filter below ++ answer.filter (¬ below ·) := by
  have ordered := sorted.ordered
  clear sorted
  induction answer with
  | nil => rfl
  | cons first rest ih =>
      obtain ⟨least, later⟩ := List.pairwise_cons.mp ordered
      by_cases here : below first
      · rw [List.filter_cons_of_pos (by simpa using here),
          List.filter_cons_of_neg (by simpa using here), List.cons_append, ← ih later]
      · have above : ∀ item ∈ rest, ¬ below item :=
          fun item inside there => here (down first item (least item inside) there)
        have none : rest.filter below = [] := by
          rw [List.filter_eq_nil_iff]
          intro item inside
          simpa using above item inside
        have all : rest.filter (¬ below ·) = rest := by
          rw [List.filter_eq_self]
          intro item inside
          simpa using above item inside
        rw [List.filter_cons_of_neg (by simpa using here),
          List.filter_cons_of_pos (by simpa using here), none, all, List.nil_append]

theorem take_eq {limit : Nat} (sorted : SortedBy key items answer)
    (enough : limit ≤ (items.filter (key · ≤ bound)).length) :
    answer.take limit = (answer.filter (key · ≤ bound)).take limit := by
  conv_lhs => rw [sorted.eq_append (key · ≤ bound) fun _ _ => le_trans]
  exact List.take_append_of_le_length ((sorted.filter_le bound).perm.length_eq.symm ▸ enough)

/-- An answer for them is the beginning of an answer for all. -/
theorem extend {front : List A} (sorted : SortedBy key (items.filter (key · ≤ bound)) front) :
    ∃ back, SortedBy key items (front ++ back) := by
  obtain ⟨back, others⟩ := exists_answer key (items.filter (¬ key · ≤ bound))
  refine ⟨back, ?_, ?_⟩
  · refine (sorted.perm.append others.perm).trans ?_
    have split := List.filter_append_perm (fun item => decide (key item ≤ bound)) items
    simpa only [decide_not] using split
  · refine List.pairwise_append.mpr ⟨sorted.ordered, others.ordered, ?_⟩
    intro first left second right
    have low := List.mem_filter.mp (sorted.perm.mem_iff.mp left)
    have high := List.mem_filter.mp (others.perm.mem_iff.mp right)
    have below : key first ≤ bound := by simpa using low.2
    have above : bound < key second := by simpa using high.2
    exact below.trans above.le

end SortedBy

/-- When enough items lie below a bound, the others do not matter. -/
theorem fetched_filter_iff {bound : K} {limit : Nat} {taken : List A}
    (enough : limit ≤ (items.filter (key · ≤ bound)).length) :
    Fetched key limit (items.filter (key · ≤ bound)) taken ↔ Fetched key limit items taken := by
  constructor
  · rintro ⟨front, sorted, rfl⟩
    obtain ⟨back, whole⟩ := sorted.extend
    refine ⟨front ++ back, whole, ?_⟩
    exact (List.take_append_of_le_length (sorted.perm.length_eq.symm ▸ enough)).symm
  · rintro ⟨answer, sorted, rfl⟩
    exact ⟨_, sorted.filter_le bound, sorted.take_eq enough⟩

theorem Fetched.unique {limit : Nat} {taken other : List A}
    (one : ∀ first ∈ items, ∀ second ∈ items, key first = key second → first = second)
    (fetched : Fetched key limit items taken) (again : Fetched key limit items other) :
    taken = other := by
  obtain ⟨answer, sorted, rfl⟩ := fetched
  obtain ⟨second, resorted, rfl⟩ := again
  rw [sorted.unique one resorted]

theorem Fetched.take_eq {limit : Nat} {taken : List A} (fetched : Fetched key limit items taken) :
    taken.take limit = taken := by
  obtain ⟨answer, _, rfl⟩ := fetched
  rw [List.take_take, Nat.min_self]

/-- Each item so many times. -/
def copies (count : Nat) (items : List A) : List A := items.flatMap (List.replicate count)

theorem length_copies (count : Nat) (items : List A) :
    (copies count items).length = count * items.length := by
  induction items with
  | nil => rfl
  | cons first rest ih =>
      rw [copies] at ih ⊢
      rw [List.flatMap_cons, List.length_append, ih, List.length_replicate, List.length_cons,
        Nat.mul_succ, Nat.add_comm]

theorem copies_one (items : List A) : copies 1 items = items := by
  induction items with
  | nil => rfl
  | cons item rest ih => exact congrArg (item :: ·) ih

theorem copies_append (count : Nat) (front back : List A) :
    copies count (front ++ back) = copies count front ++ copies count back :=
  List.flatMap_append

theorem copies_map (count : Nat) (change : A → B) (items : List A) :
    copies count (items.map change) = (copies count items).map change := by
  rw [copies, copies, List.flatMap_map, List.map_flatMap]
  simp only [List.map_replicate]

theorem copies_replicate (first second : Nat) (item : A) :
    copies first (List.replicate second item) = List.replicate (first * second) item := by
  induction second with
  | zero => rfl
  | succ second ih =>
      rw [copies] at ih ⊢
      rw [List.replicate_succ, List.flatMap_cons, ih, List.replicate_append_replicate,
        Nat.mul_succ, Nat.add_comm]

theorem copies_copies (first second : Nat) (items : List A) :
    copies first (copies second items) = copies (first * second) items := by
  induction items with
  | nil => rfl
  | cons item rest ih =>
      calc copies first (copies second (item :: rest))
          = copies first (List.replicate second item) ++ copies first (copies second rest) := by
            rw [← copies_append]
            rfl
        _ = copies (first * second) (item :: rest) := by
            rw [copies_replicate, ih]
            rfl

theorem copies_take (count limit : Nat) (items : List A) :
    copies count (items.take limit) = (copies count items).take (count * limit) := by
  have split := copies_append count (items.take limit) (items.drop limit)
  rw [List.take_append_drop] at split
  rw [split]
  rcases Nat.le_total limit items.length with few | many
  · have length : (copies count (items.take limit)).length = count * limit := by
      rw [length_copies, List.length_take, Nat.min_eq_left few]
    rw [← length, List.take_left']
    rfl
  · rw [List.drop_eq_nil_of_le many, List.take_of_length_le many]
    have all : (copies count items ++ copies count []).length ≤ count * limit := by
      rw [List.length_append, length_copies, length_copies]
      simpa using Nat.mul_le_mul_left count many
    rw [List.take_of_length_le all]
    exact (List.append_nil _).symm

theorem take_copies_take (count limit : Nat) (items : List A) :
    (copies count (items.take limit)).take limit = (copies count items).take limit := by
  cases count with
  | zero => rw [copies_take, Nat.zero_mul]; simp [copies]
  | succ count =>
      rw [copies_take, List.take_take,
        Nat.min_eq_left (Nat.le_mul_of_pos_left limit count.succ_pos)]

/-- The first copies are copies of the first items. -/
theorem mem_of_mem_take_copies {count limit : Nat} (some : 0 < count) {item : A}
    (inside : item ∈ (copies count items).take limit) :
    item ∈ items.take ((limit + count - 1) / count) := by
  have covered : limit ≤ count * ((limit + count - 1) / count) := by
    have division := Nat.div_add_mod (limit + count - 1) count
    have small := Nat.mod_lt (limit + count - 1) some
    omega
  have more : item ∈ copies count (items.take ((limit + count - 1) / count)) := by
    rw [copies_take]
    exact (List.take_subset_take_left _ covered) inside
  obtain ⟨original, present, same⟩ := List.mem_flatMap.mp more
  rw [List.eq_of_mem_replicate same]
  exact present

theorem pairwise_copies {count : Nat}
    (ordered : answer.Pairwise fun first second => key first ≤ key second) :
    (copies count answer).Pairwise fun first second => key first ≤ key second := by
  refine List.pairwise_flatMap.mpr ⟨fun item _ => ?_, ?_⟩
  · exact List.pairwise_replicate.mpr (.inr le_rfl)
  · refine ordered.imp ?_
    intro first second less left one right other
    rw [List.eq_of_mem_replicate one, List.eq_of_mem_replicate other]
    exact less

/-- What was taken and is put in again is taken twice. -/
theorem Fetched.again {limit : Nat} {taken next : List A}
    (one : ∀ first ∈ items, ∀ second ∈ items, key first = key second → first = second)
    (fetched : Fetched key limit items taken) (again : Fetched key limit (items ++ taken) next) :
    next = (copies 2 taken).take limit := by
  obtain ⟨answer, sorted, rfl⟩ := fetched
  obtain ⟨other, resorted, rfl⟩ := again
  have doubled : SortedBy key (items ++ answer.take limit)
      (copies 2 (answer.take limit) ++ answer.drop limit) := by
    constructor
    · have twice : (copies 2 (answer.take limit)).Perm
          (answer.take limit ++ answer.take limit) := by
        have pairs := List.flatMap_append_perm (answer.take limit) (fun item => [item])
          (fun item => [item])
        simpa [copies, List.replicate] using pairs.symm
      refine (twice.append_right _).trans ?_
      rw [List.append_assoc, List.take_append_drop]
      exact List.perm_append_comm.trans (sorted.perm.append_right _)
    · have parts : answer.take limit ++ answer.drop limit = answer := List.take_append_drop _ _
      have ordered := sorted.ordered
      rw [← parts] at ordered
      obtain ⟨front, back, across⟩ := List.pairwise_append.mp ordered
      refine List.pairwise_append.mpr ⟨?_, back, ?_⟩
      · exact pairwise_copies front
      · intro first left second right
        obtain ⟨original, present, same⟩ := List.mem_flatMap.mp left
        rw [List.eq_of_mem_replicate same]
        exact across original present second right
  have known : ∀ item ∈ items ++ answer.take limit, item ∈ items := by
    intro item inside
    rcases List.mem_append.mp inside with here | taken
    · exact here
    · exact sorted.perm.mem_iff.mp (List.mem_of_mem_take taken)
  have same : other = copies 2 (answer.take limit) ++ answer.drop limit :=
    resorted.unique (fun first left second right => one first (known first left) second
      (known second right)) doubled
  rw [same]
  rcases Nat.le_total limit answer.length with few | many
  · refine List.take_append_of_le_length ?_
    rw [length_copies, List.length_take, Nat.min_eq_left few]
    omega
  · rw [List.drop_eq_nil_of_le many, List.append_nil]

end RagDrift.Collections
