import Mathlib.Data.List.MinMax
import Mathlib.Data.List.Sort

set_option autoImplicit false

/- The best items of a list by a key: the first maximum, and the head of a falling sort. -/
namespace RagDrift.Collections

variable {A B C : Type}

section Linear

variable [LinearOrder C] {place : A → C} {items : List A}

theorem argmax_const (place : A → C) (value : C) {items : List A}
    (const : ∀ item ∈ items, place item = value) : items.argmax place = items.head? := by
  cases items with
  | nil => rfl
  | cons first rest =>
      rw [List.argmax_cons, List.head?_cons]
      cases best : rest.argmax place with
      | none => rfl
      | some other =>
          have inside := List.argmax_mem best
          have notLess : ¬ place first < place other := by
            rw [const first List.mem_cons_self, const other (List.mem_cons_of_mem _ inside)]
            exact lt_irrefl value
          simp only [notLess, ↓reduceIte]

/-- Sorted by falling key, a list starts with its first maximum. -/
theorem head?_insertionSort_desc (place : A → C) (items : List A) :
    (items.insertionSort fun left right => place right ≤ place left).head? =
      items.argmax place := by
  induction items with
  | nil => rfl
  | cons first rest ih =>
      rw [List.insertionSort_cons, List.argmax_cons, ← ih]
      cases rest.insertionSort fun left right => place right ≤ place left with
      | nil => rfl
      | cons best others =>
          rw [List.orderedInsert, List.head?_cons]
          by_cases above : place best ≤ place first
          · simp only [above, ↓reduceIte, List.head?_cons, not_lt.mpr above]
          · simp only [above, ↓reduceIte, List.head?_cons, not_le.mp above]

theorem foldl_min_le (values : List C) (first : C) : values.foldl min first ≤ first := by
  induction values generalizing first with
  | nil => exact le_refl first
  | cons value rest ih => exact (ih (min first value)).trans (min_le_left _ _)

theorem foldl_min_mem (values : List C) (first : C) :
    values.foldl min first ∈ first :: values := by
  induction values generalizing first with
  | nil => exact List.mem_singleton_self first
  | cons value rest ih =>
      have lowest := ih (min first value)
      rw [List.foldl_cons]
      rcases List.mem_cons.mp lowest with here | later
      · rcases min_choice first value with left | right
        · rw [here, left]
          exact List.mem_cons_self
        · rw [here, right]
          exact List.mem_cons_of_mem _ List.mem_cons_self
      · exact List.mem_cons_of_mem _ (List.mem_cons_of_mem _ later)

theorem mem_le_argmax {best item : A} (top : items.argmax place = some best)
    (inside : item ∈ items) : place item ≤ place best :=
  not_lt.mp (List.not_lt_of_mem_argmax inside top)

end Linear

/- The keys need not be ordered at all. -/

/-- `max(items, key=key)`, which keeps the best so far unless it is below the next. -/
def firstMax [LT B] [DecidableLT B] (key : A → B) : List A → Option A
  | [] => none
  | first :: rest =>
      some (rest.foldl (fun best item => if key best < key item then item else best) first)

/-- `sorted(items, key=key, reverse=True)`, which keeps the order of equal keys. -/
def sortedDown [LE B] [DecidableLE B] (key : A → B) (items : List A) : List A :=
  items.insertionSort fun left right => key right ≤ key left

theorem firstMax_map [LT B] [DecidableLT B] (key : C → B) (change : A → C) (items : List A) :
    firstMax key (items.map change) =
      (firstMax (fun item => key (change item)) items).map change := by
  cases items with
  | nil => rfl
  | cons first rest =>
      rw [List.map_cons, firstMax, firstMax, Option.map_some, List.foldl_map, Option.some.injEq]
      apply List.foldl_hom change
      intro best item
      exact (apply_ite change _ _ _).symm

theorem sortedDown_perm [LE B] [DecidableLE B] (key : A → B) (items : List A) :
    (sortedDown key items).Perm items :=
  List.perm_insertionSort _ _

theorem pairwise_sortedDown [LinearOrder B] (key : A → B) (items : List A) :
    (sortedDown key items).Pairwise fun left right => key right ≤ key left := by
  have total : Std.Total fun left right => key right ≤ key left :=
    ⟨fun left right => le_total (key right) (key left)⟩
  have trans : IsTrans A fun left right => key right ≤ key left :=
    ⟨fun _ _ _ first second => second.trans first⟩
  exact List.pairwise_insertionSort _ items

section Placed

variable [LinearOrder C] {key : A → B} (place : A → C) {items : List A}

theorem foldl_max_eq_argAux [LT B] [DecidableLT B] (rest : List A) (first : A)
    (same : ∀ left ∈ first :: rest, ∀ right ∈ first :: rest,
      key left < key right ↔ place left < place right) :
    some (rest.foldl (fun best item => if key best < key item then item else best) first) =
      rest.foldl (List.argAux fun item best => place best < place item) (some first) := by
  induction rest generalizing first with
  | nil => rfl
  | cons item rest ih =>
      have compared := same first List.mem_cons_self item (List.mem_cons_of_mem _
        List.mem_cons_self)
      rw [List.foldl_cons, List.foldl_cons]
      by_cases better : place first < place item
      · have next : List.argAux (fun item best => place best < place item) (some first) item =
            some item := if_pos better
        rw [if_pos (compared.mpr better), next]
        apply ih
        intro left inLeft right inRight
        exact same left (List.mem_cons_of_mem _ inLeft) right (List.mem_cons_of_mem _ inRight)
      · have next : List.argAux (fun item best => place best < place item) (some first) item =
            some first := if_neg better
        rw [if_neg (fun less => better (compared.mp less)), next]
        have kept : ∀ other ∈ first :: rest, other ∈ first :: item :: rest := by
          intro other inside
          rcases List.mem_cons.mp inside with rfl | later
          · exact List.mem_cons_self
          · exact List.mem_cons_of_mem _ (List.mem_cons_of_mem _ later)
        apply ih
        intro left inLeft right inRight
        exact same left (kept left inLeft) right (kept right inRight)

theorem firstMax_eq_argmax [LT B] [DecidableLT B]
    (same : ∀ left ∈ items, ∀ right ∈ items, key left < key right ↔ place left < place right) :
    firstMax key items = items.argmax place := by
  cases items with
  | nil => rfl
  | cons first rest => exact foldl_max_eq_argAux place rest first same

theorem sortedDown_eq_insertionSort [LE B] [DecidableLE B]
    (same : ∀ left ∈ items, ∀ right ∈ items, key left ≤ key right ↔ place left ≤ place right) :
    sortedDown key items =
      items.insertionSort fun left right => place right ≤ place left := by
  have mapped := List.map_insertionSort (fun left right => key right ≤ key left)
    (fun left right => place right ≤ place left) id items
    (fun left inLeft right inRight => same right inRight left inLeft)
  rwa [List.map_id, List.map_id] at mapped

/-- Where the keys of the items are compared like the places of a linear order, the first
maximum is the head of the sorted list. -/
theorem head?_sortedDown [LT B] [DecidableLT B] [LE B] [DecidableLE B]
    (less : ∀ left ∈ items, ∀ right ∈ items, key left < key right ↔ place left < place right)
    (atMost : ∀ left ∈ items, ∀ right ∈ items,
      key left ≤ key right ↔ place left ≤ place right) :
    (sortedDown key items).head? = firstMax key items := by
  rw [sortedDown_eq_insertionSort place atMost, firstMax_eq_argmax place less,
    head?_insertionSort_desc]

end Placed

end RagDrift.Collections
