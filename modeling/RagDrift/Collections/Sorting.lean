import Mathlib.Data.List.Sort

set_option autoImplicit false

/- Stable sorting by a key: of two lists of which one lies above the other, of items that are
made from others, and of a list in another order. -/
namespace RagDrift.Collections

variable {A B K : Type}

section Relation

variable {r : A → A → Prop} [DecidableRel r] {item : A} {front back : List A}

theorem orderedInsert_append (least : ∀ other ∈ back, r item other) :
    (front ++ back).orderedInsert r item = front.orderedInsert r item ++ back := by
  induction front with
  | nil =>
      cases back with
      | nil => rfl
      | cons first rest =>
          rw [List.nil_append, List.orderedInsert_cons, if_pos (least first List.mem_cons_self)]
          rfl
  | cons first rest ih =>
      rw [List.cons_append, List.orderedInsert_cons, List.orderedInsert_cons, ih]
      split <;> rfl

theorem orderedInsert_skip (above : ∀ other ∈ front, ¬ r item other) :
    (front ++ back).orderedInsert r item = front ++ back.orderedInsert r item := by
  induction front with
  | nil => rfl
  | cons first rest ih =>
      rw [List.cons_append, List.orderedInsert_cons, if_neg (above first List.mem_cons_self),
        ih fun other inside => above other (List.mem_cons_of_mem _ inside), List.cons_append]

/-- A list below another one is sorted by itself. -/
theorem insertionSort_append (across : ∀ first ∈ front, ∀ second ∈ back, r first second) :
    (front ++ back).insertionSort r = front.insertionSort r ++ back.insertionSort r := by
  induction front with
  | nil => rfl
  | cons first rest ih =>
      rw [List.cons_append, List.insertionSort_cons, List.insertionSort_cons,
        ih fun other inside => across other (List.mem_cons_of_mem _ inside)]
      refine orderedInsert_append ?_
      intro other inside
      exact across first List.mem_cons_self other
        ((List.perm_insertionSort r back).mem_iff.mp inside)

end Relation

variable [LinearOrder K] {key : A → K}

/-- A block of items with one key goes in front of all items with that key or a greater one. -/
theorem insert_block {block rest : List A} {value : K} (same : ∀ item ∈ block, key item = value)
    (least : ∀ item ∈ rest, value ≤ key item) :
    block.foldr (List.orderedInsert fun first second => key first ≤ key second) rest =
      block ++ rest := by
  induction block with
  | nil => rfl
  | cons first later ih =>
      have here := same first List.mem_cons_self
      have others : ∀ item ∈ later, key item = value :=
        fun item inside => same item (List.mem_cons_of_mem _ inside)
      have below : ∀ item ∈ later ++ rest, key first ≤ key item := by
        intro item inside
        rcases List.mem_append.mp inside with left | right
        · rw [here, others item left]
        · rw [here]
          exact least item right
      have front : ([] ++ (later ++ rest)).orderedInsert
          (fun first second => key first ≤ key second) first = [first] ++ (later ++ rest) :=
        orderedInsert_append below
      rw [List.foldr_cons, ih others]
      exact front

theorem skip_block {block front back : List A} {value : K}
    (same : ∀ item ∈ block, key item = value) (above : ∀ item ∈ front, key item < value) :
    block.foldr (List.orderedInsert fun first second => key first ≤ key second) (front ++ back) =
      front ++
        block.foldr (List.orderedInsert fun first second => key first ≤ key second) back := by
  induction block with
  | nil => rfl
  | cons first later ih =>
      rw [List.foldr_cons, ih fun item inside => same item (List.mem_cons_of_mem _ inside),
        List.foldr_cons]
      refine orderedInsert_skip ?_
      intro other inside
      rw [same first List.mem_cons_self]
      exact (above other inside).not_ge

theorem pairwise_insertionSort (key : A → K) (items : List A) :
    (items.insertionSort fun first second => key first ≤ key second).Pairwise
      fun first second => key first ≤ key second := by
  have : Std.Total fun first second => key first ≤ key second :=
    ⟨fun first second => le_total (key first) (key second)⟩
  have : IsTrans A fun first second => key first ≤ key second :=
    ⟨fun _ _ _ first second => le_trans first second⟩
  exact items.pairwise_insertionSort _

section Made

variable {keyB : B → K} {make : A → List B}

theorem insert_made (same : ∀ item, ∀ made ∈ make item, keyB made = key item) (item : A)
    {sorted : List A} (ordered : sorted.Pairwise fun first second => key first ≤ key second) :
    (make item).foldr (List.orderedInsert fun first second => keyB first ≤ keyB second)
        (sorted.flatMap make) =
      (sorted.orderedInsert (fun first second => key first ≤ key second) item).flatMap make := by
  induction sorted with
  | nil =>
      rw [List.flatMap_nil, insert_block (same item) (by simp), List.orderedInsert_nil,
        List.flatMap_singleton, List.append_nil]
  | cons first rest ih =>
      obtain ⟨least, later⟩ := List.pairwise_cons.mp ordered
      rw [List.orderedInsert_cons]
      split
      · rename_i below
        refine insert_block (same item) ?_
        intro made inside
        obtain ⟨other, there, made⟩ := List.mem_flatMap.mp inside
        rw [same other _ made]
        rcases List.mem_cons.mp there with rfl | after
        · exact below
        · exact below.trans (least other after)
      · rename_i above
        rw [List.flatMap_cons, skip_block (same item) ?_, ih later, List.flatMap_cons]
        intro made inside
        rw [same first made inside]
        exact not_le.mp above

/-- What is made from each item, under the key of the item, is sorted as the items are. -/
theorem insertionSort_flatMap (same : ∀ item, ∀ made ∈ make item, keyB made = key item)
    (items : List A) :
    (items.flatMap make).insertionSort (fun first second => keyB first ≤ keyB second) =
      (items.insertionSort fun first second => key first ≤ key second).flatMap make := by
  induction items with
  | nil => rfl
  | cons item rest ih =>
      rw [List.flatMap_cons, List.insertionSort, List.foldr_append, ← List.insertionSort, ih,
        insert_made same item (pairwise_insertionSort key rest)]
      rfl

end Made

/-- Where no key occurs twice, the order of a list does not matter to the sorted one. -/
theorem insertionSort_of_perm {first second : List A} (permuted : first.Perm second)
    (distinct : (first.map key).Nodup) :
    first.insertionSort (fun left right => key left ≤ key right) =
      second.insertionSort fun left right => key left ≤ key right := by
  refine List.Perm.eq_of_pairwise ?_ (pairwise_insertionSort key first)
    (pairwise_insertionSort key second)
    ((List.perm_insertionSort _ first).trans
      (permuted.trans (List.perm_insertionSort _ second).symm))
  intro left right inside other less more
  have one := (List.perm_insertionSort _ first).mem_iff.mp inside
  have two := permuted.mem_iff.mpr ((List.perm_insertionSort _ second).mem_iff.mp other)
  exact List.inj_on_of_nodup_map distinct one two (le_antisymm less more)

end RagDrift.Collections
