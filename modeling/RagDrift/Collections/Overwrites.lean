import Mathlib.Algebra.BigOperators.Fin
import Mathlib.Data.Fintype.BigOperators
import Mathlib.Data.List.Nodup
import Mathlib.Tactic.Ring

set_option autoImplicit false

/- A list in which one new item after another overwrites a place that is drawn: in how many of
the sequences of draws an item is left. -/
namespace RagDrift.Collections

theorem card_init_last {A : Type} [Fintype A] {count : Nat} (good : (Fin count → A) → A → Prop)
    [∀ front last, Decidable (good front last)] :
    (Finset.univ.filter fun draws : Fin (count + 1) → A =>
        good (Fin.init draws) (draws (Fin.last count))).card =
      ∑ front : Fin count → A, (Finset.univ.filter fun last => good front last).card := by
  simp only [Finset.card_filter]
  rw [← (Fin.snocEquiv fun _ => A).sum_comp, Fintype.sum_prod_type_right]
  simp only [Fin.snocEquiv, Equiv.coe_fn_mk, Fin.init_snoc, Fin.snoc_last]

variable {A : Type} {k : Nat}

/-- The items that come one after another, each written over the place drawn for it. -/
def overwritten (first : List A) (item : Nat → A) : (count : Nat) → (Fin count → Fin k) → List A
  | 0, _ => first
  | count + 1, draws =>
      (overwritten first item count (Fin.init draws)).set (draws (Fin.last count)) (item count)

variable {first : List A} {item : Nat → A} {count : Nat}

theorem length_overwritten (draws : Fin count → Fin k) :
    (overwritten first item count draws).length = first.length := by
  induction count with
  | zero => rfl
  | succ count ih => rw [overwritten, List.length_set, ih]

theorem mem_overwritten {draws : Fin count → Fin k} {value : A}
    (inside : value ∈ overwritten first item count draws) :
    value ∈ first ∨ ∃ earlier < count, value = item earlier := by
  induction count with
  | zero => exact .inl inside
  | succ count ih =>
      rcases List.mem_or_eq_of_mem_set inside with old | new
      · rcases ih old with start | ⟨earlier, less, same⟩
        · exact .inl start
        · exact .inr ⟨earlier, Nat.lt_succ_of_lt less, same⟩
      · exact .inr ⟨count, Nat.lt_succ_self count, new⟩

/-- Items that differ from one another and from those at the start. -/
structure Fresh (first : List A) (item : Nat → A) : Prop where
  nodup : first.Nodup
  injective : Function.Injective item
  new : ∀ index, item index ∉ first

theorem Fresh.not_mem (fresh : Fresh first item) (draws : Fin count → Fin k) :
    item count ∉ overwritten first item count draws := by
  intro inside
  rcases mem_overwritten inside with start | ⟨earlier, less, same⟩
  · exact fresh.new count start
  · exact absurd (fresh.injective same) (Nat.ne_of_gt less)

theorem Fresh.nodup_overwritten (fresh : Fresh first item) (draws : Fin count → Fin k) :
    (overwritten first item count draws).Nodup := by
  induction count with
  | zero => exact fresh.nodup
  | succ count ih => exact (ih (Fin.init draws)).set (fresh.not_mem (Fin.init draws))

theorem mem_set_of_getElem {list : List A} (nodup : list.Nodup) {place : Nat}
    (bound : place < list.length) (drawn : Nat) {new : A} (other : list[place] ≠ new) :
    list[place] ∈ list.set drawn new ↔ drawn ≠ place := by
  constructor
  · rintro inside rfl
    obtain ⟨index, small, same⟩ := List.mem_iff_getElem.mp inside
    rw [List.getElem_set] at same
    split at same
    · exact other same.symm
    · rename_i differs
      rw [List.length_set] at small
      exact differs ((List.Nodup.getElem_inj_iff nodup).mp same).symm
  · intro differs
    rw [List.mem_iff_getElem]
    refine ⟨place, by rw [List.length_set]; exact bound, ?_⟩
    rw [List.getElem_set_ne differs]

variable [DecidableEq A]

/-- An item that is there is overwritten by one draw of all. -/
theorem card_mem_set {list : List A} (nodup : list.Nodup) (length : list.length = k) {value new : A}
    (other : value ≠ new) :
    (Finset.univ.filter fun drawn : Fin k => value ∈ list.set drawn new).card =
      if value ∈ list then k - 1 else 0 := by
  by_cases inside : value ∈ list
  · obtain ⟨place, bound, rfl⟩ := List.mem_iff_getElem.mp inside
    have spared : (Finset.univ.filter fun drawn : Fin k => list[place] ∈ list.set drawn new) =
        Finset.univ.erase (⟨place, by omega⟩ : Fin k) := by
      ext drawn
      simp only [Finset.mem_filter, Finset.mem_erase, mem_set_of_getElem nodup bound drawn other,
        ne_eq, Fin.ext_iff, Finset.mem_univ, true_and, and_true]
    rw [if_pos inside, spared, Finset.card_erase_of_mem (Finset.mem_univ _), Finset.card_univ,
      Fintype.card_fin]
  · rw [if_neg inside, Finset.card_eq_zero, Finset.filter_eq_empty_iff]
    intro drawn _ there
    rcases List.mem_or_eq_of_mem_set there with old | same
    · exact inside old
    · exact other same

/-- The number of sequences of draws that leave an item. -/
def leftCount (k : Nat) (first : List A) (item : Nat → A) (count : Nat) (value : A) : Nat :=
  (Finset.univ.filter fun draws : Fin count → Fin k =>
    value ∈ overwritten first item count draws).card

theorem leftCount_zero {value : A} (inside : value ∈ first) :
    leftCount k first item 0 value = 1 := by
  have there : ∀ draws : Fin 0 → Fin k, value ∈ overwritten first item 0 draws := fun _ => inside
  rw [leftCount, Finset.filter_true_of_mem (fun draws _ => there draws), Finset.card_univ,
    Fintype.card_fun, Fintype.card_fin, Fintype.card_fin, pow_zero]

theorem leftCount_succ (fresh : Fresh first item) (length : first.length = k) {value : A}
    (other : value ≠ item count) :
    leftCount k first item (count + 1) value = leftCount k first item count value * (k - 1) := by
  have split := card_init_last fun (front : Fin count → Fin k) last =>
    value ∈ (overwritten first item count front).set last (item count)
  have each : ∀ front : Fin count → Fin k, (Finset.univ.filter fun last : Fin k =>
      value ∈ (overwritten first item count front).set last (item count)).card =
        (if value ∈ overwritten first item count front then 1 else 0) * (k - 1) := by
    intro front
    rw [card_mem_set (fresh.nodup_overwritten front) ((length_overwritten front).trans length)
      other, ite_mul, one_mul, zero_mul]
  rw [leftCount, leftCount, Finset.card_filter (fun draws : Fin count → Fin k => _),
    Finset.sum_mul, ← Finset.sum_congr rfl fun front _ => each front, ← split]
  rfl

/-- The item written last is always there. -/
theorem leftCount_last (length : first.length = k) :
    leftCount k first item (count + 1) (item count) = k ^ (count + 1) := by
  have always : ∀ draws : Fin (count + 1) → Fin k,
      item count ∈ overwritten first item (count + 1) draws := by
    intro draws
    apply List.mem_set
    rw [length_overwritten, length]
    exact (draws (Fin.last count)).isLt
  rw [leftCount, Finset.filter_true_of_mem (fun draws _ => always draws), Finset.card_univ,
    Fintype.card_fun, Fintype.card_fin, Fintype.card_fin]

/-- An item of the start has to be spared every time. -/
theorem leftCount_first (fresh : Fresh first item) (length : first.length = k) {value : A}
    (inside : value ∈ first) (count : Nat) :
    leftCount k first item count value = (k - 1) ^ count := by
  induction count with
  | zero => exact leftCount_zero inside
  | succ count ih =>
      have other : value ≠ item count := by
        rintro rfl
        exact fresh.new count inside
      rw [leftCount_succ fresh length other, ih, pow_succ]

/-- A later item has to be spared only after it came. -/
theorem leftCount_item (fresh : Fresh first item) (length : first.length = k) (index after : Nat) :
    leftCount k first item (index + 1 + after) (item index) =
      k ^ (index + 1) * (k - 1) ^ after := by
  induction after with
  | zero => rw [Nat.add_zero, leftCount_last length, pow_zero, mul_one]
  | succ after ih =>
      have other : item index ≠ item (index + 1 + after) := by
        intro same
        have equal := fresh.injective same
        omega
      rw [← Nat.add_assoc, leftCount_succ fresh length other, ih, mul_assoc, ← pow_succ]

end RagDrift.Collections
