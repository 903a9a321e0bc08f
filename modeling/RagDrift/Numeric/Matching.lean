import Mathlib.Algebra.BigOperators.Group.List.Basic
import Mathlib.Algebra.Order.Field.Basic
import Mathlib.Data.List.Sort
import Mathlib.Tactic.FieldSimp
import Mathlib.Tactic.Linarith
import Mathlib.Tactic.Positivity
import Mathlib.Tactic.Ring

set_option autoImplicit false

/- Two lists of numbers compared in two ways: by the area between the step functions that count
the entries up to a point, and by matching the sorted lists entry by entry. -/
namespace RagDrift.Matching

variable {K : Type} [Field K]

/-- The area under a function that keeps its height from each point of the grid to the next. -/
def area (height : K → K) : List K → K
  | here :: next :: rest => (next - here) * height here + area height (next :: rest)
  | _ => 0

variable {grid : List K} {left right : K → K}

theorem area_congr (same : ∀ v ∈ grid, left v = right v) : area left grid = area right grid := by
  induction grid with
  | nil => rfl
  | cons here rest ih =>
      have later := ih fun v inside => same v (List.mem_cons_of_mem _ inside)
      cases rest with
      | nil => rfl
      | cons next rest => rw [area, area, later, same here List.mem_cons_self]

theorem area_add (left right : K → K) (grid : List K) :
    area (fun v => left v + right v) grid = area left grid + area right grid := by
  induction grid with
  | nil => exact (add_zero 0).symm
  | cons here rest ih =>
      cases rest with
      | nil => exact (add_zero 0).symm
      | cons next rest =>
          rw [area, area, area, ih]
          ring

theorem area_mul (factor : K) (height : K → K) (grid : List K) :
    area (fun v => factor * height v) grid = factor * area height grid := by
  induction grid with
  | nil => exact (mul_zero factor).symm
  | cons here rest ih =>
      cases rest with
      | nil => exact (mul_zero factor).symm
      | cons next rest =>
          rw [area, area, ih]
          ring

theorem area_zero (grid : List K) : area (fun _ => 0) grid = 0 := by
  have scaled := area_mul 0 (fun _ => 0) grid
  rwa [zero_mul, zero_mul] at scaled

theorem area_sub (left right : K → K) (grid : List K) :
    area (fun v => left v - right v) grid = area left grid - area right grid := by
  have back := area_add (fun v => left v - right v) right grid
  simp only [sub_add_cancel] at back
  rw [back, add_sub_cancel_right]

/-- The height may depend on the entries of two lists, one pair after another. -/
theorem area_zipWith (height : K → K → K → K) (first second grid : List K) :
    area (fun v => (List.zipWith (fun x y => height x y v) first second).sum) grid =
      (List.zipWith (fun x y => area (height x y) grid) first second).sum := by
  induction first generalizing second with
  | nil => exact area_zero grid
  | cons x first ih =>
      cases second with
      | nil => exact area_zero grid
      | cons y second =>
          simp only [List.zipWith_cons_cons, List.sum_cons]
          rw [area_add, ih]

section Ordered

variable [LinearOrder K] [IsStrictOrderedRing K]

theorem area_mono (sorted : grid.Pairwise (· ≤ ·)) (below : ∀ v ∈ grid, left v ≤ right v) :
    area left grid ≤ area right grid := by
  induction grid with
  | nil => exact le_rfl
  | cons here rest ih =>
      obtain ⟨first, others⟩ := List.pairwise_cons.mp sorted
      have later := ih others fun v inside => below v (List.mem_cons_of_mem _ inside)
      cases rest with
      | nil => exact le_rfl
      | cons next rest =>
          have gap : 0 ≤ next - here := sub_nonneg.mpr (first next List.mem_cons_self)
          exact add_le_add (mul_le_mul_of_nonneg_left (below here List.mem_cons_self) gap) later

/-- The step at `x`. -/
def reached (x v : K) : K := if x ≤ v then 1 else 0

omit [IsStrictOrderedRing K] in
/-- The area under a step falls by as much as the step is moved to the right. -/
theorem exists_area_reached (sorted : grid.Pairwise (· ≤ ·)) :
    ∃ top, ∀ x ∈ grid, area (reached x) grid = top - x := by
  induction grid with
  | nil => exact ⟨0, nofun⟩
  | cons here rest ih =>
      obtain ⟨first, others⟩ := List.pairwise_cons.mp sorted
      cases rest with
      | nil =>
          refine ⟨here, ?_⟩
          intro x inside
          rw [List.mem_singleton.mp inside, sub_self]
          rfl
      | cons next rest =>
          obtain ⟨top, under⟩ := ih others
          have step : here ≤ next := first next List.mem_cons_self
          have least : ∀ v ∈ next :: rest, next ≤ v := by
            intro v inside
            rcases List.mem_cons.mp inside with rfl | later
            · exact le_rfl
            · exact (List.pairwise_cons.mp others).1 v later
          refine ⟨top, ?_⟩
          intro x inside
          rw [area]
          rcases List.mem_cons.mp inside with rfl | later
          · -- both steps are up on the whole rest of the grid
            have same : area (reached x) (next :: rest) = area (reached next) (next :: rest) := by
              apply area_congr
              intro v inside
              rw [reached, reached, if_pos (first v inside), if_pos (least v inside)]
            rw [same, under next List.mem_cons_self, reached, if_pos le_rfl]
            ring
          · rw [under x later, reached]
            split
            · rename_i up
              have none : next = here := le_antisymm ((least x later).trans up) step
              rw [none]
              ring
            · ring

theorem abs_reached_sub (x y v : K) :
    |reached x v - reached y v| = reached (min x y) v - reached (max x y) v := by
  unfold reached
  rcases le_total x y with less | less
  · rw [min_eq_left less, max_eq_right less, abs_of_nonneg]
    split_ifs with here there
    · exact (sub_self (1 : K)).ge
    · norm_num
    · exact absurd (less.trans ‹_›) here
    · exact (sub_self (0 : K)).ge
  · rw [min_eq_right less, max_eq_left less, abs_sub_comm, abs_of_nonneg]
    split_ifs with here there
    · exact (sub_self (1 : K)).ge
    · norm_num
    · exact absurd (less.trans ‹_›) here
    · exact (sub_self (0 : K)).ge

/-- Between two steps lies their distance. -/
theorem area_reached_sub (sorted : grid.Pairwise (· ≤ ·)) {x y : K} (left : x ∈ grid)
    (right : y ∈ grid) : area (fun v => |reached x v - reached y v|) grid = |x - y| := by
  obtain ⟨top, under⟩ := exists_area_reached sorted
  have low : min x y ∈ grid := by
    rcases min_choice x y with same | same <;> rwa [same]
  have high : max x y ∈ grid := by
    rcases max_choice x y with same | same <;> rwa [same]
  simp only [abs_reached_sub]
  rw [area_sub, under _ low, under _ high, sub_sub_sub_cancel_left, max_sub_min_eq_abs']

/-- How many values are at most `v`. -/
def upTo (values : List K) (v : K) : Nat := values.countP (· ≤ v)

/-- The cost of matching the entries of two lists in their order. -/
def matchCost (first second : List K) : K :=
  (List.zipWith (fun x y => |x - y|) first second).sum

omit [IsStrictOrderedRing K] in
theorem upTo_cons (x : K) (values : List K) (v : K) :
    (upTo (x :: values) v : K) = upTo values v + reached x v := by
  unfold upTo reached
  by_cases up : x ≤ v
  · rw [List.countP_cons_of_pos (by simpa using up), if_pos up]
    push_cast
    rfl
  · rw [List.countP_cons_of_neg (by simpa using up), if_neg up, add_zero]

omit [Field K] [IsStrictOrderedRing K] in
theorem upTo_eq_zero {values : List K} {v : K} (above : ∀ x ∈ values, v < x) :
    upTo values v = 0 := by
  rw [upTo, List.countP_eq_zero]
  intro x inside
  simpa using above x inside

/-- Where no entry of the second list is reached, every reached entry of the first is a
difference. -/
theorem sum_abs_reached_of_above {first second : List K} {v : K}
    (length : first.length = second.length) (above : ∀ y ∈ second, v < y) :
    (List.zipWith (fun x y => |reached x v - reached y v|) first second).sum = upTo first v := by
  induction first generalizing second with
  | nil => exact Nat.cast_zero.symm
  | cons x first ih =>
      cases second with
      | nil => cases length
      | cons y second =>
          have later := ih (Nat.succ.inj length) fun y inside =>
            above y (List.mem_cons_of_mem _ inside)
          have notYet : reached y v = 0 := if_neg (not_le.mpr (above y List.mem_cons_self))
          have here : |reached x v - reached y v| = reached x v := by
            rw [notYet, sub_zero, abs_of_nonneg]
            unfold reached
            split
            · exact zero_le_one
            · exact le_rfl
          rw [List.zipWith_cons_cons, List.sum_cons, later, upTo_cons, here, add_comm]

omit [IsStrictOrderedRing K] in
theorem zipWith_abs_comm (height : K → K) (first second : List K) :
    List.zipWith (fun x y => |height x - height y|) first second =
      List.zipWith (fun x y => |height x - height y|) second first := by
  rw [List.zipWith_comm]
  simp only [abs_sub_comm]

/-- In sorted lists the pairs of which one entry is reached all stand on one side. -/
theorem abs_upTo_sub {first second : List K} {v : K} (length : first.length = second.length)
    (sortedFirst : first.Pairwise (· ≤ ·)) (sortedSecond : second.Pairwise (· ≤ ·)) :
    |(upTo first v : K) - upTo second v| =
      (List.zipWith (fun x y => |reached x v - reached y v|) first second).sum := by
  have above : ∀ {x : K} {values : List K}, (x :: values).Pairwise (· ≤ ·) → ¬ x ≤ v →
      ∀ y ∈ x :: values, v < y := by
    intro x values sorted notYet y inside
    rcases List.mem_cons.mp inside with rfl | later
    · exact not_le.mp notYet
    · exact (not_le.mp notYet).trans_le ((List.pairwise_cons.mp sorted).1 y later)
  induction first generalizing second with
  | nil =>
      cases second with
      | nil => exact (congrArg abs (sub_self _)).trans abs_zero
      | cons y second => cases length
  | cons x first ih =>
      cases second with
      | nil => cases length
      | cons y second =>
          by_cases upY : y ≤ v
          · by_cases upX : x ≤ v
            · have later := ih (Nat.succ.inj length) (List.pairwise_cons.mp sortedFirst).2
                (List.pairwise_cons.mp sortedSecond).2
              rw [List.zipWith_cons_cons, List.sum_cons, ← later, upTo_cons, upTo_cons, reached,
                reached, if_pos upX, if_pos upY, sub_self, abs_zero, zero_add,
                add_sub_add_right_eq_sub]
            · rw [zipWith_abs_comm (fun x => reached x v),
                sum_abs_reached_of_above length.symm (above sortedFirst upX),
                upTo_eq_zero (above sortedFirst upX), Nat.cast_zero, zero_sub, abs_neg,
                Nat.abs_cast]
          · rw [sum_abs_reached_of_above length (above sortedSecond upY),
              upTo_eq_zero (above sortedSecond upY), Nat.cast_zero, sub_zero, Nat.abs_cast]

/-- On any grid that has all entries, the area between the two counts is the cost of matching. -/
theorem area_abs_upTo {first second grid : List K} (length : first.length = second.length)
    (sortedFirst : first.Pairwise (· ≤ ·)) (sortedSecond : second.Pairwise (· ≤ ·))
    (sorted : grid.Pairwise (· ≤ ·)) (hasFirst : first ⊆ grid) (hasSecond : second ⊆ grid) :
    area (fun v => |(upTo first v : K) - upTo second v|) grid = matchCost first second := by
  simp only [abs_upTo_sub length sortedFirst sortedSecond]
  rw [area_zipWith fun x y v => |reached x v - reached y v|, matchCost]
  congr 1
  apply List.ext_getElem
  · rw [List.length_zipWith, List.length_zipWith]
  · intro place inFirst inSecond
    rw [List.getElem_zipWith, List.getElem_zipWith]
    exact area_reached_sub sorted (hasFirst (List.getElem_mem _)) (hasSecond (List.getElem_mem _))

/-- Each value several times over. -/
def repeatEach (times : Nat) (values : List K) : List K :=
  values.flatMap (List.replicate times)

omit [Field K] [LinearOrder K] [IsStrictOrderedRing K] in
theorem length_repeatEach (times : Nat) (values : List K) :
    (repeatEach times values).length = values.length * times := by
  simp [repeatEach, List.length_flatMap]

omit [Field K] [LinearOrder K] [IsStrictOrderedRing K] in
theorem repeatEach_subset (times : Nat) (values : List K) : repeatEach times values ⊆ values := by
  intro value inside
  obtain ⟨other, member, copy⟩ := List.mem_flatMap.mp inside
  rwa [List.eq_of_mem_replicate copy]

omit [Field K] [IsStrictOrderedRing K] in
theorem pairwise_repeatEach {values : List K} (sorted : values.Pairwise (· ≤ ·)) (times : Nat) :
    (repeatEach times values).Pairwise (· ≤ ·) := by
  rw [repeatEach, List.pairwise_flatMap]
  constructor
  · intro value _
    exact List.pairwise_replicate.mpr (.inr le_rfl)
  · apply sorted.imp
    intro low high ordered x inLow y inHigh
    rwa [List.eq_of_mem_replicate inLow, List.eq_of_mem_replicate inHigh]

omit [Field K] [IsStrictOrderedRing K] in
theorem upTo_repeatEach (times : Nat) (values : List K) (v : K) :
    upTo (repeatEach times values) v = times * upTo values v := by
  induction values with
  | nil => rfl
  | cons x values ih =>
      have rest : upTo (repeatEach times (x :: values)) v =
          (List.replicate times x).countP (· ≤ v) + upTo (repeatEach times values) v := by
        rw [upTo, repeatEach, List.flatMap_cons, List.countP_append]
        rfl
      rw [rest, ih, upTo, upTo, List.countP_replicate, List.countP_cons, Nat.mul_add, add_comm]
      split <;> simp

variable {first second : List K}

theorem length_ne_zero (some : first ≠ []) : (first.length : K) ≠ 0 :=
  Nat.cast_ne_zero.mpr fun none => some (List.length_eq_zero_iff.mp none)

/-- The cost of matching two sorted lists whose entries are repeated to one length. -/
def transport (first second : List K) : K :=
  matchCost (repeatEach second.length first) (repeatEach first.length second) /
    (first.length * second.length)

/-- The area between two distribution functions is the cost of transport, on any grid that has
all entries. -/
theorem area_shares (someFirst : first ≠ []) (someSecond : second ≠ [])
    (sortedFirst : first.Pairwise (· ≤ ·)) (sortedSecond : second.Pairwise (· ≤ ·))
    (sorted : grid.Pairwise (· ≤ ·)) (hasFirst : first ⊆ grid) (hasSecond : second ⊆ grid) :
    area (fun v => |(upTo first v : K) / first.length - upTo second v / second.length|) grid =
      transport first second := by
  have nFirst : (0 : K) < first.length := by
    rw [Nat.cast_pos]
    exact List.length_pos_iff.mpr someFirst
  have nSecond : (0 : K) < second.length := by
    rw [Nat.cast_pos]
    exact List.length_pos_iff.mpr someSecond
  have length : (repeatEach second.length first).length =
      (repeatEach first.length second).length := by
    rw [length_repeatEach, length_repeatEach, Nat.mul_comm]
  have whole := area_abs_upTo length (pairwise_repeatEach sortedFirst _)
    (pairwise_repeatEach sortedSecond _) sorted
    (List.Subset.trans (repeatEach_subset _ _) hasFirst)
    (List.Subset.trans (repeatEach_subset _ _) hasSecond)
  have scaled : ∀ v, |(upTo first v : K) / first.length - upTo second v / second.length| =
      1 / (first.length * second.length) * |((upTo (repeatEach second.length first) v : ℕ) : K) -
        (upTo (repeatEach first.length second) v : ℕ)| := by
    intro v
    have unscaled : (upTo first v : K) / first.length - upTo second v / second.length =
        1 / (first.length * second.length) * (((upTo (repeatEach second.length first) v : ℕ) : K) -
          (upTo (repeatEach first.length second) v : ℕ)) := by
      rw [upTo_repeatEach, upTo_repeatEach]
      push_cast
      field_simp
    rw [unscaled, abs_mul, abs_of_pos]
    positivity
  simp only [scaled]
  rw [area_mul, whole, transport, one_div_mul_eq_div]

omit [IsStrictOrderedRing K] in
theorem matchCost_comm (first second : List K) :
    matchCost first second = matchCost second first :=
  congrArg List.sum (zipWith_abs_comm id first second)

theorem matchCost_nonneg (first second : List K) : 0 ≤ matchCost first second := by
  induction first generalizing second with
  | nil => exact le_rfl
  | cons x first ih =>
      cases second with
      | nil => exact le_rfl
      | cons y second => exact add_nonneg (abs_nonneg _) (ih second)

theorem transport_nonneg (first second : List K) : 0 ≤ transport first second :=
  div_nonneg (matchCost_nonneg _ _) (mul_nonneg (Nat.cast_nonneg _) (Nat.cast_nonneg _))

omit [IsStrictOrderedRing K] in
theorem transport_comm (first second : List K) :
    transport first second = transport second first := by
  rw [transport, transport, matchCost_comm, mul_comm (first.length : K)]

theorem transport_self (values : List K) : transport values values = 0 := by
  have none : matchCost (repeatEach values.length values) (repeatEach values.length values) =
      0 := by
    rw [matchCost, List.zipWith_self]
    simp
  rw [transport, none, zero_div]

/-- All three distances are areas over one grid. -/
theorem transport_triangle {third : List K} (someFirst : first ≠ []) (someSecond : second ≠ [])
    (someThird : third ≠ []) (sortedFirst : first.Pairwise (· ≤ ·))
    (sortedSecond : second.Pairwise (· ≤ ·)) (sortedThird : third.Pairwise (· ≤ ·)) :
    transport first third ≤ transport first second + transport second third := by
  obtain ⟨grid, sorted, merged⟩ : ∃ grid : List K, grid.Pairwise (· ≤ ·) ∧
      grid.Perm (first ++ second ++ third) :=
    ⟨_, List.pairwise_insertionSort (· ≤ ·) _, List.perm_insertionSort _ _⟩
  have hasFirst : first ⊆ grid := by
    intro value inside
    exact merged.mem_iff.mpr (List.mem_append_left _ (List.mem_append_left _ inside))
  have hasSecond : second ⊆ grid := by
    intro value inside
    exact merged.mem_iff.mpr (List.mem_append_left _ (List.mem_append_right _ inside))
  have hasThird : third ⊆ grid := by
    intro value inside
    exact merged.mem_iff.mpr (List.mem_append_right _ inside)
  rw [← area_shares someFirst someThird sortedFirst sortedThird sorted hasFirst hasThird,
    ← area_shares someFirst someSecond sortedFirst sortedSecond sorted hasFirst hasSecond,
    ← area_shares someSecond someThird sortedSecond sortedThird sorted hasSecond hasThird,
    ← area_add]
  apply area_mono sorted
  intro v _
  exact abs_sub_le _ _ _

omit [IsStrictOrderedRing K] in
theorem transport_map_add (t : K) (first second : List K) :
    transport (first.map (· + t)) (second.map (· + t)) = transport first second := by
  have moved : ∀ (times : Nat) (values : List K),
      repeatEach times (values.map (· + t)) = (repeatEach times values).map (· + t) := by
    intro times values
    rw [repeatEach, repeatEach, List.flatMap_map, List.map_flatMap]
    simp only [List.map_replicate]
  rw [transport, transport, List.length_map, List.length_map, moved, moved, matchCost, matchCost,
    List.zipWith_map]
  simp only [add_sub_add_right_eq_sub]

end Ordered

end RagDrift.Matching
