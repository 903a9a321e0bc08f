import RagDrift.LatentDrift.Distance
import RagDrift.Numeric.Matching

set_option autoImplicit false

/- `_wasserstein_1d` adds up an area over the merged values; it is the cost of matching the two
sorted arrays. -/
namespace RagDrift.LatentDrift

open Matching (area upTo matchCost repeatEach transport area_shares)

variable {K : Type} [Field K] [LinearOrder K]

omit [Field K] in
theorem pairwise_sort (values : List K) : (sort values).Pairwise (· ≤ ·) :=
  List.pairwise_insertionSort _ values

omit [Field K] in
theorem sort_perm (values : List K) : (sort values).Perm values :=
  List.perm_insertionSort _ values

omit [Field K] in
theorem sort_eq_of_perm {first second : List K} (reordered : first.Perm second) :
    sort first = sort second := by
  have same := (sort_perm first).trans (reordered.trans (sort_perm second).symm)
  exact same.eq_of_pairwise' (pairwise_sort first) (pairwise_sort second)

omit [Field K] in
@[simp] theorem length_sort (values : List K) : (sort values).length = values.length :=
  (sort_perm values).length_eq

omit [Field K] in
theorem sort_ne_nil {values : List K} (some : values ≠ []) : sort values ≠ [] := by
  intro none
  apply some
  exact (none ▸ sort_perm values).nil_eq.symm

omit [Field K] in
theorem searchsortedRight_eq {values : List K} (sorted : values.Pairwise (· ≤ ·)) (v : K) :
    searchsortedRight values v = upTo values v := by
  induction values with
  | nil => rfl
  | cons x rest ih =>
      obtain ⟨least, others⟩ := List.pairwise_cons.mp sorted
      rw [searchsortedRight, List.takeWhile_cons]
      split
      · rename_i up
        rw [upTo, List.countP_cons, if_pos up, List.length_cons]
        exact congrArg (· + 1) (ih others)
      · rename_i up
        rw [Matching.upTo_eq_zero, List.length_nil]
        intro y inside
        have above : v < x := by simpa using up
        rcases List.mem_cons.mp inside with rfl | later
        · exact above
        · exact above.trans_le (least y later)

omit [LinearOrder K] in
/-- The sum over `np.diff` of the grid is the area over it. -/
theorem sum_diff_eq_area (height : K → K) (grid : List K) :
    (List.zipWith (fun delta difference => delta * difference) (diff grid)
      (grid.map height).dropLast).sum = area height grid := by
  induction grid with
  | nil => rfl
  | cons here rest ih =>
      cases rest with
      | nil => rfl
      | cons next rest =>
          rw [diff] at ih ⊢
          rw [area, ← ih, List.tail_cons, List.zipWith_cons_cons, List.map_cons, List.map_cons,
            List.dropLast_cons_cons, List.zipWith_cons_cons, List.sum_cons]
          rfl

theorem wasserstein1d_eq_area (a b : List K) :
    wasserstein1d a b =
      area (fun v => |(upTo (sort a) v : K) / (sort a).length -
        upTo (sort b) v / (sort b).length|) (sort (sort a ++ sort b)) := by
  rw [← sum_diff_eq_area, wasserstein1d]
  simp only [searchsortedRight_eq (pairwise_sort a), searchsortedRight_eq (pairwise_sort b)]
  rw [← List.map_dropLast, ← List.map_dropLast, ← List.map_dropLast, List.zipWith_map,
    List.zipWith_self]

section Ordered

variable [IsStrictOrderedRing K] {a b : List K}

/-- The area may be taken over any grid that has the values of both arrays. -/
theorem area_eq_transport (someA : a ≠ []) (someB : b ≠ []) {grid : List K}
    (sorted : grid.Pairwise (· ≤ ·)) (hasA : a ⊆ grid) (hasB : b ⊆ grid) :
    area (fun v => |(upTo (sort a) v : K) / (sort a).length -
        upTo (sort b) v / (sort b).length|) grid =
      transport (sort a) (sort b) :=
  area_shares (sort_ne_nil someA) (sort_ne_nil someB) (pairwise_sort a) (pairwise_sort b) sorted
    (List.Subset.trans (sort_perm a).subset hasA) (List.Subset.trans (sort_perm b).subset hasB)

theorem wasserstein1d_eq_transport (someA : a ≠ []) (someB : b ≠ []) :
    wasserstein1d a b = transport (sort a) (sort b) := by
  have merged := sort_perm (sort a ++ sort b)
  rw [wasserstein1d_eq_area]
  apply area_eq_transport someA someB (pairwise_sort _)
  · intro value inside
    exact merged.mem_iff.mpr (List.mem_append_left _ ((sort_perm a).mem_iff.mpr inside))
  · intro value inside
    exact merged.mem_iff.mpr (List.mem_append_right _ ((sort_perm b).mem_iff.mpr inside))

/-- The area between the distribution functions is the cost of matching the sorted arrays, with
each entry repeated until they have one length. -/
theorem wasserstein1d_eq_matching (someA : a ≠ []) (someB : b ≠ []) :
    wasserstein1d a b = 1 / (a.length * b.length) *
      (List.zipWith (fun x y => |x - y|) ((sort a).flatMap (List.replicate b.length))
        ((sort b).flatMap (List.replicate a.length))).sum := by
  rw [wasserstein1d_eq_transport someA someB, transport, length_sort, length_sort,
    one_div_mul_eq_div]
  rfl

theorem wasserstein1d_eq_matching_ties :
    wasserstein1d [3, 1, 1] [2, (1 : ℚ)] = 1 / (3 * 2) *
      (List.zipWith (fun x y => |x - y|) [1, 1, 1, 1, 3, 3] [(1 : ℚ), 1, 1, 2, 2, 2]).sum :=
  wasserstein1d_eq_matching (List.cons_ne_nil _ _) (List.cons_ne_nil _ _)

end Ordered

end RagDrift.LatentDrift
