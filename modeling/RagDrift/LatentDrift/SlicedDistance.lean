import RagDrift.LatentDrift.Wasserstein
import RagDrift.Numeric.Spread

set_option autoImplicit false

/- `compute_swd` is a pseudometric on samples that sees neither the order of the rows nor where
the two samples lie together. -/
namespace RagDrift.LatentDrift

open Matching (transport transport_comm transport_self transport_triangle transport_map_add)
open Numeric (mean mean_map_le mean_map_add)

section OneDimension

variable {K : Type} [Field K] [LinearOrder K]

theorem wasserstein1d_perm {a b c e : List K} (first : a.Perm b) (second : c.Perm e) :
    wasserstein1d a c = wasserstein1d b e := by
  simp only [wasserstein1d, sort_eq_of_perm first, sort_eq_of_perm second]

variable [IsStrictOrderedRing K] {a b c : List K}

theorem wasserstein1d_comm (someA : a ≠ []) (someB : b ≠ []) :
    wasserstein1d a b = wasserstein1d b a := by
  rw [wasserstein1d_eq_transport someA someB, wasserstein1d_eq_transport someB someA,
    transport_comm]

theorem wasserstein1d_self (someA : a ≠ []) : wasserstein1d a a = 0 := by
  rw [wasserstein1d_eq_transport someA someA, transport_self]

theorem wasserstein1d_triangle (someA : a ≠ []) (someB : b ≠ []) (someC : c ≠ []) :
    wasserstein1d a c ≤ wasserstein1d a b + wasserstein1d b c := by
  rw [wasserstein1d_eq_transport someA someC, wasserstein1d_eq_transport someA someB,
    wasserstein1d_eq_transport someB someC]
  exact transport_triangle (sort_ne_nil someA) (sort_ne_nil someB) (sort_ne_nil someC)
    (pairwise_sort a) (pairwise_sort b) (pairwise_sort c)

theorem sort_map_add (t : K) (values : List K) :
    sort (values.map (· + t)) = (sort values).map (· + t) := by
  symm
  apply List.map_insertionSort
  intro x _ y _
  exact (add_le_add_iff_right t).symm

theorem wasserstein1d_map_add (someA : a ≠ []) (someB : b ≠ []) (t : K) :
    wasserstein1d (a.map (· + t)) (b.map (· + t)) = wasserstein1d a b := by
  have someA' : a.map (· + t) ≠ [] := by simpa using someA
  have someB' : b.map (· + t) ≠ [] := by simpa using someB
  rw [wasserstein1d_eq_transport someA' someB', wasserstein1d_eq_transport someA someB,
    sort_map_add, sort_map_add, transport_map_add]

end OneDimension

section Sliced

variable {d : Nat} {X Y Z : List (Fin d → ℝ)}

theorem project_ne_nil (some : X ≠ []) (direction : Fin d → ℝ) : project X direction ≠ [] := by
  simpa [project] using some

/-- A common vector moves all projections by one number. -/
theorem project_map_add (X : List (Fin d → ℝ)) (shift direction : Fin d → ℝ) :
    project (X.map (· + shift)) direction =
      (project X direction).map (· + dotProduct shift direction) := by
  simp [project, Function.comp_def, add_dotProduct]

theorem slicedDistance_congr {X' Y' : List (Fin d → ℝ)} (projections : Projections d)
    (same : ∀ direction, wasserstein1d (project X direction) (project Y direction) =
      wasserstein1d (project X' direction) (project Y' direction)) :
    slicedDistance projections X Y = slicedDistance projections X' Y' := by
  simp only [slicedDistance, same]

theorem slicedDistance_self (projections : Projections d) (some : X ≠ []) :
    slicedDistance projections X X = 0 := by
  have zero : ∀ direction, wasserstein1d (project X direction) (project X direction) = 0 :=
    fun direction => wasserstein1d_self (project_ne_nil some direction)
  simp [slicedDistance, zero, mean]

theorem slicedDistance_triangle (projections : Projections d) (someX : X ≠ []) (someY : Y ≠ [])
    (someZ : Z ≠ []) :
    slicedDistance projections X Z ≤
      slicedDistance projections X Y + slicedDistance projections Y Z := by
  rw [slicedDistance, slicedDistance, slicedDistance, ← mean_map_add]
  apply mean_map_le
  intro direction _
  exact wasserstein1d_triangle (project_ne_nil someX direction) (project_ne_nil someY direction)
    (project_ne_nil someZ direction)

variable (projections : (nFeatures : Nat) → Projections nFeatures)

theorem computeSwd_eq (X Y : List (Fin d → ℝ)) :
    computeSwd projections ⟨d, X⟩ ⟨d, Y⟩ = .ok (slicedDistance (projections d) X Y) :=
  ofSameColumns_eq X Y _

/-- A pseudometric, which is unchanged when rows are permuted and when one vector is added to all
rows. -/
theorem computeSwd_pseudometric (someX : X ≠ []) (someY : Y ≠ []) (someZ : Z ≠ []) :
    computeSwd projections ⟨d, X⟩ ⟨d, Y⟩ = computeSwd projections ⟨d, Y⟩ ⟨d, X⟩ ∧
    (∀ X', X.Perm X' → computeSwd projections ⟨d, X⟩ ⟨d, X'⟩ = .ok 0) ∧
    (∃ xy yz xz, computeSwd projections ⟨d, X⟩ ⟨d, Y⟩ = .ok xy ∧
      computeSwd projections ⟨d, Y⟩ ⟨d, Z⟩ = .ok yz ∧
      computeSwd projections ⟨d, X⟩ ⟨d, Z⟩ = .ok xz ∧ xz ≤ xy + yz) ∧
    (∀ X' Y', X.Perm X' → Y.Perm Y' →
      computeSwd projections ⟨d, X'⟩ ⟨d, Y'⟩ = computeSwd projections ⟨d, X⟩ ⟨d, Y⟩) ∧
    ∀ shift : Fin d → ℝ,
      computeSwd projections ⟨d, X.map (· + shift)⟩ ⟨d, Y.map (· + shift)⟩ =
        computeSwd projections ⟨d, X⟩ ⟨d, Y⟩ := by
  simp only [computeSwd_eq, Except.ok.injEq]
  refine ⟨?_, ?_, ?_, ?_, ?_⟩
  · apply slicedDistance_congr
    intro direction
    exact wasserstein1d_comm (project_ne_nil someX direction) (project_ne_nil someY direction)
  · intro X' reordered
    rw [← slicedDistance_self (projections d) someX]
    apply slicedDistance_congr
    intro direction
    exact wasserstein1d_perm (List.Perm.refl _) (reordered.symm.map _)
  · exact ⟨_, _, _, rfl, rfl, rfl, slicedDistance_triangle (projections d) someX someY someZ⟩
  · intro X' Y' reorderedX reorderedY
    apply slicedDistance_congr
    intro direction
    exact wasserstein1d_perm (reorderedX.symm.map _) (reorderedY.symm.map _)
  · intro shift
    apply slicedDistance_congr
    intro direction
    rw [project_map_add, project_map_add]
    exact wasserstein1d_map_add (project_ne_nil someX direction)
      (project_ne_nil someY direction) _

end Sliced

def twoDirections (nFeatures : Nat) : Projections nFeatures :=
  ⟨[fun _ => 1, fun feature => (feature : ℕ)], List.cons_ne_nil _ _⟩

theorem computeSwd_pseudometric_plane :
    ∃ xy yz xz, computeSwd twoDirections ⟨2, [![0, 0], ![1, 2]]⟩ ⟨2, [![3, 1]]⟩ = .ok xy ∧
      computeSwd twoDirections ⟨2, [![3, 1]]⟩ ⟨2, [![0, 1], ![0, 1], ![5, 5]]⟩ = .ok yz ∧
      computeSwd twoDirections ⟨2, [![0, 0], ![1, 2]]⟩ ⟨2, [![0, 1], ![0, 1], ![5, 5]]⟩ =
        .ok xz ∧ xz ≤ xy + yz :=
  (computeSwd_pseudometric twoDirections (List.cons_ne_nil _ _) (List.cons_ne_nil _ _)
    (List.cons_ne_nil _ _)).2.2.1

end RagDrift.LatentDrift
