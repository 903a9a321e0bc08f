import RagDrift.Drift.Graph

set_option autoImplicit false

/- What graph drift reads of a pooled graph: the numbers of nodes and edges and the spectrum, which
do not depend on the order or the names of the nodes. -/
namespace RagDrift.Drift

open Collections (renumber get_renumber)
open Telemetry (GraphTopologyPayload)

theorem normalizedLaplacian_reindex {n m : Nat} (places : Fin n ≃ Fin m)
    (adjacency : Matrix (Fin n) (Fin n) ℝ) :
    normalizedLaplacian (Matrix.reindex places places adjacency) =
      Matrix.reindex places places (normalizedLaplacian adjacency) := by
  have same : n = m := by simpa using Fintype.card_congr places
  subst same
  unfold normalizedLaplacian
  split
  · simp
  · split
    · simp
    · have degrees : ∀ i, ∑ j, Matrix.reindex places places adjacency i j =
          ∑ j, adjacency (places.symm i) j := by
        intro i
        exact Equiv.sum_comp places.symm fun j => adjacency (places.symm i) j
      ext i j
      simp only [degrees]
      simp [Matrix.one_apply]

theorem eigh_reindex {n m : Nat} (places : Fin n ≃ Fin m) (matrix : Matrix (Fin n) (Fin n) ℝ) :
    eigh (Matrix.reindex places places matrix) = eigh matrix := by
  rw [eigh, eigh, Matrix.charpoly_reindex]

theorem distance_self (values : List ℝ) : distance values values = 0 := by
  simp [distance]

theorem spectralDistance_self {n : Nat} (adjacency : Matrix (Fin n) (Fin n) ℝ) (k : Int) :
    spectralDistance adjacency adjacency k = 0 := by
  unfold spectralDistance
  split
  · rfl
  · exact distance_self _

section Statistics

/-- Two graphs that `compute_graph_drift` cannot tell apart. -/
structure SameStatistics (first second : PooledGraph) : Prop where
  nodes : first.nodes.length = second.nodes.length
  edgePairs : first.edgePairs.length = second.edgePairs.length
  spectrum : eigh (normalizedLaplacian first.adjacency) =
    eigh (normalizedLaplacian second.adjacency)

theorem spectralDistance_congr {n n' m m' : Nat} {A : Matrix (Fin n) (Fin n) ℝ}
    {A' : Matrix (Fin n') (Fin n') ℝ} {B : Matrix (Fin m) (Fin m) ℝ}
    {B' : Matrix (Fin m') (Fin m') ℝ} (sizeA : n = n') (sizeB : m = m')
    (spectrumA : eigh (normalizedLaplacian A) = eigh (normalizedLaplacian A'))
    (spectrumB : eigh (normalizedLaplacian B) = eigh (normalizedLaplacian B')) (k : Int) :
    spectralDistance A B k = spectralDistance A' B' k := by
  subst sizeA
  subst sizeB
  simp only [spectralDistance, spectrumA, spectrumB]

variable (runtime : Runtime ℝ) (calculator : GraphDriftCalculator ℝ)
  {baseline current baseline' current' : List (GraphTopologyPayload ℝ)}

theorem computeGraphDrift_congr
    (before : SameStatistics (pooledGraph runtime baseline) (pooledGraph runtime baseline'))
    (after : SameStatistics (pooledGraph runtime current) (pooledGraph runtime current')) :
    calculator.computeGraphDrift runtime baseline current =
      calculator.computeGraphDrift runtime baseline' current' := by
  have spectral := spectralDistance_congr before.nodes after.nodes before.spectrum after.spectrum
  unfold GraphDriftCalculator.computeGraphDrift
  simp only [spectral, before.nodes, before.edgePairs, after.nodes, after.edgePairs]

theorem computeGraphDrift_self (spectral : 0 ≤ calculator.spectralThreshold)
    (density : 0 ≤ calculator.densityThreshold) :
    calculator.computeGraphDrift runtime baseline baseline = .none := by
  unfold GraphDriftCalculator.computeGraphDrift
  simp only [spectralDistance_self, sub_self, abs_zero, GraphDrift.none, not_lt.mpr spectral,
    not_lt.mpr density, or_self, decide_false]

end Statistics

/-- The nodes and pairs of one graph under other names, in any order. -/
structure Renames (f : String → String) (first second : PooledGraph) : Prop where
  nodes : (first.nodes.map f).Perm second.nodes
  pairs : ∀ i j, (f (first.nodes.get i), f (first.nodes.get j)) ∈ second.edgePairs ↔
    (first.nodes.get i, first.nodes.get j) ∈ first.edgePairs
  edgePairs : first.edgePairs.length = second.edgePairs.length

namespace Renames

variable {f : String → String} {first second : PooledGraph}

def places (renames : Renames f first second) :
    Fin first.nodes.length ≃ Fin second.nodes.length :=
  (finCongr (List.length_map f).symm).trans
    (renumber (renames.nodes.nodup_iff.mpr second.distinct) second.distinct renames.nodes)

theorem get_places (renames : Renames f first second) (i : Fin first.nodes.length) :
    second.nodes.get (renames.places i) = f (first.nodes.get i) := by
  rw [places, Equiv.trans_apply, get_renumber]
  simp

/-- A renamed graph has the matrix of the other one, its places renumbered. -/
theorem adjacency (renames : Renames f first second) : (second.adjacency : Matrix _ _ ℝ) =
    Matrix.reindex renames.places renames.places first.adjacency := by
  ext i j
  obtain ⟨i, rfl⟩ := renames.places.surjective i
  obtain ⟨j, rfl⟩ := renames.places.surjective j
  rw [Matrix.reindex_apply, Matrix.submatrix_apply, Equiv.symm_apply_apply,
    Equiv.symm_apply_apply, adjacency_apply, adjacency_apply, renames.get_places,
    renames.get_places]
  simp only [renames.pairs]

theorem sameStatistics (renames : Renames f first second) : SameStatistics first second where
  nodes := by rw [← renames.nodes.length_eq, List.length_map]
  edgePairs := renames.edgePairs
  spectrum := by rw [renames.adjacency, normalizedLaplacian_reindex, eigh_reindex]

/-- Names that are kept apart rename a graph with the same nodes and pairs under these names. -/
theorem of_members (pairsFirst : first.edgePairs.Nodup) (pairsSecond : second.edgePairs.Nodup)
    (nodes : ∀ name, name ∈ second.nodes ↔ ∃ before ∈ first.nodes, f before = name)
    (pairs : ∀ pair, pair ∈ second.edgePairs ↔
      ∃ before ∈ first.edgePairs, Prod.map f f before = pair)
    (injective : Set.InjOn f {name | name ∈ first.nodes ∨
      ∃ pair ∈ first.edgePairs, name = pair.1 ∨ name = pair.2}) : Renames f first second := by
  have apart : ∀ a ∈ first.nodes, ∀ b ∈ first.nodes, f a = f b → a = b := by
    intro a insideA b insideB same
    exact injective (.inl insideA) (.inl insideB) same
  refine ⟨?_, ?_, ?_⟩
  · apply (List.perm_ext_iff_of_nodup (first.distinct.map_on apart) second.distinct).mpr
    intro name
    rw [nodes, List.mem_map]
  · intro i j
    rw [pairs]
    constructor
    · rintro ⟨⟨a, b⟩, inside, same⟩
      obtain ⟨left, right⟩ := Prod.mk.inj same
      rw [← injective (.inr ⟨_, inside, .inl rfl⟩) (.inl (List.get_mem _ i)) left,
        ← injective (.inr ⟨_, inside, .inr rfl⟩) (.inl (List.get_mem _ j)) right]
      exact inside
    · intro inside
      exact ⟨_, inside, rfl⟩
  · have apartPairs : ∀ a ∈ first.edgePairs, ∀ b ∈ first.edgePairs,
        Prod.map f f a = Prod.map f f b → a = b := by
      intro a insideA b insideB same
      obtain ⟨left, right⟩ := Prod.mk.inj same
      exact Prod.ext (injective (.inr ⟨a, insideA, .inl rfl⟩) (.inr ⟨b, insideB, .inl rfl⟩) left)
        (injective (.inr ⟨a, insideA, .inr rfl⟩) (.inr ⟨b, insideB, .inr rfl⟩) right)
    have reordered : (first.edgePairs.map (Prod.map f f)).Perm second.edgePairs := by
      apply (List.perm_ext_iff_of_nodup (pairsFirst.map_on apartPairs) pairsSecond).mpr
      intro pair
      rw [pairs, List.mem_map]
    rw [← reordered.length_eq, List.length_map]

end Renames

section Reordered

variable {N : Type} {first second : List (GraphTopologyPayload N)}

/-- The same nodes and edges, in any order and number. -/
theorem renames_of_mem_iff (runtime : Runtime N)
    (nodes : ∀ node, node ∈ first.flatMap GraphTopologyPayload.nodes ↔
      node ∈ second.flatMap GraphTopologyPayload.nodes)
    (edges : ∀ edge, edge ∈ first.flatMap GraphTopologyPayload.edges ↔
      edge ∈ second.flatMap GraphTopologyPayload.edges) :
    Renames id (pooledGraph runtime first) (pooledGraph runtime second) := by
  apply Renames.of_members (nodup_edgePairs runtime first) (nodup_edgePairs runtime second)
  · intro name
    simp only [mem_nodes, List.mem_map, nodes, id_eq, exists_eq_right]
  · intro pair
    simp only [mem_edgePairs, edgeEnds, List.mem_map, edges, Prod.map_id, id_eq,
      exists_eq_right]
  · exact Function.injective_id.injOn

/-- The same graphs in another order are no drift. -/
theorem computeGraphDrift_perm (runtime : Runtime ℝ) {calculator : GraphDriftCalculator ℝ}
    {baseline current : List (GraphTopologyPayload ℝ)} (reordered : baseline.Perm current)
    (spectral : 0 ≤ calculator.spectralThreshold) (density : 0 ≤ calculator.densityThreshold) :
    calculator.computeGraphDrift runtime baseline current = .none := by
  have same := renames_of_mem_iff runtime (fun _ => (reordered.flatMap_right _).mem_iff)
    (fun _ => (reordered.flatMap_right _).mem_iff)
  rw [← computeGraphDrift_self runtime calculator spectral density]
  symm
  exact computeGraphDrift_congr runtime calculator ⟨rfl, rfl, rfl⟩ same.sameStatistics

end Reordered

end RagDrift.Drift
