import RagDrift.Drift.Graph

set_option autoImplicit false

/- What `_pooled_graph` counts as edges. The matrix leaves out the edges that name an id no payload
lists; the count does not. -/
namespace RagDrift.Drift

open Telemetry (GraphTopologyPayload)

variable {N : Type} (runtime : Runtime N) (payloads : List (GraphTopologyPayload N))

/-- The ordered pairs of distinct listed ids that some edge joins. -/
def joinedPairs : Finset (String × String) :=
  (pooledGraph runtime payloads).nodes.toFinset.offDiag.filter (· ∈ edgeEnds runtime payloads)

variable {runtime payloads}

theorem mem_joinedPairs {pair : String × String} :
    pair ∈ joinedPairs runtime payloads ↔
      pair ∈ edgeEnds runtime payloads ∧ pair.1 ∈ (pooledGraph runtime payloads).nodes ∧
        pair.2 ∈ (pooledGraph runtime payloads).nodes ∧ pair.1 ≠ pair.2 := by
  simp only [joinedPairs, Finset.mem_filter, Finset.mem_offDiag, List.mem_toFinset]
  tauto

theorem length_edgePairs : (pooledGraph runtime payloads).edgePairs.length =
    (pooledGraph runtime payloads).edgePairs.toFinset.card :=
  (List.toFinset_card_of_nodup (nodup_edgePairs runtime payloads)).symm

theorem card_joinedPairs_le : (joinedPairs runtime payloads).card ≤
    (pooledGraph runtime payloads).nodes.length *
      ((pooledGraph runtime payloads).nodes.length - 1) := by
  have pairs := Finset.card_filter_le (pooledGraph runtime payloads).nodes.toFinset.offDiag
    (· ∈ edgeEnds runtime payloads)
  rw [Finset.offDiag_card, List.toFinset_card_of_nodup (pooledGraph runtime payloads).distinct,
    ← Nat.mul_sub_one] at pairs
  exact pairs

theorem graphDensity_nonneg (numNodes numEdges : Nat) : 0 ≤ graphDensity numNodes numEdges := by
  rw [graphDensity]
  split
  · exact le_refl 0
  · rename_i more
    have nodes : (2 : ℝ) ≤ numNodes := by exact_mod_cast not_lt.mp more
    exact div_nonneg numEdges.cast_nonneg (mul_nonneg (by linarith) (by linarith))

theorem graphDensity_le_one {numNodes numEdges : Nat}
    (few : numEdges ≤ numNodes * (numNodes - 1)) : graphDensity numNodes numEdges ≤ 1 := by
  rw [graphDensity]
  split
  · exact zero_le_one
  · rename_i more
    have nodes : (2 : ℝ) ≤ numNodes := by exact_mod_cast not_lt.mp more
    have pairs : (numEdges : ℝ) ≤ numNodes * (numNodes - 1) := by
      have cast := Nat.cast_le (α := ℝ).mpr few
      rwa [Nat.cast_mul, Nat.cast_sub (by omega), Nat.cast_one] at cast
    exact div_le_one_of_le₀ pairs (mul_nonneg (by linarith) (by linarith))

variable (runtime payloads) in
/-- The count is that of the joined pairs, and the matrix holds the counted pairs. -/
structure CountsEdges : Prop where
  count : (pooledGraph runtime payloads).edgePairs.length = (joinedPairs runtime payloads).card
  density : 0 ≤ graphDensity (pooledGraph runtime payloads).nodes.length
      (pooledGraph runtime payloads).edgePairs.length ∧
    graphDensity (pooledGraph runtime payloads).nodes.length
      (pooledGraph runtime payloads).edgePairs.length ≤ 1
  counted : ∀ pair ∈ (pooledGraph runtime payloads).edgePairs, ∃ i j,
    pair = ((pooledGraph runtime payloads).nodes.get i,
        (pooledGraph runtime payloads).nodes.get j) ∧
      (pooledGraph runtime payloads).adjacency i j = (1 : ℝ)
  entries : ∀ i j, (pooledGraph runtime payloads).adjacency i j =
    if ((pooledGraph runtime payloads).nodes.get i,
        (pooledGraph runtime payloads).nodes.get j) ∈ joinedPairs runtime payloads ∨
      ((pooledGraph runtime payloads).nodes.get j,
        (pooledGraph runtime payloads).nodes.get i) ∈ joinedPairs runtime payloads
    then (1 : ℝ) else 0

variable (runtime payloads) in
/-- The two ends of an edge, where they differ, are ids of nodes if and only if neither is the
empty text. -/
def EndsListed : Prop :=
  ∀ pair ∈ edgeEnds runtime payloads, pair.1 ≠ pair.2 →
    (pair.1 ∈ (pooledGraph runtime payloads).nodes ∧
      pair.2 ∈ (pooledGraph runtime payloads).nodes ↔ pair.1 ≠ "" ∧ pair.2 ≠ "")

/-- The counted pairs are the joined ones. -/
theorem endsListed_iff : EndsListed runtime payloads ↔
    (pooledGraph runtime payloads).edgePairs.toFinset = joinedPairs runtime payloads := by
  simp only [EndsListed, Finset.ext_iff, List.mem_toFinset, mem_edgePairs, mem_joinedPairs]
  constructor
  · intro listed pair
    by_cases present : pair ∈ edgeEnds runtime payloads ∧ pair.1 ≠ pair.2
    · have same := listed pair present.1 present.2
      tauto
    · tauto
  · intro same pair inside apart
    have both := same pair
    tauto

theorem CountsEdges.endsListed (counts : CountsEdges runtime payloads) :
    EndsListed runtime payloads := by
  rw [endsListed_iff]
  apply Finset.eq_of_subset_of_card_le
  · intro pair inside
    rw [List.mem_toFinset] at inside
    obtain ⟨i, j, rfl, _⟩ := counts.counted pair inside
    obtain ⟨edge, _, _, apart⟩ := mem_edgePairs.mp inside
    exact mem_joinedPairs.mpr ⟨edge, List.get_mem _ i, List.get_mem _ j, apart⟩
  · rw [← length_edgePairs, counts.count]

theorem countsEdges_of_listed (listed : EndsListed runtime payloads) :
    CountsEdges runtime payloads := by
  have same := endsListed_iff.mp listed
  have member : ∀ pair, pair ∈ (pooledGraph runtime payloads).edgePairs ↔
      pair ∈ joinedPairs runtime payloads := by
    intro pair
    rw [← same, List.mem_toFinset]
  have count : (pooledGraph runtime payloads).edgePairs.length =
      (joinedPairs runtime payloads).card := by
    rw [length_edgePairs, same]
  refine ⟨count, ⟨graphDensity_nonneg _ _, ?_⟩, ?_, ?_⟩
  · rw [count]
    exact graphDensity_le_one card_joinedPairs_le
  · intro pair inside
    obtain ⟨_, first, second, _⟩ := mem_joinedPairs.mp ((member pair).mp inside)
    obtain ⟨i, left⟩ := List.get_of_mem first
    obtain ⟨j, right⟩ := List.get_of_mem second
    refine ⟨i, j, by rw [left, right], ?_⟩
    rw [adjacency_apply, if_pos]
    left
    rwa [left, right]
  · intro i j
    rw [adjacency_apply]
    simp only [member]

/-- The count is that of the joined pairs, with a density up to 1 and the matrix of these pairs, if
and only if the ends of the edges that count are listed. -/
theorem countsEdges_iff (runtime : Runtime N) (payloads : List (GraphTopologyPayload N)) :
    CountsEdges runtime payloads ↔ EndsListed runtime payloads :=
  ⟨CountsEdges.endsListed, countsEdges_of_listed⟩

def textEntries (entries : List (String × String)) : Dict Int :=
  Dict.empty.setAll (entries.map fun entry => (entry.1, .str entry.2))

/-- Two nodes joined both ways, and an edge to a third one that is not listed. -/
def danglingGraph : GraphTopologyPayload Int where
  nodes := [textEntries [("id", "a")], textEntries [("id", "b")]]
  edges := [textEntries [("source", "a"), ("target", "b")],
    textEntries [("from", "b"), ("to", "a")], textEntries [("source", "a"), ("target", "x")]]

theorem dangling_edge_counted : ¬ ∀ (runtime : Runtime Int)
    (payloads : List (GraphTopologyPayload Int)), CountsEdges runtime payloads := by
  intro all
  have counts := all (wholeRuntime []) [danglingGraph]
  have edges : (pooledGraph (wholeRuntime []) [danglingGraph]).edgePairs.length = 3 := by
    decide
  have nodes : (pooledGraph (wholeRuntime []) [danglingGraph]).nodes.length = 2 := by
    decide
  have most := counts.density.2
  rw [edges, nodes, graphDensity, if_neg (by decide)] at most
  norm_num at most

end RagDrift.Drift
