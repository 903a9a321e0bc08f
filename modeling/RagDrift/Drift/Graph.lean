import RagDrift.Collections.Distinct
import RagDrift.Drift.Calculators
import RagDrift.Python.Builtins
import RagDrift.Telemetry.Frames
import Mathlib.Algebra.Polynomial.Roots
import Mathlib.Analysis.SpecialFunctions.Sqrt
import Mathlib.Data.Multiset.Sort
import Mathlib.LinearAlgebra.Matrix.Charpoly.Basic

set_option autoImplicit false

/- `evaluator.drift.graph_drift`, in exact real arithmetic. -/
namespace RagDrift.Drift

open Collections (nodup_eraseDups finIdxOf?_eq_some_iff_get)
open Telemetry (GraphTopologyPayload)

variable {N : Type}

/-- `str` of the id of a node, or of the node where it has none. -/
def nodeId (runtime : Runtime N) (node : Dict N) : String :=
  match (node.get "id").json with
  | .null => runtime.str (.str (runtime.str (.ofDict node)))
  | _ => runtime.str (node.get "id")

/-- `edge.get(name)`, or `edge.get(other)` where that is `None`. -/
def edgeEnd (edge : Dict N) (name other : String) : PyVal N :=
  match (edge.get name).json with
  | .null => edge.get other
  | _ => edge.get name

def edgeEndpoints (runtime : Runtime N) (edge : Dict N) : String × String :=
  (runtime.str (edgeEnd edge "source" "from"), runtime.str (edgeEnd edge "target" "to"))

def joins (pair : String × String) : Bool :=
  pair.1 ≠ "" ∧ pair.2 ≠ "" ∧ pair.1 ≠ pair.2

/-- The nodes in the order they are first seen. The set of pairs is a list in some order. -/
structure PooledGraph where
  nodes : List String
  edgePairs : List (String × String)
  distinct : nodes.Nodup

/-- The loop of `_pooled_graph`; nodes and pairs are collected independently of each other. -/
def pooledGraph (runtime : Runtime N) (payloads : List (GraphTopologyPayload N)) : PooledGraph where
  nodes := ((payloads.flatMap GraphTopologyPayload.nodes).map (nodeId runtime)).eraseDups
  edgePairs := (((payloads.flatMap GraphTopologyPayload.edges).map
    (edgeEndpoints runtime)).filter joins).eraseDups
  distinct := nodup_eraseDups _

section Members

variable (runtime : Runtime N) (payloads : List (GraphTopologyPayload N))

/-- The ends of all edges, counted or not. -/
def edgeEnds : List (String × String) :=
  (payloads.flatMap GraphTopologyPayload.edges).map (edgeEndpoints runtime)

theorem nodup_edgePairs : (pooledGraph runtime payloads).edgePairs.Nodup :=
  nodup_eraseDups _

variable {runtime payloads}

theorem mem_nodes {name : String} : name ∈ (pooledGraph runtime payloads).nodes ↔
    name ∈ (payloads.flatMap GraphTopologyPayload.nodes).map (nodeId runtime) :=
  List.mem_eraseDups

theorem mem_edgePairs {pair : String × String} :
    pair ∈ (pooledGraph runtime payloads).edgePairs ↔
      pair ∈ edgeEnds runtime payloads ∧ pair.1 ≠ "" ∧ pair.2 ≠ "" ∧ pair.1 ≠ pair.2 := by
  simp [pooledGraph, edgeEnds, joins]

end Members

theorem ends_mem {nodes : List String} {pair : String × String} {i j : Fin nodes.length}
    (same : pair = (nodes.get i, nodes.get j) ∨ pair = (nodes.get j, nodes.get i)) :
    pair.1 ∈ nodes ∧ pair.2 ∈ nodes := by
  rcases same with rfl | rfl
  · exact ⟨nodes.get_mem i, nodes.get_mem j⟩
  · exact ⟨nodes.get_mem j, nodes.get_mem i⟩

section Adjacency

variable {R : Type} [Zero R] [One R]

/-- `adjacency[row, column] = 1.0`. -/
def mark {n : Nat} (adjacency : Matrix (Fin n) (Fin n) R) (row column : Fin n) :
    Matrix (Fin n) (Fin n) R :=
  fun i j => if i = row ∧ j = column then 1 else adjacency i j

/-- Both entries of a pair whose ends are in the index. -/
def connect (nodes : List String)
    (adjacency : Matrix (Fin nodes.length) (Fin nodes.length) R) (pair : String × String) :
    Matrix (Fin nodes.length) (Fin nodes.length) R :=
  match nodes.finIdxOf? pair.1, nodes.finIdxOf? pair.2 with
  | some source, some target => mark (mark adjacency source target) target source
  | _, _ => adjacency

def PooledGraph.adjacency (graph : PooledGraph) :
    Matrix (Fin graph.nodes.length) (Fin graph.nodes.length) R :=
  graph.edgePairs.foldl (connect graph.nodes) 0

omit [Zero R] in
theorem connect_apply {nodes : List String} (distinct : nodes.Nodup)
    (adjacency : Matrix (Fin nodes.length) (Fin nodes.length) R) (pair : String × String)
    (i j : Fin nodes.length) :
    connect nodes adjacency pair i j =
      if pair = (nodes.get i, nodes.get j) ∨ pair = (nodes.get j, nodes.get i) then 1
      else adjacency i j := by
  obtain ⟨left, right⟩ := pair
  cases foundSource : nodes.finIdxOf? left with
  | none =>
      have absent : left ∉ nodes := List.finIdxOf?_eq_none_iff.mp foundSource
      have untouched : connect nodes adjacency (left, right) = adjacency := by
        simp only [connect, foundSource]
      rw [untouched, if_neg fun same => absent (ends_mem same).1]
  | some source =>
      cases foundTarget : nodes.finIdxOf? right with
      | none =>
          have absent : right ∉ nodes := List.finIdxOf?_eq_none_iff.mp foundTarget
          have untouched : connect nodes adjacency (left, right) = adjacency := by
            simp only [connect, foundSource, foundTarget]
          rw [untouched, if_neg fun same => absent (ends_mem same).2]
      | some target =>
          have atSource := (finIdxOf?_eq_some_iff_get distinct).mp foundSource
          have atTarget := (finIdxOf?_eq_some_iff_get distinct).mp foundTarget
          have marked : connect nodes adjacency (left, right) =
              mark (mark adjacency source target) target source := by
            simp only [connect, foundSource, foundTarget]
          rw [marked, ← atSource, ← atTarget]
          simp only [mark, Prod.mk.injEq, distinct.get_inj_iff]
          grind

/-- Two nodes are connected where a pair joins them in either direction, in whatever order the
set of pairs is gone through. -/
theorem adjacency_apply (graph : PooledGraph) (i j : Fin graph.nodes.length) :
    (graph.adjacency : Matrix _ _ R) i j =
      if (graph.nodes.get i, graph.nodes.get j) ∈ graph.edgePairs ∨
          (graph.nodes.get j, graph.nodes.get i) ∈ graph.edgePairs then 1 else 0 := by
  have loop : ∀ (pairs : List (String × String)) (start : Matrix _ _ R),
      pairs.foldl (connect graph.nodes) start i j =
        if (graph.nodes.get i, graph.nodes.get j) ∈ pairs ∨
            (graph.nodes.get j, graph.nodes.get i) ∈ pairs then 1 else start i j := by
    intro pairs
    induction pairs with
    | nil => simp
    | cons pair rest ih =>
        intro start
        rw [List.foldl_cons, ih, connect_apply graph.distinct]
        simp only [List.mem_cons]
        grind
  exact loop graph.edgePairs 0

end Adjacency

noncomputable section

def graphDensity (numNodes numEdges : Nat) : ℝ :=
  if numNodes < 2 then 0 else numEdges / (numNodes * (numNodes - 1))

def inverseSqrt (degree : ℝ) : ℝ := if 0 < degree then 1 / Real.sqrt degree else 0

def normalizedLaplacian {n : Nat} (adjacency : Matrix (Fin n) (Fin n) ℝ) :
    Matrix (Fin n) (Fin n) ℝ :=
  if n = 0 then 0
  else if n = 1 then 0
  else
    let scale := fun i => inverseSqrt (∑ j, adjacency i j)
    1 - Matrix.of fun i j => scale i * adjacency i j * scale j

/-- `eigh(matrix, eigvals_only=True)`: the eigenvalues in ascending order. -/
def eigh {n : Nat} (matrix : Matrix (Fin n) (Fin n) ℝ) : List ℝ :=
  matrix.charpoly.roots.sort

/-- `np.linalg.norm(left - right)`. -/
def distance (left right : List ℝ) : ℝ :=
  Real.sqrt ((List.zipWith (fun a b => (a - b) ^ 2) left right).sum)

/-- `values[-k:]` for positive `k`. -/
def lastOf (k : Int) (values : List ℝ) : List ℝ :=
  values.drop (values.length - k.toNat)

def spectralDistance {n m : Nat} (adjacencyB : Matrix (Fin n) (Fin n) ℝ)
    (adjacencyC : Matrix (Fin m) (Fin m) ℝ) (k : Int) : ℝ :=
  if n = 0 ∨ m = 0 then 0
  else
    let eigenB := eigh (normalizedLaplacian adjacencyB)
    let eigenC := eigh (normalizedLaplacian adjacencyC)
    let k := max 1 (min k (min eigenB.length eigenC.length))
    distance (lastOf k eigenB) (lastOf k eigenC)

def GraphDriftCalculator.computeGraphDrift (runtime : Runtime ℝ)
    (calculator : GraphDriftCalculator ℝ)
    (baselineGraphs currentGraphs : List (GraphTopologyPayload ℝ)) : GraphDrift ℝ :=
  let baseline := pooledGraph runtime baselineGraphs
  let current := pooledGraph runtime currentGraphs
  let densityDelta := graphDensity current.nodes.length current.edgePairs.length -
    graphDensity baseline.nodes.length baseline.edgePairs.length
  let spectral := spectralDistance baseline.adjacency current.adjacency calculator.spectralK
  { spectralDistance := spectral
    densityDelta
    nodeCountDelta := current.nodes.length - baseline.nodes.length
    isGraphDrifted :=
      calculator.spectralThreshold < spectral ∨ calculator.densityThreshold < |densityDelta| }

end

end RagDrift.Drift
