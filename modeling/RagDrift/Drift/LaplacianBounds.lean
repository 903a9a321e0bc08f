import RagDrift.Drift.SameGraph
import RagDrift.Numeric.QuadraticForm

set_option autoImplicit false

/- The range of the spectrum that graph drift compares. -/
namespace RagDrift.Drift

open Matrix
open Numeric (mem_roots_charpoly_le le_mem_roots_charpoly card_roots_charpoly abs_weighted_form_le)
open Telemetry (GraphTopologyPayload)

section Adjacency

variable (graph : PooledGraph)

theorem adjacency_nonneg (i j : Fin graph.nodes.length) : 0 ≤ (graph.adjacency i j : ℝ) := by
  rw [adjacency_apply]
  split
  · exact zero_le_one
  · exact le_refl 0

theorem adjacency_isSymm : (graph.adjacency : Matrix _ _ ℝ).IsSymm := by
  ext i j
  rw [transpose_apply, adjacency_apply, adjacency_apply]
  simp only [or_comm]

end Adjacency

section Laplacian

variable {n : Nat} {A : Matrix (Fin n) (Fin n) ℝ}

theorem inverseSqrt_weight (degree : ℝ) : degree * inverseSqrt degree ^ 2 ≤ 1 := by
  unfold inverseSqrt
  split
  case isTrue positive =>
    rw [div_pow, one_pow, Real.sq_sqrt positive.le, mul_one_div, div_self positive.ne']
  case isFalse => norm_num

theorem normalizedLaplacian_isSymm (symmetric : A.IsSymm) : (normalizedLaplacian A).IsSymm := by
  unfold normalizedLaplacian
  split
  · exact isSymm_zero
  · split
    · exact isSymm_zero
    · refine isSymm_one.sub ?_
      ext i j
      rw [transpose_apply, of_apply, of_apply, symmetric.apply]
      ring

/-- `inverse_sqrt[:, None] * adjacency * inverse_sqrt[None, :]`, as a form. -/
noncomputable def scaledForm (A : Matrix (Fin n) (Fin n) ℝ) (x : Fin n → ℝ) : ℝ :=
  ∑ i, ∑ j, (inverseSqrt (∑ l, A i l) * x i) * A i j * (inverseSqrt (∑ l, A j l) * x j)

theorem abs_scaledForm_le (nonneg : ∀ i j, 0 ≤ A i j) (symmetric : A.IsSymm) (x : Fin n → ℝ) :
    |scaledForm A x| ≤ x ⬝ᵥ x := by
  apply (abs_weighted_form_le nonneg symmetric _).trans
  apply Finset.sum_le_sum
  intro i _
  calc (∑ j, A i j) * (inverseSqrt (∑ l, A i l) * x i) ^ 2
      = ((∑ j, A i j) * inverseSqrt (∑ l, A i l) ^ 2) * x i ^ 2 := by ring
    _ ≤ 1 * x i ^ 2 := mul_le_mul_of_nonneg_right (inverseSqrt_weight _) (sq_nonneg _)
    _ = x i * x i := by ring

theorem normalizedLaplacian_form (several : 2 ≤ n) (x : Fin n → ℝ) :
    x ⬝ᵥ normalizedLaplacian A *ᵥ x = x ⬝ᵥ x - scaledForm A x := by
  have scaled : x ⬝ᵥ (of fun i j =>
      inverseSqrt (∑ l, A i l) * A i j * inverseSqrt (∑ l, A j l)) *ᵥ x = scaledForm A x := by
    simp only [scaledForm, dotProduct, mulVec, of_apply, Finset.mul_sum]
    refine Finset.sum_congr rfl fun i _ => Finset.sum_congr rfl fun j _ => ?_
    ring
  unfold normalizedLaplacian
  rw [if_neg (by omega), if_neg (by omega), sub_mulVec, one_mulVec, dotProduct_sub, scaled]

/-- Isolated nodes and graphs of a single node included. -/
theorem normalizedLaplacian_bounds (nonneg : ∀ i j, 0 ≤ A i j) (symmetric : A.IsSymm)
    (x : Fin n → ℝ) : 0 ≤ x ⬝ᵥ normalizedLaplacian A *ᵥ x ∧
      x ⬝ᵥ normalizedLaplacian A *ᵥ x ≤ 2 * (x ⬝ᵥ x) := by
  have square : 0 ≤ x ⬝ᵥ x := Finset.sum_nonneg fun i _ => mul_self_nonneg (x i)
  by_cases several : 2 ≤ n
  · obtain ⟨below, above⟩ := abs_le.mp (abs_scaledForm_le nonneg symmetric x)
    rw [normalizedLaplacian_form several]
    constructor <;> linarith
  · have zero : normalizedLaplacian A = 0 := by
      unfold normalizedLaplacian
      by_cases empty : n = 0
      · rw [if_pos empty]
      · rw [if_neg empty, if_pos (by omega)]
    rw [zero, zero_mulVec, dotProduct_zero]
    exact ⟨le_refl 0, by linarith⟩

theorem length_eigh_normalizedLaplacian (symmetric : A.IsSymm) :
    (eigh (normalizedLaplacian A)).length = n := by
  rw [eigh, Multiset.length_sort, card_roots_charpoly (normalizedLaplacian_isSymm symmetric),
    Fintype.card_fin]

theorem mem_eigh_normalizedLaplacian (nonneg : ∀ i j, 0 ≤ A i j) (symmetric : A.IsSymm)
    {value : ℝ} (inside : value ∈ eigh (normalizedLaplacian A)) : 0 ≤ value ∧ value ≤ 2 := by
  have root := (Multiset.mem_sort (· ≤ ·)).mp inside
  have bounds := normalizedLaplacian_bounds nonneg symmetric
  constructor
  · exact le_mem_roots_charpoly (fun x => by simpa using (bounds x).1) root
  · exact mem_roots_charpoly_le (fun x => (bounds x).2) root

end Laplacian

theorem sum_zipWith_sq_le {bound : ℝ} {left right : List ℝ}
    (insideLeft : ∀ a ∈ left, 0 ≤ a ∧ a ≤ bound) (insideRight : ∀ b ∈ right, 0 ≤ b ∧ b ≤ bound) :
    (List.zipWith (fun a b => (a - b) ^ 2) left right).sum ≤ left.length * bound ^ 2 := by
  induction left generalizing right with
  | nil => simp
  | cons a left ih =>
      cases right with
      | nil =>
          rw [List.zipWith_nil_right, List.sum_nil]
          positivity
      | cons b right =>
          obtain ⟨lowA, highA⟩ := insideLeft a List.mem_cons_self
          obtain ⟨lowB, highB⟩ := insideRight b List.mem_cons_self
          have first : (a - b) ^ 2 ≤ bound ^ 2 := sq_le_sq' (by linarith) (by linarith)
          have rest := ih (fun x inside => insideLeft x (List.mem_cons_of_mem _ inside))
            (fun y inside => insideRight y (List.mem_cons_of_mem _ inside))
          rw [List.zipWith_cons_cons, List.sum_cons, List.length_cons, Nat.cast_succ]
          linarith

theorem length_lastOf_le (k : Int) (values : List ℝ) : (lastOf k values).length ≤ k.toNat := by
  rw [lastOf, List.length_drop]
  omega

theorem mem_of_mem_lastOf {k : Int} {values : List ℝ} {value : ℝ}
    (inside : value ∈ lastOf k values) : value ∈ values :=
  List.mem_of_mem_drop inside

theorem spectralDistance_le {n m : Nat} {B : Matrix (Fin n) (Fin n) ℝ}
    {C : Matrix (Fin m) (Fin m) ℝ} (nonnegB : ∀ i j, 0 ≤ B i j) (symmetricB : B.IsSymm)
    (nonnegC : ∀ i j, 0 ≤ C i j) (symmetricC : C.IsSymm) {k : Int} (positive : 1 ≤ k) :
    spectralDistance B C k ≤ 2 * Real.sqrt k := by
  unfold spectralDistance
  split
  · positivity
  · simp only
    generalize kept : max 1 (min k (min (eigh (normalizedLaplacian B)).length
      (eigh (normalizedLaplacian C)).length : Int)) = k'
    have fewer : k' ≤ k := by omega
    have count : ((lastOf k' (eigh (normalizedLaplacian B))).length : ℝ) ≤ k := by
      have bound := length_lastOf_le k' (eigh (normalizedLaplacian B))
      have atMost : ((lastOf k' (eigh (normalizedLaplacian B))).length : Int) ≤ k := by omega
      exact_mod_cast atMost
    have squares := sum_zipWith_sq_le
      (fun a inside => mem_eigh_normalizedLaplacian nonnegB symmetricB
        (mem_of_mem_lastOf (k := k') inside))
      (fun b inside => mem_eigh_normalizedLaplacian nonnegC symmetricC
        (mem_of_mem_lastOf (k := k') inside))
    unfold distance
    calc Real.sqrt _ ≤ Real.sqrt (2 ^ 2 * k) := Real.sqrt_le_sqrt (by linarith)
      _ = 2 * Real.sqrt k := by rw [Real.sqrt_mul (by norm_num), Real.sqrt_sq (by norm_num)]

/-- The spectrum of every pooled graph lies in `[0, 2]`, so that two of them are at most
`2 * sqrt(k)` apart. -/
theorem laplacian_spectrum (runtime : Runtime ℝ)
    (payloads baselineGraphs currentGraphs : List (GraphTopologyPayload ℝ)) (k : Int)
    (positive : 1 ≤ k) :
    let laplacian := normalizedLaplacian (pooledGraph runtime payloads).adjacency
    laplacian.IsSymm ∧
      (∀ x, 0 ≤ x ⬝ᵥ laplacian *ᵥ x ∧ x ⬝ᵥ laplacian *ᵥ x ≤ 2 * (x ⬝ᵥ x)) ∧
      (eigh laplacian).length = (pooledGraph runtime payloads).nodes.length ∧
      (∀ value ∈ eigh laplacian, 0 ≤ value ∧ value ≤ 2) ∧
      spectralDistance (pooledGraph runtime baselineGraphs).adjacency
        (pooledGraph runtime currentGraphs).adjacency k ≤ 2 * Real.sqrt k := by
  have nonneg := adjacency_nonneg (pooledGraph runtime payloads)
  have symmetric := adjacency_isSymm (pooledGraph runtime payloads)
  refine ⟨normalizedLaplacian_isSymm symmetric, normalizedLaplacian_bounds nonneg symmetric,
    length_eigh_normalizedLaplacian symmetric, ?_, ?_⟩
  · intro value inside
    exact mem_eigh_normalizedLaplacian nonneg symmetric inside
  · exact spectralDistance_le (adjacency_nonneg _) (adjacency_isSymm _) (adjacency_nonneg _)
      (adjacency_isSymm _) positive

theorem laplacian_spectrum_pair :
    let laplacian :=
      normalizedLaplacian (pooledGraph literalRuntime [pairGraph "a" "b"]).adjacency
    laplacian.IsSymm ∧
      (∀ x, 0 ≤ x ⬝ᵥ laplacian *ᵥ x ∧ x ⬝ᵥ laplacian *ᵥ x ≤ 2 * (x ⬝ᵥ x)) ∧
      (eigh laplacian).length =
        (pooledGraph literalRuntime [pairGraph "a" "b"]).nodes.length ∧
      (∀ value ∈ eigh laplacian, 0 ≤ value ∧ value ≤ 2) ∧
      spectralDistance (pooledGraph literalRuntime [pairGraph "a" "b"]).adjacency
        (pooledGraph literalRuntime []).adjacency 5 ≤ 2 * Real.sqrt (5 : Int) :=
  laplacian_spectrum literalRuntime _ _ _ 5 (by norm_num)

end RagDrift.Drift
