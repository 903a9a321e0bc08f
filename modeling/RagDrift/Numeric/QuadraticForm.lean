import Mathlib.Analysis.Matrix.Spectrum
import Mathlib.LinearAlgebra.Matrix.ToLinearEquiv
import Mathlib.Tactic.Linarith

set_option autoImplicit false

/- Quadratic forms of real matrices, and what they say about the eigenvalues. -/
namespace RagDrift.Numeric

open Matrix

variable {ι : Type} [Fintype ι]

section Eigenvalues

variable [DecidableEq ι] {M : Matrix ι ι ℝ} {value low high : ℝ}

theorem mem_roots_charpoly :
    value ∈ M.charpoly.roots ↔ ∃ v : ι → ℝ, v ≠ 0 ∧ M *ᵥ v = value • v := by
  rw [Polynomial.mem_roots M.charpoly_monic.ne_zero, Polynomial.IsRoot, eval_charpoly,
    ← exists_mulVec_eq_zero_iff]
  refine exists_congr fun v => and_congr_right fun _ => ?_
  rw [sub_mulVec, scalar_apply, ← smul_one_eq_diagonal, smul_mulVec, one_mulVec, sub_eq_zero,
    eq_comm]

/-- An eigenvalue is the value of the form at some vector, by the square of its length. -/
theorem form_of_mem_roots_charpoly (root : value ∈ M.charpoly.roots) :
    ∃ v : ι → ℝ, 0 < v ⬝ᵥ v ∧ v ⬝ᵥ M *ᵥ v = value * (v ⬝ᵥ v) := by
  obtain ⟨v, nonzero, eigen⟩ := mem_roots_charpoly.mp root
  have nonneg : 0 ≤ v ⬝ᵥ v := Finset.sum_nonneg fun i _ => mul_self_nonneg (v i)
  have positive : 0 < v ⬝ᵥ v := lt_of_le_of_ne nonneg fun none =>
    nonzero (dotProduct_self_eq_zero.mp none.symm)
  exact ⟨v, positive, by rw [eigen, dotProduct_smul, smul_eq_mul]⟩

theorem mem_roots_charpoly_le (upper : ∀ x, x ⬝ᵥ M *ᵥ x ≤ high * (x ⬝ᵥ x))
    (root : value ∈ M.charpoly.roots) : value ≤ high := by
  obtain ⟨v, positive, form⟩ := form_of_mem_roots_charpoly root
  exact le_of_mul_le_mul_right (form ▸ upper v) positive

theorem le_mem_roots_charpoly (lower : ∀ x, low * (x ⬝ᵥ x) ≤ x ⬝ᵥ M *ᵥ x)
    (root : value ∈ M.charpoly.roots) : low ≤ value := by
  obtain ⟨v, positive, form⟩ := form_of_mem_roots_charpoly root
  exact le_of_mul_le_mul_right (form ▸ lower v) positive

/-- A symmetric matrix has as many real eigenvalues as rows. -/
theorem card_roots_charpoly (symmetric : M.IsSymm) :
    M.charpoly.roots.card = Fintype.card ι := by
  have hermitian : M.IsHermitian := by simpa [IsHermitian, IsSymm] using symmetric
  rw [hermitian.roots_charpoly_eq_eigenvalues, Multiset.card_map]
  rfl

end Eigenvalues

section Weights

variable {W : Matrix ι ι ℝ}

/-- A form of weights that are not negative is bounded by that of their row sums. -/
theorem abs_weighted_form_le (nonneg : ∀ i j, 0 ≤ W i j) (symmetric : W.IsSymm) (y : ι → ℝ) :
    |∑ i, ∑ j, y i * W i j * y j| ≤ ∑ i, (∑ j, W i j) * y i ^ 2 := by
  have halves : ∑ i, ∑ j, W i j * ((y i ^ 2 + y j ^ 2) / 2) = ∑ i, (∑ j, W i j) * y i ^ 2 := by
    have exchanged : ∑ i, ∑ j, W i j * y j ^ 2 = ∑ i, ∑ j, W i j * y i ^ 2 := by
      rw [Finset.sum_comm]
      refine Finset.sum_congr rfl fun j _ => Finset.sum_congr rfl fun i _ => ?_
      rw [symmetric.apply]
    have split : ∑ i, ∑ j, W i j * ((y i ^ 2 + y j ^ 2) / 2) =
        ((∑ i, ∑ j, W i j * y i ^ 2) + ∑ i, ∑ j, W i j * y j ^ 2) / 2 := by
      rw [← Finset.sum_add_distrib, Finset.sum_div]
      refine Finset.sum_congr rfl fun i _ => ?_
      rw [← Finset.sum_add_distrib, Finset.sum_div]
      exact Finset.sum_congr rfl fun j _ => by ring
    rw [split, exchanged, add_self_div_two]
    exact Finset.sum_congr rfl fun i _ => (Finset.sum_mul _ _ _).symm
  have termwise : ∀ i j, |y i * W i j * y j| ≤ W i j * ((y i ^ 2 + y j ^ 2) / 2) := by
    intro i j
    have means : |y i| * |y j| ≤ (y i ^ 2 + y j ^ 2) / 2 := by
      have squares := two_mul_le_add_sq |y i| |y j|
      rw [sq_abs, sq_abs] at squares
      linarith
    calc |y i * W i j * y j| = W i j * (|y i| * |y j|) := by
          rw [abs_mul, abs_mul, abs_of_nonneg (nonneg i j)]
          ring
      _ ≤ W i j * ((y i ^ 2 + y j ^ 2) / 2) := mul_le_mul_of_nonneg_left means (nonneg i j)
  calc |∑ i, ∑ j, y i * W i j * y j| ≤ ∑ i, |∑ j, y i * W i j * y j| :=
        Finset.abs_sum_le_sum_abs _ _
    _ ≤ ∑ i, ∑ j, |y i * W i j * y j| :=
        Finset.sum_le_sum fun i _ => Finset.abs_sum_le_sum_abs _ _
    _ ≤ ∑ i, ∑ j, W i j * ((y i ^ 2 + y j ^ 2) / 2) :=
        Finset.sum_le_sum fun i _ => Finset.sum_le_sum fun j _ => termwise i j
    _ = ∑ i, (∑ j, W i j) * y i ^ 2 := halves

end Weights

end RagDrift.Numeric
