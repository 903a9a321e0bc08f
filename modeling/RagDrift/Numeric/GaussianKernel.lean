import Mathlib.Analysis.Matrix.Order
import Mathlib.Analysis.SpecialFunctions.Exponential
import Mathlib.Tactic.Linarith
import Mathlib.Tactic.Ring

set_option autoImplicit false

/- The Gaussian kernel of finitely many points is positive semidefinite, and what follows for two
samples of points. -/
namespace RagDrift.GaussianKernel

open Matrix

variable {ι κ : Type} [Fintype ι] [Fintype κ] {A : Matrix ι ι ℝ}

def form (A : Matrix ι ι ℝ) (weight : ι → ℝ) : ℝ :=
  ∑ i, ∑ j, weight i * A i j * weight j

theorem form_eq (A : Matrix ι ι ℝ) (weight : ι → ℝ) :
    form A weight = star weight ⬝ᵥ (A *ᵥ weight) := by
  simp only [form, dotProduct, mulVec, Finset.mul_sum, star_trivial, mul_assoc]

theorem form_nonneg (positive : A.PosSemidef) (weight : ι → ℝ) : 0 ≤ form A weight := by
  rw [form_eq]
  exact positive.dotProduct_mulVec_nonneg weight

theorem posSemidef_of_form (symmetric : A.IsHermitian) (nonneg : ∀ weight, 0 ≤ form A weight) :
    A.PosSemidef := by
  apply PosSemidef.of_dotProduct_mulVec_nonneg symmetric
  intro weight
  rw [← form_eq]
  exact nonneg weight

theorem posSemidef_inner (point : ι → κ → ℝ) :
    (of fun i j => point i ⬝ᵥ point j).PosSemidef := by
  have gram : of point * (of point)ᴴ = of fun i j => point i ⬝ᵥ point j := by
    ext i j
    simp [mul_apply, dotProduct]
  rw [← gram]
  exact posSemidef_self_mul_conjTranspose (of point)

theorem posSemidef_entry_pow (positive : A.PosSemidef) (m : ℕ) :
    (A.map fun entry => entry ^ m).PosSemidef := by
  induction m with
  | zero =>
      have ones : A.map (fun entry => entry ^ 0) = vecMulVec 1 (star 1) := by
        ext i j
        simp [vecMulVec_apply]
      rw [ones]
      exact posSemidef_vecMulVec_self_star 1
  | succ m ih =>
      have product : A.map (fun entry => entry ^ (m + 1)) =
          A.map (fun entry => entry ^ m) ⊙ A := by
        ext i j
        simp [hadamard_apply, pow_succ]
      rw [product]
      exact ih.hadamard positive

/-- The exponential is a sum of powers with positive coefficients. -/
theorem posSemidef_entry_exp (positive : A.PosSemidef) : (A.map Real.exp).PosSemidef := by
  apply posSemidef_of_form
  · ext i j
    simpa using congrArg Real.exp (positive.isHermitian.apply i j)
  · intro weight
    have powers : HasSum (fun m : ℕ => form (A.map fun entry => entry ^ m) weight / m.factorial)
        (form (A.map Real.exp) weight) := by
      simp only [form, Finset.sum_div]
      apply hasSum_sum
      intro i _
      apply hasSum_sum
      intro j _
      have series := NormedSpace.expSeries_div_hasSum_exp (A i j)
      rw [← Real.exp_eq_exp_ℝ] at series
      simp only [map_apply, mul_right_comm (weight i) _ (weight j), mul_div_assoc]
      exact series.mul_left (weight i * weight j)
    apply powers.nonneg
    intro m
    exact div_nonneg (form_nonneg (posSemidef_entry_pow positive m) weight) (Nat.cast_nonneg _)

noncomputable def kernel (gamma : ℝ) (x y : κ → ℝ) : ℝ := Real.exp (-gamma * ∑ k, (x k - y k) ^ 2)

theorem sum_sq_sub (x y : κ → ℝ) :
    ∑ k, (x k - y k) ^ 2 = ∑ k, x k ^ 2 - 2 * (x ⬝ᵥ y) + ∑ k, y k ^ 2 := by
  rw [dotProduct, Finset.mul_sum, ← Finset.sum_sub_distrib, ← Finset.sum_add_distrib]
  apply Finset.sum_congr rfl
  intro k _
  ring

theorem kernel_comm (gamma : ℝ) (x y : κ → ℝ) : kernel gamma x y = kernel gamma y x := by
  unfold kernel
  congr 2
  apply Finset.sum_congr rfl
  intro k _
  ring

/-- The kernel is an exponential of inner products between two factors of one point each. -/
theorem form_kernel_nonneg {gamma : ℝ} (nonneg : 0 ≤ gamma) (point : ι → κ → ℝ)
    (weight : ι → ℝ) : 0 ≤ form (of fun i j => kernel gamma (point i) (point j)) weight := by
  have scaled : ((2 * gamma) • of fun i j => point i ⬝ᵥ point j).PosSemidef :=
    (posSemidef_inner point).smul (mul_nonneg zero_le_two nonneg)
  have factors := form_nonneg (posSemidef_entry_exp scaled) fun i =>
    weight i * Real.exp (-gamma * ∑ k, point i k ^ 2)
  convert factors using 1
  unfold form
  apply Finset.sum_congr rfl
  intro i _
  apply Finset.sum_congr rfl
  intro j _
  have split : kernel gamma (point i) (point j) = Real.exp (-gamma * ∑ k, point i k ^ 2) *
      Real.exp (2 * gamma * (point i ⬝ᵥ point j)) * Real.exp (-gamma * ∑ k, point j k ^ 2) := by
    rw [kernel, sum_sq_sub, ← Real.exp_add, ← Real.exp_add]
    congr 1
    ring
  rw [of_apply, split, map_apply, Matrix.smul_apply, of_apply, smul_eq_mul]
  ring

variable {ι' : Type} [Fintype ι']

/-- The sum of the kernel over all pairs from two families of points. -/
noncomputable def pairs (gamma : ℝ) (x : ι → κ → ℝ) (y : ι' → κ → ℝ) : ℝ :=
  ∑ i, ∑ j, kernel gamma (x i) (y j)

theorem pairs_comm (gamma : ℝ) (x : ι → κ → ℝ) (y : ι' → κ → ℝ) :
    pairs gamma x y = pairs gamma y x := by
  rw [pairs, Finset.sum_comm]
  simp only [kernel_comm gamma (x _)]
  rfl

theorem sum_weighted (gamma : ℝ) (x : ι → κ → ℝ) (y : ι' → κ → ℝ) (a b : ℝ) :
    ∑ i, ∑ j, a * kernel gamma (x i) (y j) * b = a * b * pairs gamma x y := by
  simp only [pairs, Finset.mul_sum, mul_right_comm a _ b]

/-- One family is weighted with `a` and the other with `-b`. -/
theorem sum_pairs_nonneg {gamma : ℝ} (nonneg : 0 ≤ gamma) (x : ι → κ → ℝ) (y : ι' → κ → ℝ)
    (a b : ℝ) :
    0 ≤ a ^ 2 * pairs gamma x x + b ^ 2 * pairs gamma y y - 2 * (a * b * pairs gamma x y) := by
  have whole := form_kernel_nonneg nonneg (Sum.elim x y) (Sum.elim (fun _ => a) fun _ => -b)
  have split : form (of fun i j => kernel gamma (Sum.elim x y i) (Sum.elim x y j))
      (Sum.elim (fun _ => a) fun _ => -b) =
      (a ^ 2 * pairs gamma x x - a * b * pairs gamma x y) +
        (b ^ 2 * pairs gamma y y - a * b * pairs gamma y x) := by
    simp only [form, Fintype.sum_sum_type, Sum.elim_inl, Sum.elim_inr, of_apply,
      Finset.sum_add_distrib, sum_weighted]
    ring
  rw [split, pairs_comm gamma y x] at whole
  linarith

end RagDrift.GaussianKernel
