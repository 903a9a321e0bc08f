import RagDrift.LatentDrift.Distance
import RagDrift.Numeric.GaussianKernel
import Mathlib.Data.Multiset.Bind
import Mathlib.Tactic.NormNum
import Mathlib.Tactic.Positivity

set_option autoImplicit false

/- `compute_mmd` in exact arithmetic: its guards against negative numbers change nothing, and it
sees two samples of rows in no order. -/
namespace RagDrift.LatentDrift

open GaussianKernel (kernel kernel_comm pairs pairs_comm sum_sq_sub sum_pairs_nonneg)
open Numeric (mean mean_perm median median_perm)

section Pairs

variable {A B C : Type}

def allPairs (f : A → B → C) (first : List A) (second : List B) : List C :=
  first.flatMap fun x => second.map (f x)

theorem allPairs_perm (f : A → B → C) {first first' : List A} {second second' : List B}
    (left : first.Perm first') (right : second.Perm second') :
    (allPairs f first second).Perm (allPairs f first' second') :=
  left.flatMap fun x _ => right.map (f x)

theorem allPairs_swap (f : A → B → C) (first : List A) (second : List B) :
    (allPairs f first second).Perm (allPairs (fun y x => f x y) second first) := by
  have swapped := Multiset.bind_map_comm (first : Multiset A) (second : Multiset B) (f := f)
  simp only [Multiset.map_coe, Multiset.coe_bind, Multiset.coe_eq_coe] at swapped
  exact swapped

theorem map_allPairs {E : Type} (g : C → E) (f : A → B → C) (first : List A) (second : List B) :
    (allPairs f first second).map g = allPairs (fun x y => g (f x y)) first second := by
  simp [allPairs, List.map_flatMap, Function.comp_def]

theorem length_allPairs (f : A → B → C) (first : List A) (second : List B) :
    (allPairs f first second).length = first.length * second.length := by
  simp [allPairs, List.length_flatMap]

theorem sum_allPairs (f : A → B → ℝ) (first : List A) (second : List B) :
    (allPairs f first second).sum =
      ∑ i : Fin first.length, ∑ j : Fin second.length, f first[i.1] second[j.1] := by
  have rows : (allPairs f first second).sum =
      (first.map fun x => (second.map (f x)).sum).sum := by
    induction first with
    | nil => rfl
    | cons x rest ih =>
        rw [List.map_cons, List.sum_cons, ← ih]
        exact List.sum_append
  simp only [rows, Fin.sum_univ_fun_getElem]
  exact (Fin.sum_univ_fun_getElem first fun x => (second.map (f x)).sum).symm

end Pairs

section Kernel

variable {d : Nat}

theorem distSq_eq (X Y : List (Fin d → ℝ)) :
    distSq X Y = allPairs (fun x y => ∑ k, (x k - y k) ^ 2) X Y := by
  simp only [distSq, allPairs, sum_sq_sub, smul_dotProduct, smul_eq_mul, Rat.cast_ofNat]

/-- Squared distances are not negative. -/
theorem guardedDistSq_eq (X Y : List (Fin d → ℝ)) : guardedDistSq X Y = distSq X Y := by
  have same : ∀ sq ∈ distSq X Y, max sq 0 = id sq := by
    intro sq inside
    rw [distSq_eq] at inside
    obtain ⟨x, _, row⟩ := List.mem_flatMap.mp inside
    obtain ⟨y, _, rfl⟩ := List.mem_map.mp row
    exact max_eq_left (Finset.sum_nonneg fun k _ => sq_nonneg (x k - y k))
  rw [guardedDistSq, List.map_congr_left same, List.map_id]

theorem rbfKernel_eq (X Y : List (Fin d → ℝ)) (gamma : ℝ) :
    rbfKernel X Y gamma = allPairs (kernel gamma) X Y := by
  rw [rbfKernel, guardedDistSq_eq, distSq_eq, map_allPairs]
  rfl

theorem mean_rbfKernel (X Y : List (Fin d → ℝ)) (gamma : ℝ) :
    mean (rbfKernel X Y gamma) =
      pairs gamma (fun i : Fin X.length => X[i.1]) (fun j : Fin Y.length => Y[j.1]) /
        (X.length * Y.length) := by
  rw [rbfKernel_eq, mean, sum_allPairs, length_allPairs, Nat.cast_mul]
  rfl

variable {X Y X' Y' : List (Fin d → ℝ)}

theorem rbfKernel_perm (left : X.Perm X') (right : Y.Perm Y') (gamma : ℝ) :
    (rbfKernel X Y gamma).Perm (rbfKernel X' Y' gamma) := by
  rw [rbfKernel_eq, rbfKernel_eq]
  exact allPairs_perm _ left right

theorem rbfKernel_swap (X Y : List (Fin d → ℝ)) (gamma : ℝ) :
    (rbfKernel X Y gamma).Perm (rbfKernel Y X gamma) := by
  rw [rbfKernel_eq, rbfKernel_eq]
  refine (allPairs_swap _ X Y).trans (List.Perm.of_eq ?_)
  congr 1
  funext y x
  exact kernel_comm gamma x y

theorem mmdSq_nonneg {gamma : ℝ} (nonneg : 0 ≤ gamma) (X Y : List (Fin d → ℝ)) :
    0 ≤ mmdSq X Y gamma := by
  have weighted := sum_pairs_nonneg nonneg (fun i : Fin X.length => X[i.1])
    (fun j : Fin Y.length => Y[j.1]) (1 / X.length) (1 / Y.length)
  rw [mmdSq, mean_rbfKernel, mean_rbfKernel, mean_rbfKernel]
  convert weighted using 1
  ring

theorem mmdSq_comm (X Y : List (Fin d → ℝ)) (gamma : ℝ) : mmdSq X Y gamma = mmdSq Y X gamma := by
  rw [mmdSq, mmdSq, mean_perm (rbfKernel_swap X Y gamma)]
  ring

theorem mmdSq_perm (left : X.Perm X') (right : Y.Perm Y') (gamma : ℝ) :
    mmdSq X Y gamma = mmdSq X' Y' gamma := by
  rw [mmdSq, mmdSq, mean_perm (rbfKernel_perm left left gamma),
    mean_perm (rbfKernel_perm right right gamma), mean_perm (rbfKernel_perm left right gamma)]

theorem mmdSq_self (X : List (Fin d → ℝ)) (gamma : ℝ) : mmdSq X X gamma = 0 := by
  rw [mmdSq]
  ring

theorem guardedDistSq_perm (left : X.Perm X') (right : Y.Perm Y') :
    (guardedDistSq X Y).Perm (guardedDistSq X' Y') := by
  rw [guardedDistSq_eq, guardedDistSq_eq, distSq_eq, distSq_eq]
  exact allPairs_perm _ left right

theorem guardedDistSq_swap (X Y : List (Fin d → ℝ)) :
    (guardedDistSq X Y).Perm (guardedDistSq Y X) := by
  rw [guardedDistSq_eq, guardedDistSq_eq, distSq_eq, distSq_eq]
  refine (allPairs_swap _ X Y).trans (List.Perm.of_eq ?_)
  congr 1
  funext y x
  simp only [← neg_sub (y _) (x _), neg_sq]

theorem medianHeuristicGamma_congr
    (same : (guardedDistSq X Y).Perm (guardedDistSq X' Y')) :
    medianHeuristicGamma X Y = medianHeuristicGamma X' Y' := by
  rw [medianHeuristicGamma, medianHeuristicGamma, median_perm same]

theorem medianHeuristicGamma_pos (X Y : List (Fin d → ℝ)) : 0 < medianHeuristicGamma X Y := by
  rw [medianHeuristicGamma]
  split
  · exact one_pos
  · rename_i apart
    have floor : (0 : ℝ) < ((1 / 10 ^ 12 : ℚ) : ℝ) := by norm_num
    have positive := floor.trans_le (not_lt.mp apart)
    positivity

theorem kernelDistance_comm (X Y : List (Fin d → ℝ)) (gamma : Option ℝ) :
    kernelDistance X Y gamma = kernelDistance Y X gamma := by
  rw [kernelDistance, kernelDistance, medianHeuristicGamma_congr (guardedDistSq_swap X Y),
    mmdSq_comm]

theorem kernelDistance_perm (left : X.Perm X') (right : Y.Perm Y') (gamma : Option ℝ) :
    kernelDistance X Y gamma = kernelDistance X' Y' gamma := by
  rw [kernelDistance, kernelDistance, medianHeuristicGamma_congr (guardedDistSq_perm left right),
    mmdSq_perm left right]

theorem kernelDistance_self (X : List (Fin d → ℝ)) (gamma : Option ℝ) :
    kernelDistance X X gamma = 0 := by
  rw [kernelDistance, mmdSq_self, max_self, Real.sqrt_zero, clip01, max_self]
  exact min_eq_left zero_le_one

theorem computeMmd_eq (X Y : List (Fin d → ℝ)) (gamma : Option ℝ) :
    computeMmd ⟨d, X⟩ ⟨d, Y⟩ gamma = .ok (kernelDistance X Y gamma) :=
  ofSameColumns_eq X Y _

/-- No guard changes a number: squared distances and the statistic are not negative by
themselves. The score sees the two samples and their rows in no order. -/
theorem computeMmd_unguarded (X Y : List (Fin d → ℝ)) :
    (∀ gamma : ℝ, 0 < gamma → 0 ≤ mmdSq X Y gamma) ∧
    0 ≤ mmdSq X Y (medianHeuristicGamma X Y) ∧
    (∀ left ∈ [X, Y], ∀ right ∈ [X, Y], guardedDistSq left right = distSq left right) ∧
    (∀ gamma : Option ℝ, (∀ given ∈ gamma, 0 < given) →
      computeMmd ⟨d, X⟩ ⟨d, Y⟩ gamma =
        .ok (clip01 √(mmdSq X Y (gamma.getD (medianHeuristicGamma X Y))))) ∧
    ∀ gamma : Option ℝ,
      computeMmd ⟨d, X⟩ ⟨d, Y⟩ gamma = computeMmd ⟨d, Y⟩ ⟨d, X⟩ gamma ∧
      (∀ X' Y', X.Perm X' → Y.Perm Y' →
        computeMmd ⟨d, X'⟩ ⟨d, Y'⟩ gamma = computeMmd ⟨d, X⟩ ⟨d, Y⟩ gamma) ∧
      (Y.Perm X → computeMmd ⟨d, X⟩ ⟨d, Y⟩ gamma = .ok 0) := by
  have median := medianHeuristicGamma_pos X Y
  refine ⟨fun gamma above => mmdSq_nonneg above.le X Y, mmdSq_nonneg median.le X Y,
    fun left _ right _ => guardedDistSq_eq left right, ?_, ?_⟩
  · intro gamma above
    have nonneg : 0 ≤ gamma.getD (medianHeuristicGamma X Y) := by
      cases gamma with
      | none => exact median.le
      | some given => exact (above given rfl).le
    rw [computeMmd_eq, kernelDistance, max_eq_left (mmdSq_nonneg nonneg X Y)]
  · intro gamma
    simp only [computeMmd_eq, Except.ok.injEq]
    refine ⟨kernelDistance_comm X Y gamma, ?_, ?_⟩
    · intro X' Y' left right
      exact kernelDistance_perm left.symm right.symm gamma
    · intro reordered
      rw [kernelDistance_perm (List.Perm.refl X) reordered, kernelDistance_self]

end Kernel

theorem computeMmd_unguarded_plane :
    0 ≤ mmdSq [![0, 0], ![1, (2 : ℝ)]] [![3, 1]] 1 ∧
    computeMmd ⟨2, [![0, 0], ![1, 2]]⟩ ⟨2, [![1, 2], ![0, 0]]⟩ none = .ok 0 :=
  ⟨(computeMmd_unguarded _ _).1 1 one_pos,
    ((computeMmd_unguarded _ _).2.2.2.2 none).2.2 (List.Perm.swap _ _ _)⟩

end RagDrift.LatentDrift
