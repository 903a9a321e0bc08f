import RagDrift.Numeric.Arrays
import Mathlib.Analysis.SpecialFunctions.Exp
import Mathlib.Analysis.SpecialFunctions.Sqrt
import Mathlib.Data.List.Sort
import Mathlib.Data.Matrix.Mul

set_option autoImplicit false

/- `evaluator.latent_drift.distance`, in exact arithmetic. -/
namespace RagDrift.LatentDrift

open Numeric (mean median)

/-- A 2-D array. -/
structure Samples (K : Type) where
  columns : Nat
  rows : List (Fin columns → K)

/-- The numbers of features in the message of a `ValueError`. -/
structure DimensionMismatch where
  ofX : Nat
  ofY : Nat
  deriving DecidableEq

def DimensionMismatch.message (mismatch : DimensionMismatch) : String :=
  "Dimension mismatch: X has " ++ toString mismatch.ofX ++ " features, Y has " ++
    toString mismatch.ofY ++ " features."

/-- Both distances compare `X.shape[1]` with `Y.shape[1]` first. -/
def ofSameColumns {K A : Type} (X Y : Samples K)
    (compute : (d : Nat) → List (Fin d → K) → List (Fin d → K) → A) :
    Except DimensionMismatch A :=
  if same : Y.columns = X.columns then
    .ok (compute X.columns X.rows (same ▸ Y.rows))
  else .error ⟨X.columns, Y.columns⟩

theorem ofSameColumns_eq {K A : Type} {d : Nat} (X Y : List (Fin d → K))
    (compute : (d : Nat) → List (Fin d → K) → List (Fin d → K) → A) :
    ofSameColumns ⟨d, X⟩ ⟨d, Y⟩ compute = .ok (compute d X Y) :=
  dif_pos rfl

section Wasserstein

variable {K : Type} [Field K] [LinearOrder K]

/-- `np.sort`. -/
def sort (values : List K) : List K := values.insertionSort (· ≤ ·)

/-- `np.searchsorted(values, v, side="right")` of a sorted array. -/
def searchsortedRight (values : List K) (v : K) : Nat :=
  (values.takeWhile (· ≤ v)).length

/-- `np.diff`. -/
def diff (values : List K) : List K :=
  List.zipWith (fun here next => next - here) values values.tail

/-- `_wasserstein_1d`. -/
def wasserstein1d (a b : List K) : K :=
  let aSorted := sort a
  let bSorted := sort b
  let nA := aSorted.length
  let nB := bSorted.length
  let allValues := sort (aSorted ++ bSorted)
  let cdfA := allValues.map fun v => (searchsortedRight aSorted v : K) / nA
  let cdfB := allValues.map fun v => (searchsortedRight bSorted v : K) / nB
  let deltas := diff allValues
  let cdfDiff := List.zipWith (fun p q => |p - q|) cdfA.dropLast cdfB.dropLast
  (List.zipWith (fun delta difference => delta * difference) deltas cdfDiff).sum

end Wasserstein

noncomputable section

/-- The columns of a projection matrix. There is at least one: without any, `np.mean` of the
distances is `nan`. -/
structure Projections (d : Nat) where
  directions : List (Fin d → ℝ)
  some : directions ≠ []

/-- `_random_projections` of at least one direction; `normal` is what `RandomState(seed)` draws. -/
def randomProjections {d n : Nat} (normal : Fin d → Fin (n + 1) → ℝ) : Projections d where
  directions := List.ofFn fun column row =>
    let norm := √(∑ i, normal i column ^ 2)
    normal row column / if norm = 0 then 1 else norm
  some := by
    rw [Ne, List.ofFn_eq_nil_iff]
    exact Nat.succ_ne_zero n

/-- `X @ direction`. -/
def project {d : Nat} (X : List (Fin d → ℝ)) (direction : Fin d → ℝ) : List ℝ :=
  X.map fun x => dotProduct x direction

def slicedDistance {d : Nat} (projections : Projections d) (X Y : List (Fin d → ℝ)) : ℝ :=
  mean (projections.directions.map fun direction =>
    wasserstein1d (project X direction) (project Y direction))

/-- `compute_swd`; the projections depend on the number of features. -/
def computeSwd (projections : (nFeatures : Nat) → Projections nFeatures) (X Y : Samples ℝ) :
    Except DimensionMismatch ℝ :=
  ofSameColumns X Y fun nFeatures X Y => slicedDistance (projections nFeatures) X Y

section Kernel

variable {d : Nat}

/-- `XX - cross + YY`, one row after another. -/
def distSq (X Y : List (Fin d → ℝ)) : List ℝ :=
  X.flatMap fun x => Y.map fun y =>
    ∑ i, x i ^ 2 - dotProduct (((2 : ℚ) : ℝ) • x) y + ∑ i, y i ^ 2

/-- `np.maximum(dist_sq, 0.0)`. -/
def guardedDistSq (X Y : List (Fin d → ℝ)) : List ℝ := (distSq X Y).map fun sq => max sq 0

/-- `_rbf_kernel`. -/
def rbfKernel (X Y : List (Fin d → ℝ)) (gamma : ℝ) : List ℝ :=
  (guardedDistSq X Y).map fun sq => Real.exp (-gamma * sq)

/-- `_median_heuristic_gamma`. -/
def medianHeuristicGamma (X Y : List (Fin d → ℝ)) : ℝ :=
  let medianDist := √(median (guardedDistSq X Y))
  if medianDist < (1 / 10 ^ 12 : ℚ) then 1 else 1 / ((2 : ℚ) * medianDist ^ 2)

def mmdSq (X Y : List (Fin d → ℝ)) (gamma : ℝ) : ℝ :=
  mean (rbfKernel X X gamma) + mean (rbfKernel Y Y gamma) - (2 : ℚ) * mean (rbfKernel X Y gamma)

/-- `np.clip(score, 0.0, 1.0)`. -/
def clip01 (score : ℝ) : ℝ := min (max score 0) 1

def kernelDistance (X Y : List (Fin d → ℝ)) (gamma : Option ℝ) : ℝ :=
  clip01 √(max (mmdSq X Y (gamma.getD (medianHeuristicGamma X Y))) 0)

end Kernel

def computeMmd (X Y : Samples ℝ) (gamma : Option ℝ) : Except DimensionMismatch ℝ :=
  ofSameColumns X Y fun _ X Y => kernelDistance X Y gamma

end

end RagDrift.LatentDrift
