import RagDrift.LatentDrift.Distance
import Mathlib.Analysis.SpecialFunctions.Log.Base

set_option autoImplicit false

/- `evaluator.latent_drift.jsd`, in exact real arithmetic. -/
namespace RagDrift.LatentDrift

noncomputable section

/-- `_EPSILON`. -/
def epsilon : ℝ := (1 / 10 ^ 12 : ℚ)

/-- `np.clip(density, _EPSILON, None)`, divided by its sum. -/
def shape (density : List ℝ) : List ℝ :=
  let clipped := density.map fun value => max value epsilon
  clipped.map fun value => value / clipped.sum

/-- The clipped midpoint of two arrays of one length. -/
def midpoint (p q : List ℝ) : List ℝ :=
  (List.zipWith (fun a b : ℝ => (a + b) / (2 : ℚ)) p q).map fun value => max value epsilon

/-- `np.sum(p * np.log2(p / m))`. -/
def divergence (p m : List ℝ) : ℝ :=
  (List.zipWith (fun a b => a * Real.logb (2 : ℚ) (a / b)) p m).sum

/-- `compute_jsd` of two arrays of one length. -/
def computeJsd (pDensity qDensity : List ℝ) : ℝ :=
  let p := shape pDensity
  let q := shape qDensity
  let m := midpoint p q
  clip01 (divergence p m / (2 : ℚ) + divergence q m / (2 : ℚ))

end

end RagDrift.LatentDrift
