import RagDrift.Monitor.VectorDrift
import RagDrift.Numeric.Spread
import Mathlib.Analysis.SpecialFunctions.Trigonometric.Basic

set_option autoImplicit false

/- `DriftMonitor.compute_per_component_drift`, in exact real arithmetic. -/
namespace RagDrift.Monitor

open Numeric (mean amin amax)

noncomputable section

/-- `PCA(n_components).fit`, which may raise: the map of rows it finds for the rows it is
fitted on. -/
abbrev ComponentPca := (components : Nat) → List (List ℝ) → Option (List ℝ → Fin components → ℝ)

structure ComponentLibraries where
  pca : ComponentPca
  /-- `scipy.stats.gaussian_kde` of one dimension, which may raise: the density it estimates. -/
  gaussianKde : List ℝ → Option (ℝ → ℝ)

def linspace (lo hi : ℝ) (count : Nat) : List ℝ :=
  (List.range count).map fun place => lo + place * ((hi - lo) / (count - 1 : Nat))

/-- `_kl_divergence_kde`. -/
def klDivergenceKde (gaussianKde : List ℝ → Option (ℝ → ℝ)) (baselineCol currentCol : List ℝ)
    (nPoints : Nat) : Option ℝ := do
  let lo := min (amin baselineCol) (amin currentCol)
  let hi := max (amax baselineCol) (amax currentCol)
  if hi - lo < 1e-15 then
    return 0
  let evalPoints := linspace lo hi nPoints
  let dx := evalPoints.getD 1 0 - evalPoints.getD 0 0
  let kdeB ← gaussianKde baselineCol
  let kdeC ← gaussianKde currentCol
  let pB := evalPoints.map fun point => max eps (kdeB point)
  let pC := evalPoints.map fun point => max eps (kdeC point)
  return (List.zipWith (fun b c => b * Real.log (b / c)) pB pC).sum * dx

/-- The divergences in `kl_divergences`; one that raises counts as 0. -/
def klDivergences (components : ComponentLibraries) (baseline current : List (List ℝ)) :
    Option (List ℝ) := do
  let nComponents := min 10 (min (width baseline) (width current))
  let project ← components.pca nComponents baseline
  return List.ofFn fun component =>
    (klDivergenceKde components.gaussianKde (baseline.map fun row => project row component)
      (current.map fun row => project row component) 100).getD 0

/-- `compute_per_component_drift`: the maximum, the mean and the verdict. -/
def DriftMonitor.computePerComponentDrift (monitor : DriftMonitor ℝ)
    (components : ComponentLibraries) (baseline current : List (List ℝ)) :
    Option (ℝ × ℝ × Bool) := do
  let kls ← klDivergences components baseline current
  let maxKl := if 0 < kls.length then amax kls else 0
  let meanKl := if 0 < kls.length then mean kls else 0
  return (maxKl, meanKl, monitor.getThreshold "per_component_kl" < maxKl)

/-- Of no divergences both statistics are 0. -/
theorem computePerComponentDrift_eq (monitor : DriftMonitor ℝ) (components : ComponentLibraries)
    (baseline current : List (List ℝ)) :
    monitor.computePerComponentDrift components baseline current =
      (klDivergences components baseline current).map fun kls =>
        (amax kls, mean kls, decide (monitor.getThreshold "per_component_kl" < amax kls)) := by
  unfold DriftMonitor.computePerComponentDrift
  cases klDivergences components baseline current with
  | none => rfl
  | some kls =>
      have maxKl : (if 0 < kls.length then amax kls else 0) = amax kls := by
        cases kls <;> simp [amax]
      have meanKl : (if 0 < kls.length then mean kls else 0) = mean kls := by
        cases kls <;> simp [mean]
      simp only [bind, Option.bind, maxKl, meanKl]
      rfl

end

end RagDrift.Monitor
