import RagDrift.DriftStore.Windows
import RagDrift.Monitor.Calibration

set_option autoImplicit false

/- `DriftMonitor.compute_comprehensive_drift`: three statistics of two windows, one verdict and
the row that keeps them. A divergence that raises is no evidence. -/
namespace RagDrift.Monitor

open DriftStore (Codec Row floatColumn)
open Exceptions (bind_ok_iff)
open Numeric (amax amax_mem mean mean_perm mean_replicate)
open Optimization.Selectors (truthy)

variable {S P T : Type}

noncomputable section

/-- What `compute_comprehensive_drift` returns. -/
structure ComprehensiveDrift where
  jsDivergence : ℝ
  jsDrifted : Bool
  mmdScore : ℝ
  mmdPValue : ℝ
  mmdDrifted : Bool
  maxComponentKl : ℝ
  meanComponentKl : ℝ
  perComponentDrifted : Bool
  isDrifted : Bool

/-- The report as the dictionary that `record_drift` is given. -/
def ComprehensiveDrift.toDict (result : ComprehensiveDrift) : Dict ℝ :=
  ((((((((Dict.empty.set "js_divergence" (.num result.jsDivergence)).set
    "js_drifted" (.bool result.jsDrifted)).set
    "mmd_score" (.num result.mmdScore)).set
    "mmd_p_value" (.num result.mmdPValue)).set
    "mmd_drifted" (.bool result.mmdDrifted)).set
    "max_component_kl" (.num result.maxComponentKl)).set
    "mean_component_kl" (.num result.meanComponentKl)).set
    "per_component_drifted" (.bool result.perComponentDrifted)).set
    "is_drifted" (.bool result.isDrifted)

variable {gaussianKde : List ℝ → Option (ℝ → ℝ)} {first second : List ℝ}

variable {monitor : DriftMonitor ℝ} {components : ComponentLibraries}
  {baseline current : List (List ℝ)} {pca : List (List ℝ) → List ℝ → ℝ} {draws : Draws S}

end

end RagDrift.Monitor
