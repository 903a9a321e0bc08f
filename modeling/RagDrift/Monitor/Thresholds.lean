import RagDrift.Drift.Calculators
import Mathlib.Data.List.Nodup

set_option autoImplicit false

/- The thresholds a drift monitor holds, and how `evaluator.drift_monitor` lends it those of a
baseline window. -/
namespace RagDrift.Monitor

open Drift (GraphDriftCalculator SwarmDriftCalculator)

variable {N : Type}

/-- `dict[str, float]`: no key occurs twice. -/
@[ext] structure Thresholds (N : Type) where
  entries : List (String × N)
  distinct : (entries.map Prod.fst).Nodup

instance [DecidableEq N] : DecidableEq (Thresholds N) :=
  fun left right => decidable_of_iff (left.entries = right.entries) Thresholds.ext_iff.symm

namespace Thresholds

def empty : Thresholds N := ⟨[], List.nodup_nil⟩

def get? (thresholds : Thresholds N) (metric : String) : Option N :=
  thresholds.entries.lookup metric

/-- `thresholds.get(metric, default)`. -/
def getD (thresholds : Thresholds N) (metric : String) (default : N) : N :=
  (thresholds.get? metric).getD default

end Thresholds

/-- The dictionary in `_saved_thresholds`. -/
structure SavedThresholds (N : Type) where
  jsd : N
  mmd : N
  kl : N
  spectral : N
  graphDensity : N
  entropy : N
  reflection : N
  calibrated : Bool
  calibratedThresholds : Thresholds N
  deriving DecidableEq

structure DriftMonitor (N : Type) where
  threshold : N
  mmdThreshold : N
  perComponentKlThreshold : N
  calibratedThresholds : Thresholds N
  calibrated : Bool
  graphCalculator : GraphDriftCalculator N
  swarmCalculator : SwarmDriftCalculator N
  savedThresholds : Option (SavedThresholds N)
  deriving DecidableEq

namespace DriftMonitor

def savedFields (monitor : DriftMonitor N) : SavedThresholds N where
  jsd := monitor.threshold
  mmd := monitor.mmdThreshold
  kl := monitor.perComponentKlThreshold
  spectral := monitor.graphCalculator.spectralThreshold
  graphDensity := monitor.graphCalculator.densityThreshold
  entropy := monitor.swarmCalculator.entropyThreshold
  reflection := monitor.swarmCalculator.reflectionThreshold
  calibrated := monitor.calibrated
  calibratedThresholds := monitor.calibratedThresholds

/-- `_apply_calibrated_thresholds`. -/
def applyCalibratedThresholds (monitor : DriftMonitor N) (thresholds : Thresholds N) :
    DriftMonitor N :=
  if thresholds.entries = [] then
    monitor
  else
    let saved := monitor.savedFields
    { monitor with
      savedThresholds := some saved
      threshold := thresholds.getD "vector_jsd_threshold" saved.jsd
      mmdThreshold := thresholds.getD "vector_mmd_threshold" saved.mmd
      perComponentKlThreshold := thresholds.getD "vector_per_component_kl_threshold" saved.kl
      graphCalculator := { monitor.graphCalculator with
        spectralThreshold := thresholds.getD "graph_spectral_threshold" saved.spectral }
      swarmCalculator := { monitor.swarmCalculator with
        entropyThreshold := thresholds.getD "swarm_entropy_threshold" saved.entropy }
      calibrated := true
      calibratedThresholds := thresholds }

/-- `_restore_thresholds`. -/
def restoreThresholds (monitor : DriftMonitor N) : DriftMonitor N :=
  match monitor.savedThresholds with
  | none => monitor
  | some saved =>
      { monitor with
        threshold := saved.jsd
        mmdThreshold := saved.mmd
        perComponentKlThreshold := saved.kl
        graphCalculator := { monitor.graphCalculator with
          spectralThreshold := saved.spectral
          densityThreshold := saved.graphDensity }
        swarmCalculator := { monitor.swarmCalculator with
          entropyThreshold := saved.entropy
          reflectionThreshold := saved.reflection }
        calibrated := saved.calibrated
        calibratedThresholds := saved.calibratedThresholds
        savedThresholds := none }

/-- `_get_threshold`. -/
def getThreshold [Zero N] (monitor : DriftMonitor N) (metric : String) : N :=
  let default :=
    if metric = "js_divergence" then monitor.threshold
    else if metric = "mmd_score" then monitor.mmdThreshold
    else if metric = "per_component_kl" then monitor.perComponentKlThreshold
    else 0
  if monitor.calibrated then monitor.calibratedThresholds.getD metric default else default

/-- `is_drifted`. -/
def isDrifted [Zero N] [LT N] [DecidableLT N] (monitor : DriftMonitor N)
    (jsScore mmdScore maxKl : N) : Bool :=
  monitor.getThreshold "js_divergence" < jsScore ∨ monitor.getThreshold "mmd_score" < mmdScore ∨
    monitor.getThreshold "per_component_kl" < maxKl

theorem restore_of_unsaved {monitor : DriftMonitor N} (unsaved : monitor.savedThresholds = none) :
    monitor.restoreThresholds = monitor := by
  rw [restoreThresholds, unsaved]

/-- Both methods agree on the fields. -/
theorem restore_apply {monitor : DriftMonitor N} (unsaved : monitor.savedThresholds = none)
    (thresholds : Thresholds N) :
    (monitor.applyCalibratedThresholds thresholds).restoreThresholds = monitor := by
  by_cases nothing : thresholds.entries = []
  · rw [applyCalibratedThresholds, if_pos nothing]
    exact restore_of_unsaved unsaved
  · rw [applyCalibratedThresholds, if_neg nothing]
    cases monitor
    simp only at unsaved
    subst unsaved
    rfl

end DriftMonitor

end RagDrift.Monitor
