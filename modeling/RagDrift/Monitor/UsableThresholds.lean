import RagDrift.Monitor.Calibration

set_option autoImplicit false

/- When the thresholds of a baseline window are not negative, and what they are good for then. -/
namespace RagDrift.Monitor

open Exceptions (bind_ok_iff mapError_ok_iff)
open Numeric (mean Covered sigmaBound sigmaBound_nonneg sigmaBound_nonneg_iff
  sigmaBound_replicate)
open Telemetry (RAGEvaluationFrame)

noncomputable section

/-- A monitor with the service attached, which it calls with the default arguments. -/
def DynamicBaselineService.setup (service : DynamicBaselineService) (notifier : Bool) :
    Setup ℝ (Draws (Nat → Shuffle)) VectorError :=
  exactSetup service.runtime service.pca id
    (some fun frames draws => service.computeCalibratedThresholds frames 2.0 20 draws.shuffles)
    notifier

/-- No threshold is negative, and with them no window drifts from itself. -/
structure DynamicBaselineService.Usable (service : DynamicBaselineService)
    (thresholds : Thresholds ℝ) : Prop where
  nonneg : ∀ entry ∈ thresholds.entries, 0 ≤ entry.2
  silent : ∀ (monitor : DriftMonitor ℝ) (notifier : Bool)
    (window : List (RAGEvaluationFrame ℝ)) (draws : Draws (Nat → Shuffle))
    (result : Evaluation ℝ), monitor.Nonnegative →
      (service.setup notifier).evaluate (monitor.applyCalibratedThresholds thresholds) window
        window draws = .ok result →
      result.isDrifted = false

theorem nonnegative_apply {monitor : DriftMonitor ℝ} {thresholds : Thresholds ℝ}
    (nonneg : monitor.Nonnegative) (all : ∀ entry ∈ thresholds.entries, 0 ≤ entry.2) :
    (monitor.applyCalibratedThresholds thresholds).Nonnegative := by
  unfold DriftMonitor.applyCalibratedThresholds
  split
  · exact nonneg
  · exact {
      threshold := Thresholds.getD_nonneg all nonneg.threshold _
      mmd := Thresholds.getD_nonneg all nonneg.mmd _
      kl := Thresholds.getD_nonneg all nonneg.kl _
      calibrated := all
      spectral := Thresholds.getD_nonneg all nonneg.spectral _
      density := nonneg.density
      entropy := Thresholds.getD_nonneg all nonneg.entropy _
      reflection := nonneg.reflection }

variable {service : DynamicBaselineService} {thresholds : Thresholds ℝ}

theorem usable_of_nonneg (all : ∀ entry ∈ thresholds.entries, 0 ≤ entry.2) :
    service.Usable thresholds := by
  refine ⟨all, ?_⟩
  intro monitor notifier window draws result nonneg ran
  have oneDim : OneDimension window := by
    obtain ⟨vectorDrift, evaluated, _⟩ := bind_ok_iff.mp ran
    obtain ⟨vectors, collected, _⟩ := bind_ok_iff.mp (mapError_ok_iff.mp evaluated)
    exact oneDimension_of_collected collected
  have same := evaluate_perm service.runtime service.pca id
    (some fun frames draws => service.computeCalibratedThresholds frames 2.0 20 draws.shuffles)
    notifier draws (nonnegative_apply nonneg all) (List.Perm.refl window) oneDim
  cases same.symm.trans ran
  rfl

namespace DynamicBaselineService

variable {frames : List (RAGEvaluationFrame ℝ)} {kSigma : ℝ} {iterations : Int}
  {draws : Nat → Shuffle}

theorem calibrate_nonneg_iff (positive : 0 ≤ kSigma) (measured : List SplitStatistics) :
    (∀ entry ∈ (calibrate kSigma measured).entries, 0 ≤ entry.2) ↔
      ∀ metric ∈ calibratedMetrics, 0 ≤ sigmaBound kSigma (measured.map metric.2) := by
  constructor
  · intro all metric listed
    by_cases nothing : measured = []
    · subst nothing
      exact sigmaBound_nonneg positive nofun
    · exact all _ (mem_calibrate_iff.mpr ⟨nothing, metric, listed, rfl⟩)
  · intro all entry inside
    obtain ⟨_, metric, listed, rfl⟩ := mem_calibrate_iff.mp inside
    exact all metric listed

/-- Of the five statistics only two can be negative: the mean of the divergences and the signed
delta of the entropies. -/
theorem recorded_bounds_iff (positive : 0 ≤ kSigma) (splits : List Split) :
    (∀ metric ∈ calibratedMetrics,
        0 ≤ sigmaBound kSigma ((splits.map service.recorded).map metric.2)) ↔
      Covered kSigma (splits.map fun split => mean (service.splitKls split)) ∧
        Covered kSigma (splits.map fun split => split.entropyAfter - split.entropyBefore) := by
  have never : ∀ statistic : SplitStatistics → ℝ,
      (∀ split, 0 ≤ statistic (service.recorded split)) →
      0 ≤ sigmaBound kSigma (splits.map (statistic ∘ service.recorded)) := by
    intro statistic nonneg
    apply sigmaBound_nonneg positive
    intro value inside
    obtain ⟨split, _, rfl⟩ := List.mem_map.mp inside
    exact nonneg split
  have js := never SplitStatistics.jsDivergence fun split => (splitVectorDrift_nonneg split).1
  have mmd := never SplitStatistics.mmdScore fun split => (splitVectorDrift_nonneg split).2
  have spectral := never SplitStatistics.spectralDistance fun split =>
    evaluateGraphDrift_nonneg _ _ _ _
  rw [← sigmaBound_nonneg_iff positive, ← sigmaBound_nonneg_iff positive]
  simp only [calibratedMetrics, List.forall_mem_cons, List.map_map, js, mmd, spectral, true_and]
  constructor
  · intro all
    exact ⟨all.1, all.2.1⟩
  · intro both
    exact ⟨both.1, both.2, fun _ inside => absurd inside List.not_mem_nil⟩

/-- The thresholds of a window are usable exactly if the mean divergences of the drawn splits,
and the deltas of their entropies, are not negative on balance. -/
theorem usable_iff (enough : service.config.minBaselineFrames ≤ frames.length)
    (positive : 0 ≤ kSigma)
    (ran : service.computeCalibratedThresholds frames kSigma iterations draws = .ok thresholds) :
    service.Usable thresholds ↔
      Covered kSigma ((splits frames iterations draws).map fun split =>
          mean (service.splitKls split)) ∧
        Covered kSigma ((splits frames iterations draws).map fun split =>
          split.entropyAfter - split.entropyBefore) := by
  rw [← recorded_bounds_iff positive, ← calibrate_nonneg_iff positive,
    ← computeCalibratedThresholds_ok enough ran]
  exact ⟨Usable.nonneg, usable_of_nonneg⟩

end DynamicBaselineService

/-- With the default arguments, no iteration changing the order. -/
def tracedThresholds : Thresholds ℝ :=
  calibrate 2.0 ((DynamicBaselineService.splits tracedWindow 20 fun _ => unshuffledIteration).map
    plainService.recorded)

theorem computeCalibratedThresholds_traced :
    plainService.computeCalibratedThresholds tracedWindow 2.0 20 (fun _ => unshuffledIteration) =
      .ok tracedThresholds :=
  DynamicBaselineService.computeCalibratedThresholds_total tracedWindow_enough
    tracedWindow_oneDimension

theorem usable_iff_traced :
    plainService.Usable tracedThresholds ↔
      Covered 2.0 ((DynamicBaselineService.splits tracedWindow 20 fun _ =>
          unshuffledIteration).map fun split => mean (plainService.splitKls split)) ∧
        Covered 2.0 ((DynamicBaselineService.splits tracedWindow 20 fun _ =>
          unshuffledIteration).map fun split => split.entropyAfter - split.entropyBefore) :=
  DynamicBaselineService.usable_iff tracedWindow_enough (by norm_num)
    computeCalibratedThresholds_traced

/-- Two windows have drifted if the first has a trace, whatever they are. -/
theorem evaluateSwarmDrift_negative {monitor : DriftMonitor ℝ}
    {F G : List (RAGEvaluationFrame ℝ)} (negative : monitor.swarmCalculator.entropyThreshold < 0)
    (traced : frameTraces F ≠ []) : (monitor.evaluateSwarmDrift F G).isSwarmDrifted = true := by
  rw [DriftMonitor.evaluateSwarmDrift, if_neg fun nothing => traced nothing.1]
  exact decide_eq_true (.inl (negative.trans_le (abs_nonneg _)))

/-- A monitor with a negative threshold of the entropy reports drift between any two windows of
which the first has a trace. -/
theorem evaluate_negative {monitor : DriftMonitor ℝ} {F G : List (RAGEvaluationFrame ℝ)}
    (negative : monitor.swarmCalculator.entropyThreshold < 0) (traced : frameTraces F ≠ [])
    (oneDim : OneDimension (F ++ G)) (notifier : Bool) (draws : Draws (Nat → Shuffle)) :
    ∃ result, (service.setup notifier).evaluate monitor F G draws = .ok result ∧
      result.isDrifted = true := by
  obtain ⟨vectorDrift, evaluated⟩ : ∃ vectorDrift,
      monitor.evaluateVectorDrift service.pca F G draws = .ok vectorDrift :=
    evaluateVectorDrift_total oneDim.left oneDim.right
  have returned : (service.setup notifier).evaluateVectorDrift monitor F G draws =
      .ok vectorDrift := by
    show (monitor.evaluateVectorDrift service.pca F G draws).mapError id = _
    rw [evaluated]
    rfl
  refine ⟨_, bind_ok_iff.mpr ⟨vectorDrift, returned, rfl⟩, ?_⟩
  exact Bool.or_eq_true_iff.mpr (.inr (evaluateSwarmDrift_negative negative traced))

theorem measured_traced :
    (DynamicBaselineService.splits tracedWindow 20 fun _ => unshuffledIteration).map
      plainService.recorded = List.replicate 10 (plainService.recorded tracedSplit) := by
  rw [splits_tracedWindow, List.map_replicate]

theorem entropyBound_traced :
    sigmaBound 2.0 ((List.replicate 10 (plainService.recorded tracedSplit)).map
      SplitStatistics.transitionEntropyDelta) =
        tracedSplit.entropyAfter - tracedSplit.entropyBefore := by
  rw [List.map_replicate, sigmaBound_replicate (by decide)]
  rfl

/-- Where each shuffle leaves the one trace in the first half, the threshold of the entropy is
negative, and the window drifts from itself. -/
theorem traced_threshold_negative :
    plainService.config.minBaselineFrames ≤ tracedWindow.length ∧
      plainService.computeCalibratedThresholds tracedWindow 2.0 20 (fun _ => unshuffledIteration) =
        .ok tracedThresholds ∧
      (∃ entry ∈ tracedThresholds.entries, entry.2 < 0) ∧
      ∃ result, (plainService.setup false).evaluate
          (plainState.monitor.applyCalibratedThresholds tracedThresholds) tracedWindow tracedWindow
          ⟨fun _ _ => 1, fun _ => unshuffledIteration⟩ = .ok result ∧
        result.isDrifted = true := by
  have falls : tracedSplit.entropyAfter - tracedSplit.entropyBefore < 0 :=
    sub_neg.mpr tracedSplit_entropy
  have some : List.replicate 10 (plainService.recorded tracedSplit) ≠ [] := by simp
  refine ⟨tracedWindow_enough, computeCalibratedThresholds_traced, ?_, ?_⟩
  · rw [tracedThresholds, measured_traced]
    refine ⟨_, mem_calibrate_iff.mpr ⟨some, _, entropy_calibrated, rfl⟩, ?_⟩
    rw [entropyBound_traced]
    exact falls
  · have negative : (plainState.monitor.applyCalibratedThresholds
        tracedThresholds).swarmCalculator.entropyThreshold < 0 := by
      rw [tracedThresholds, measured_traced, (applied_thresholds _ _ some).2.2.2.2,
        entropyBound_traced]
      exact falls
    have traced : frameTraces tracedWindow ≠ [] := List.cons_ne_nil _ _
    have oneDim : OneDimension (tracedWindow ++ tracedWindow) := by
      refine ⟨0, ?_⟩
      simp [tracedWindow, tracedFrame, textFrame, frameVectors, frameEmbedding?]
    exact evaluate_negative negative traced oneDim _ _

end

end RagDrift.Monitor
