import RagDrift.Monitor.Calibration

set_option autoImplicit false

/- The statistics that the thresholds of a baseline window are averages of, against those that
the verdicts compare with the thresholds. -/
namespace RagDrift.Monitor

open Exceptions (bind_ok_iff mapM_eq_ok_map)
open Numeric (mean std amax sigmaBound mean_map_eq_iff mean_le_amax
  mean_eq_amax_iff mean_eq_of_sigmaBound_eq)
open Telemetry (RAGEvaluationFrame)

noncomputable section

namespace DynamicBaselineService

variable (service : DynamicBaselineService)

def maxKl (split : Split) : ℝ :=
  match service.componentDrift split with
  | some (maxKl, _, _) => maxKl
  | none => 0

/-- What the verdict of two windows compares with the five thresholds, here of a split. -/
def compared (split : Split) : Except VectorError SplitStatistics := do
  let monitor := DriftMonitor.ofConfig service.config
  let vectorDrift ← monitor.evaluateVectorDrift service.pca split.first split.second split.draws
  let graphDrift := monitor.evaluateGraphDrift service.runtime split.first split.second
  let swarmDrift := monitor.evaluateSwarmDrift split.first split.second
  return {
    -- `js_score > js_threshold` and `mmd_score > mmd_threshold`
    jsDivergence := vectorDrift.jsDivergence
    mmdScore := vectorDrift.mmdScore
    -- `max_kl > kl_threshold`
    perComponentKl := service.maxKl split
    -- `spectral_distance > self.spectral_threshold`
    spectralDistance := graphDrift.spectralDistance
    -- `abs(transition_entropy_delta) > self.entropy_threshold`
    transitionEntropyDelta := |swarmDrift.transitionEntropyDelta| }

/-- Every threshold is the mean and `kSigma` standard deviations, over the drawn splits, of what
is compared with it. -/
def UsesRuntimeStatistics (frames : List (RAGEvaluationFrame ℝ)) (iterations : Int)
    (draws : Nat → Shuffle) (kSigma : ℝ) : Prop :=
  ∃ thresholds compared,
    service.computeCalibratedThresholds frames kSigma iterations draws = .ok thresholds ∧
      (splits frames iterations draws).mapM service.compared = .ok compared ∧
      ∀ entry ∈ thresholds.entries, ∃ statistic, (entry.1, statistic) ∈ calibratedMetrics ∧
        entry.2 = mean (compared.map statistic) + kSigma * std (compared.map statistic)

/-- The hops do not get less scattered from the first half to the second, and all components
diverge alike. -/
structure Aligned (split : Split) : Prop where
  entropy : split.entropyBefore ≤ split.entropyAfter
  kls : ∀ first ∈ service.splitKls split, ∀ second ∈ service.splitKls split, first = second

/-- What is compared, if nothing raises. -/
def comparedStatistics (split : Split) : SplitStatistics :=
  { service.recorded split with
    perComponentKl := amax (service.splitKls split)
    transitionEntropyDelta := |split.entropyAfter - split.entropyBefore| }

variable {service} {split : Split}

theorem maxKl_eq (split : Split) : service.maxKl split = amax (service.splitKls split) := by
  unfold maxKl
  rcases service.componentDrift_cases split with ⟨failed, nothing⟩ | ⟨drifted, found⟩
  · simp [failed, nothing, amax]
  · rw [found]

theorem compared_total (oneDim : OneDimension (split.first ++ split.second)) :
    service.compared split = .ok (service.comparedStatistics split) := by
  obtain ⟨result, evaluated⟩ : ∃ result, (DriftMonitor.ofConfig service.config).evaluateVectorDrift
      service.pca split.first split.second split.draws = .ok result :=
    evaluateVectorDrift_total oneDim.left oneDim.right
  refine bind_ok_iff.mpr ⟨result, evaluated, ?_⟩
  simp only [comparedStatistics, recorded, splitVectorDrift_eq evaluated, maxKl_eq,
    evaluateSwarmDrift_delta, splitSpectralDistance]
  rfl

/-- The two statistics that are not compared as they are recorded are at most what is
compared. -/
theorem recorded_le (split : Split) :
    (service.recorded split).perComponentKl ≤ (service.comparedStatistics split).perComponentKl ∧
      (service.recorded split).transitionEntropyDelta ≤
        (service.comparedStatistics split).transitionEntropyDelta :=
  ⟨mean_le_amax _, le_abs_self _⟩

theorem aligned_iff (split : Split) :
    service.Aligned split ↔
      (service.recorded split).perComponentKl = (service.comparedStatistics split).perComponentKl ∧
        (service.recorded split).transitionEntropyDelta =
          (service.comparedStatistics split).transitionEntropyDelta := by
  have kls : (service.recorded split).perComponentKl =
      (service.comparedStatistics split).perComponentKl ↔ _ := mean_eq_amax_iff
  have entropy : (service.recorded split).transitionEntropyDelta =
      (service.comparedStatistics split).transitionEntropyDelta ↔
        split.entropyBefore ≤ split.entropyAfter := by
    rw [← sub_nonneg, ← abs_eq_self]
    exact eq_comm
  rw [kls, entropy]
  exact ⟨fun aligned => ⟨aligned.kls, aligned.entropy⟩, fun both => ⟨both.2, both.1⟩⟩

variable {frames : List (RAGEvaluationFrame ℝ)} {iterations : Int} {draws : Nat → Shuffle}
  {kSigma : ℝ}

/-- The bound that a statistic of the splits gives. -/
def splitBound (statistics : Split → SplitStatistics) (splits : List Split) (kSigma : ℝ)
    (statistic : SplitStatistics → ℝ) : ℝ :=
  sigmaBound kSigma (splits.map fun split => statistic (statistics split))

theorem splitBound_eq (statistics : Split → SplitStatistics) (splits : List Split) (kSigma : ℝ)
    (statistic : SplitStatistics → ℝ) :
    splitBound statistics splits kSigma statistic =
      sigmaBound kSigma ((splits.map statistics).map statistic) := by
  rw [List.map_map]
  rfl

theorem compared_all (oneDim : OneDimension frames) :
    (splits frames iterations draws).mapM service.compared =
      .ok ((splits frames iterations draws).map service.comparedStatistics) := by
  apply mapM_eq_ok_map
  intro split drawn
  exact compared_total (oneDim.perm (splits_perm drawn).symm)

theorem usesRuntimeStatistics_iff
    (enough : service.config.minBaselineFrames ≤ frames.length) (oneDim : OneDimension frames) :
    service.UsesRuntimeStatistics frames iterations draws kSigma ↔
      ∀ metric ∈ calibratedMetrics,
        splitBound service.recorded (splits frames iterations draws) kSigma metric.2 =
          splitBound service.comparedStatistics (splits frames iterations draws) kSigma
            metric.2 := by
  have calibrated : service.computeCalibratedThresholds frames kSigma iterations draws =
      .ok (calibrate kSigma ((splits frames iterations draws).map service.recorded)) :=
    computeCalibratedThresholds_total enough oneDim
  have compared : (splits frames iterations draws).mapM service.compared =
      .ok ((splits frames iterations draws).map service.comparedStatistics) := compared_all oneDim
  simp only [splitBound_eq]
  constructor
  · rintro ⟨thresholds, others, ran, comparedRan, all⟩ metric listed
    cases calibrated.symm.trans ran
    cases compared.symm.trans comparedRan
    by_cases nothing : splits frames iterations draws = []
    · rw [nothing]
      rfl
    · obtain ⟨statistic, listed', same⟩ := all _ (mem_calibrate_iff.mpr
        ⟨mt List.map_eq_nil_iff.mp nothing, metric, listed, rfl⟩)
      have unique : statistic = metric.2 :=
        congrArg Prod.snd (List.inj_on_of_nodup_map calibratedMetrics_distinct listed' listed rfl)
      subst unique
      exact same
  · intro all
    refine ⟨_, _, calibrated, compared, ?_⟩
    intro entry inside
    obtain ⟨_, metric, listed, rfl⟩ := mem_calibrate_iff.mp inside
    exact ⟨metric.2, listed, all metric listed⟩

/-- Bounds that meet for two factors are bounds of the same values. -/
theorem eq_of_splitBound {splits : List Split} {first second : Split → SplitStatistics}
    {statistic : SplitStatistics → ℝ} {k k' : ℝ} (differ : k ≠ k')
    (below : ∀ split ∈ splits, statistic (first split) ≤ statistic (second split))
    (same : splitBound first splits k statistic = splitBound second splits k statistic)
    (same' : splitBound first splits k' statistic = splitBound second splits k' statistic) :
    ∀ split ∈ splits, statistic (first split) = statistic (second split) :=
  (mean_map_eq_iff below).mp (mean_eq_of_sigmaBound_eq differ same same')

theorem aligned_of_two {k k' : ℝ} (differ : k ≠ k')
    (enough : service.config.minBaselineFrames ≤ frames.length) (oneDim : OneDimension frames)
    (uses : service.UsesRuntimeStatistics frames iterations draws k)
    (uses' : service.UsesRuntimeStatistics frames iterations draws k') :
    ∀ split ∈ splits frames iterations draws, service.Aligned split := by
  have bounds := (usesRuntimeStatistics_iff enough oneDim).mp uses
  have bounds' := (usesRuntimeStatistics_iff enough oneDim).mp uses'
  intro split drawn
  rw [aligned_iff]
  exact ⟨eq_of_splitBound differ (fun split _ => (recorded_le split).1) (bounds _ kl_calibrated)
      (bounds' _ kl_calibrated) split drawn,
    eq_of_splitBound differ (fun split _ => (recorded_le split).2) (bounds _ entropy_calibrated)
      (bounds' _ entropy_calibrated) split drawn⟩

theorem usesRuntimeStatistics_of_aligned
    (enough : service.config.minBaselineFrames ≤ frames.length) (oneDim : OneDimension frames)
    (aligned : ∀ split ∈ splits frames iterations draws, service.Aligned split) (kSigma : ℝ) :
    service.UsesRuntimeStatistics frames iterations draws kSigma := by
  have same : ∀ split ∈ splits frames iterations draws,
      service.recorded split = service.comparedStatistics split := by
    intro split drawn
    obtain ⟨kl, entropy⟩ := (aligned_iff split).mp (aligned split drawn)
    calc service.recorded split
        = { service.recorded split with
            perComponentKl := (service.recorded split).perComponentKl
            transitionEntropyDelta := (service.recorded split).transitionEntropyDelta } := rfl
      _ = service.comparedStatistics split := by rw [kl, entropy]; rfl
  apply (usesRuntimeStatistics_iff enough oneDim).mpr
  intro metric _
  unfold splitBound
  congr 1
  apply List.map_congr_left
  intro split drawn
  rw [same split drawn]

/-- Calibration uses the runtime statistics for every factor exactly if all drawn splits are
aligned. If not, no more than one factor gives the thresholds it should, by coincidence. -/
theorem runtime_statistics_iff
    (enough : service.config.minBaselineFrames ≤ frames.length) (oneDim : OneDimension frames) :
    ((∀ kSigma, service.UsesRuntimeStatistics frames iterations draws kSigma) ↔
      ∀ split ∈ splits frames iterations draws, service.Aligned split) ∧
    (¬ (∀ split ∈ splits frames iterations draws, service.Aligned split) →
      ∃ coincidence, ∀ kSigma,
        service.UsesRuntimeStatistics frames iterations draws kSigma → kSigma = coincidence) := by
  constructor
  · constructor
    · intro uses
      exact aligned_of_two zero_ne_one enough oneDim (uses 0) (uses 1)
    · exact usesRuntimeStatistics_of_aligned enough oneDim
  · intro misaligned
    by_cases coincides : ∃ kSigma, service.UsesRuntimeStatistics frames iterations draws kSigma
    · obtain ⟨coincidence, uses⟩ := coincides
      refine ⟨coincidence, ?_⟩
      intro kSigma uses'
      by_contra differ
      exact misaligned (aligned_of_two differ enough oneDim uses' uses)
    · exact ⟨0, fun kSigma uses => absurd ⟨kSigma, uses⟩ coincides⟩

end DynamicBaselineService

theorem runtime_statistics_iff_traced :
    ((∀ kSigma, plainService.UsesRuntimeStatistics tracedWindow 20
        (fun _ => unshuffledIteration) kSigma) ↔
      ∀ split ∈ DynamicBaselineService.splits tracedWindow 20 (fun _ => unshuffledIteration),
        plainService.Aligned split) ∧
    (¬ (∀ split ∈ DynamicBaselineService.splits tracedWindow 20 (fun _ => unshuffledIteration),
        plainService.Aligned split) →
      ∃ coincidence, ∀ kSigma, plainService.UsesRuntimeStatistics tracedWindow 20
        (fun _ => unshuffledIteration) kSigma → kSigma = coincidence) :=
  DynamicBaselineService.runtime_statistics_iff tracedWindow_enough tracedWindow_oneDimension

/-- Where each shuffle leaves the one trace in the first half, the threshold of the entropy is
the delta, and not its absolute value. -/
theorem entropy_threshold_signed :
    plainService.config.minBaselineFrames ≤ tracedWindow.length ∧ OneDimension tracedWindow ∧
      ¬ plainService.UsesRuntimeStatistics tracedWindow 20 (fun _ => unshuffledIteration) 2 := by
  refine ⟨tracedWindow_enough, tracedWindow_oneDimension, ?_⟩
  intro uses
  have bounds := (DynamicBaselineService.usesRuntimeStatistics_iff tracedWindow_enough
    tracedWindow_oneDimension).mp uses _ entropy_calibrated
  rw [splits_tracedWindow] at bounds
  simp only [DynamicBaselineService.splitBound, List.map_replicate,
    Numeric.sigmaBound_replicate (by decide : 10 ≠ 0)] at bounds
  have falls : tracedSplit.entropyAfter - tracedSplit.entropyBefore < 0 :=
    sub_neg.mpr tracedSplit_entropy
  have same : tracedSplit.entropyAfter - tracedSplit.entropyBefore =
      |tracedSplit.entropyAfter - tracedSplit.entropyBefore| := bounds
  exact absurd (abs_eq_self.mp same.symm) (not_le.mpr falls)

end

end RagDrift.Monitor
