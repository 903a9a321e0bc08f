import RagDrift.Counterfactual.CommonDelta
import RagDrift.Counterfactual.TrendLine
import RagDrift.Numeric.Averages

set_option autoImplicit false

/- When an estimate from values that are not negative is not negative either: always, except
where a falling trend is followed below zero. -/
namespace RagDrift.Counterfactual

open Storage (EvaluationRecord)
open Temporal (DriftEvent)
open Causal
open LeastSquares

theorem average_nonneg {values : List ℚ} (nonneg : ∀ value ∈ values, 0 ≤ value) :
    0 ≤ average values :=
  div_nonneg (List.sum_nonneg nonneg) (Nat.cast_nonneg _)

/-- The moving average starts at one of the values and moves towards the others. -/
theorem ewmaEstimate_eq {points : List (ℚ × ℚ)} (some : points ≠ []) (alpha : ℚ) :
    ∃ first rest, (first :: rest).Perm (points.map Prod.snd) ∧
      ewmaEstimate points alpha = rest.foldl (Averages.blend alpha) first := by
  have reordered : ((points.insertionSort fun left right => left.1 ≤ right.1).map Prod.snd).Perm
      (points.map Prod.snd) := (List.perm_insertionSort _ points).map Prod.snd
  rw [ewmaEstimate]
  cases sorted : (points.insertionSort fun left right => left.1 ≤ right.1).map Prod.snd with
  | nil =>
      rw [sorted] at reordered
      exact absurd (List.map_eq_nil_iff.mp reordered.nil_eq.symm) some
  | cons first rest =>
      rw [sorted] at reordered
      exact ⟨first, rest, reordered, rfl⟩

theorem ewmaEstimate_nonneg {points : List (ℚ × ℚ)} {alpha : ℚ} (low : 0 ≤ alpha)
    (high : alpha ≤ 1) (nonneg : ∀ point ∈ points, 0 ≤ point.2) :
    0 ≤ ewmaEstimate points alpha := by
  by_cases empty : points = []
  · rw [empty]
    exact le_refl 0
  · obtain ⟨first, rest, reordered, same⟩ := ewmaEstimate_eq empty alpha
    have each : ∀ value ∈ first :: rest, 0 ≤ value := by
      intro value inside
      obtain ⟨point, member, rfl⟩ := List.mem_map.mp (reordered.mem_iff.mp inside)
      exact nonneg point member
    rw [same]
    apply Averages.le_foldl_blend low high (each first List.mem_cons_self)
    intro value inside
    exact each value (List.mem_cons_of_mem _ inside)

/-- How far the trend of the points falls from their mean time to `target`. -/
def fall (points : List (ℚ × ℚ)) (target : ℚ) : ℚ :=
  LeastSquares.slope points * (meanT points - target)

theorem trend_eq_fall {points : List (ℚ × ℚ)} (apart : 1 / 10 ^ 12 ≤ spread points)
    (target : ℚ) : trendAdjustedEstimate points target = meanV points - fall points target := by
  rw [trend_of_apart apart, intercept, fall]
  ring

/-- The points before the event. -/
def preWindow (event : DriftEvent) (metricName : String) (store : List (EvaluationRecord ℚ)) :
    List (ℚ × ℚ) :=
  (occurrences metricName (sortRecords store)).filter fun point =>
    point.1 < event.startTimestamp

/-- There are enough points before the event, at times far enough apart, for a trend. -/
def HasTrend (points : List (ℚ × ℚ)) : Prop :=
  3 ≤ points.length ∧ 1 / 10 ^ 12 ≤ spread points

theorem storeEstimate_of_trend {event : DriftEvent} {metricName : String}
    {store : List (EvaluationRecord ℚ)} (trend : HasTrend (preWindow event metricName store)) :
    storeEstimate event metricName store =
      meanV (preWindow event metricName store) -
        fall (preWindow event metricName store) event.startTimestamp := by
  have some : preWindow event metricName store ≠ [] := by
    intro empty
    have many := trend.1
    rw [empty, List.length_nil] at many
    omega
  rw [← trend_eq_fall trend.2, storeEstimate, estimateMetricAfterIntervention]
  exact (if_neg some).trans (if_neg (not_lt.mpr trend.1))

section Nonnegative

variable {event : DriftEvent} {metricName : String} {store : List (EvaluationRecord ℚ)}
  (nonneg : ∀ record ∈ store, ∀ metric ∈ record.metrics,
    metric.metricName = metricName → 0 ≤ metric.value)
include nonneg

theorem occurrences_nonneg :
    ∀ point ∈ occurrences metricName (sortRecords store), 0 ≤ point.2 := by
  intro point inside
  obtain ⟨record, sorted, occurs⟩ := List.mem_flatMap.mp inside
  obtain ⟨metric, chosen, rfl⟩ := List.mem_map.mp occurs
  rw [List.mem_filter, decide_eq_true_eq] at chosen
  exact nonneg record ((sortRecords_perm store).mem_iff.mp sorted) metric chosen.1 chosen.2

theorem preWindow_nonneg : ∀ point ∈ preWindow event metricName store, 0 ≤ point.2 := by
  intro point inside
  exact occurrences_nonneg nonneg point (List.mem_filter.mp inside).1

theorem storeEstimate_nonneg (flat : ¬ HasTrend (preWindow event metricName store)) :
    0 ≤ storeEstimate event metricName store := by
  have values : ∀ value ∈ (preWindow event metricName store).map Prod.snd, 0 ≤ value := by
    intro value inside
    obtain ⟨point, member, rfl⟩ := List.mem_map.mp inside
    exact preWindow_nonneg nonneg point member
  rw [storeEstimate, estimateMetricAfterIntervention]
  split_ifs with none empty few
  · exact le_refl 0
  · apply average_nonneg
    intro value inside
    obtain ⟨point, member, rfl⟩ := List.mem_map.mp inside
    exact occurrences_nonneg nonneg point member
  · exact ewmaEstimate_nonneg (by norm_num) (by norm_num) (preWindow_nonneg nonneg)
  · have close : |spread (preWindow event metricName store)| < 1 / 10 ^ 12 := by
      have short : spread (preWindow event metricName store) < 1 / 10 ^ 12 := by
        rw [← not_le]
        intro apart
        exact flat ⟨not_lt.mp few, apart⟩
      rw [abs_of_nonneg (spread_nonneg _)]
      exact short
    rw [trendAdjustedEstimate_eq]
    exact (average_nonneg values).trans_eq (if_pos close).symm

end Nonnegative

/-- An estimate that is not negative, or that rounding hides below zero. -/
def InRange (event : DriftEvent) (cfMetric : ℚ) : Prop :=
  0 ≤ cfMetric ∨ -cfMetric ≤ 1 / (2 * 10 ^ 6) ∧
    pyRound (event.magnitude + -cfMetric) 6 = pyRound event.magnitude 6

theorem result_in_range_iff (event : DriftEvent) (metricName : String) (cfMetric : ℚ)
    (scenario : CounterfactualScenario ℚ) :
    (0 ≤ (resultWith event metricName cfMetric scenario).counterfactualMetric ∧
      (resultWith event metricName cfMetric scenario).delta ≤
        (resultWith event metricName cfMetric scenario).originalMetric) ↔
      InRange event cfMetric := by
  show 0 ≤ pyRound cfMetric 6 ∧ pyRound (event.magnitude - cfMetric) 6 ≤
    pyRound event.magnitude 6 ↔ _
  rw [InRange, pyRound_nonneg_iff, sub_eq_add_neg, neg_le]
  constructor
  · rintro ⟨close, below⟩
    rcases le_or_gt 0 cfMetric with up | down
    · exact .inl up
    · have above : pyRound event.magnitude 6 ≤ pyRound (event.magnitude + -cfMetric) 6 :=
        pyRound_mono 6 (by linarith)
      exact .inr ⟨close, le_antisymm below above⟩
  · rintro (up | ⟨close, same⟩)
    · constructor
      · have small : (0 : ℚ) ≤ 1 / (2 * 10 ^ 6) := by norm_num
        linarith
      · exact pyRound_mono 6 (by linarith)
    · exact ⟨close, same.le⟩

/-- The trend falls by no more than the points' mean value, or by so little more that rounding
to six places hides it, in the estimate and in the difference to the magnitude. -/
def FallsInRange (event : DriftEvent) (points : List (ℚ × ℚ)) : Prop :=
  fall points event.startTimestamp ≤ meanV points ∨
    fall points event.startTimestamp ≤ meanV points + 1 / (2 * 10 ^ 6) ∧
      pyRound (event.magnitude + (fall points event.startTimestamp - meanV points)) 6 =
        pyRound event.magnitude 6

theorem inRange_iff_falls (event : DriftEvent) (points : List (ℚ × ℚ)) :
    InRange event (meanV points - fall points event.startTimestamp) ↔
      FallsInRange event points := by
  rw [InRange, FallsInRange, sub_nonneg, neg_sub, sub_le_iff_le_add']

/-- Values of the metric's range are estimated in it, unless the trend before the event is
followed below zero by more than rounding hides. -/
theorem counterfactual_in_range_iff (rt : Runtime ℚ) (event : DriftEvent)
    (attribution : CausalAttribution) {store : List (EvaluationRecord ℚ)}
    (metricName : Option String)
    (nonneg : ∀ record ∈ store, ∀ metric ∈ record.metrics,
      metric.metricName = metricName.getD attribution.metricName → 0 ≤ metric.value)
    {topK : Int} {results : List CounterfactualResult}
    (ran : runCounterfactualAnalysis rt event attribution store metricName topK = .ok results) :
    (∀ result ∈ results, 0 ≤ result.counterfactualMetric ∧
        result.delta ≤ result.originalMetric) ↔
      topFactors attribution topK = [] ∨
        (HasTrend (preWindow event (metricName.getD attribution.metricName) store) →
          FallsInRange event
            (preWindow event (metricName.getD attribution.metricName) store)) := by
  rw [analysis_results ran]
  generalize metricName.getD attribution.metricName = name at nonneg
  have estimated : InRange event (storeEstimate event name store) ↔
      (HasTrend (preWindow event name store) →
        FallsInRange event (preWindow event name store)) := by
    by_cases trend : HasTrend (preWindow event name store)
    · rw [storeEstimate_of_trend trend, inRange_iff_falls]
      simp only [trend, true_implies]
    · simp only [trend, false_implies, iff_true]
      exact .inl (storeEstimate_nonneg nonneg trend)
  rw [← estimated, ← built_eq_nil_iff rt]
  simp only [List.forall_mem_map, result_in_range_iff]
  cases buildCounterfactualScenarios rt attribution topK with
  | nil => simp
  | cons first rest =>
      rw [or_iff_right (List.cons_ne_nil first rest)]
      constructor
      · intro all
        exact all first List.mem_cons_self
      · intro range _ _
        exact range

def fallingRecord (runId : String) (timestamp value : ℚ) : EvaluationRecord ℚ :=
  ⟨runId, [⟨"js_divergence", value, Dict.empty, .metricResult⟩], Dict.empty, none, runId,
    timestamp⟩

def fallingStore : List (EvaluationRecord ℚ) :=
  [fallingRecord "r1" 1 (3 / 10), fallingRecord "r2" 2 (2 / 10), fallingRecord "r3" 3 (1 / 10)]

def fallingEvent (startTimestamp : ℚ) : DriftEvent :=
  ⟨"js_divergence", startTimestamp, startTimestamp, 1 / 2, ["r3"], Dict.empty, "e1"⟩

def fallingAttribution : CausalAttribution where
  driftEventId := "e1"
  metricName := "js_divergence"
  factors := [⟨"version_change", 9 / 10, ["r3"], Dict.empty.set "change_id" (.str "c1")⟩]
  confidence := 9 / 10
  metadata := Dict.empty

theorem fallingStore_infoDict : ∀ record ∈ fallingStore, InfoDict record :=
  infoDict_of_none (by decide +kernel)

theorem fallingStore_nonneg : ∀ record ∈ fallingStore, ∀ metric ∈ record.metrics,
    metric.metricName = "js_divergence" → 0 ≤ metric.value := by
  decide +kernel

theorem counterfactual_in_range_iff_falling : ∃ results,
    runCounterfactualAnalysis (decimalRuntime []) (fallingEvent 4) fallingAttribution fallingStore
      none 3 = .ok results ∧
    ((∀ result ∈ results, 0 ≤ result.counterfactualMetric ∧
        result.delta ≤ result.originalMetric) ↔
      topFactors fallingAttribution 3 = [] ∨
        (HasTrend (preWindow (fallingEvent 4) "js_divergence" fallingStore) →
          FallsInRange (fallingEvent 4)
            (preWindow (fallingEvent 4) "js_divergence" fallingStore))) := by
  have ran := runCounterfactualAnalysis_eq (decimalRuntime []) (fallingEvent 4)
    fallingAttribution fallingStore_infoDict none 3
  exact ⟨_, ran, counterfactual_in_range_iff (decimalRuntime []) (fallingEvent 4)
    fallingAttribution none fallingStore_nonneg ran⟩

/-- Three steps on, the divergence is estimated below zero. -/
theorem estimated_below_zero : ¬ ∀ (rt : Runtime ℚ) (event : DriftEvent)
    (attribution : CausalAttribution) (store : List (EvaluationRecord ℚ))
    (metricName : Option String) (topK : Int) (results : List CounterfactualResult),
    (∀ record ∈ store, ∀ metric ∈ record.metrics,
      metric.metricName = metricName.getD attribution.metricName → 0 ≤ metric.value) →
    runCounterfactualAnalysis rt event attribution store metricName topK = .ok results →
    ∀ result ∈ results, 0 ≤ result.counterfactualMetric ∧
      result.delta ≤ result.originalMetric := by
  intro all
  have ran := runCounterfactualAnalysis_eq (decimalRuntime []) (fallingEvent 6)
    fallingAttribution fallingStore_infoDict none 3
  have below : ¬ 0 ≤ pyRound (storeEstimate (fallingEvent 6) "js_divergence" fallingStore) 6 := by
    decide +kernel
  obtain ⟨estimated, _⟩ := all (decimalRuntime []) (fallingEvent 6) fallingAttribution
    fallingStore none 3 _ fallingStore_nonneg ran _ List.mem_cons_self
  exact below estimated

end RagDrift.Counterfactual
