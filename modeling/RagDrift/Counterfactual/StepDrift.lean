import RagDrift.Counterfactual.CommonDelta
import RagDrift.Temporal.StepSeries

set_option autoImplicit false

/- Drift detection, attribution and counterfactual analysis on a history whose metric steps
from one level to another together with the system version. -/
namespace RagDrift.Counterfactual

open Storage (EvaluationRecord MetricResult)
open Temporal (DriftEvent Point StepSeries detectDriftFromStore getMetricSeriesWithRuns
  recordPoints detect_step)
open Causal

def metricValues (metricName : String) (record : EvaluationRecord ℚ) : List ℚ :=
  (record.metrics.filter fun metric => metric.metricName = metricName).map MetricResult.value

/-- `k` windows of records at level `a`, then `m` windows at level `b` under another version. -/
structure StepStore (metricName : String) (a b : ℚ) (size k m : Nat)
    (before after : List (EvaluationRecord ℚ)) : Prop where
  beforeLength : before.length = k * size
  afterLength : after.length = m * size
  beforeLevel : ∀ record ∈ before, metricValues metricName record = [a]
  afterLevel : ∀ record ∈ after, metricValues metricName record = [b]
  increasing : (before ++ after).Pairwise fun left right => left.timestamp < right.timestamp
  versions : ∃ old new, old ≠ new ∧ (∀ record ∈ before, record.systemVersion = old) ∧
    ∀ record ∈ after, record.systemVersion = new

theorem recordPoints_single {metricName : String} {record : EvaluationRecord ℚ} {level : ℚ}
    (single : metricValues metricName record = [level]) :
    ∃ runId, recordPoints metricName record = [⟨record.timestamp, level, runId⟩] := by
  obtain ⟨metric, metrics, value⟩ := List.map_eq_singleton_iff.mp single
  refine ⟨Temporal.extractRunId record metric, ?_⟩
  rw [recordPoints, metrics, List.map_singleton, value]

theorem points_level {metricName : String} {level : ℚ} (records : List (EvaluationRecord ℚ))
    (levels : ∀ record ∈ records, metricValues metricName record = [level]) :
    (records.flatMap (recordPoints metricName)).map Point.timestamp =
        records.map EvaluationRecord.timestamp ∧
      ∀ point ∈ records.flatMap (recordPoints metricName), point.value = level := by
  induction records with
  | nil => exact ⟨rfl, fun _ inside => absurd inside List.not_mem_nil⟩
  | cons record rest ih =>
      obtain ⟨runId, points⟩ := recordPoints_single (levels record List.mem_cons_self)
      obtain ⟨times, values⟩ := ih fun other inside => levels other (List.mem_cons_of_mem _ inside)
      rw [List.flatMap_cons, points]
      refine ⟨?_, ?_⟩
      · rw [List.map_append, times]
        rfl
      · intro point inside
        rcases List.mem_append.mp inside with here | later
        · rw [List.mem_singleton] at here
          rw [here]
        · exact values point later

theorem occurrences_level {metricName : String} {level : ℚ}
    (records : List (EvaluationRecord ℚ))
    (levels : ∀ record ∈ records, metricValues metricName record = [level]) :
    occurrences metricName records = records.map fun record => (record.timestamp, level) := by
  induction records with
  | nil => rfl
  | cons record rest ih =>
      obtain ⟨metric, metrics, value⟩ :=
        List.map_eq_singleton_iff.mp (levels record List.mem_cons_self)
      have later := ih fun other inside => levels other (List.mem_cons_of_mem _ inside)
      rw [occurrences] at later ⊢
      rw [List.flatMap_cons, metrics, later, List.map_singleton, value]
      rfl

variable {metricName : String} {a b : ℚ} {size k m : Nat}
  {before after : List (EvaluationRecord ℚ)}

theorem StepStore.series (step : StepStore metricName a b size k m before after) :
    getMetricSeriesWithRuns (before ++ after) metricName =
        before.flatMap (recordPoints metricName) ++ after.flatMap (recordPoints metricName) ∧
      StepSeries a b (before.flatMap (recordPoints metricName))
        (after.flatMap (recordPoints metricName)) := by
  obtain ⟨lowTimes, low⟩ := points_level before step.beforeLevel
  obtain ⟨highTimes, high⟩ := points_level after step.afterLevel
  have increasing : (before.flatMap (recordPoints metricName) ++
      after.flatMap (recordPoints metricName)).Pairwise
        fun left right => left.timestamp < right.timestamp := by
    have times := step.increasing
    rw [← List.pairwise_map (f := EvaluationRecord.timestamp) (R := fun left right => left < right),
      List.map_append, ← lowTimes, ← highTimes, ← List.map_append, List.pairwise_map] at times
    exact times
  refine ⟨?_, low, high, increasing⟩
  rw [getMetricSeriesWithRuns, List.flatMap_append]
  exact List.Pairwise.insertionSort_eq (increasing.imp le_of_lt)

theorem average_const {values : List ℚ} {level : ℚ} (const : ∀ value ∈ values, value = level)
    (nonempty : values ≠ []) : average values = level :=
  Temporal.mean_const const nonempty

/-- A flat series is extrapolated to its own level. -/
theorem trendAdjustedEstimate_flat {points : List (ℚ × ℚ)} {level : ℚ}
    (flat : ∀ point ∈ points, point.2 = level) (nonempty : points ≠ []) (target : ℚ) :
    trendAdjustedEstimate points target = level := by
  have meanV : average (points.map Prod.snd) = level := by
    apply average_const
    · intro value inside
      obtain ⟨point, member, rfl⟩ := List.mem_map.mp inside
      exact flat point member
    · simpa using nonempty
  have numerator : (points.map fun point =>
      (point.1 - average (points.map Prod.fst)) * (point.2 - level)).sum = 0 := by
    apply List.sum_eq_zero
    intro term inside
    obtain ⟨point, member, rfl⟩ := List.mem_map.mp inside
    rw [flat point member, sub_self, mul_zero]
  unfold trendAdjustedEstimate
  simp only [meanV, numerator, zero_div, zero_mul, sub_zero, zero_add, ite_self]

theorem StepStore.sorted (step : StepStore metricName a b size k m before after) :
    sortRecords (before ++ after) = before ++ after :=
  sortRecords_of_sorted (step.increasing.imp le_of_lt)

/-- Before the step the estimate is the old level. -/
theorem StepStore.estimate (step : StepStore metricName a b size k m before after)
    (wide : 3 ≤ size) (lowWindows : 1 ≤ k) {first : EvaluationRecord ℚ}
    {rest : List (EvaluationRecord ℚ)} (begins : after = first :: rest) {event : DriftEvent}
    (starts : event.startTimestamp = first.timestamp) :
    storeEstimate event metricName (before ++ after) = a := by
  have all : occurrences metricName (before ++ after) =
      (before.map fun record => (record.timestamp, a)) ++
        after.map fun record => (record.timestamp, b) := by
    rw [← occurrences_level before step.beforeLevel, ← occurrences_level after step.afterLevel]
    exact List.flatMap_append
  obtain ⟨_, later, earlier⟩ := List.pairwise_append.mp step.increasing
  have preWindow : ((before.map fun record => (record.timestamp, a)) ++
      after.map fun record => (record.timestamp, b)).filter
        (fun point => point.1 < event.startTimestamp) =
      before.map fun record => (record.timestamp, a) := by
    rw [List.filter_append]
    have kept : (before.map fun record => (record.timestamp, a)).filter
        (fun point => point.1 < event.startTimestamp) =
          before.map fun record => (record.timestamp, a) := by
      rw [List.filter_eq_self]
      intro point inside
      obtain ⟨record, member, rfl⟩ := List.mem_map.mp inside
      rw [decide_eq_true_eq, starts]
      exact earlier record member first (by rw [begins]; exact List.mem_cons_self)
    have dropped : (after.map fun record => (record.timestamp, b)).filter
        (fun point => point.1 < event.startTimestamp) = [] := by
      rw [List.filter_eq_nil_iff]
      intro point inside
      obtain ⟨record, member, rfl⟩ := List.mem_map.mp inside
      rw [decide_eq_true_eq, starts, not_lt]
      rw [begins] at member later
      rcases List.mem_cons.mp member with rfl | tail
      · exact le_refl _
      · exact ((List.pairwise_cons.mp later).1 record tail).le
    rw [kept, dropped, List.append_nil]
  have long : 3 ≤ before.length := by
    rw [step.beforeLength]
    exact wide.trans (Nat.le_mul_of_pos_left size lowWindows)
  have nonempty : before ≠ [] := by
    rintro rfl
    simp at long
  unfold storeEstimate estimateMetricAfterIntervention
  simp only [step.sorted, all, preWindow, List.map_eq_nil_iff, nonempty, ↓reduceIte,
    List.length_map, not_lt.mpr long]
  apply trendAdjustedEstimate_flat
  · intro point inside
    obtain ⟨record, _, rfl⟩ := List.mem_map.mp inside
    rfl
  · simpa using nonempty

theorem scoreCausalImpact_length (features : List DriftFeature) :
    (scoreCausalImpact features).length = features.length := by
  rw [scoreCausalImpact, sortByScore, List.length_insertionSort, List.length_map]

theorem attributeDrift_length (rt : Runtime ℚ) (event : DriftEvent)
    (records : List (EvaluationRecord ℚ)) :
    (attributeDrift rt event records).factors.length =
      (extractChangeEvents rt records).length := by
  rw [attributeDrift, scoreCausalImpact_length, buildDriftFeatures, List.length_map,
    List.length_insertionSort]

theorem StepStore.changed (step : StepStore metricName a b size k m before after)
    (wide : 3 ≤ size) (lowWindows : 1 ≤ k) (highWindows : 1 ≤ m) (rt : Runtime ℚ) :
    extractChangeEvents rt (before ++ after) ≠ [] := by
  obtain ⟨old, new, differ, olds, news⟩ := step.versions
  have someBefore : before ≠ [] := by
    rintro rfl
    have length := step.beforeLength
    have product : 1 ≤ k * size := Nat.mul_pos lowWindows (by omega)
    rw [List.length_nil] at length
    omega
  have someAfter : after ≠ [] := by
    rintro rfl
    have length := step.afterLength
    have product : 1 ≤ m * size := Nat.mul_pos highWindows (by omega)
    rw [List.length_nil] at length
    omega
  obtain ⟨first, rest, rfl⟩ := List.exists_cons_of_ne_nil someAfter
  have consecutive : Consecutive (before ++ first :: rest) (before.getLast someBefore) first := by
    refine ⟨before.dropLast, rest, ?_⟩
    rw [step.sorted]
    conv_lhs => rw [← List.dropLast_append_getLast someBefore]
    rw [List.append_assoc, List.singleton_append]
  have changed : ¬ Unchanged (before.getLast someBefore) first := by
    rintro ⟨same, _⟩
    rw [olds _ (List.getLast_mem someBefore), news first List.mem_cons_self] at same
    exact differ same
  rw [← detectChange_eq_none_iff rt] at changed
  obtain ⟨change, found⟩ := Option.ne_none_iff_exists'.mp changed
  exact List.ne_nil_of_mem (mem_extractChangeEvents.mpr ⟨_, _, consecutive, found⟩)

theorem built_ne_nil (rt : Runtime ℚ) {attribution : CausalAttribution}
    (factors : attribution.factors ≠ []) {topK : Int} (positive : 1 ≤ topK) :
    buildCounterfactualScenarios rt attribution topK ≠ [] := by
  have sorted : (sortByScore attribution.factors).length = attribution.factors.length := by
    rw [sortByScore, List.length_insertionSort]
  have some : 0 < attribution.factors.length := List.length_pos_iff.mpr factors
  have top : topFactors attribution topK ≠ [] := by
    intro empty
    have length := congrArg List.length empty
    rw [topFactors, sliceTo, if_pos (by omega), List.length_take, sorted, List.length_nil]
      at length
    omega
  rwa [ne_eq, built_eq_nil_iff]

/-- Every result of a run that returns carries the same delta, and there is one for each
scenario. -/
theorem analysis_delta {rt : Runtime ℚ} {event : DriftEvent} {attribution : CausalAttribution}
    {store : List (EvaluationRecord ℚ)} {topK : Int} {results : List CounterfactualResult}
    (ran : runCounterfactualAnalysis rt event attribution store none topK = .ok results) :
    results.length = (buildCounterfactualScenarios rt attribution topK).length ∧
      ∀ result ∈ results, result.delta =
        pyRound (event.magnitude - storeEstimate event attribution.metricName store) 6 := by
  rw [analysis_results ran]
  refine ⟨List.length_map _, ?_⟩
  intro result inside
  obtain ⟨scenario, _, rfl⟩ := List.mem_map.mp inside
  rfl

/-- All deltas are positive exactly when the one value they share is. -/
theorem analysis_positive_iff {rt : Runtime ℚ} {event : DriftEvent}
    {attribution : CausalAttribution} {store : List (EvaluationRecord ℚ)} {topK : Int}
    {results : List CounterfactualResult} (factors : attribution.factors ≠ [])
    (positive : 1 ≤ topK)
    (ran : runCounterfactualAnalysis rt event attribution store none topK = .ok results) :
    (∀ result ∈ results, 0 < result.delta) ↔
      1 / 2000000 < event.magnitude - storeEstimate event attribution.metricName store := by
  obtain ⟨length, delta⟩ := analysis_delta ran
  have bound : (2 * 10 ^ 6 : ℚ) = 2000000 := by norm_num
  rw [← bound, ← pyRound_pos_iff]
  constructor
  · intro all
    have someResult : results ≠ [] := by
      rintro rfl
      exact built_ne_nil rt factors positive (List.length_eq_zero_iff.mp length.symm)
    obtain ⟨result, inside⟩ := List.exists_mem_of_ne_nil results someResult
    rw [← delta result inside]
    exact all result inside
  · intro shared result inside
    rw [delta result inside]
    exact shared

/-- What the four stages make of a step: events there, each with the height of the step for
its magnitude and the old level for its estimate. -/
theorem StepStore.detected (step : StepStore metricName a b size k m before after)
    (wide : 3 ≤ size) (lowWindows : 1 ≤ k) (highWindows : 1 ≤ m) {threshold : ℚ}
    (above : threshold < b - a) (uuid4 : Nat → String) (rt : Runtime ℚ)
    {first : EvaluationRecord ℚ} (begins : after.head? = some first) :
    ∃ events, detectDriftFromStore uuid4 (before ++ after) metricName size threshold =
        .ok events ∧
      (∃ event ∈ events, event.startTimestamp = first.timestamp) ∧
      ∀ event ∈ events, event.startTimestamp = first.timestamp →
        (attributeDrift rt event (before ++ after)).factors ≠ [] ∧
        event.magnitude - storeEstimate event
          (attributeDrift rt event (before ++ after)).metricName (before ++ after) =
            |b - a| - a := by
  obtain ⟨rest, split⟩ := List.head?_eq_some_iff.mp begins
  obtain ⟨read, series⟩ := step.series
  obtain ⟨lowTimes, _⟩ := points_level before step.beforeLevel
  obtain ⟨highTimes, _⟩ := points_level after step.afterLevel
  have frontLength : (before.flatMap (recordPoints metricName)).length = k * size := by
    rw [← step.beforeLength, ← List.length_map (f := Point.timestamp), lowTimes, List.length_map]
  have backLength : (after.flatMap (recordPoints metricName)).length = m * size := by
    rw [← step.afterLength, ← List.length_map (f := Point.timestamp), highTimes, List.length_map]
  have at_step : (after.flatMap (recordPoints metricName)).head?.map Point.timestamp =
      some first.timestamp := by
    rw [← List.head?_map, highTimes, List.head?_map, begins, Option.map_some]
  obtain ⟨events, detected, reported, shape⟩ := detect_step uuid4 series
    (lt_of_lt_of_le above (le_abs_self _)) (by omega) frontLength backLength lowWindows
    highWindows at_step metricName
  rw [← read] at detected
  refine ⟨events, detected, reported, ?_⟩
  intro event inside starts
  obtain ⟨metric, magnitude⟩ := shape event inside starts
  refine ⟨?_, ?_⟩
  · rw [← List.length_pos_iff, attributeDrift_length, List.length_pos_iff]
    exact step.changed wide lowWindows highWindows rt
  · have named : (attributeDrift rt event (before ++ after)).metricName = metricName := metric
    rw [named, magnitude, step.estimate wide lowWindows split starts]

/-- The improvement shown after a step from `a` to `b` is the height of the step less the old
level, since the event's magnitude is a difference and the estimate is a level. -/
theorem step_improvement_iff (step : StepStore metricName a b size k m before after)
    (wide : 3 ≤ size) (lowWindows : 1 ≤ k) (highWindows : 1 ≤ m) {threshold : ℚ}
    (above : threshold < b - a) {topK : Int} (positive : 1 ≤ topK) (uuid4 : Nat → String)
    (rt : Runtime ℚ) {first : EvaluationRecord ℚ} (begins : after.head? = some first) :
    ∃ events, detectDriftFromStore uuid4 (before ++ after) metricName size threshold =
        .ok events ∧
      (∃ event ∈ events, event.startTimestamp = first.timestamp) ∧
      ∀ event ∈ events, event.startTimestamp = first.timestamp →
        ∀ results, runCounterfactualAnalysis rt event
            (attributeDrift rt event (before ++ after)) (before ++ after) none topK =
              .ok results →
          ((∀ result ∈ results, 0 < result.delta) ↔ 1 / 2000000 < |b - a| - a) := by
  obtain ⟨events, detected, reported, shape⟩ :=
    step.detected wide lowWindows highWindows above uuid4 rt begins
  refine ⟨events, detected, reported, ?_⟩
  intro event inside starts results ran
  obtain ⟨factors, improvement⟩ := shape event inside starts
  rw [analysis_positive_iff factors positive ran, improvement]

def levelRecord (runId version : String) (timestamp value : ℚ) : EvaluationRecord ℚ :=
  ⟨runId, [⟨"faithfulness", value, Dict.empty, .metricResult⟩], Dict.empty, some version, runId,
    timestamp⟩

def levelBefore (level : ℚ) : List (EvaluationRecord ℚ) :=
  [levelRecord "r0" "1.0" 0 level, levelRecord "r1" "1.0" 1 level, levelRecord "r2" "1.0" 2 level]

def levelAfter (level : ℚ) : List (EvaluationRecord ℚ) :=
  [levelRecord "r3" "2.0" 3 level, levelRecord "r4" "2.0" 4 level, levelRecord "r5" "2.0" 5 level]

def levelRuntime : Runtime ℚ :=
  decimalRuntime [("r3:3.0:version_change", "c4247b89-a576-5e17-a4e5-8c13ca008339")]

theorem levelStore_step (low high : ℚ) :
    StepStore "faithfulness" low high 3 1 1 (levelBefore low) (levelAfter high) where
  beforeLength := rfl
  afterLength := rfl
  beforeLevel := by
    intro record inside
    simp only [levelBefore, List.mem_cons, List.not_mem_nil, or_false] at inside
    rcases inside with rfl | rfl | rfl <;> rfl
  afterLevel := by
    intro record inside
    simp only [levelAfter, List.mem_cons, List.not_mem_nil, or_false] at inside
    rcases inside with rfl | rfl | rfl <;> rfl
  increasing := by
    have times : [(0 : ℚ), 1, 2, 3, 4, 5].Pairwise fun left right => left < right := by
      decide +kernel
    rw [← List.pairwise_map (f := EvaluationRecord.timestamp) (R := fun left right => left < right)]
    exact times
  versions := by
    refine ⟨some "1.0", some "2.0", by decide, ?_, ?_⟩
    · intro record inside
      simp only [levelBefore, List.mem_cons, List.not_mem_nil, or_false] at inside
      rcases inside with rfl | rfl | rfl <;> rfl
    · intro record inside
      simp only [levelAfter, List.mem_cons, List.not_mem_nil, or_false] at inside
      rcases inside with rfl | rfl | rfl <;> rfl

theorem step_improvement_iff_level :
    ∃ events, detectDriftFromStore toString (levelBefore (1 / 10) ++ levelAfter (1 / 2))
        "faithfulness" 3 (15 / 100) = .ok events ∧
      (∃ event ∈ events, event.startTimestamp = 3) ∧
      ∀ event ∈ events, event.startTimestamp = 3 →
        ∀ results, runCounterfactualAnalysis levelRuntime event
            (attributeDrift levelRuntime event (levelBefore (1 / 10) ++ levelAfter (1 / 2)))
            (levelBefore (1 / 10) ++ levelAfter (1 / 2)) none 3 = .ok results →
          ((∀ result ∈ results, 0 < result.delta) ↔
            1 / 2000000 < |(1 / 2 : ℚ) - 1 / 10| - 1 / 10) :=
  step_improvement_iff (levelStore_step (1 / 10) (1 / 2)) (le_refl 3) (le_refl 1) (le_refl 1)
    (by norm_num) (by decide) toString levelRuntime rfl

theorem levelStore_info (low high : ℚ) :
    ∀ record ∈ levelBefore low ++ levelAfter high, InfoDict record := by
  intro record inside value found
  simp only [levelBefore, levelAfter, List.cons_append, List.nil_append, List.mem_cons,
    List.not_mem_nil, or_false] at inside
  rcases inside with rfl | rfl | rfl | rfl | rfl | rfl <;> cases found

/-- From level 1 to level 1.5 the analysis reports that removing the change would have made
things worse. -/
theorem step_without_improvement : ¬ ∀ (metricName : String) (a b threshold : ℚ)
    (size k m : Nat) (before after : List (EvaluationRecord ℚ)) (uuid4 : Nat → String)
    (rt : Runtime ℚ) (first : EvaluationRecord ℚ) (events : List DriftEvent) (event : DriftEvent)
    (results : List CounterfactualResult),
    0 ≤ a → threshold < b - a → 3 ≤ size → 1 ≤ k → 1 ≤ m →
    StepStore metricName a b size k m before after → after.head? = some first →
    detectDriftFromStore uuid4 (before ++ after) metricName size threshold = .ok events →
    event ∈ events → event.startTimestamp = first.timestamp →
    runCounterfactualAnalysis rt event (attributeDrift rt event (before ++ after))
      (before ++ after) none 3 = .ok results →
    ∀ result ∈ results, 0 < result.delta := by
  intro all
  have step := levelStore_step 1 (3 / 2)
  have above : (15 / 100 : ℚ) < 3 / 2 - 1 := by norm_num
  obtain ⟨events, detected, ⟨event, inside, starts⟩, shape⟩ :=
    step.detected (le_refl 3) (le_refl 1) (le_refl 1) above toString levelRuntime rfl
  obtain ⟨factors, improvement⟩ := shape event inside starts
  have ran := runCounterfactualAnalysis_eq levelRuntime event
    (attributeDrift levelRuntime event (levelBefore 1 ++ levelAfter (3 / 2)))
    (levelStore_info 1 (3 / 2)) none 3
  have positive := all _ 1 (3 / 2) (15 / 100) 3 1 1 _ _ toString levelRuntime _ events event _
    (by norm_num) above (le_refl 3) (le_refl 1) (le_refl 1) step rfl detected inside
    starts ran
  rw [analysis_positive_iff factors (by decide) ran, improvement] at positive
  norm_num at positive

end RagDrift.Counterfactual
