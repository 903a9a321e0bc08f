import RagDrift.Counterfactual.AveragedValues
import RagDrift.Python.Doubles

set_option autoImplicit false

/- `evaluator.counterfactual.estimator` in double arithmetic: every step rounds, so an average
may leave the range of its values, but by no more than the rounding errors of its steps. -/
namespace RagDrift.Counterfactual

open Storage (EvaluationRecord)
open Temporal (DriftEvent)
open Causal

namespace Doubles

def ewmaEstimate (preWindowValues : List (ℚ × ℚ)) (alpha : ℚ) : Number :=
  match (preWindowValues.insertionSort fun left right => left.1 ≤ right.1).map Prod.snd with
  | [] => .finite 0
  | first :: rest => (rest.map .finite).foldl (Number.blend (.finite alpha)) (.finite first)

/-- `square` is what `** 2` gives for a float; it may raise an `OverflowError`. -/
def trendAdjustedEstimate (square : Number → Option Number) (preWindowValues : List (ℚ × ℚ))
    (target : ℚ) : Option Number := do
  let meanT := Number.mean (preWindowValues.map fun point => .finite point.1)
  let meanV := Number.mean (preWindowValues.map fun point => .finite point.2)
  let numerator := Number.sum (preWindowValues.map fun point =>
    .mul (.sub (.finite point.1) meanT) (.sub (.finite point.2) meanV))
  let squares ← preWindowValues.mapM fun point => square (.sub (.finite point.1) meanT)
  let denominator := Number.sum squares
  if denominator.abs < .finite (nearestDouble (1 / 10 ^ 12)) then
    return meanV
  else
    let m := Number.div numerator denominator
    let c := Number.sub meanV (.mul m meanT)
    return .add (.mul m (.finite target)) c

/-- `estimate_metric_after_intervention` for finite floats; `none` where it raises. -/
def estimateMetricAfterIntervention (square : Number → Option Number) (event : DriftEvent)
    (records : List (EvaluationRecord ℚ)) (metricName : String) (method : Method) (alpha : ℚ) :
    Option Number :=
  let all := occurrences metricName (sortRecords records)
  let preWindowValues := all.filter fun point => point.1 < event.startTimestamp
  if preWindowValues = [] then
    if all = [] then some (.finite 0) else some (Number.mean (all.map fun point => .finite point.2))
  else match method with
    | .mean => some (Number.mean (preWindowValues.map fun point => .finite point.2))
    | .ewma => some (ewmaEstimate preWindowValues alpha)
    | .trendAdjusted =>
        if preWindowValues.length < 3 then some (ewmaEstimate preWindowValues alpha)
        else trendAdjustedEstimate square preWindowValues event.startTimestamp
    | .other _ => some (Number.mean (preWindowValues.map fun point => .finite point.2))

variable {square : Number → Option Number} {event : DriftEvent} {metricName : String}
  {store : List (EvaluationRecord ℚ)} {alpha low high x : ℚ}

/-- The rounding errors of a mean of `count` values, one for each sum and one for the quotient,
and of a moving average of them, nine for each step. -/
def meanSlack (count : Nat) (bound : ℚ) : ℚ := binary64.slack 1 (count + 1) bound

def ewmaSlack (count : Nat) (bound : ℚ) : ℚ := binary64.slack 9 (count - 1) bound

theorem mean_within {values : List ℚ} (some : values ≠ [])
    (bounds : ∀ value ∈ values, low ≤ value ∧ value ≤ high)
    (returned : Number.mean (values.map .finite) = .finite x) :
    low - meanSlack values.length low ≤ x ∧ x ≤ high + meanSlack values.length high := by
  rw [Number.mean_eq_finite returned]
  exact Averages.Rounding.mean_mem some bounds

theorem ewmaEstimate_within {points : List (ℚ × ℚ)} (some : points ≠ []) (nonneg : 0 ≤ alpha)
    (small : alpha ≤ 1) (bounds : ∀ value ∈ points.map Prod.snd, low ≤ value ∧ value ≤ high)
    (returned : ewmaEstimate points alpha = .finite x) :
    low - ewmaSlack points.length low ≤ x ∧ x ≤ high + ewmaSlack points.length high := by
  have reordered : ((points.insertionSort fun left right => left.1 ≤ right.1).map Prod.snd).Perm
      (points.map Prod.snd) := (List.perm_insertionSort _ points).map Prod.snd
  have count := reordered.length_eq
  have length : (points.map Prod.snd).length = points.length := List.length_map Prod.snd
  rw [length] at count
  rw [ewmaEstimate] at returned
  cases sorted : (points.insertionSort fun left right => left.1 ≤ right.1).map Prod.snd with
  | nil =>
      rw [sorted] at reordered
      exact absurd (List.map_eq_nil_iff.mp reordered.nil_eq.symm) some
  | cons first rest =>
      rw [sorted] at reordered returned count
      obtain ⟨_, start, rfl⟩ := Number.foldl_blend_finite returned
      cases start
      have each : ∀ value ∈ first :: rest, low ≤ value ∧ value ≤ high := by
        intro value inside
        exact bounds value (reordered.mem_iff.mp inside)
      have steps : rest.length = points.length - 1 := by
        rw [← count, List.length_cons, Nat.add_sub_cancel]
      rw [ewmaSlack, ewmaSlack, ← steps]
      exact Averages.Rounding.foldl_blend_mem nonneg small (each first List.mem_cons_self)
        fun value inside => each value (List.mem_cons_of_mem _ inside)

section Methods

variable (some : preWindow event metricName store ≠ [])
include some

theorem estimate_mean : estimateMetricAfterIntervention square event store metricName .mean alpha =
    .some (Number.mean ((preWindowValues event metricName store).map .finite)) := by
  rw [preWindowValues, List.map_map]
  exact if_neg some

theorem estimate_ewma : estimateMetricAfterIntervention square event store metricName .ewma alpha =
    .some (ewmaEstimate (preWindow event metricName store) alpha) :=
  if_neg some

end Methods

end Doubles

/-- Without rounding the mean and the moving average stay between the least and the greatest
value before the event. In doubles they do up to the rounding errors of their steps, unless a
step overflows; an estimate of any method is the same for every order of the records. -/
theorem estimates_averaged_and_ordered (square : Number → Option Number) (event : DriftEvent)
    (metricName : String) :
    (∀ (store : List (EvaluationRecord ℚ)) (alpha : ℚ),
      preWindowValues event metricName store ≠ [] → 0 ≤ alpha → alpha ≤ 1 → ∃ low high,
        (preWindowValues event metricName store).min? = some low ∧
        (preWindowValues event metricName store).max? = some high ∧
        (∀ method, method = .mean ∨ method = .ewma →
          low ≤ estimateMetricAfterIntervention event store metricName method alpha ∧
          estimateMetricAfterIntervention event store metricName method alpha ≤ high) ∧
        (∀ mean, Doubles.estimateMetricAfterIntervention square event store metricName .mean
            alpha = some (.finite mean) →
          low - Doubles.meanSlack (preWindowValues event metricName store).length low ≤ mean ∧
          mean ≤ high + Doubles.meanSlack (preWindowValues event metricName store).length high) ∧
        ∀ ewma, Doubles.estimateMetricAfterIntervention square event store metricName .ewma
            alpha = some (.finite ewma) →
          low - Doubles.ewmaSlack (preWindowValues event metricName store).length low ≤ ewma ∧
          ewma ≤ high + Doubles.ewmaSlack (preWindowValues event metricName store).length high) ∧
    ∀ left right : List (EvaluationRecord ℚ), TimesDistinct left → left.Perm right →
      ∀ method alpha,
        Doubles.estimateMetricAfterIntervention square event left metricName method alpha =
          Doubles.estimateMetricAfterIntervention square event right metricName method alpha := by
  constructor
  · intro store alpha some nonneg small
    obtain ⟨low, least⟩ := Option.isSome_iff_exists.mp (List.isSome_min?_of_ne_nil some)
    obtain ⟨high, greatest⟩ := Option.isSome_iff_exists.mp (List.isSome_max?_of_ne_nil some)
    have bounds := bounds_of_extremes least greatest
    have points : preWindow event metricName store ≠ [] := by
      intro empty
      apply some
      rw [preWindowValues, empty, List.map_nil]
    refine ⟨low, high, least, greatest, ?_, ?_, ?_⟩
    · intro method averaging
      rcases averaging with rfl | rfl
      · rw [estimate_mean points]
        exact average_mem some bounds
      · rw [estimate_ewma points]
        exact ewmaEstimate_mem points nonneg small bounds
    · intro mean returned
      rw [Doubles.estimate_mean points] at returned
      exact Doubles.mean_within some bounds (Option.some.inj returned)
    · intro ewma returned
      rw [Doubles.estimate_ewma points] at returned
      have within := Doubles.ewmaEstimate_within points nonneg small bounds
        (Option.some.inj returned)
      rw [preWindowValues, List.length_map]
      exact within
  · intro left right times reordered method alpha
    simp only [Doubles.estimateMetricAfterIntervention, sortRecords_perm_eq times reordered]

/-- The double nearest to 0.1. -/
def tenth : ℚ := 3602879701896397 / 2 ^ 55

/-- One score three times. -/
def scoredThrice : List (EvaluationRecord ℚ) :=
  [scoredRecord "r1" "v1" 1 tenth, scoredRecord "r2" "v1" 2 tenth, scoredRecord "r3" "v1" 3 tenth]

def afterThrice : DriftEvent := { scoredEvent with startTimestamp := 4, endTimestamp := 4 }

/-- The mean of three equal values is above them. -/
theorem mean_above_values :
    (preWindowValues afterThrice "faithfulness" scoredThrice).max? = some tenth ∧
      Doubles.estimateMetricAfterIntervention (fun _ => none) afterThrice scoredThrice
        "faithfulness" .mean (3 / 10) = some (.finite (7205759403792795 / 2 ^ 56)) ∧
      tenth < 7205759403792795 / 2 ^ 56 := by
  decide +kernel

theorem estimates_averaged_and_ordered_thrice :
    (∃ low high, (preWindowValues afterThrice "faithfulness" scoredThrice).min? = some low ∧
      (preWindowValues afterThrice "faithfulness" scoredThrice).max? = some high ∧
      low - Doubles.meanSlack 3 low ≤ 7205759403792795 / 2 ^ 56 ∧
      7205759403792795 / 2 ^ 56 ≤ high + Doubles.meanSlack 3 high) ∧
    Doubles.estimateMetricAfterIntervention (fun _ => none) afterThrice scoredThrice
        "faithfulness" .ewma (nearestDouble (3 / 10)) =
      Doubles.estimateMetricAfterIntervention (fun _ => none) afterThrice scoredThrice.reverse
        "faithfulness" .ewma (nearestDouble (3 / 10)) := by
  have both := estimates_averaged_and_ordered (fun _ => none) afterThrice "faithfulness"
  constructor
  · obtain ⟨low, high, least, greatest, _, mean, _⟩ := both.1 scoredThrice (3 / 10)
      (by decide +kernel) (by norm_num) (by norm_num)
    exact ⟨low, high, least, greatest, mean _ (by decide +kernel)⟩
  · apply both.2 scoredThrice scoredThrice.reverse
    · unfold TimesDistinct
      decide +kernel
    · exact (List.reverse_perm scoredThrice).symm

end RagDrift.Counterfactual
