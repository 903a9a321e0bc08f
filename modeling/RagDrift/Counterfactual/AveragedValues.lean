import RagDrift.Counterfactual.MetricRange
import RagDrift.Counterfactual.UnmovedEstimate

set_option autoImplicit false

/- The averaging estimates lie between the least and the greatest value before the event, and
no estimate depends on the order the records are stored in. Both without rounding. -/
namespace RagDrift.Counterfactual

open Storage (EvaluationRecord)
open Temporal (DriftEvent)
open Causal

/-- The values of the metric before the event. -/
def preWindowValues (event : DriftEvent) (metricName : String)
    (store : List (EvaluationRecord ℚ)) : List ℚ :=
  (preWindow event metricName store).map Prod.snd

section Bounds

variable {values : List ℚ} {low high : ℚ}

theorem bounds_of_extremes (least : values.min? = some low) (greatest : values.max? = some high) :
    ∀ value ∈ values, low ≤ value ∧ value ≤ high := by
  intro value inside
  exact ⟨(List.min?_eq_some_iff.mp least).2 value inside,
    (List.max?_eq_some_iff.mp greatest).2 value inside⟩

theorem average_mem (some : values ≠ [])
    (bounds : ∀ value ∈ values, low ≤ value ∧ value ≤ high) :
    low ≤ average values ∧ average values ≤ high := by
  constructor
  · exact Averages.le_mean some fun value inside => (bounds value inside).1
  · exact Averages.mean_le some fun value inside => (bounds value inside).2

theorem ewmaEstimate_mem {points : List (ℚ × ℚ)} (some : points ≠ []) {alpha : ℚ}
    (nonneg : 0 ≤ alpha) (small : alpha ≤ 1)
    (bounds : ∀ value ∈ points.map Prod.snd, low ≤ value ∧ value ≤ high) :
    low ≤ ewmaEstimate points alpha ∧ ewmaEstimate points alpha ≤ high := by
  obtain ⟨first, rest, reordered, same⟩ := ewmaEstimate_eq some alpha
  have each : ∀ value ∈ first :: rest, low ≤ value ∧ value ≤ high := by
    intro value inside
    exact bounds value (reordered.mem_iff.mp inside)
  have start := each first List.mem_cons_self
  have later : ∀ value ∈ rest, low ≤ value ∧ value ≤ high := by
    intro value inside
    exact each value (List.mem_cons_of_mem _ inside)
  rw [same]
  constructor
  · exact Averages.le_foldl_blend nonneg small start.1 fun value inside => (later value inside).1
  · exact Averages.foldl_blend_le nonneg small start.2 fun value inside => (later value inside).2

end Bounds

section Methods

variable {event : DriftEvent} {metricName : String} {store : List (EvaluationRecord ℚ)}
  (some : preWindow event metricName store ≠ []) (alpha : ℚ)
include some

theorem estimate_mean : estimateMetricAfterIntervention event store metricName .mean alpha =
    average (preWindowValues event metricName store) := by
  rw [estimateMetricAfterIntervention]
  exact if_neg some

theorem estimate_ewma : estimateMetricAfterIntervention event store metricName .ewma alpha =
    ewmaEstimate (preWindow event metricName store) alpha := by
  rw [estimateMetricAfterIntervention]
  exact if_neg some

end Methods

/-- Records at different times are sorted into one order. -/
theorem sortRecords_perm_eq {N : Type} [LinearOrder N] {left right : List (EvaluationRecord N)}
    (times : TimesDistinct left) (reordered : left.Perm right) :
    sortRecords left = sortRecords right := by
  have same : (sortRecords left).Perm (sortRecords right) :=
    (sortRecords_perm left).trans (reordered.trans (sortRecords_perm right).symm)
  apply same.eq_of_pairwise ?_ (sortRecords_sorted left) (sortRecords_sorted right)
  intro first second inside inside' atMost atLeast
  have here := (sortRecords_perm left).mem_iff.mp inside
  have here' := reordered.mem_iff.mpr ((sortRecords_perm right).mem_iff.mp inside')
  exact List.inj_on_of_nodup_map times here here' (le_antisymm atMost atLeast)

end RagDrift.Counterfactual
