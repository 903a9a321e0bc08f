import RagDrift.Causal.Changes
import RagDrift.Temporal.DriftDetection

set_option autoImplicit false

/- `evaluator.counterfactual.estimator`: the value a metric would have had, from the records
before the drift event. -/
namespace RagDrift.Counterfactual

open Storage (EvaluationRecord)
open Temporal (DriftEvent)
open Causal

inductive Method where
  | mean
  | ewma
  | trendAdjusted
  | other (name : String)
  deriving DecidableEq

/-- `(ts, metric.value)` of every occurrence of the metric, in the order of the records. -/
def occurrences (metricName : String) (records : List (EvaluationRecord ℚ)) : List (ℚ × ℚ) :=
  records.flatMap fun record =>
    (record.metrics.filter fun metric => metric.metricName = metricName).map fun metric =>
      (record.timestamp, metric.value)

def average (values : List ℚ) : ℚ := values.sum / values.length

def ewmaEstimate (preWindowValues : List (ℚ × ℚ)) (alpha : ℚ) : ℚ :=
  match (preWindowValues.insertionSort fun left right => left.1 ≤ right.1).map Prod.snd with
  | [] => 0
  | first :: rest => rest.foldl (fun result value => alpha * value + (1 - alpha) * result) first

/-- The least-squares line through the points, read at `target`. -/
def trendAdjustedEstimate (preWindowValues : List (ℚ × ℚ)) (target : ℚ) : ℚ :=
  let meanT := average (preWindowValues.map Prod.fst)
  let meanV := average (preWindowValues.map Prod.snd)
  let numerator := (preWindowValues.map fun point => (point.1 - meanT) * (point.2 - meanV)).sum
  let denominator := (preWindowValues.map fun point => (point.1 - meanT) ^ 2).sum
  if |denominator| < 1 / 10 ^ 12 then meanV
  else
    let m := numerator / denominator
    let c := meanV - m * meanT
    m * target + c

def estimateMetricAfterIntervention (event : DriftEvent) (records : List (EvaluationRecord ℚ))
    (metricName : String) (method : Method) (alpha : ℚ) : ℚ :=
  let all := occurrences metricName (sortRecords records)
  let preWindowValues := all.filter fun point => point.1 < event.startTimestamp
  if preWindowValues = [] then
    if all = [] then 0 else average (all.map Prod.snd)
  else match method with
    | .mean => average (preWindowValues.map Prod.snd)
    | .ewma => ewmaEstimate preWindowValues alpha
    | .trendAdjusted =>
        if preWindowValues.length < 3 then ewmaEstimate preWindowValues alpha
        else trendAdjustedEstimate preWindowValues event.startTimestamp
    | .other _ => average (preWindowValues.map Prod.snd)

end RagDrift.Counterfactual
