import RagDrift.Storage.Models
import Mathlib.Data.List.Sort
import Mathlib.Data.Rat.Floor
import Mathlib.Algebra.Order.Ring.Abs

set_option autoImplicit false

/- `evaluator.temporal`: the time series of one metric and the mean-shift drift events in it. -/
namespace RagDrift.Temporal

open Storage (EvaluationRecord MetricResult PyErr)

/-- `event_id` is filled in by `__post_init__`. -/
structure DriftEvent where
  metricName : String
  startTimestamp : ℚ
  endTimestamp : ℚ
  magnitude : ℚ
  involvedRunIds : List String
  metadata : Dict ℚ
  eventId : String

structure Point where
  timestamp : ℚ
  value : ℚ
  runId : String

/-- The run id of the metric's own class when it has one, else that of the record. -/
def extractRunId (record : EvaluationRecord ℚ) (metric : MetricResult ℚ) : String :=
  match metric.kind with
  | .qualityResult (some runId) => runId
  | .driftResult _ (some currentRunId) => currentRunId
  | _ => record.runId

def recordPoints (metricName : String) (record : EvaluationRecord ℚ) : List Point :=
  (record.metrics.filter fun metric => metric.metricName = metricName).map fun metric =>
    ⟨record.timestamp, metric.value, extractRunId record metric⟩

def getMetricSeriesWithRuns (records : List (EvaluationRecord ℚ)) (metricName : String) :
    List Point :=
  (records.flatMap (recordPoints metricName)).insertionSort fun left right =>
    left.timestamp ≤ right.timestamp

/-- `range(start, stop, step)` for a positive step. -/
def pyRange (start stop step : Nat) : List Nat :=
  (List.range ((stop - start + step - 1) / step)).map fun index => start + index * step

def window (series : List Point) (start size : Nat) : List Point := (series.drop start).take size

def mean (values : List ℚ) : ℚ := values.sum / values.length

def compareWindows (uuid4 : Nat → String) (series : List Point) (windowSize : Nat)
    (threshold : ℚ) (metricName : String) (start : Nat) : Option DriftEvent :=
  let prevWindow := window series (start - windowSize) windowSize
  let currWindow := window series start windowSize
  if currWindow.length < windowSize then none
  else
    let meanPrev := mean (prevWindow.map Point.value)
    let meanCurr := mean (currWindow.map Point.value)
    let magnitude := |meanCurr - meanPrev|
    if magnitude > threshold then
      match currWindow.head?, currWindow.getLast? with
      | some first, some last => some {
          metricName := metricName
          startTimestamp := first.timestamp
          endTimestamp := last.timestamp
          magnitude := magnitude
          involvedRunIds := currWindow.map Point.runId
          metadata := Dict.empty.setAll
            [("method", .str "mean_shift"), ("window_size", .num windowSize),
              ("threshold", .num threshold), ("mean_previous", .num meanPrev),
              ("mean_current", .num meanCurr)]
          eventId := uuid4 start }
      | _, _ => none
    else none

/-- Each event's id is the fresh one drawn at its window. A step of zero is refused by `range`,
and a negative one leaves nothing to compare. -/
def detectDriftEvents (uuid4 : Nat → String) (series : List Point) (windowSize : Int)
    (threshold : ℚ) (metricName : String) : Except PyErr (List DriftEvent) :=
  if series.length < windowSize * 2 then .ok []
  else match windowSize with
    | .ofNat 0 => .error .valueError
    | .negSucc _ => .ok []
    | .ofNat (size + 1) =>
        .ok ((pyRange (size + 1) (series.length - (size + 1) + 1) (size + 1)).filterMap
          (compareWindows uuid4 series (size + 1) threshold metricName))

def detectDriftFromStore (uuid4 : Nat → String) (records : List (EvaluationRecord ℚ))
    (metricName : String) (windowSize : Int) (threshold : ℚ) : Except PyErr (List DriftEvent) :=
  detectDriftEvents uuid4 (getMetricSeriesWithRuns records metricName) windowSize threshold
    metricName

end RagDrift.Temporal
