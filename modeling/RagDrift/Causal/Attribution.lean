import RagDrift.Causal.Changes
import RagDrift.Temporal.DriftDetection
import RagDrift.Python.Round

set_option autoImplicit false

/- `evaluator.causal.feature_builder` and `evaluator.causal.attribution`: scoring the changes
of a history against one drift event. -/
namespace RagDrift.Causal

open Storage (EvaluationRecord)
open Temporal (DriftEvent)

/-- A candidate cause. -/
structure CausalFactor where
  factorName : String
  score : ℚ
  relatedRunIds : List String
  metadata : Dict ℚ

structure CausalAttribution where
  driftEventId : String
  metricName : String
  factors : List CausalFactor
  confidence : ℚ
  metadata : Dict ℚ

structure DriftFeature where
  changeId : String
  runId : String
  changeType : ChangeType
  changeTypeWeight : ℚ
  timeDelta : ℚ
  inWindow : Bool
  driftMagnitude : ℚ
  details : Dict ℚ

def changeTypeWeight : ChangeType → ℚ
  | .modelUpdate => 1
  | .versionChange => 8 / 10
  | .configChange => 6 / 10
  | .unknown => 3 / 10

def driftFeature (event : DriftEvent) (change : ChangeEvent ℚ) : DriftFeature :=
  let inWindow := event.startTimestamp ≤ change.timestamp ∧ change.timestamp ≤ event.endTimestamp
  { changeId := change.changeId
    runId := change.runId
    changeType := change.changeType
    changeTypeWeight := changeTypeWeight change.changeType
    timeDelta :=
      if inWindow then 0
      else min |change.timestamp - event.startTimestamp| |change.timestamp - event.endTimestamp|
    inWindow := inWindow
    driftMagnitude := event.magnitude
    details := change.details.toDict }

def buildDriftFeatures (event : DriftEvent) (changes : List (ChangeEvent ℚ)) :
    List DriftFeature :=
  (changes.insertionSort fun left right => left.timestamp ≤ right.timestamp).map
    (driftFeature event)

/-- `max(values, default=default)`. -/
def maxOr (default : ℚ) : List ℚ → ℚ
  | [] => default
  | first :: rest => rest.foldl max first

def timeScore (maxDelta : ℚ) (feature : DriftFeature) : ℚ :=
  let timeScore := if maxDelta > 0 then 1 - feature.timeDelta / maxDelta else 1
  if feature.inWindow then timeScore * (5 / 10) + 5 / 10 else timeScore

def scoreFeature (maxDelta maxMagnitude : ℚ) (feature : DriftFeature) : CausalFactor :=
  let magScore := if maxMagnitude > 0 then feature.driftMagnitude / maxMagnitude else 0
  let rawScore := 4 / 10 * timeScore maxDelta feature + 3 / 10 * feature.changeTypeWeight +
    3 / 10 * magScore
  { factorName := feature.changeType.text
    score := pyRound (max 0 (min 1 rawScore)) 4
    relatedRunIds := [feature.runId]
    metadata := Dict.empty.setAll
      [("change_id", .str feature.changeId), ("time_delta", .num feature.timeDelta),
        ("in_window", .bool feature.inWindow), ("change_details", .ofDict feature.details)] }

/-- `sorted(factors, key=lambda f: f.score, reverse=True)`, which keeps the order of equal
scores. -/
def sortByScore (factors : List CausalFactor) : List CausalFactor :=
  factors.insertionSort fun left right => right.score ≤ left.score

theorem mem_sortByScore {factors : List CausalFactor} {factor : CausalFactor} :
    factor ∈ sortByScore factors ↔ factor ∈ factors :=
  (List.perm_insertionSort _ _).mem_iff

def scoreCausalImpact (features : List DriftFeature) : List CausalFactor :=
  let maxDelta := maxOr 0 (features.map DriftFeature.timeDelta)
  let maxMagnitude := maxOr 1 (features.map DriftFeature.driftMagnitude)
  sortByScore (features.map (scoreFeature maxDelta maxMagnitude))

def computeConfidence : List CausalFactor → ℚ
  | [] => 0
  | [factor] => pyRound factor.score 4
  | first :: rest =>
      let total := ((first :: rest).map CausalFactor.score).sum
      if total = 0 then 0 else pyRound (first.score / total) 4

def attributeDrift (rt : Runtime ℚ) (event : DriftEvent) (records : List (EvaluationRecord ℚ)) :
    CausalAttribution :=
  let changes := extractChangeEvents rt records
  let factors := scoreCausalImpact (buildDriftFeatures event changes)
  { driftEventId := event.eventId
    metricName := event.metricName
    factors := factors
    confidence := computeConfidence factors
    metadata := Dict.empty.setAll
      [("num_changes_examined", .num changes.length), ("num_factors", .num factors.length),
        ("scoring_method", .str "heuristic_weighted_composite")] }

end RagDrift.Causal
