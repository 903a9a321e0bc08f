import RagDrift.Monitor.Evaluation
import RagDrift.Optimization.Selectors

set_option autoImplicit false

/- `alerting.notifier`: one HTTP request for an evaluation that reports drift. -/
namespace RagDrift.Alerting

open Monitor (Evaluation Metrics)
open Optimization.Selectors (truthy)

variable {N : Type}

structure DriftAlertNotifier where
  webhookUrl : Option String

/-- `first or second`. -/
def orElse (first second : Option String) : Option String :=
  if first.getD "" = "" then second else first

/-- `__init__`, with the environment variable and the configuration. -/
def DriftAlertNotifier.ofConfig (webhookUrl environment configured : Option String) :
    DriftAlertNotifier :=
  ⟨orElse (orElse webhookUrl environment) configured⟩

/-- A request that is sent. -/
structure Alert (N : Type) where
  webhookUrl : String
  payload : Dict N

section Payload

variable [DecidableEq N] [Zero N]

/-- `eval_result.get(key, {})`, of which the caller asks entries. -/
def part (evalResult : Dict N) (key : String) : Option (Dict N) :=
  match evalResult.get? key with
  | none => some .empty
  | some value => value.asDict?

/-- `part.get(key, 0.0)`. -/
def entry (part : Dict N) (key : String) : String × PyVal N :=
  (key, (part.get? key).getD (.num 0))

/-- `build_payload`; `none` is an `AttributeError`. -/
def buildPayload (evalResult : Dict N) (batchId : Option String) : Option (Dict N) := do
  let vector ← part evalResult "vector_drift"
  let graph ← part evalResult "graph_drift"
  let swarm ← part evalResult "swarm_drift"
  return Dict.empty.setAll
    [("event", .str "drift_alert"),
      ("is_drifted", .bool (truthy (evalResult.get "is_drifted"))),
      ("batch_id", (batchId.map .str).getD .none),
      ("vector_drift", .ofDict (Dict.empty.setAll
        [entry vector "js_divergence", entry vector "mmd_score"])),
      ("graph_drift", .ofDict (Dict.empty.setAll
        [entry graph "spectral_distance", entry graph "density_delta"])),
      ("swarm_drift", .ofDict (Dict.empty.setAll
        [entry swarm "transition_entropy_delta", entry swarm "avg_reflection_iterations_delta"]))]

/-- The request of `notify_if_drifted`, where it gets to one. -/
def DriftAlertNotifier.alert (notifier : DriftAlertNotifier) (evalResult : Dict N)
    (batchId : Option String) : Option (Option (Alert N)) :=
  if truthy (evalResult.get "is_drifted") then
    match notifier.webhookUrl with
    | none => some none
    | some url =>
        if url = "" then some none
        else (buildPayload evalResult batchId).map fun payload => some ⟨url, payload⟩
  else some none

/-- `notify_if_drifted`, for a server that answers the request or not. -/
def DriftAlertNotifier.notifyIfDrifted (notifier : DriftAlertNotifier) (evalResult : Dict N)
    (batchId : Option String) (answers : Alert N → Bool) : Option Bool :=
  (notifier.alert evalResult batchId).map fun alert => alert.any answers

end Payload

section Result

def vectorDict (result : Evaluation N) : Dict N :=
  Dict.empty.setAll
    [("js_divergence", .num result.vectorDrift.jsDivergence),
      ("mmd_score", .num result.vectorDrift.mmdScore),
      ("is_drifted", .bool result.vectorDrift.isDrifted)]

def graphDict [IntCast N] (result : Evaluation N) : Dict N :=
  Dict.empty.setAll
    [("spectral_distance", .num result.graphDrift.spectralDistance),
      ("density_delta", .num result.graphDrift.densityDelta),
      ("node_count_delta", .num result.graphDrift.nodeCountDelta),
      ("is_graph_drifted", .bool result.graphDrift.isGraphDrifted)]

def swarmDict (result : Evaluation N) : Dict N :=
  Dict.empty.setAll
    [("transition_entropy_delta", .num result.swarmDrift.transitionEntropyDelta),
      ("avg_reflection_iterations_delta", .num result.swarmDrift.avgReflectionIterationsDelta),
      ("is_swarm_drifted", .bool result.swarmDrift.isSwarmDrifted)]

/-- The dictionary that `evaluate_frames` returns. -/
def resultDict [IntCast N] (result : Evaluation N) : Dict N :=
  Dict.empty.setAll
    [("vector_drift", .ofDict (vectorDict result)), ("graph_drift", .ofDict (graphDict result)),
      ("swarm_drift", .ofDict (swarmDict result)), ("is_drifted", .bool result.isDrifted)]

/-- What an alert says, by what is stored with the frames of the same evaluation. -/
def alertPayload (metrics : Metrics N) : Dict N :=
  Dict.empty.setAll
    [("event", .str "drift_alert"), ("is_drifted", .bool metrics.isDrifted), ("batch_id", .none),
      ("vector_drift", .ofDict (Dict.empty.setAll
        [("js_divergence", .num metrics.jsDivergence), ("mmd_score", .num metrics.mmdScore)])),
      ("graph_drift", .ofDict (Dict.empty.setAll
        [("spectral_distance", .num metrics.spectralDistance),
          ("density_delta", .num metrics.densityDelta)])),
      ("swarm_drift", .ofDict (Dict.empty.setAll
        [("transition_entropy_delta", .num metrics.transitionEntropyDelta),
          ("avg_reflection_iterations_delta", .num metrics.avgReflectionIterationsDelta)]))]

theorem part_of_get? {evalResult found : Dict N} {key : String}
    (holds : evalResult.get? key = some (.ofDict found)) : part evalResult key = some found := by
  rw [part, holds]
  exact PyVal.asDict?_ofDict found

theorem resultDict_parts [IntCast N] (result : Evaluation N) :
    part (resultDict result) "vector_drift" = some (vectorDict result) ∧
      part (resultDict result) "graph_drift" = some (graphDict result) ∧
      part (resultDict result) "swarm_drift" = some (swarmDict result) ∧
      (resultDict result).get "is_drifted" = .bool result.isDrifted := by
  refine ⟨part_of_get? ?_, part_of_get? ?_, part_of_get? ?_, ?_⟩
  · simp [resultDict, Dict.setAll, Dict.get?_set]
  · simp [resultDict, Dict.setAll, Dict.get?_set]
  · simp [resultDict, Dict.setAll, Dict.get?_set]
  · simp [resultDict, Dict.setAll, Dict.get_set]

theorem entry_of_get? [Zero N] {part : Dict N} {key : String} {number : N}
    (holds : part.get? key = some (.num number)) : entry part key = (key, .num number) := by
  rw [entry, holds, Option.getD_some]

section Entries

variable [Zero N] (result : Evaluation N)

theorem vectorDict_entries :
    entry (vectorDict result) "js_divergence" =
        ("js_divergence", .num result.vectorDrift.jsDivergence) ∧
      entry (vectorDict result) "mmd_score" = ("mmd_score", .num result.vectorDrift.mmdScore) := by
  constructor
  · exact entry_of_get? (by simp [vectorDict, Dict.setAll, Dict.get?_set])
  · exact entry_of_get? (by simp [vectorDict, Dict.setAll, Dict.get?_set])

theorem graphDict_entries [IntCast N] :
    entry (graphDict result) "spectral_distance" =
        ("spectral_distance", .num result.graphDrift.spectralDistance) ∧
      entry (graphDict result) "density_delta" =
        ("density_delta", .num result.graphDrift.densityDelta) := by
  constructor
  · exact entry_of_get? (by simp [graphDict, Dict.setAll, Dict.get?_set])
  · exact entry_of_get? (by simp [graphDict, Dict.setAll, Dict.get?_set])

theorem swarmDict_entries :
    entry (swarmDict result) "transition_entropy_delta" =
        ("transition_entropy_delta", .num result.swarmDrift.transitionEntropyDelta) ∧
      entry (swarmDict result) "avg_reflection_iterations_delta" =
        ("avg_reflection_iterations_delta",
          .num result.swarmDrift.avgReflectionIterationsDelta) := by
  constructor
  · exact entry_of_get? (by simp [swarmDict, Dict.setAll, Dict.get?_set])
  · exact entry_of_get? (by simp [swarmDict, Dict.setAll, Dict.get?_set])

end Entries

variable [DecidableEq N] [Zero N] [IntCast N]

/-- The payload is read off what is stored. -/
theorem buildPayload_resultDict (result : Evaluation N) :
    buildPayload (resultDict result) none = some (alertPayload result.metrics) := by
  obtain ⟨vector, graph, swarm, drifted⟩ := resultDict_parts result
  obtain ⟨js, mmd⟩ := vectorDict_entries result
  obtain ⟨spectral, density⟩ := graphDict_entries result
  obtain ⟨entropy, reflections⟩ := swarmDict_entries result
  rw [buildPayload, vector, graph, swarm, drifted]
  simp only [Option.bind_eq_bind, Option.bind_some, js, mmd, spectral, density, entropy,
    reflections, Option.map_none, Option.getD_none]
  rfl

/-- The requests for an evaluation: one if it reports drift and a URL is configured. -/
def DriftAlertNotifier.alerts (notifier : DriftAlertNotifier) (result : Evaluation N) :
    List (Alert N) :=
  ((notifier.alert (resultDict result) none).getD none).toList

/-- An evaluation never makes the notifier raise. -/
theorem alert_resultDict (notifier : DriftAlertNotifier) (result : Evaluation N) :
    notifier.alert (resultDict result) none =
      some (if result.isDrifted then
        (notifier.webhookUrl.filter (· ≠ "")).map fun url => ⟨url, alertPayload result.metrics⟩
      else none) := by
  have drifted := (resultDict_parts result).2.2.2
  rw [DriftAlertNotifier.alert, drifted, buildPayload_resultDict]
  cases result.isDrifted with
  | false => rfl
  | true =>
      cases notifier.webhookUrl with
      | none => rfl
      | some url =>
          by_cases empty : url = ""
          · subst empty
            rfl
          · simp only [truthy, PyVal.bool, if_true, empty, if_false, Option.map_some,
              Option.filter, ne_eq, not_false_eq_true, decide_true]

theorem alerts_eq (notifier : DriftAlertNotifier) (result : Evaluation N) :
    notifier.alerts result = if result.isDrifted then
      ((notifier.webhookUrl.filter (· ≠ "")).map fun url =>
        (⟨url, alertPayload result.metrics⟩ : Alert N)).toList else [] := by
  rw [DriftAlertNotifier.alerts, alert_resultDict, Option.getD_some]
  split <;> rfl

end Result

end RagDrift.Alerting
