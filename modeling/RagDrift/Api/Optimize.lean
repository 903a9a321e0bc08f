import RagDrift.Api.Pipeline
import RagDrift.Optimization.Recommendations
import RagDrift.Temporal.Shifts

set_option autoImplicit false

/- `POST /optimize` and the `remediate` command: one run of the pipeline on the first drift
event, and when that event is the one with the largest shift. -/
namespace RagDrift

open Storage (EvaluationRecord PyErr)
open Temporal
open Causal (CausalAttribution attributeDrift)
open Counterfactual (CounterfactualResult ResultMetadata runCounterfactualAnalysis InfoDict
  infoDict_of_none runCounterfactualAnalysis_eq)

namespace Optimization

/-- `plan_id` is filled in by `__post_init__`. -/
structure OptimizationPlan where
  driftEventId : String
  recommendations : List OptimizationRecommendation
  summary : String
  metadata : Dict ℚ
  planId : String

def buildSummary (rt : Runtime ℚ) (recommendations : List OptimizationRecommendation)
    (driftEvent : DriftEvent) : String :=
  match recommendations with
  | [] => "No actionable recommendations for drift event " ++ driftEvent.eventId ++
      ". No causal factors identified."
  | top :: _ =>
      let improvement := pyRound top.expectedImprovement 4
      let parts := ["Top recommendation: " ++ top.action.description.toLower] ++
        (if top.action.targetRunId ≠ "" then ["in run " ++ top.action.targetRunId] else []) ++
        ["(expected improvement: " ++ rt.str (.num improvement) ++ ")"] ++
        (if top.confidence > 0 then ["confidence: " ++ rt.str (.num top.confidence)] else [])
      " ".intercalate parts

def generateOptimizationPlan (rt : Runtime ℚ) (planId : String) (driftEvent : DriftEvent)
    (attribution : CausalAttribution) (counterfactuals : List CounterfactualResult) :
    OptimizationPlan :=
  let actions := generateActions rt attribution
  let recommendations := scoreActions actions counterfactuals
  { driftEventId := driftEvent.eventId
    recommendations := recommendations
    summary := buildSummary rt recommendations driftEvent
    metadata := Dict.empty.setAll
      [("metric_name", .str attribution.metricName), ("num_actions", .num actions.length),
        ("num_recommendations", .num recommendations.length),
        ("drift_magnitude", .num driftEvent.magnitude)]
    planId := planId }

def OptimizationRecommendation.toDict (actionId recommendationId : String)
    (rec : OptimizationRecommendation) : Dict ℚ :=
  Dict.empty.setAll
    [("recommendation_id", .str recommendationId),
      ("action", .ofDict (rec.action.toDict actionId)),
      ("expected_improvement", .num rec.expectedImprovement), ("confidence", .num rec.confidence),
      ("priority", .num rec.priority),
      ("metadata", .ofDict (Dict.empty.setAll
        [("source", .str rec.source),
          ("cf_metadata", .ofDict ((rec.cfMetadata.map ResultMetadata.toDict).getD .empty))]))]

/-- The ids of an action and of its recommendation are fresh. -/
def OptimizationPlan.toDict (uuid4 : Nat → String) (plan : OptimizationPlan) : Dict ℚ :=
  Dict.empty.setAll
    [("plan_id", .str plan.planId), ("drift_event_id", .str plan.driftEventId),
      ("recommendations", .dicts (plan.recommendations.zipIdx.map fun item =>
        item.1.toDict (uuid4 (2 * item.2)) (uuid4 (2 * item.2 + 1)))),
      ("summary", .str plan.summary), ("metadata", .ofDict plan.metadata)]

end Optimization

namespace Api

open Optimization

/-- What `/optimize` and the command are asked for. -/
structure RemediateArgs where
  metric : String
  windowSize : Int
  threshold : ℚ
  topK : Int

/-- The bounds of the schema. -/
structure OptimizationRequest extends RemediateArgs where
  window : 1 ≤ windowSize
  nonneg : 0 ≤ threshold
  some : 1 ≤ topK

/-- The drift events of a run, the one it works on, and what it makes of that. -/
structure PipelineRun where
  driftEvents : List DriftEvent
  driftEvent : DriftEvent
  attribution : CausalAttribution
  counterfx : List CounterfactualResult
  plan : OptimizationPlan

/-- What `uuid.uuid4()` gives for the events, by where their windows start, for the plan, and
for the actions and recommendations. -/
structure PipelineIds where
  event : Nat → String
  plan : String
  recommendation : Nat → String

/-- Attribution, simulation and plan for one event. -/
def planFor (rt : Runtime ℚ) (ids : PipelineIds) (store : List (EvaluationRecord ℚ))
    (topK : Int) (driftEvents : List DriftEvent) (driftEvent : DriftEvent) :
    Except PyErr PipelineRun := do
  let attribution := attributeDrift rt driftEvent store
  let counterfx ← runCounterfactualAnalysis rt driftEvent attribution store none topK
  let plan := generateOptimizationPlan rt ids.plan driftEvent attribution counterfx
  return ⟨driftEvents, driftEvent, attribution, counterfx, plan⟩

/-- The run of `/optimize` and of the command, on the first of the events. -/
def runPipeline (rt : Runtime ℚ) (ids : PipelineIds) (store : List (EvaluationRecord ℚ))
    (args : RemediateArgs) : Except PyErr (Option PipelineRun) := do
  let driftEvents ← detectDriftFromStore ids.event store args.metric args.windowSize
    args.threshold
  match driftEvents with
  | [] => return none
  | driftEvent :: _ => (planFor rt ids store args.topK driftEvents driftEvent).map some

structure OptimizationResponse where
  plan : Dict ℚ
  driftEventsFound : Nat
  attributionFactors : Nat
  counterfactualResults : Nat
  recommendations : Nat

def OptimizationResponse.of (ids : PipelineIds) : Option PipelineRun → OptimizationResponse
  | none =>
      { plan := Dict.empty.setAll
          [("drift_event_id", .str ""), ("recommendations", .dicts []),
            ("summary", .str "No drift detected — no optimization needed."),
            ("metadata", .ofDict (Dict.empty.setAll
              [("drift_events_found", .num 0), ("attribution_factors", .num 0),
                ("counterfactual_results", .num 0), ("recommendations", .num 0)]))]
        driftEventsFound := 0
        attributionFactors := 0
        counterfactualResults := 0
        recommendations := 0 }
  | some run =>
      { plan := run.plan.toDict ids.recommendation
        driftEventsFound := run.driftEvents.length
        attributionFactors := run.attribution.factors.length
        counterfactualResults := run.counterfx.length
        recommendations := run.plan.recommendations.length }

/-- `POST /optimize`. -/
def optimize (rt : Runtime ℚ) (ids : PipelineIds) (store : List (EvaluationRecord ℚ))
    (request : OptimizationRequest) : Except PyErr OptimizationResponse :=
  (runPipeline rt ids store request.toRemediateArgs).map (OptimizationResponse.of ids)

def recommendationLine (rt : Runtime ℚ) (rec : OptimizationRecommendation) : String :=
  "  #" ++ toString rec.priority ++ " [" ++ rec.action.actionType ++ "] → " ++
    rec.action.description ++ " (improvement: " ++ rt.fixed 4 rec.expectedImprovement ++
    ", confidence: " ++ rt.fixed 2 rec.confidence ++ ")"

/-- The lines printed behind the first one. -/
def remediateLines (rt : Runtime ℚ) : Option PipelineRun → List String
  | none => ["No drift detected. No optimization needed."]
  | some run =>
      ["      Found drift event " ++ run.driftEvent.eventId, "[2/4] Attributing root causes...",
        "      Found " ++ toString run.attribution.factors.length ++ " causal factor(s)",
        "[3/4] Running counterfactual simulations...",
        "      Generated " ++ toString run.counterfx.length ++ " counterfactual result(s)",
        "[4/4] Generating optimization plan...", "", run.plan.summary, ""] ++
      match run.plan.recommendations with
      | [] => ["No recommendations generated."]
      | recommendations => "Recommendations:" :: recommendations.map (recommendationLine rt)

/-- `sentrix remediate`, as the lines of a run to its end. -/
def cmdRemediate (rt : Runtime ℚ) (ids : PipelineIds) (store : List (EvaluationRecord ℚ))
    (args : RemediateArgs) : Except PyErr (List String) :=
  (runPipeline rt ids store args).map fun run =>
    ("[1/4] Detecting drift on metric '" ++ args.metric ++ "'...") :: remediateLines rt run

variable (rt : Runtime ℚ) (ids : PipelineIds) (store : List (EvaluationRecord ℚ))
  (args : RemediateArgs)

theorem runPipeline_head {events : List DriftEvent} {chosen : DriftEvent}
    (detected : detectDriftFromStore ids.event store args.metric args.windowSize args.threshold =
      .ok events) (head : events.head? = some chosen) :
    runPipeline rt ids store args =
      (planFor rt ids store args.topK events chosen).map some := by
  cases events with
  | nil => cases head
  | cons first rest =>
      rw [List.head?_cons, Option.some.injEq] at head
      rw [runPipeline, detected, ← head]
      rfl

/-- Where the history holds no value under `system_info` but dictionaries, the run ends. -/
theorem planFor_ok (info : ∀ record ∈ store, InfoDict record) (events : List DriftEvent)
    (chosen : DriftEvent) :
    ∃ run, planFor rt ids store args.topK events chosen = .ok run ∧
      run.driftEvents = events ∧ run.driftEvent = chosen := by
  rw [planFor, runCounterfactualAnalysis_eq rt chosen (attributeDrift rt chosen store) info none]
  exact ⟨_, rfl, rfl, rfl⟩

/-- The pipeline plans for the first event. No event of the list is above it exactly where the
first shift past the threshold is the largest. -/
theorem planned_most_significant_iff {events : List DriftEvent}
    (detected : detectDriftFromStore ids.event store args.metric args.windowSize args.threshold =
      .ok events) (found : events ≠ []) :
    ∃ chosen, events.head? = some chosen ∧
      (∀ request : OptimizationRequest, request.toRemediateArgs = args →
        optimize rt ids store request =
          (planFor rt ids store args.topK events chosen).map fun run =>
            OptimizationResponse.of ids (some run)) ∧
      (cmdRemediate rt ids store args =
        (planFor rt ids store args.topK events chosen).map fun run =>
          ("[1/4] Detecting drift on metric '" ++ args.metric ++ "'...") ::
            remediateLines rt (some run)) ∧
      ((∀ event ∈ events, event.magnitude ≤ chosen.magnitude) ↔
        FirstShiftLargest (getMetricSeriesWithRuns store args.metric) args.windowSize.toNat
          args.threshold) := by
  obtain ⟨chosen, rest, rfl⟩ := List.exists_cons_of_ne_nil found
  have head : (chosen :: rest).head? = some chosen := rfl
  have ran := runPipeline_head rt ids store args detected head
  refine ⟨chosen, head, ?_, ?_, first_largest_iff detected head⟩
  · rintro request rfl
    rw [optimize, ran]
    cases planFor rt ids store request.topK (chosen :: rest) chosen <;> rfl
  · rw [cmdRemediate, ran]
    cases planFor rt ids store args.topK (chosen :: rest) chosen <;> rfl

def shiftRecord (runId : String) (timestamp value : ℚ) : EvaluationRecord ℚ :=
  ⟨runId, [⟨"js_divergence", value, Dict.empty, .metricResult⟩], Dict.empty, none, runId,
    timestamp⟩

/-- From 0.1 to 0.3, and then to 0.9. -/
def shiftStore : List (EvaluationRecord ℚ) :=
  [shiftRecord "r1" 1 (1 / 10), shiftRecord "r2" 2 (3 / 10), shiftRecord "r3" 3 (9 / 10)]

def shiftIds : PipelineIds := ⟨toString, "p1", toString⟩

def shiftRequest : OptimizationRequest :=
  ⟨⟨"js_divergence", 1, 15 / 100, 3⟩, by decide, by decide +kernel, by decide⟩

theorem shiftStore_infoDict : ∀ record ∈ shiftStore, InfoDict record :=
  infoDict_of_none (by decide +kernel)

theorem shiftStore_detected : ∃ events,
    detectDriftFromStore shiftIds.event shiftStore "js_divergence" 1 (15 / 100) = .ok events ∧
      events ≠ [] := by
  have inside : 1 ∈ starts (getMetricSeriesWithRuns shiftStore "js_divergence") 1 := by
    decide +kernel
  exact detect_of_shift toString "js_divergence" le_rfl inside (by decide +kernel)

theorem planned_most_significant_iff_shift : ∃ events,
    detectDriftFromStore shiftIds.event shiftStore "js_divergence" 1 (15 / 100) = .ok events ∧
    ∃ chosen, events.head? = some chosen ∧
      (∀ request : OptimizationRequest,
        request.toRemediateArgs = shiftRequest.toRemediateArgs →
        optimize (decimalRuntime []) shiftIds shiftStore request =
          (planFor (decimalRuntime []) shiftIds shiftStore 3 events chosen).map fun run =>
            OptimizationResponse.of shiftIds (some run)) ∧
      (cmdRemediate (decimalRuntime []) shiftIds shiftStore shiftRequest.toRemediateArgs =
        (planFor (decimalRuntime []) shiftIds shiftStore 3 events chosen).map fun run =>
          "[1/4] Detecting drift on metric 'js_divergence'..." ::
            remediateLines (decimalRuntime []) (some run)) ∧
      ((∀ event ∈ events, event.magnitude ≤ chosen.magnitude) ↔
        FirstShiftLargest (getMetricSeriesWithRuns shiftStore "js_divergence") 1
          (15 / 100)) := by
  obtain ⟨events, detected, found⟩ := shiftStore_detected
  exact ⟨events, detected, planned_most_significant_iff (decimalRuntime []) shiftIds shiftStore
    shiftRequest.toRemediateArgs detected found⟩

/-- The plan is made for the shift of 0.2, and the one of 0.6 is passed over. -/
theorem larger_shift_passed_over : ¬ ∀ (rt : Runtime ℚ) (ids : PipelineIds)
    (store : List (EvaluationRecord ℚ)) (request : OptimizationRequest) (run : PipelineRun),
    runPipeline rt ids store request.toRemediateArgs = .ok (some run) →
    ∀ event ∈ run.driftEvents, event.magnitude ≤ run.driftEvent.magnitude := by
  intro all
  obtain ⟨events, detected, found⟩ := shiftStore_detected
  obtain ⟨chosen, rest, rfl⟩ := List.exists_cons_of_ne_nil found
  obtain ⟨run, planned, listed, worked⟩ := planFor_ok (decimalRuntime []) shiftIds shiftStore
    shiftRequest.toRemediateArgs shiftStore_infoDict (chosen :: rest) chosen
  have head : (chosen :: rest).head? = some chosen := rfl
  have ran := runPipeline_head (decimalRuntime []) shiftIds shiftStore
    shiftRequest.toRemediateArgs detected head
  rw [planned] at ran
  have largest := all _ _ _ shiftRequest run ran
  rw [listed, worked] at largest
  have first := (first_largest_iff detected head).mp largest 1 (by decide +kernel) 2
    (by decide +kernel)
  exact absurd first (by decide +kernel)

end Api

end RagDrift
