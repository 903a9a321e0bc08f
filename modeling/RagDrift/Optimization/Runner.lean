import RagDrift.Causal.Fusion
import RagDrift.Guardrails.Policy
import RagDrift.Optimization.Engine

set_option autoImplicit false

/- `evaluator.optimization.runner`: one cycle from a drift event to an action that the
guardrails let through or hold back. -/
namespace RagDrift.Optimization

open Storage (EvaluationRecord PyErr)
open Temporal (DriftEvent)
open Causal
open Counterfactual (CounterfactualResult runCounterfactualAnalysis)
open Guardrails (PolicyDecision PolicyEvaluator validateAction)

inductive Status where
  | approved
  | blockedByGuardrail
  | noActionNeeded
  deriving DecidableEq

def Status.text : Status → String
  | .approved => "approved"
  | .blockedByGuardrail => "blocked_by_guardrail"
  | .noActionNeeded => "no_action_needed"

structure OptimizationResult where
  status : Status
  action : Option (OptimizationAction ℚ)
  policyDecision : Option PolicyDecision
  counterfactualResults : List CounterfactualResult
  metadata : Dict ℚ

/-- The parts of an `OptimizationRunner` that no cycle changes. -/
structure OptimizationRunner where
  engine : OptimizationEngine
  policyEvaluator : PolicyEvaluator
  fusionEngine : CausalLatentFusionEngine

/-- The arguments of one call. -/
structure CycleInput where
  driftEvent : DriftEvent
  attribution : CausalAttribution
  store : List (EvaluationRecord ℚ)
  causalGraph : Option CausalGraph
  latentDriftResult : Option LatentDriftResult
  topK : Int

/-- What `time.time()` answers at each place one cycle may call it. -/
structure CycleClock where
  start : ℚ
  cooldown : ℚ
  flapping : ℚ
  executed : ℚ
  finish : ℚ

def fusionMetadata (engine : CausalLatentFusionEngine) (input : CycleInput) :
    List (String × PyVal ℚ) :=
  match input.causalGraph, input.latentDriftResult with
  | some graph, some result =>
      let fused := fuseDriftIntoCausalGraph engine result (some graph)
      [("fusion_applied", .bool true), ("graph_nodes", .num fused.nodes.length),
        ("node_priors", .ofDict (Dict.empty.setAll
          (fused.nodes.map fun node => (node.nodeId, .num node.priorFailureProb))))]
  | _, _ => []

def cycleTimeMs (clock : CycleClock) : PyVal ℚ :=
  .num (pyRound ((clock.finish - clock.start) * 1000) 2)

def optionalText : Option String → PyVal ℚ
  | some text => .str text
  | none => .none

/-- The history entry of an action that was held back; it carries no time. -/
def taggedAction (action : OptimizationAction ℚ) (decision : PolicyDecision) :
    OptimizationAction ℚ :=
  { action with
    metadata := action.metadata.setAll
      [("status", .str Status.blockedByGuardrail.text),
        ("guardrail_reason", .str decision.reason),
        ("rule_violated", optionalText (decision.ruleViolated.map Guardrails.Rule.text))] }

def approvedAction (action : OptimizationAction ℚ) (executedAt : ℚ) : OptimizationAction ℚ :=
  { action with
    metadata := action.metadata.setAll
      [("status", .str Status.approved.text), ("executed_at", .num executedAt)] }

/-- A cycle and the history it leaves; one that raises has not touched the history. -/
def runOptimizationCycle (rt : Runtime ℚ) (runner : OptimizationRunner) (input : CycleInput)
    (clock : CycleClock) (history : List (OptimizationAction ℚ)) :
    Except PyErr (OptimizationResult × List (OptimizationAction ℚ)) := do
  let fusion := fusionMetadata runner.fusionEngine input
  let results ← runCounterfactualAnalysis rt input.driftEvent input.attribution input.store none
    input.topK
  if results = [] then
    return (⟨.noActionNeeded, none, none, results, Dict.empty.setAll
      ([("reason", .str "No counterfactual results generated"),
        ("cycle_time_ms", cycleTimeMs clock)] ++ fusion)⟩, history)
  else
    match selectAction rt runner.engine input.driftEvent results with
    | none =>
        return (⟨.noActionNeeded, none, none, results, Dict.empty.setAll
          ([("reason", .str "No action met confidence threshold"),
            ("cycle_time_ms", cycleTimeMs clock),
            ("min_confidence", .num runner.engine.minConfidence)] ++ fusion)⟩, history)
    | some action =>
        let decision ← validateAction rt runner.policyEvaluator action history clock.cooldown
          clock.flapping
        let metadata := Dict.empty.setAll ([("cycle_time_ms", cycleTimeMs clock)] ++ fusion)
        if ¬ decision.allowed then
          let tagged := taggedAction action decision
          return (⟨.blockedByGuardrail, some tagged, some decision, results, metadata⟩,
            history ++ [tagged])
        else
          let approved := approvedAction action clock.executed
          return (⟨.approved, some approved, some decision, results, metadata⟩,
            history ++ [approved])

end RagDrift.Optimization
