import RagDrift.Api.Remediate
import RagDrift.Optimization.Guarded

set_option autoImplicit false

/- The remediation endpoint over sequences of requests. It keeps no history of its own: what an
earlier response approved is known to a later request by its `execution_history` alone. -/
namespace RagDrift.Api

open Guardrails (validateAction validateAction_allowed_iff)
open Optimization
open Exceptions (bind_ok_iff mapError_ok_iff exists_result_of_mem)

/-- One request to the app, when it is served and the ids drawn for it. -/
structure Exchange where
  clock : CycleClock
  uuid4 : Nat → String
  request : RemediateRequest

def Exchange.response (rt : Runtime ℚ) (app : ProductionApp) (exchange : Exchange) :
    Except RemediateError RemediateResponse :=
  remediateAt rt app exchange.clock exchange.uuid4 exchange.request

/-- The action of an approved response, with its `executed_at`. -/
def approvedExecution (response : Except RemediateError RemediateResponse) :
    Option (OptimizationAction ℚ × ℚ) :=
  match response with
  | .ok ⟨status, some payload, _, _, _⟩ =>
      if status = Status.approved.text then do
        let action ← (OptimizationAction.fromDict payload).toOption
        let time ← approvedAt? action
        return (action, time)
      else none
  | _ => none

/-- Executions of one action are a cooldown apart. -/
def CooledDown (cooldownPeriodS : ℚ) (first second : Option (OptimizationAction ℚ × ℚ)) : Prop :=
  ∀ earlier ∈ first, ∀ later ∈ second, earlier.1.triple = later.1.triple →
    cooldownPeriodS ≤ |later.2 - earlier.2|

variable {rt : Runtime ℚ} {app : ProductionApp} {clock : CycleClock} {uuid4 : Nat → String}
  {request : RemediateRequest} {response : RemediateResponse}

/-- What an approval says: the action passed the checks against the history of the request. -/
theorem remediateAt_approved (answered : remediateAt rt app clock uuid4 request = .ok response)
    (approved : response.status = Status.approved.text) :
    ∃ action history decision,
      request.executionHistory.mapM OptimizationAction.fromDict = .ok history ∧
      validateAction rt app.policyEvaluator action history clock.cooldown clock.flapping =
        .ok decision ∧ decision.allowed = true ∧
      response.action = some ((approvedAction action clock.executed).toDict (uuid4 1)) := by
  rw [remediateAt] at answered
  obtain ⟨event, _, answered⟩ := bind_ok_iff.mp answered
  obtain ⟨attribution, _, answered⟩ := bind_ok_iff.mp answered
  obtain ⟨records, _, answered⟩ := bind_ok_iff.mp answered
  obtain ⟨history, decoded, answered⟩ := bind_ok_iff.mp answered
  obtain ⟨results, _, answered⟩ := bind_ok_iff.mp answered
  cases selected : selectAction rt app.optimizationEngine event results with
  | none =>
      rw [selected] at answered
      cases answered
      exact absurd approved
        (show Status.noActionNeeded.text ≠ Status.approved.text by decide)
  | some action =>
      rw [selected] at answered
      obtain ⟨decision, judged, answered⟩ := bind_ok_iff.mp answered
      cases allowed : decision.allowed with
      | false =>
          simp only [allowed] at answered
          cases answered
          exact absurd approved
            (show Status.blockedByGuardrail.text ≠ Status.approved.text by decide)
      | true =>
          simp only [allowed] at answered
          cases answered
          exact ⟨action, history, decision, mapError_ok_iff.mp decoded,
            mapError_ok_iff.mp judged, allowed, rfl⟩

/-- What is read from an approved response. -/
theorem approvedExecution_approved {found : OptimizationAction ℚ × ℚ}
    (executed : approvedExecution (remediateAt rt app clock uuid4 request) = some found) :
    ∃ action history decision,
      request.executionHistory.mapM OptimizationAction.fromDict = .ok history ∧
      validateAction rt app.policyEvaluator action history clock.cooldown clock.flapping =
        .ok decision ∧ decision.allowed = true ∧
      returnedAction (remediateAt rt app clock uuid4 request) =
        [(approvedAction action clock.executed).toDict (uuid4 1)] ∧
      found = (approvedAction action clock.executed, clock.executed) := by
  cases answered : remediateAt rt app clock uuid4 request with
  | error reason =>
      rw [answered] at executed
      cases executed
  | ok response =>
      obtain ⟨status, payload, policyDecision, count, metadata⟩ := response
      rw [answered] at executed
      cases payload with
      | none => cases executed
      | some payload =>
          rw [approvedExecution] at executed
          split_ifs at executed with approved
          obtain ⟨action, history, decision, decoded, judged, allowed, same⟩ :=
            remediateAt_approved answered approved
          cases Option.some.inj same
          have entry := approvedAction_entry action clock.executed
          rw [OptimizationAction.fromDict_toDict] at executed
          change (approvedAt? (approvedAction action clock.executed)).bind
            (fun time => some (approvedAction action clock.executed, time)) = _ at executed
          rw [entry.approvedAt?] at executed
          cases executed
          exact ⟨action, history, decision, decoded, judged, allowed, rfl, rfl⟩

/-- A later request whose history holds an approved action is held to its cooldown. -/
theorem CooledDown.of_history {earlier later : Exchange} (ordered : later.clock.Ordered)
    (passed : returnedAction (earlier.response rt app) ⊆ later.request.executionHistory) :
    CooledDown app.policyEvaluator.cooldownPeriodS (approvedExecution (earlier.response rt app))
      (approvedExecution (later.response rt app)) := by
  intro first executed second executedLater same
  obtain ⟨action, _, _, _, _, _, returned, rfl⟩ := approvedExecution_approved executed
  obtain ⟨action', history, decision, decoded, judged, allowed, _, rfl⟩ :=
    approvedExecution_approved executedLater
  have entry := approvedAction_entry action earlier.clock.executed
  have inside : (approvedAction action earlier.clock.executed).toDict (earlier.uuid4 1) ∈
      later.request.executionHistory := by
    apply passed
    rw [Exchange.response, returned]
    exact List.mem_singleton_self _
  obtain ⟨past, member, read⟩ := exists_result_of_mem decoded inside
  rw [OptimizationAction.fromDict_toDict] at read
  cases read
  obtain ⟨_, rested, _⟩ := validateAction_allowed_iff.mp ⟨decision, judged, allowed⟩
  have waited := rested _ member (signature_of_triple same)
  rw [entry.elapsed] at waited
  calc app.policyEvaluator.cooldownPeriodS ≤ later.clock.cooldown - earlier.clock.executed := waited
    _ ≤ later.clock.executed - earlier.clock.executed :=
      sub_le_sub_right (ordered.flapping.trans ordered.executed) _
    _ ≤ |later.clock.executed - earlier.clock.executed| := le_abs_self _

/-- Over every sequence of requests, executions of one action are a cooldown apart wherever the
later request hands over what the earlier response returned. -/
theorem gateway_cooldown_of_history (rt : Runtime ℚ) (app : ProductionApp)
    (exchanges : List Exchange) (ordered : ∀ exchange ∈ exchanges, exchange.clock.Ordered) :
    exchanges.Pairwise fun earlier later =>
      returnedAction (earlier.response rt app) ⊆ later.request.executionHistory →
        CooledDown app.policyEvaluator.cooldownPeriodS
          (approvedExecution (earlier.response rt app))
          (approvedExecution (later.response rt app)) := by
  apply List.pairwise_of_forall_mem_list
  intro earlier _ later inside passed
  exact CooledDown.of_history (ordered later inside) passed

/-- A request at a time that passes the given history. -/
def releaseExchange (time : ℚ) (returned : List (Dict ℚ)) : Exchange :=
  ⟨instant time, toString, RemediationInput.request
    ⟨releaseEvent, Causal.attributeDrift releaseRuntime releaseEvent releaseStore, "a1",
      releaseStore, 3, by decide⟩ returned⟩

/-- The triple and the time of an approved response. -/
def approvedTriple (exchange : Exchange) : Option ((String × String × String) × ℚ) :=
  (approvedExecution (exchange.response releaseRuntime (createProductionApp (7 / 10)))).map
    fun executed => (executed.1.triple, executed.2)

theorem approvedExecution_of_triple {exchange : Exchange} {triple : String × String × String}
    {time : ℚ} (found : approvedTriple exchange = some (triple, time)) :
    ∃ action, action.triple = triple ∧
      approvedExecution (exchange.response releaseRuntime (createProductionApp (7 / 10))) =
        some (action, time) := by
  obtain ⟨⟨action, executed⟩, here, same⟩ := Option.map_eq_some_iff.mp found
  cases same
  exact ⟨action, rfl, here⟩

def releaseTriple : String × String × String :=
  ("rollback_config", "", "d2a23888-479d-5707-b4cd-049fb3aac614")

theorem gateway_cooldown_of_history_release :
    [releaseExchange 0 [], releaseExchange 1000 (returnedAction
        ((releaseExchange 0 []).response releaseRuntime (createProductionApp (7 / 10))))].Pairwise
      fun earlier later =>
        returnedAction (earlier.response releaseRuntime (createProductionApp (7 / 10))) ⊆
            later.request.executionHistory →
          CooledDown 300
            (approvedExecution (earlier.response releaseRuntime (createProductionApp (7 / 10))))
            (approvedExecution (later.response releaseRuntime (createProductionApp (7 / 10)))) := by
  apply gateway_cooldown_of_history
  intro exchange inside
  simp only [List.mem_cons, List.not_mem_nil, or_false] at inside
  rcases inside with rfl | rfl
  · exact instant_ordered 0
  · exact instant_ordered 1000

theorem createProductionApp_cooldown (minConfidence : ℚ) :
    (createProductionApp minConfidence).policyEvaluator.cooldownPeriodS = 300 := rfl

/-- With an empty history the same action is approved again after a second. -/
theorem gateway_approves_twice : ¬ ∀ (rt : Runtime ℚ) (minConfidence : ℚ)
    (exchanges : List Exchange), (∀ exchange ∈ exchanges, exchange.clock.Ordered) →
    (exchanges.Pairwise fun earlier later => earlier.clock.finish ≤ later.clock.start) →
    exchanges.Pairwise fun earlier later =>
      CooledDown (createProductionApp minConfidence).policyEvaluator.cooldownPeriodS
        (approvedExecution (earlier.response rt (createProductionApp minConfidence)))
        (approvedExecution (later.response rt (createProductionApp minConfidence))) := by
  intro enforced
  have first : approvedTriple (releaseExchange 0 []) = some (releaseTriple, 0) := by
    decide +kernel
  have second : approvedTriple (releaseExchange 1 []) = some (releaseTriple, 1) := by
    decide +kernel
  have apart := enforced releaseRuntime (7 / 10) [releaseExchange 0 [], releaseExchange 1 []]
    (by
      intro exchange inside
      simp only [List.mem_cons, List.not_mem_nil, or_false] at inside
      rcases inside with rfl | rfl
      · exact instant_ordered 0
      · exact instant_ordered 1)
    (by simp [releaseExchange, instant])
  obtain ⟨action, triple, executed⟩ := approvedExecution_of_triple first
  obtain ⟨action', triple', executed'⟩ := approvedExecution_of_triple second
  have pair := (List.pairwise_cons.mp apart).1 _ List.mem_cons_self
  have cooled := pair _ executed _ executed' (triple.trans triple'.symm)
  rw [createProductionApp_cooldown] at cooled
  norm_num at cooled

end RagDrift.Api
