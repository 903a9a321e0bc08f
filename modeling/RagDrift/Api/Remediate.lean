import RagDrift.Api.Payloads
import RagDrift.Optimization.Executions
import RagDrift.Storage.Typed

set_option autoImplicit false

/- `evaluator.api.app`: the remediation endpoint, which runs the cycle of the runner without
the runner, and the client that hands it the history. -/
namespace RagDrift.Api

open Storage (EvaluationRecord LoadedRecord PyErr)
open Temporal (DriftEvent)
open Causal (CausalAttribution)
open Counterfactual (runCounterfactualAnalysis)
open Guardrails (PolicyEvaluator validateAction validateAction_ruleViolated)
open Optimization

structure RemediateRequest where
  driftEvent : Dict ℚ
  attribution : Dict ℚ
  executionHistory : List (Dict ℚ)
  storeRecords : List (Dict ℚ)
  topK : Int
  positive : 1 ≤ topK

structure RemediateResponse where
  status : String
  action : Option (Dict ℚ)
  policyDecision : Option (Dict ℚ)
  counterfactualCount : Nat
  metadata : Dict ℚ

/-- What ends a request with an error. -/
inductive RemediateError where
  | decode (reason : DecodeError)
  | raised (reason : PyErr)
  deriving DecidableEq

/-- What `time.time()` and the calls of `uuid.uuid4()` answer during a request. -/
structure Ambient where
  now : ℚ
  uuid4 : Nat → String

structure ProductionApp where
  optimizationEngine : OptimizationEngine
  policyEvaluator : PolicyEvaluator

def createProductionApp (minConfidence : ℚ) : ProductionApp :=
  ⟨⟨minConfidence, "rollback_config"⟩, .default⟩

/-- `application.state.runner`, which no endpoint calls. -/
def ProductionApp.runner (app : ProductionApp) : OptimizationRunner :=
  ⟨app.optimizationEngine, app.policyEvaluator, .default⟩

/-- `EvaluationRecord.from_dict`. -/
def loadRecord (ambient : Ambient) (data : Dict ℚ) (uuid4 : String) :
    Except RemediateError (EvaluationRecord ℚ) := do
  let loaded ← (LoadedRecord.fromDict (.obj data.members)).mapError RemediateError.raised
  match loaded.typed? uuid4 ambient.now with
  | some record => .ok record
  | none => .error (.decode (.untyped "store_records"))

/-- The two ids before those of the records are for the event and the returned action. -/
def loadRecords (ambient : Ambient) (storeRecords : List (Dict ℚ)) :
    Except RemediateError (List (EvaluationRecord ℚ)) :=
  storeRecords.zipIdx.mapM fun indexed =>
    loadRecord ambient indexed.1 (ambient.uuid4 (indexed.2 + 2))

def decisionDict (allowed : Bool) (reason : String) (ruleViolated : Option String) : Dict ℚ :=
  Dict.empty.setAll
    [("allowed", .bool allowed), ("reason", .str reason),
      ("rule_violated", optionalText ruleViolated)]

/-- `POST /v1/remediate` with the readings of the clock at each place that reads it. -/
def remediateAt (rt : Runtime ℚ) (app : ProductionApp) (clock : CycleClock)
    (uuid4 : Nat → String) (request : RemediateRequest) :
    Except RemediateError RemediateResponse := do
  let driftEvent ← (DriftEvent.fromDict (uuid4 0) request.driftEvent).mapError .decode
  let attribution ← (CausalAttribution.fromDict request.attribution).mapError .decode
  let inMemory ← loadRecords ⟨clock.start, uuid4⟩ request.storeRecords
  let execHistory ← (request.executionHistory.mapM OptimizationAction.fromDict).mapError .decode
  let cfResults ← (runCounterfactualAnalysis rt driftEvent attribution inMemory none
    request.topK).mapError .raised
  match selectAction rt app.optimizationEngine driftEvent cfResults with
  | none => return ⟨Status.noActionNeeded.text, none, none, cfResults.length, .empty⟩
  | some action =>
      let decision ← (validateAction rt app.policyEvaluator action execHistory clock.cooldown
        clock.flapping).mapError .raised
      let ruleViolated := decision.ruleViolated.map Guardrails.Rule.text
      if ¬ decision.allowed then
        let resultAction := { action with
          metadata := action.metadata.setAll
            [("status", .str Status.blockedByGuardrail.text),
              ("guardrail_reason", .str decision.reason),
              ("rule_violated", optionalText ruleViolated)] }
        return ⟨Status.blockedByGuardrail.text, some (resultAction.toDict (uuid4 1)),
          some (decisionDict false decision.reason ruleViolated), cfResults.length, .empty⟩
      else
        let approvedAction := { action with
          metadata := action.metadata.setAll
            [("status", .str Status.approved.text), ("executed_at", .num clock.executed)] }
        return ⟨Status.approved.text, some (approvedAction.toDict (uuid4 1)),
          some (decisionDict true decision.reason none), cfResults.length, .empty⟩

/-- A clock that stands still. -/
def Ambient.clock (ambient : Ambient) : CycleClock :=
  ⟨ambient.now, ambient.now, ambient.now, ambient.now, ambient.now⟩

/-- `POST /v1/remediate`. -/
def remediate (rt : Runtime ℚ) (app : ProductionApp) (ambient : Ambient)
    (request : RemediateRequest) : Except RemediateError RemediateResponse :=
  remediateAt rt app ambient.clock ambient.uuid4 request

/-- One input, for the endpoint and for the runner. -/
structure RemediationInput where
  driftEvent : DriftEvent
  attribution : CausalAttribution
  attributionId : String
  records : List (EvaluationRecord ℚ)
  topK : Int
  positive : 1 ≤ topK

/-- What the client sends, with the actions it was given before. -/
def RemediationInput.request (input : RemediationInput) (returned : List (Dict ℚ)) :
    RemediateRequest where
  driftEvent := input.driftEvent.toDict
  attribution := input.attribution.toDict input.attributionId
  executionHistory := returned
  storeRecords := input.records.map EvaluationRecord.dict
  topK := input.topK
  positive := input.positive

def RemediationInput.cycle (input : RemediationInput) : CycleInput :=
  ⟨input.driftEvent, input.attribution, input.records, none, none, input.topK⟩

/-- The action of a response, if there is one. -/
def returnedAction : Except RemediateError RemediateResponse → List (Dict ℚ)
  | .ok response => response.action.toList
  | .error _ => []

/-- The responses to a client that passes the actions of all earlier ones. -/
def clientResponses (rt : Runtime ℚ) (app : ProductionApp) :
    List (Ambient × RemediationInput) → List (Dict ℚ) →
      List (Except RemediateError RemediateResponse)
  | [], _ => []
  | (ambient, input) :: rest, returned =>
      let response := remediate rt app ambient (input.request returned)
      response :: clientResponses rt app rest (returned ++ returnedAction response)

/-- The results of one runner. -/
def runnerResults (rt : Runtime ℚ) (runner : OptimizationRunner) :
    List (Ambient × RemediationInput) → List (OptimizationAction ℚ) →
      List (Except PyErr OptimizationResult)
  | [], _ => []
  | (ambient, input) :: rest, history =>
      (runOptimizationCycle rt runner input.cycle ambient.clock history).map Prod.fst ::
        runnerResults rt runner rest (historyAfter rt runner input.cycle ambient.clock history)

/-- The status, the action without its id, the decision and the number of results. -/
structure Outcome where
  status : String
  action : Option (Dict ℚ)
  policyDecision : Option (Dict ℚ)
  counterfactualCount : Nat

def RemediateResponse.outcome (response : RemediateResponse) : Outcome where
  status := response.status
  action := response.action.map fun action => action.erase "action_id"
  policyDecision := response.policyDecision
  counterfactualCount := response.counterfactualCount

/-- These fields of `OptimizationResult.to_dict`. -/
def resultOutcome (result : OptimizationResult) : Outcome where
  status := result.status.text
  action := result.action.map fun action => Dict.empty.setAll action.fields
  policyDecision := result.policyDecision.map fun decision =>
    decisionDict decision.allowed decision.reason (decision.ruleViolated.map Guardrails.Rule.text)
  counterfactualCount := result.counterfactualResults.length

/-- The actions a client holds are the history of the runner. -/
def Represents (returned : List (Dict ℚ)) (history : List (OptimizationAction ℚ)) : Prop :=
  returned.mapM OptimizationAction.fromDict = .ok history

theorem Represents.nil : Represents [] [] := rfl

theorem Represents.append {returned : List (Dict ℚ)} {history : List (OptimizationAction ℚ)}
    (represents : Represents returned history) (actionId : String) (action : OptimizationAction ℚ) :
    Represents (returned ++ [action.toDict actionId]) (history ++ [action]) := by
  have last := OptimizationAction.fromDict_toDict actionId action
  rw [Represents] at represents ⊢
  rw [List.mapM_append, represents]
  simp only [List.mapM_cons, List.mapM_nil, last]
  rfl

theorem loadRecord_dict (ambient : Ambient) (record : EvaluationRecord ℚ) (uuid4 : String) :
    loadRecord ambient record.dict uuid4 = .ok record := by
  have loaded : LoadedRecord.fromDict (.obj record.dict.members) = .ok record.loaded :=
    record.fromDict_toDict
  rw [loadRecord, loaded]
  simp only [Except.mapError, bind, Except.bind, record.typed?_loaded]

theorem loadRecords_dict (ambient : Ambient) (records : List (EvaluationRecord ℚ)) :
    loadRecords ambient (records.map EvaluationRecord.dict) = .ok records := by
  have loop : ∀ (rest : List (EvaluationRecord ℚ)) (start : Nat),
      ((rest.map EvaluationRecord.dict).zipIdx start).mapM (fun indexed =>
        loadRecord ambient indexed.1 (ambient.uuid4 (indexed.2 + 2))) = .ok rest := by
    intro rest
    induction rest with
    | nil =>
        intro start
        rfl
    | cons record rest ih =>
        intro start
        rw [List.map_cons, List.zipIdx_cons, List.mapM_cons, loadRecord_dict, ih]
        rfl
  exact loop records 0

section Cycle

variable (rt : Runtime ℚ) (app : ProductionApp) (ambient : Ambient) (input : RemediationInput)
  {returned : List (Dict ℚ)} {history : List (OptimizationAction ℚ)}

/-- The endpoint on a request that decodes to the input and to the history of the runner. -/
theorem remediate_request (represents : Represents returned history) :
    remediate rt app ambient (input.request returned) = (do
      let cfResults ← (runCounterfactualAnalysis rt input.driftEvent input.attribution
        input.records none input.topK).mapError .raised
      match selectAction rt app.optimizationEngine input.driftEvent cfResults with
      | none => return ⟨Status.noActionNeeded.text, none, none, cfResults.length, .empty⟩
      | some action =>
          let decision ← (validateAction rt app.policyEvaluator action history ambient.now
            ambient.now).mapError .raised
          if ¬ decision.allowed then
            return ⟨Status.blockedByGuardrail.text,
              some ((taggedAction action decision).toDict (ambient.uuid4 1)),
              some (decisionDict false decision.reason
                (decision.ruleViolated.map Guardrails.Rule.text)), cfResults.length, .empty⟩
          else
            return ⟨Status.approved.text,
              some ((approvedAction action ambient.now).toDict (ambient.uuid4 1)),
              some (decisionDict true decision.reason none), cfResults.length, .empty⟩) := by
  have event := DriftEvent.fromDict_toDict (ambient.uuid4 0) input.driftEvent
  have attribution := CausalAttribution.fromDict_toDict input.attributionId input.attribution
  have records := loadRecords_dict ambient input.records
  rw [Represents] at represents
  simp only [remediate, remediateAt, Ambient.clock, RemediationInput.request, event, attribution,
    records, represents]
  rfl

/-- One request and one cycle: the same outcome, and the client keeps representing the
history. -/
theorem remediate_refines_cycle (represents : Represents returned history) :
    (remediate rt app ambient (input.request returned)).map RemediateResponse.outcome =
        ((runOptimizationCycle rt app.runner input.cycle ambient.clock history).map fun ran =>
          resultOutcome ran.1).mapError .raised ∧
      Represents (returned ++ returnedAction (remediate rt app ambient (input.request returned)))
        (historyAfter rt app.runner input.cycle ambient.clock history) := by
  have unchanged : Represents (returned ++ []) history := by
    rw [List.append_nil]
    exact represents
  rw [remediate_request rt app ambient input represents, historyAfter]
  simp only [runOptimizationCycle, RemediationInput.cycle, ProductionApp.runner, Ambient.clock]
  cases runCounterfactualAnalysis rt input.driftEvent input.attribution input.records none
      input.topK with
  | error reason => exact ⟨rfl, unchanged⟩
  | ok results =>
      by_cases nothing : results = []
      · subst nothing
        exact ⟨rfl, unchanged⟩
      · simp only [bind, Except.bind, Except.mapError, if_neg nothing]
        cases selectAction rt app.optimizationEngine input.driftEvent results with
        | none => exact ⟨rfl, unchanged⟩
        | some action =>
            dsimp only
            cases validated : validateAction rt app.policyEvaluator action history ambient.now
                ambient.now with
            | error reason => exact ⟨rfl, unchanged⟩
            | ok decision =>
                cases allowed : decision.allowed with
                | false =>
                    simp only [allowed]
                    constructor
                    · apply congrArg Except.ok
                      simp only [RemediateResponse.outcome, resultOutcome, Option.map_some,
                        OptimizationAction.toDict_erase, allowed]
                    · exact represents.append _ _
                | true =>
                    have harmless := validateAction_ruleViolated validated allowed
                    simp only [allowed]
                    constructor
                    · apply congrArg Except.ok
                      simp only [RemediateResponse.outcome, resultOutcome, Option.map_some,
                        OptimizationAction.toDict_erase, allowed, harmless, Option.map_none]
                    · exact represents.append _ _

end Cycle

/-- The remediation endpoint refines the runner. -/
theorem remediate_refines_runner (rt : Runtime ℚ) (minConfidence : ℚ)
    (inputs : List (Ambient × RemediationInput)) :
    (clientResponses rt (createProductionApp minConfidence) inputs []).map
        (fun response => response.map RemediateResponse.outcome) =
      (runnerResults rt (createProductionApp minConfidence).runner inputs []).map
        (fun result => (result.map resultOutcome).mapError .raised) := by
  have simulated : ∀ (inputs : List (Ambient × RemediationInput)) returned history,
      Represents returned history →
      (clientResponses rt (createProductionApp minConfidence) inputs returned).map
          (fun response => response.map RemediateResponse.outcome) =
        (runnerResults rt (createProductionApp minConfidence).runner inputs history).map
          (fun result => (result.map resultOutcome).mapError .raised) := by
    intro inputs
    induction inputs with
    | nil =>
        intro returned history _
        rfl
    | cons first rest ih =>
        intro returned history represents
        obtain ⟨ambient, input⟩ := first
        obtain ⟨same, represents'⟩ := remediate_refines_cycle rt
          (createProductionApp minConfidence) ambient input represents
        simp only [clientResponses, runnerResults, List.map_cons, same, ih _ _ represents']
        congr 1
        cases runOptimizationCycle rt (createProductionApp minConfidence).runner input.cycle
          ambient.clock history <;> rfl
  exact simulated inputs [] [] Represents.nil

end RagDrift.Api
