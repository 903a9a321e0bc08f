import RagDrift.Guardrails.Policy
import RagDrift.Python.Number

set_option autoImplicit false

/- `evaluator.guardrails.policy` over any numbers that can be compared and subtracted: what
the bounds check stops when a parameter, a bound or a time may be infinite or NaN. -/
namespace RagDrift.Guardrails.AnyNumber

open Optimization (OptimizationAction)
open Storage (PyErr)

variable {N : Type}

structure PolicyEvaluator (N : Type) where
  cooldownPeriodS : N
  maxFlappingPerHour : Int
  flappingWindowS : N
  parameterBounds : List (String × N × N)

/-- `action.metadata.get("params", {})`, which has to have `items`. -/
def actionParams (action : OptimizationAction N) : Except PyErr (Dict N) :=
  match action.metadata.get? "params" with
  | none => .ok Dict.empty
  | some value =>
      match value.asDict? with
      | some params => .ok params
      | none => .error .attributeError

def actionSignature (action : OptimizationAction N) : String :=
  action.actionType ++ ":" ++ action.targetRunId ++ ":" ++ action.changeId

section Checks

variable [Zero N] [One N] [LT N] [DecidableLT N]

def outside (bounds : N × N) (value : N) : Prop := value < bounds.1 ∨ bounds.2 < value

instance (bounds : N × N) (value : N) : Decidable (outside bounds value) :=
  inferInstanceAs (Decidable (_ ∨ _))

def checkParameter (rt : Runtime N) (policy : PolicyEvaluator N) (paramName : String)
    (value : PyVal N) : Option PolicyDecision :=
  match policy.parameterBounds.lookup paramName, value.asNumber? with
  | some bounds, some number =>
      if outside bounds number then
        some (violated .parameterBounds ("Parameter '" ++ paramName ++ "'=" ++ rt.str value ++
          " is outside bounds [" ++ rt.str (.num bounds.1) ++ ", " ++ rt.str (.num bounds.2) ++
          "]."))
      else none
  | _, _ => none

def checkParameterBounds (rt : Runtime N) (policy : PolicyEvaluator N)
    (action : OptimizationAction N) : Except PyErr PolicyDecision := do
  let params ← actionParams action
  return (params.keys.findSome? fun paramName =>
    checkParameter rt policy paramName (params.get paramName)).getD passed

variable [Sub N]

def elapsed (now : N) (past : OptimizationAction N) : N :=
  match ((past.metadata.get? "executed_at").getD (.num now)).asNumber? with
  | some executedAt => now - executedAt
  | none => 0

def cooling (now : N) (policy : PolicyEvaluator N) (action : OptimizationAction N)
    (history : List (OptimizationAction N)) : Option (OptimizationAction N) :=
  history.find? fun past =>
    elapsed now past < policy.cooldownPeriodS ∧ actionSignature past = actionSignature action

def checkCooldown (rt : Runtime N) (now : N) (policy : PolicyEvaluator N)
    (action : OptimizationAction N) (history : List (OptimizationAction N)) : PolicyDecision :=
  match cooling now policy action history with
  | some past =>
      violated .cooldownPeriod ("Action '" ++ action.actionType ++
        "' is within cooldown period (" ++ rt.fixed 1 (elapsed now past) ++ "s < " ++
        rt.str (.num policy.cooldownPeriodS) ++ "s).")
  | none => passed

def flappedCount (now : N) (policy : PolicyEvaluator N) (targetRun : String)
    (history : List (OptimizationAction N)) : Nat :=
  history.countP fun past =>
    ¬ policy.flappingWindowS < elapsed now past ∧ past.targetRunId = targetRun

def checkFlapping (rt : Runtime N) (now : N) (policy : PolicyEvaluator N)
    (action : OptimizationAction N) (history : List (OptimizationAction N)) : PolicyDecision :=
  let flapped := flappedCount now policy action.targetRunId history
  if policy.maxFlappingPerHour ≤ flapped then
    violated .maxFlapping ("Action targeting run '" ++ action.targetRunId ++
      "' has been executed " ++ toString flapped ++ " times in the last " ++
      rt.str (.num policy.flappingWindowS) ++ "s (max " ++
      toString policy.maxFlappingPerHour ++ ").")
  else passed

def validateAction (rt : Runtime N) (policy : PolicyEvaluator N) (action : OptimizationAction N)
    (history : List (OptimizationAction N)) (cooldownNow flappingNow : N) :
    Except PyErr PolicyDecision := do
  let bounds ← checkParameterBounds rt policy action
  let cooldown := checkCooldown rt cooldownNow policy action history
  let flapping := checkFlapping rt flappingNow policy action history
  return if ¬ bounds.allowed then bounds
    else if ¬ cooldown.allowed then cooldown
    else if ¬ flapping.allowed then flapping
    else ⟨true, "Action passed all policy checks.", none⟩

end Checks

def ofPolicy (policy : Guardrails.PolicyEvaluator) : PolicyEvaluator ℚ :=
  ⟨policy.cooldownPeriodS, policy.maxFlappingPerHour, policy.flappingWindowS,
    policy.parameterBounds⟩

theorem actionParams_rat (action : OptimizationAction ℚ) :
    actionParams action = Guardrails.actionParams action := by
  rw [actionParams, Guardrails.actionParams]
  cases action.metadata.get? "params" with
  | none => rfl
  | some value => cases found : value.asDict? <;> simp [found]

theorem checkParameter_ofPolicy (rt : Runtime ℚ) (policy : Guardrails.PolicyEvaluator)
    (paramName : String) (value : PyVal ℚ) :
    checkParameter rt (ofPolicy policy) paramName value =
      Guardrails.checkParameter rt policy paramName value := by
  rw [checkParameter, Guardrails.checkParameter, ofPolicy]
  cases policy.parameterBounds.lookup paramName with
  | none => rfl
  | some bounds =>
      cases value.asNumber? with
      | none => rfl
      | some number => rfl

theorem elapsed_rat (now : ℚ) (past : OptimizationAction ℚ) :
    elapsed now past = Guardrails.elapsed now past := by
  rw [elapsed, Guardrails.elapsed]
  cases ((past.metadata.get? "executed_at").getD (.num now)).asNumber? with
  | none => rfl
  | some executedAt => rfl

theorem checkCooldown_ofPolicy (rt : Runtime ℚ) (now : ℚ) (policy : Guardrails.PolicyEvaluator)
    (action : OptimizationAction ℚ) (history : List (OptimizationAction ℚ)) :
    checkCooldown rt now (ofPolicy policy) action history =
      Guardrails.checkCooldown rt now policy action history := by
  have same : cooling now (ofPolicy policy) action history =
      Guardrails.cooling now policy action history := by
    simp only [cooling, Guardrails.cooling, elapsed_rat]
    rfl
  rw [checkCooldown, Guardrails.checkCooldown, same]
  cases Guardrails.cooling now policy action history with
  | none => rfl
  | some past => simp only [elapsed_rat, ofPolicy]

theorem checkFlapping_ofPolicy (rt : Runtime ℚ) (now : ℚ) (policy : Guardrails.PolicyEvaluator)
    (action : OptimizationAction ℚ) (history : List (OptimizationAction ℚ)) :
    checkFlapping rt now (ofPolicy policy) action history =
      Guardrails.checkFlapping rt now policy action history := by
  have same : flappedCount now (ofPolicy policy) action.targetRunId history =
      Guardrails.flappedCount now policy action.targetRunId history := by
    simp only [flappedCount, Guardrails.flappedCount, elapsed_rat]
    rfl
  rw [checkFlapping, Guardrails.checkFlapping, same]
  rfl

/-- At rational numbers these are the checks of the other modules. -/
theorem validateAction_ofPolicy (rt : Runtime ℚ) (policy : Guardrails.PolicyEvaluator)
    (action : OptimizationAction ℚ) (history : List (OptimizationAction ℚ))
    (cooldownNow flappingNow : ℚ) :
    validateAction rt (ofPolicy policy) action history cooldownNow flappingNow =
      Guardrails.validateAction rt policy action history cooldownNow flappingNow := by
  have bounds : checkParameterBounds rt (ofPolicy policy) action =
      Guardrails.checkParameterBounds rt policy action := by
    simp only [checkParameterBounds, Guardrails.checkParameterBounds, actionParams_rat,
      checkParameter_ofPolicy]
  simp only [validateAction, Guardrails.validateAction, bounds, checkCooldown_ofPolicy,
    checkFlapping_ofPolicy]

def PARAMETER_BOUNDS : List (String × Number × Number) :=
  [("temperature", 0, 1), ("top_k", 1, .finite 50), ("reranker_cutoff", 0, 1),
    ("retrieval_depth", 1, .finite 20)]

/-- `__init__`, where custom bounds override the default ones. -/
def PolicyEvaluator.new (cooldownPeriodS : Number) (maxFlappingPerHour : Int)
    (flappingWindowS : Number) (customBounds : List (String × Number × Number)) :
    PolicyEvaluator Number :=
  ⟨cooldownPeriodS, maxFlappingPerHour, flappingWindowS, customBounds ++ PARAMETER_BOUNDS⟩

def PolicyEvaluator.default : PolicyEvaluator Number :=
  .new (.finite 300) 5 (.finite 3600) []

/-- What is not found outside is inside, as far as the bounds are no NaN. -/
theorem inside_of_not_outside {bounds : Number × Number} {number : Number}
    (isNumber : number ≠ .nan) (inside : ¬ outside bounds number) :
    (bounds.1 ≠ .nan → bounds.1 ≤ number) ∧ (bounds.2 ≠ .nan → number ≤ bounds.2) := by
  rw [outside, not_or] at inside
  constructor
  · intro lower
    exact (Number.not_lt_iff isNumber lower).mp inside.1
  · intro upper
    exact (Number.not_lt_iff upper isNumber).mp inside.2

/-- NaN is outside of nothing. -/
theorem not_outside_nan (bounds : Number × Number) : ¬ outside bounds .nan := by
  rw [outside, not_or]
  exact ⟨Number.not_nan_lt _, Number.not_lt_nan _⟩

section Allowed

variable {rt : Runtime Number} {policy : PolicyEvaluator Number}
  {action : OptimizationAction Number}

theorem checkParameter_violated {paramName : String} {value : PyVal Number}
    {decision : PolicyDecision}
    (found : checkParameter rt policy paramName value = some decision) :
    decision.allowed = false := by
  unfold checkParameter at found
  split at found
  · split at found
    · cases found
      rfl
    · cases found
  · cases found

/-- NaN passes wherever it is given. -/
theorem checkParameter_nan (rt : Runtime Number) (policy : PolicyEvaluator Number)
    (paramName : String) : checkParameter rt policy paramName (.num .nan) = none := by
  rw [checkParameter]
  cases policy.parameterBounds.lookup paramName with
  | none => rfl
  | some bounds => exact if_neg (not_outside_nan bounds)

theorem not_outside_of_passed {paramName : String} {value : PyVal Number}
    {bounds : Number × Number} {number : Number}
    (stopped : checkParameter rt policy paramName value = none)
    (known : policy.parameterBounds.lookup paramName = some bounds)
    (isNumber : value.asNumber? = some number) : ¬ outside bounds number := by
  intro out
  rw [checkParameter, known, isNumber] at stopped
  simp only [out, ↓reduceIte, reduceCtorEq] at stopped

/-- A verdict that allows the action says that no parameter was stopped. -/
theorem checkParameter_of_allowed {history : List (OptimizationAction Number)}
    {cooldownNow flappingNow : Number} {decision : PolicyDecision} {params : Dict Number}
    (validated : validateAction rt policy action history cooldownNow flappingNow = .ok decision)
    (allowed : decision.allowed = true) (read : actionParams action = .ok params) :
    ∀ paramName ∈ params.keys,
      checkParameter rt policy paramName (params.get paramName) = none := by
  rw [validateAction, checkParameterBounds, read] at validated
  have verdict := Except.ok.inj validated
  cases search : params.keys.findSome? fun paramName =>
      checkParameter rt policy paramName (params.get paramName) with
  | none => exact List.findSome?_eq_none_iff.mp search
  | some stopped =>
      obtain ⟨paramName, _, found⟩ := List.exists_of_findSome?_eq_some search
      have refused := checkParameter_violated found
      rw [search, Option.getD_some, if_pos (by simp [refused])] at verdict
      rw [← verdict, refused] at allowed
      cases allowed

end Allowed

/-- Whatever an allowed action's parameters are, one that has bounds and is a number other
than NaN lies within them. -/
theorem allowed_within_bounds (rt : Runtime Number) (policy : PolicyEvaluator Number)
    (action : OptimizationAction Number) (history : List (OptimizationAction Number))
    (cooldownNow flappingNow : Number) (decision : PolicyDecision)
    (validated : validateAction rt policy action history cooldownNow flappingNow = .ok decision)
    (allowed : decision.allowed = true) :
    ∃ params, actionParams action = .ok params ∧
      ∀ paramName value bounds number, params.get? paramName = some value →
        policy.parameterBounds.lookup paramName = some bounds →
        value.asNumber? = some number → number ≠ .nan →
          (bounds.1 ≠ .nan → bounds.1 ≤ number) ∧ (bounds.2 ≠ .nan → number ≤ bounds.2) := by
  cases read : actionParams action with
  | error reason =>
      rw [validateAction, checkParameterBounds, read] at validated
      cases validated
  | ok params =>
      refine ⟨params, rfl, ?_⟩
      intro paramName value bounds number here known isNumber real
      have member : paramName ∈ params.keys := by
        rw [Dict.mem_keys_iff, here]
        rfl
      have stopped := checkParameter_of_allowed validated allowed read paramName member
      rw [Dict.get_of_get? here] at stopped
      exact inside_of_not_outside real (not_outside_of_passed stopped known isNumber)

/-- An action that sets one parameter. -/
def settingAction (paramName : String) (value : PyVal Number) : OptimizationAction Number :=
  ⟨"adjust_temperature", "r1", "c1", "", Dict.empty.set "params"
    (.ofDict (Dict.empty.set paramName value))⟩

theorem allowed_within_bounds_top_k :
    ∃ params, actionParams (settingAction "top_k" (.num (.finite 50))) = .ok params ∧
      ∀ paramName value bounds number, params.get? paramName = some value →
        PolicyEvaluator.default.parameterBounds.lookup paramName = some bounds →
        value.asNumber? = some number → number ≠ .nan →
          (bounds.1 ≠ .nan → bounds.1 ≤ number) ∧ (bounds.2 ≠ .nan → number ≤ bounds.2) :=
  allowed_within_bounds (numberRuntime []) .default _ [] (.finite 10) (.finite 10)
    ⟨true, "Action passed all policy checks.", none⟩ (by decide +kernel) rfl

/-- A text is let through where a number has bounds: the check asks for a number first. -/
theorem text_is_allowed :
    ∃ policy action history cooldownNow flappingNow decision,
      validateAction (numberRuntime []) policy action history cooldownNow flappingNow =
        .ok decision ∧ decision.allowed = true ∧
      ¬ ∃ params, actionParams action = .ok params ∧
        ∀ paramName value bounds, params.get? paramName = some value →
          policy.parameterBounds.lookup paramName = some bounds →
            ∃ number, value.asNumber? = some number ∧ bounds.1 ≤ number ∧
              number ≤ bounds.2 := by
  refine ⟨.default, settingAction "temperature" (.str "hot"), [], .finite 10, .finite 10,
    ⟨true, "Action passed all policy checks.", none⟩, by decide +kernel, rfl, ?_⟩
  rintro ⟨params, read, within⟩
  have same : params = Dict.empty.set "temperature" (.str "hot") := (Except.ok.inj read).symm
  subst same
  obtain ⟨number, isNumber, _⟩ := within "temperature" (.str "hot") (0, 1) rfl rfl
  cases isNumber

end RagDrift.Guardrails.AnyNumber
