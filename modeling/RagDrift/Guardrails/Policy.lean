import RagDrift.Optimization.Models
import RagDrift.Python.Exceptions
import RagDrift.Storage.Models
import Mathlib.Algebra.Order.Ring.Rat

set_option autoImplicit false

/- `evaluator.guardrails.policy`: the three checks an action has to pass. -/
namespace RagDrift.Guardrails

open Optimization (OptimizationAction)
open Storage (PyErr)

def PARAMETER_BOUNDS : List (String × ℚ × ℚ) :=
  [("temperature", 0, 1), ("top_k", 1, 50), ("reranker_cutoff", 0, 1), ("retrieval_depth", 1, 20)]

/-- The first entry of a name in `parameterBounds` is the one in force. -/
structure PolicyEvaluator where
  cooldownPeriodS : ℚ
  maxFlappingPerHour : Int
  flappingWindowS : ℚ
  parameterBounds : List (String × ℚ × ℚ)

/-- `__init__`, where custom bounds override the default ones. -/
def PolicyEvaluator.new (cooldownPeriodS : ℚ) (maxFlappingPerHour : Int) (flappingWindowS : ℚ)
    (customBounds : List (String × ℚ × ℚ)) : PolicyEvaluator :=
  ⟨cooldownPeriodS, maxFlappingPerHour, flappingWindowS, customBounds ++ PARAMETER_BOUNDS⟩

def PolicyEvaluator.default : PolicyEvaluator := .new 300 5 3600 []

inductive Rule where
  | parameterBounds
  | cooldownPeriod
  | maxFlapping
  deriving DecidableEq

def Rule.text : Rule → String
  | .parameterBounds => "parameter_bounds"
  | .cooldownPeriod => "cooldown_period"
  | .maxFlapping => "max_flapping"

structure PolicyDecision where
  allowed : Bool
  reason : String
  ruleViolated : Option Rule
  deriving DecidableEq

/-- What each check answers when it finds nothing to object to. -/
def passed : PolicyDecision := ⟨true, "", none⟩

def violated (rule : Rule) (reason : String) : PolicyDecision := ⟨false, reason, some rule⟩

def outside (bounds : ℚ × ℚ) (value : ℚ) : Prop := value < bounds.1 ∨ bounds.2 < value

instance (bounds : ℚ × ℚ) (value : ℚ) : Decidable (outside bounds value) :=
  inferInstanceAs (Decidable (_ ∨ _))

/-- What the loop returns at one parameter, if it stops there. -/
def checkParameter (rt : Runtime ℚ) (policy : PolicyEvaluator) (paramName : String)
    (value : PyVal ℚ) : Option PolicyDecision :=
  match policy.parameterBounds.lookup paramName, value.asNumber? with
  | some bounds, some number =>
      if outside bounds number then
        some (violated .parameterBounds ("Parameter '" ++ paramName ++ "'=" ++ rt.str value ++
          " is outside bounds [" ++ rt.str (.num bounds.1) ++ ", " ++ rt.str (.num bounds.2) ++
          "]."))
      else none
  | _, _ => none

/-- `action.metadata.get("params", default)`, which has to have `items`. -/
def actionParams (action : OptimizationAction ℚ) : Except PyErr (Dict ℚ) :=
  match action.metadata.get? "params" with
  | none => .ok Dict.empty
  | some value =>
      match value.asDict? with
      | some params => .ok params
      | none => .error .attributeError

def checkParameterBounds (rt : Runtime ℚ) (policy : PolicyEvaluator)
    (action : OptimizationAction ℚ) : Except PyErr PolicyDecision := do
  let params ← actionParams action
  return (params.keys.findSome? fun paramName =>
    checkParameter rt policy paramName (params.get paramName)).getD passed

/-- `_action_signature`. -/
def actionSignature (action : OptimizationAction ℚ) : String :=
  action.actionType ++ ":" ++ action.targetRunId ++ ":" ++ action.changeId

/-- An entry without a time, or with one that is no number, counts as executed just now. -/
def elapsed (now : ℚ) (past : OptimizationAction ℚ) : ℚ :=
  match ((past.metadata.get? "executed_at").getD (.num now)).asNumber? with
  | some executedAt => now - executedAt
  | none => 0

/-- The first entry in the history that is too recent and has the action's signature. -/
def cooling (now : ℚ) (policy : PolicyEvaluator) (action : OptimizationAction ℚ)
    (history : List (OptimizationAction ℚ)) : Option (OptimizationAction ℚ) :=
  history.find? fun past =>
    elapsed now past < policy.cooldownPeriodS ∧ actionSignature past = actionSignature action

def checkCooldown (rt : Runtime ℚ) (now : ℚ) (policy : PolicyEvaluator)
    (action : OptimizationAction ℚ) (history : List (OptimizationAction ℚ)) : PolicyDecision :=
  match cooling now policy action history with
  | some past =>
      violated .cooldownPeriod ("Action '" ++ action.actionType ++
        "' is within cooldown period (" ++ rt.fixed 1 (elapsed now past) ++ "s < " ++
        rt.str (.num policy.cooldownPeriodS) ++ "s).")
  | none => passed

/-- How many entries on the action's run are not older than the window. -/
def flappedCount (now : ℚ) (policy : PolicyEvaluator) (targetRun : String)
    (history : List (OptimizationAction ℚ)) : Nat :=
  history.countP fun past =>
    ¬ policy.flappingWindowS < elapsed now past ∧ past.targetRunId = targetRun

def checkFlapping (rt : Runtime ℚ) (now : ℚ) (policy : PolicyEvaluator)
    (action : OptimizationAction ℚ) (history : List (OptimizationAction ℚ)) : PolicyDecision :=
  let flapped := flappedCount now policy action.targetRunId history
  if policy.maxFlappingPerHour ≤ flapped then
    violated .maxFlapping ("Action targeting run '" ++ action.targetRunId ++
      "' has been executed " ++ toString flapped ++ " times in the last " ++
      rt.str (.num policy.flappingWindowS) ++ "s (max " ++
      toString policy.maxFlappingPerHour ++ ").")
  else passed

/-- The first check that fails decides. Cooldown and flapping read the clock one after the
other. -/
def validateAction (rt : Runtime ℚ) (policy : PolicyEvaluator) (action : OptimizationAction ℚ)
    (history : List (OptimizationAction ℚ)) (cooldownNow flappingNow : ℚ) :
    Except PyErr PolicyDecision := do
  let bounds ← checkParameterBounds rt policy action
  let cooldown := checkCooldown rt cooldownNow policy action history
  let flapping := checkFlapping rt flappingNow policy action history
  return if ¬ bounds.allowed then bounds
    else if ¬ cooldown.allowed then cooldown
    else if ¬ flapping.allowed then flapping
    else ⟨true, "Action passed all policy checks.", none⟩

section

variable {rt : Runtime ℚ} {policy : PolicyEvaluator} {action : OptimizationAction ℚ}
  {history : List (OptimizationAction ℚ)}

/-- Every parameter that is a number and has bounds lies in them. -/
def ParamsWithinBounds (policy : PolicyEvaluator) (action : OptimizationAction ℚ) : Prop :=
  ∃ params, actionParams action = .ok params ∧
    ∀ paramName value bounds number, params.get? paramName = some value →
      policy.parameterBounds.lookup paramName = some bounds → value.asNumber? = some number →
        bounds.1 ≤ number ∧ number ≤ bounds.2

theorem checkParameter_eq_none_iff {paramName : String} {value : PyVal ℚ} :
    checkParameter rt policy paramName value = none ↔
      ∀ bounds number, policy.parameterBounds.lookup paramName = some bounds →
        value.asNumber? = some number → bounds.1 ≤ number ∧ number ≤ bounds.2 := by
  unfold checkParameter
  cases policy.parameterBounds.lookup paramName with
  | none => simp
  | some bounds =>
      cases value.asNumber? with
      | none => simp
      | some number =>
          have inside : ¬ outside bounds number ↔ bounds.1 ≤ number ∧ number ≤ bounds.2 := by
            rw [outside, not_or, not_lt, not_lt]
          constructor
          · intro stopped _ _ known isNumber
            cases known
            cases isNumber
            rw [← inside]
            intro out
            simp only [out, ↓reduceIte, reduceCtorEq] at stopped
          · intro within
            simp only [inside.mpr (within bounds number rfl rfl), ↓reduceIte]

theorem checkParameter_violated {paramName : String} {value : PyVal ℚ} {decision : PolicyDecision}
    (found : checkParameter rt policy paramName value = some decision) :
    decision.allowed = false := by
  unfold checkParameter at found
  split at found
  · split at found
    · cases found
      rfl
    · cases found
  · cases found

theorem checkParameterBounds_allowed_iff (rt : Runtime ℚ) :
    (∃ decision, checkParameterBounds rt policy action = .ok decision ∧ decision.allowed) ↔
      ParamsWithinBounds policy action := by
  unfold checkParameterBounds ParamsWithinBounds
  cases actionParams action with
  | error reason =>
      constructor
      · rintro ⟨decision, ran, _⟩
        cases ran
      · rintro ⟨params, ran, _⟩
        cases ran
  | ok params =>
      constructor
      · rintro ⟨decision, ran, allowed⟩
        cases ran
        refine ⟨params, rfl, ?_⟩
        cases search : params.keys.findSome? fun paramName =>
            checkParameter rt policy paramName (params.get paramName) with
        | some decision =>
            obtain ⟨paramName, _, found⟩ := List.exists_of_findSome?_eq_some search
            rw [search, Option.getD_some, checkParameter_violated found] at allowed
            cases allowed
        | none =>
            intro paramName value bounds number here known isNumber
            have member : paramName ∈ params.keys := by
              rw [Dict.mem_keys_iff, here]
              rfl
            have within := List.findSome?_eq_none_iff.mp search paramName member
            rw [Dict.get_of_get? here, checkParameter_eq_none_iff] at within
            exact within bounds number known isNumber
      · rintro ⟨_, same, within⟩
        cases same
        have search : (params.keys.findSome? fun paramName =>
            checkParameter rt policy paramName (params.get paramName)) = none := by
          rw [List.findSome?_eq_none_iff]
          intro paramName member
          obtain ⟨value, here⟩ := Option.isSome_iff_exists.mp ((params.mem_keys_iff _).mp member)
          rw [Dict.get_of_get? here, checkParameter_eq_none_iff]
          intro bounds number known isNumber
          exact within paramName value bounds number here known isNumber
        refine ⟨passed, ?_, rfl⟩
        change Except.ok (Option.getD _ passed) = _
        rw [search, Option.getD_none]

theorem checkCooldown_allowed_iff (rt : Runtime ℚ) {now : ℚ} :
    (checkCooldown rt now policy action history).allowed ↔
      ∀ past ∈ history, actionSignature past = actionSignature action →
        policy.cooldownPeriodS ≤ elapsed now past := by
  unfold checkCooldown
  cases search : cooling now policy action history with
  | none =>
      rw [cooling, List.find?_eq_none] at search
      simp only [passed, true_iff]
      intro past inside same
      have cold := search past inside
      simp only [decide_eq_true_eq, not_and_or, not_lt] at cold
      exact cold.resolve_right (not_not_intro same)
  | some past =>
      rw [cooling] at search
      have matched := List.find?_some search
      rw [decide_eq_true_eq] at matched
      obtain ⟨recent, same⟩ := matched
      simp only [violated, Bool.false_eq_true, false_iff]
      intro all
      exact absurd (all past (List.mem_of_find?_eq_some search) same) (not_le.mpr recent)

theorem checkFlapping_allowed_iff (rt : Runtime ℚ) {now : ℚ} :
    (checkFlapping rt now policy action history).allowed ↔
      (flappedCount now policy action.targetRunId history : Int) < policy.maxFlappingPerHour := by
  unfold checkFlapping
  dsimp only
  split
  · rename_i many
    simp only [violated, Bool.false_eq_true, false_iff, not_lt]
    exact many
  · rename_i few
    simp only [passed, true_iff]
    exact not_le.mp few

/-- An action that is allowed violates no rule. -/
theorem validateAction_ruleViolated {cooldownNow flappingNow : ℚ} {decision : PolicyDecision}
    (validated : validateAction rt policy action history cooldownNow flappingNow = .ok decision)
    (allowed : decision.allowed = true) : decision.ruleViolated = none := by
  rw [validateAction] at validated
  obtain ⟨bounds, _, verdict⟩ := Exceptions.bind_ok_iff.mp validated
  have same := Except.ok.inj verdict
  subst same
  split_ifs at allowed ⊢ with inBounds rested calm
  all_goals first | rfl | exact absurd allowed ‹_›

/-- The verdict in terms of the history. -/
theorem validateAction_allowed_iff {cooldownNow flappingNow : ℚ} :
    (∃ decision, validateAction rt policy action history cooldownNow flappingNow =
        .ok decision ∧ decision.allowed) ↔
      ParamsWithinBounds policy action ∧
      (∀ past ∈ history, actionSignature past = actionSignature action →
        policy.cooldownPeriodS ≤ elapsed cooldownNow past) ∧
      (flappedCount flappingNow policy action.targetRunId history : Int) <
        policy.maxFlappingPerHour := by
  rw [← checkParameterBounds_allowed_iff rt, ← checkCooldown_allowed_iff rt,
    ← checkFlapping_allowed_iff rt]
  unfold validateAction
  cases checkParameterBounds rt policy action with
  | error reason =>
      constructor
      · rintro ⟨decision, ran, _⟩
        cases ran
      · rintro ⟨⟨decision, ran, _⟩, _⟩
        cases ran
  | ok bounds =>
      simp only [Except.ok.injEq, exists_eq_left', pure, Except.pure, bind, Except.bind]
      split_ifs with inBounds rested calm <;> simp_all

end

end RagDrift.Guardrails
