import RagDrift.Api.Payloads
import RagDrift.Collections.Ranking
import RagDrift.Optimization.Engine
import RagDrift.Python.Exceptions
import RagDrift.Python.Number

set_option autoImplicit false

/- `evaluator.optimization.engine` over results a caller may hand it: any numbers, the
infinities and NaN among them, and any metadata. -/
namespace RagDrift.Optimization.Selectors

variable {N : Type}

inductive SubscriptError where
  | typeError
  | keyError
  | indexError
  deriving DecidableEq

/-- `bool(value)`. -/
def truthy [DecidableEq N] [Zero N] (value : PyVal N) : Bool :=
  match value.json with
  | .null => false
  | .bool flag => flag
  | .num number => number ≠ 0
  | .str text => text ≠ ""
  | .arr items => !items.isEmpty
  | .obj members => !members.isEmpty

/-- `value[0]`; the keys of a dictionary that came from JSON are texts. -/
def firstItem (value : PyVal N) : Except SubscriptError (PyVal N) :=
  match value.asItems?, value.asText?, value.asDict? with
  | some (first :: _), _, _ => .ok first
  | some [], _, _ => .error .indexError
  | none, some text, _ =>
      match text.toList with
      | first :: _ => .ok (.str (String.singleton first))
      | [] => .error .indexError
  | none, none, some _ => .error .keyError
  | none, none, none => .error .typeError

theorem firstItem_arr (first : PyVal N) (rest : List (PyVal N)) :
    firstItem (PyVal.arr (first :: rest)) = .ok first := by
  rw [firstItem, PyVal.asItems?_arr]

structure DriftEvent (N : Type) where
  metadata : Dict N

structure CounterfactualResult (N : Type) where
  delta : N
  confidence : N
  metadata : Dict N

/-- The run id is whatever the result's metadata held. -/
structure OptimizationAction (N : Type) where
  actionType : String
  targetRunId : PyVal N
  changeId : String
  description : String
  metadata : Dict N

structure OptimizationEngine (N : Type) where
  minConfidence : N
  defaultActionType : String

section Engine

variable [DecidableEq N] [Zero N] [One N]

def track (event : DriftEvent N) : PyVal N :=
  (event.metadata.get? "track").getD (.str "unified")

def selectActionType (engine : OptimizationEngine N) (track : PyVal N) : String :=
  if track.Same (.str "retrieval") then "adjust_top_k"
  else if track.Same (.str "generation") then "adjust_temperature"
  else engine.defaultActionType

def buildDescription (rt : Runtime N) (track : PyVal N) (result : CounterfactualResult N) :
    String :=
  let aim :=
    if track.Same (.str "retrieval") then "Adjust retrieval parameters to reduce drift "
    else if track.Same (.str "generation") then "Adjust generation parameters to reduce drift "
    else "Rollback configuration to reduce drift "
  aim ++ "(expected improvement: " ++ rt.fixed 4 result.delta ++ ")"

def resultChangeId (rt : Runtime N) (result : CounterfactualResult N) :
    Except SubscriptError String :=
  let changeIds := result.metadata.get "change_ids"
  if truthy changeIds then (firstItem changeIds).map rt.str else .ok ""

def buildAction (rt : Runtime N) (engine : OptimizationEngine N) (event : DriftEvent N)
    (result : CounterfactualResult N) : Except SubscriptError (OptimizationAction N) := do
  let changeId ← resultChangeId rt result
  return {
    actionType := selectActionType engine (track event)
    targetRunId := (result.metadata.get? "run_id").getD (.str "")
    changeId := changeId
    description := buildDescription rt (track event) result
    metadata := Dict.empty.setAll
      [("counterfactual_delta", .num result.delta),
        ("counterfactual_confidence", .num result.confidence), ("track", track event),
        ("source", .str "optimization_engine")] }

variable [LE N] [DecidableLE N]

def validResults (engine : OptimizationEngine N) (results : List (CounterfactualResult N)) :
    List (CounterfactualResult N) :=
  results.filter fun result => engine.minConfidence ≤ result.confidence

def selectAction [LT N] [DecidableLT N] (rt : Runtime N) (engine : OptimizationEngine N)
    (event : DriftEvent N) (results : List (CounterfactualResult N)) :
    Except SubscriptError (Option (OptimizationAction N)) :=
  match Collections.firstMax CounterfactualResult.delta (validResults engine results) with
  | none => .ok none
  | some best => (buildAction rt engine event best).map some

def generatePlan (rt : Runtime N) (engine : OptimizationEngine N) (event : DriftEvent N)
    (results : List (CounterfactualResult N)) :
    Except SubscriptError (List (OptimizationAction N)) :=
  (Collections.sortedDown CounterfactualResult.delta (validResults engine results)).mapM
    (buildAction rt engine event)

end Engine

/-- `change_ids` is a list, as the analysis writes it, or stands for no ids. -/
def ListsIds [DecidableEq N] [Zero N] (result : CounterfactualResult N) : Prop :=
  truthy (result.metadata.get "change_ids") →
    ∃ items, result.metadata.get "change_ids" = PyVal.arr items

section Built

variable [DecidableEq N] [Zero N]

theorem resultChangeId_ok (rt : Runtime N) {result : CounterfactualResult N}
    (ids : ListsIds result) : ∃ changeId, resultChangeId rt result = .ok changeId := by
  rw [resultChangeId]
  by_cases some : truthy (result.metadata.get "change_ids") = true
  · obtain ⟨items, same⟩ := ids some
    rw [if_pos some]
    rw [same] at some ⊢
    cases items with
    | nil => cases some
    | cons first rest =>
        rw [firstItem_arr]
        exact ⟨rt.str first, rfl⟩
  · exact ⟨"", if_neg some⟩

variable [One N]

theorem buildAction_ok (rt : Runtime N) (engine : OptimizationEngine N) (event : DriftEvent N)
    {result : CounterfactualResult N} (ids : ListsIds result) :
    ∃ action, buildAction rt engine event result = .ok action := by
  obtain ⟨changeId, read⟩ := resultChangeId_ok rt ids
  rw [buildAction, read]
  exact ⟨_, rfl⟩

theorem generatePlan_ok [LE N] [DecidableLE N] (rt : Runtime N) (engine : OptimizationEngine N)
    (event : DriftEvent N) {results : List (CounterfactualResult N)}
    (ids : ∀ result ∈ results, ListsIds result) :
    ∃ actions, generatePlan rt engine event results = .ok actions := by
  have each : ∀ result ∈ Collections.sortedDown CounterfactualResult.delta
      (validResults engine results), ∃ action, buildAction rt engine event result = .ok action := by
    intro result inside
    have valid := (Collections.sortedDown_perm _ _).mem_iff.mp inside
    exact buildAction_ok rt engine event (ids result (List.mem_filter.mp valid).1)
  exact Exceptions.mapM_ok each

end Built

theorem head?_ranked (engine : OptimizationEngine Number)
    {results : List (CounterfactualResult Number)}
    (ordered : ∀ result ∈ results, result.delta ≠ .nan) :
    (Collections.sortedDown CounterfactualResult.delta (validResults engine results)).head? =
      Collections.firstMax CounterfactualResult.delta (validResults engine results) := by
  have known : ∀ result ∈ validResults engine results, result.delta ≠ .nan := by
    intro result valid
    exact ordered result (List.mem_filter.mp valid).1
  apply Collections.head?_sortedDown fun result => result.delta.place
  · intro left inLeft right inRight
    exact Number.lt_iff_place (known left inLeft) (known right inRight)
  · intro left inLeft right inRight
    exact Number.le_iff_place (known left inLeft) (known right inRight)

/-- The selectors agree on whether there is an action, and the selected one is the first of
the plan, which is returned whenever the ids of the results are lists. -/
theorem selectors_agree (rt : Runtime Number) (engine : OptimizationEngine Number)
    (event : DriftEvent Number) (results : List (CounterfactualResult Number))
    (ordered : ∀ result ∈ results, result.delta ≠ .nan) :
    (selectAction rt engine event results = .ok none ↔
      generatePlan rt engine event results = .ok []) ∧
    (∀ actions, generatePlan rt engine event results = .ok actions →
      selectAction rt engine event results = .ok actions.head?) ∧
    ((∀ result ∈ results, ListsIds result) →
      ∃ actions, generatePlan rt engine event results = .ok actions) := by
  have head := head?_ranked engine ordered
  refine ⟨?_, ?_, generatePlan_ok rt engine event⟩
  · rw [selectAction, generatePlan, ← head]
    cases Collections.sortedDown CounterfactualResult.delta (validResults engine results) with
    | nil => exact iff_of_true rfl rfl
    | cons best others =>
        rw [List.head?_cons, Exceptions.mapM_ok_iff]
        apply iff_of_false
        · intro selected
          obtain ⟨action, _, none⟩ := Exceptions.map_ok_iff.mp selected
          cases none
        · intro built
          cases built
  · intro actions planned
    rw [selectAction, ← head]
    rw [generatePlan] at planned
    cases ranked : Collections.sortedDown CounterfactualResult.delta
        (validResults engine results) with
    | nil =>
        rw [ranked] at planned
        cases planned
        rfl
    | cons best others =>
        rw [ranked, Exceptions.mapM_ok_iff] at planned
        cases planned with
        | cons built _ =>
            rw [List.head?_cons, List.head?_cons]
            exact Exceptions.map_ok_iff.mpr ⟨_, built, rfl⟩

/-- Two results tie at an infinite delta, and a third has no ids. -/
def tiedResults : List (CounterfactualResult Number) :=
  [⟨.finite 1, 1, Dict.empty⟩,
    ⟨.inf, 1, Dict.empty.set "change_ids" (PyVal.arr [.str "c1"])⟩,
    ⟨.inf, .inf, Dict.empty.set "change_ids" (PyVal.arr [.str "c2"])⟩]

theorem selectors_agree_tied :
    (selectAction (numberRuntime []) ⟨.finite (7 / 10), "rollback_config"⟩ ⟨Dict.empty⟩
        tiedResults = .ok none ↔
      generatePlan (numberRuntime []) ⟨.finite (7 / 10), "rollback_config"⟩ ⟨Dict.empty⟩
        tiedResults = .ok []) ∧
    (∀ actions, generatePlan (numberRuntime []) ⟨.finite (7 / 10), "rollback_config"⟩
        ⟨Dict.empty⟩ tiedResults = .ok actions →
      selectAction (numberRuntime []) ⟨.finite (7 / 10), "rollback_config"⟩ ⟨Dict.empty⟩
        tiedResults = .ok actions.head?) ∧
    ((∀ result ∈ tiedResults, ListsIds result) →
      ∃ actions, generatePlan (numberRuntime []) ⟨.finite (7 / 10), "rollback_config"⟩
        ⟨Dict.empty⟩ tiedResults = .ok actions) :=
  selectors_agree (numberRuntime []) ⟨.finite (7 / 10), "rollback_config"⟩ ⟨Dict.empty⟩
    tiedResults (by simp [tiedResults])

/- `OptimizationEngine` over rational numbers, whose results hold the metadata the analysis
writes, is the engine above. -/

section Analysis

/-- The metadata of a result as a dictionary. -/
def metadataDict (metadata : Counterfactual.ResultMetadata) : Dict ℚ :=
  let written : Dict ℚ := Dict.empty.setAll
    [("metric_name", .str metadata.metricName),
      ("num_interventions", .num metadata.numInterventions),
      ("scenario_description", .str metadata.scenarioDescription),
      ("change_ids", .texts metadata.changeIds)]
  match metadata.runId with
  | some runId => written.set "run_id" (.str runId)
  | none => written

def ofResult (result : Counterfactual.CounterfactualResult) : CounterfactualResult ℚ :=
  ⟨result.delta, result.confidence, metadataDict result.metadata⟩

def ofEngine (engine : Optimization.OptimizationEngine) : OptimizationEngine ℚ :=
  ⟨engine.minConfidence, engine.defaultActionType⟩

def ofEvent (event : Temporal.DriftEvent) : DriftEvent ℚ := ⟨event.metadata⟩

def ofAction (action : Optimization.OptimizationAction ℚ) : OptimizationAction ℚ :=
  ⟨action.actionType, .str action.targetRunId, action.changeId, action.description,
    action.metadata⟩

theorem metadataDict_changeIds (metadata : Counterfactual.ResultMetadata) :
    (metadataDict metadata).get "change_ids" = PyVal.texts metadata.changeIds := by
  rw [metadataDict, Dict.get]
  cases metadata.runId with
  | none => simp [Dict.setAll]
  | some runId => simp [Dict.setAll, Dict.get?_set]

theorem metadataDict_runId (metadata : Counterfactual.ResultMetadata) :
    ((metadataDict metadata).get? "run_id").getD (.str "") =
      .str (metadata.runId.getD "") := by
  rw [metadataDict]
  cases metadata.runId with
  | none => simp [Dict.setAll, Dict.get?_set]
  | some runId => simp

theorem validResults_ofResult (engine : Optimization.OptimizationEngine)
    (results : List Counterfactual.CounterfactualResult) :
    validResults (ofEngine engine) (results.map ofResult) =
      (Optimization.validResults engine results).map ofResult := by
  rw [validResults, List.filter_map]
  rfl

variable {rt : Runtime ℚ} (plain : ∀ text, rt.str (.str text) = text)
include plain

theorem resultChangeId_ofResult (result : Counterfactual.CounterfactualResult) :
    resultChangeId rt (ofResult result) = .ok (result.metadata.changeIds.headD "") := by
  rw [resultChangeId, ofResult, metadataDict_changeIds, PyVal.texts]
  cases result.metadata.changeIds with
  | nil => rfl
  | cons first rest =>
      rw [List.map_cons, firstItem_arr, Except.map, plain]
      rfl

theorem buildAction_ofResult (engine : Optimization.OptimizationEngine)
    (event : Temporal.DriftEvent) (result : Counterfactual.CounterfactualResult) :
    buildAction rt (ofEngine engine) (ofEvent event) (ofResult result) =
      .ok (ofAction (Optimization.buildAction rt engine event result)) := by
  rw [buildAction, resultChangeId_ofResult plain]
  show Except.ok _ = Except.ok _
  rw [ofResult, metadataDict_runId]
  rfl

theorem selectAction_ofResult (engine : Optimization.OptimizationEngine)
    (event : Temporal.DriftEvent) (results : List Counterfactual.CounterfactualResult) :
    selectAction rt (ofEngine engine) (ofEvent event) (results.map ofResult) =
      .ok ((Optimization.selectAction rt engine event results).map ofAction) := by
  have first : Collections.firstMax CounterfactualResult.delta
      ((Optimization.validResults engine results).map ofResult) =
      ((Optimization.validResults engine results).argmax
        Counterfactual.CounterfactualResult.delta).map ofResult := by
    rw [Collections.firstMax_map,
      Collections.firstMax_eq_argmax Counterfactual.CounterfactualResult.delta]
    intro left _ right _
    exact Iff.rfl
  rw [selectAction, validResults_ofResult, first, Optimization.selectAction]
  cases (Optimization.validResults engine results).argmax
      Counterfactual.CounterfactualResult.delta with
  | none => rfl
  | some best =>
      rw [Option.map_some, Option.map_some, Option.map_some]
      show (buildAction rt (ofEngine engine) (ofEvent event) (ofResult best)).map some = _
      rw [buildAction_ofResult plain]
      rfl

theorem generatePlan_ofResult (engine : Optimization.OptimizationEngine)
    (event : Temporal.DriftEvent) (results : List Counterfactual.CounterfactualResult) :
    generatePlan rt (ofEngine engine) (ofEvent event) (results.map ofResult) =
      .ok ((Optimization.generatePlan rt engine event results).map ofAction) := by
  have ranked : Collections.sortedDown CounterfactualResult.delta
      ((Optimization.validResults engine results).map ofResult) =
      ((Optimization.validResults engine results).insertionSort
        fun left right => right.delta ≤ left.delta).map ofResult :=
    (List.map_insertionSort _ _ ofResult _ (fun _ _ _ _ => Iff.rfl)).symm
  rw [generatePlan, validResults_ofResult, ranked, Optimization.generatePlan, List.map_map,
    List.mapM_map]
  apply Exceptions.mapM_eq_ok_map
  intro result _
  exact buildAction_ofResult plain engine event result

end Analysis

end RagDrift.Optimization.Selectors
