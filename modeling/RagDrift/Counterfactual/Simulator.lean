import RagDrift.Causal.Changes

set_option autoImplicit false

/- `evaluator.counterfactual.simulator`: interventions on an in-memory copy of the history,
which is modelled by the list of its records. -/
namespace RagDrift.Counterfactual

open Storage (EvaluationRecord PyErr)
open Causal

variable {N : Type}

inductive Action where
  | remove
  | modify
  | other (name : String)
  deriving DecidableEq

/-- What `build_counterfactual_scenarios` writes into the metadata of an intervention. -/
structure FactorInfo (N : Type) where
  factorName : String
  factorScore : N
  relatedRunIds : Option (List String)

structure Intervention (N : Type) where
  action : Action
  changeId : String
  overrideMetadata : Dict N
  metadata : Option (FactorInfo N)

def Intervention.remove (changeId : String) : Intervention N where
  action := .remove
  changeId := changeId
  overrideMetadata := Dict.empty
  metadata := none

structure CounterfactualScenario (N : Type) where
  driftEventId : String
  interventions : List (Intervention N)
  description : String

/-- `target[field_name] = values.get("old")` for every field. -/
def setOld (target : Dict N) (fields : List (String × FieldChange N)) : Dict N :=
  fields.foldl (fun acc field => acc.set field.1 field.2.old) target

/-- The system information is created when it is missing; assigning into one that is no
dictionary is a `TypeError`. -/
def revertSystemInfo (metadata : Dict N) (fields : List (String × FieldChange N)) :
    Except PyErr (Dict N) :=
  let metadata :=
    if "system_info" ∉ metadata.keys then metadata.set "system_info" (.ofDict Dict.empty)
    else metadata
  match fields with
  | [] => .ok metadata
  | _ :: _ =>
      match (metadata.get "system_info").asDict? with
      | some info => .ok (metadata.set "system_info" (.ofDict (setOld info fields)))
      | none => .error .typeError

/- The four parts of `_revert_change`, each under the test for its key of `details`. -/

def revertVersion (systemVersion : Option String) (details : ChangeDetails N) : Option String :=
  match details.systemVersion with
  | some (old, _) => old
  | none => systemVersion

def revertPipeline (metadata : Dict N) (details : ChangeDetails N) : Dict N :=
  match details.pipeline with
  | some (old, _) => metadata.set "pipeline_name" old
  | none => metadata

def revertInfoDiff (metadata : Dict N) (details : ChangeDetails N) : Except PyErr (Dict N) :=
  match details.systemInfoDiff with
  | some fields => revertSystemInfo metadata fields
  | none => .ok metadata

def revertMetadataDiff (metadata : Dict N) (details : ChangeDetails N) : Dict N :=
  match details.metadataDiff with
  | some fields => setOld metadata fields
  | none => metadata

def revertChange (record : EvaluationRecord N) (details : ChangeDetails N) :
    Except PyErr (EvaluationRecord N) :=
  (revertInfoDiff (revertPipeline record.metadata details) details).map fun metadata =>
    { record with
      systemVersion := revertVersion record.systemVersion details
      metadata := revertMetadataDiff metadata details }

def applyModify (record : EvaluationRecord N) (override : Dict N) : EvaluationRecord N :=
  { record with
    metadata := override.keys.foldl (fun acc key => acc.set key (override.get key))
      record.metadata }

/-- The loop that edits the first record of a run and leaves. -/
def editFirst (runId : String) (edit : EvaluationRecord N → Except PyErr (EvaluationRecord N)) :
    List (EvaluationRecord N) → Except PyErr (List (EvaluationRecord N))
  | [] => .ok []
  | record :: rest =>
      if record.runId = runId then do
        let edited ← edit record
        return edited :: rest
      else do
        let others ← editFirst runId edit rest
        return record :: others

variable [LinearOrder N] [Equality N]

def editFor (intervention : Intervention N) (target : ChangeEvent N)
    (record : EvaluationRecord N) : Except PyErr (EvaluationRecord N) :=
  match intervention.action with
  | .remove => revertChange record target.details
  | .modify => .ok (applyModify record intervention.overrideMetadata)
  | .other _ => .ok record

def targetChange (rt : Runtime N) (store : List (EvaluationRecord N)) (changeId : String) :
    Option (ChangeEvent N) :=
  (extractChangeEvents rt store).find? fun change => change.changeId = changeId

/-- Without a target the clone is returned in its own order, otherwise sorted. -/
def applyIntervention (rt : Runtime N) (store : List (EvaluationRecord N))
    (intervention : Intervention N) : Except PyErr (List (EvaluationRecord N)) :=
  match targetChange rt store intervention.changeId with
  | none => .ok store
  | some target => editFirst target.runId (editFor intervention target) (sortRecords store)

def applyScenario (rt : Runtime N) (store : List (EvaluationRecord N))
    (scenario : CounterfactualScenario N) : Except PyErr (List (EvaluationRecord N)) :=
  scenario.interventions.foldlM (applyIntervention rt) store

end RagDrift.Counterfactual
