import RagDrift.Python.Builtins
import RagDrift.Storage.Models
import Mathlib.Data.List.Sort

set_option autoImplicit false

/- `evaluator.causal.change_extractor`: the changes between consecutive records of a history,
and the `ChangeEvent` of `evaluator.causal.models`. -/
namespace RagDrift.Causal

open Storage (EvaluationRecord)

variable {N : Type}

/-- What `==` says of two values of the metadata. -/
class Equality (N : Type) where
  Equal : PyVal N → PyVal N → Prop
  decidable : DecidableRel Equal
  equal_none_iff : ∀ value, Equal value .none ↔ value = .none

export Equality (Equal equal_none_iff)

instance [Equality N] (left right : PyVal N) : Decidable (Equal left right) :=
  Equality.decidable left right

/-- Numbers without NaN. -/
instance (priority := low) Equality.plain [DecidableEq N] [Zero N] [One N] : Equality N where
  Equal := PyVal.Same
  decidable := inferInstance
  equal_none_iff := PyVal.same_none_iff

@[simp] theorem equal_plain [DecidableEq N] [Zero N] [One N] (left right : PyVal N) :
    Equal left right ↔ left.Same right := Iff.rfl

/-- Numbers some of which are NaN objects. -/
class NanObjects (N : Type) where
  isNan : N → Bool

def IsNan [NanObjects N] (value : PyVal N) : Prop :=
  match value.json with
  | .num number => NanObjects.isNan number
  | _ => False

instance [NanObjects N] (value : PyVal N) : Decidable (IsNan value) := by
  unfold IsNan
  split <;> infer_instance

/-- NaN equals nothing, itself included; in a list or a dictionary one object equals itself. -/
instance Equality.ofNan [NanObjects N] [DecidableEq N] [Zero N] [One N] : Equality N where
  Equal left right := left.Same right ∧ ¬ IsNan left
  decidable := fun _ _ => inferInstance
  equal_none_iff := by
    intro value
    rw [PyVal.same_none_iff]
    constructor
    · exact And.left
    · rintro rfl
      exact ⟨rfl, not_false⟩

inductive ChangeType where
  | unknown
  | versionChange
  | modelUpdate
  | configChange
  deriving DecidableEq

def ChangeType.text : ChangeType → String
  | .unknown => "unknown"
  | .versionChange => "version_change"
  | .modelUpdate => "model_update"
  | .configChange => "config_change"

/-- The `{"old": .., "new": ..}` of one field. -/
structure FieldChange (N : Type) where
  old : PyVal N
  new : PyVal N

/-- The `details` of an event; a part is there when its key is in the dictionary. -/
structure ChangeDetails (N : Type) where
  systemVersion : Option (Option String × Option String)
  pipeline : Option (PyVal N × PyVal N)
  systemInfoDiff : Option (List (String × FieldChange N))
  metadataDiff : Option (List (String × FieldChange N))

structure ChangeEvent (N : Type) where
  changeId : String
  timestamp : N
  runId : String
  changeType : ChangeType
  details : ChangeDetails N

/-- `f"{self.run_id}:{self.timestamp}:{self.change_type}"`. -/
def changeName (rt : Runtime N) (runId : String) (timestamp : N) (changeType : ChangeType) :
    String :=
  runId ++ ":" ++ rt.str (.num timestamp) ++ ":" ++ changeType.text

/-- `ChangeEvent.__post_init__` without an id. -/
def ChangeEvent.new (rt : Runtime N) (timestamp : N) (runId : String) (changeType : ChangeType)
    (details : ChangeDetails N) : ChangeEvent N where
  changeId := rt.uuid5 (changeName rt runId timestamp changeType)
  timestamp := timestamp
  runId := runId
  changeType := changeType
  details := details

def optionVal : Option String → PyVal N
  | none => .none
  | some text => .str text

def FieldChange.toDict (change : FieldChange N) : Dict N :=
  Dict.empty.setAll [("old", change.old), ("new", change.new)]

def fieldsDict (fields : List (String × FieldChange N)) : Dict N :=
  Dict.empty.setAll (fields.map fun field => (field.1, .ofDict field.2.toDict))

def ChangeDetails.toDict (details : ChangeDetails N) : Dict N :=
  Dict.empty.setAll
    ((match details.systemVersion with
      | some (old, new) =>
          [("old_system_version", optionVal old), ("new_system_version", optionVal new)]
      | none => []) ++
    (match details.pipeline with
      | some (old, new) => [("old_pipeline", old), ("new_pipeline", new)]
      | none => []) ++
    (match details.systemInfoDiff with
      | some fields => [("system_info_diff", .ofDict (fieldsDict fields))]
      | none => []) ++
    (match details.metadataDiff with
      | some fields => [("metadata_diff", .ofDict (fieldsDict fields))]
      | none => []))

/-- A record's observable state; the last two keys may be missing. -/
structure Signature (N : Type) where
  systemVersion : Option String
  runId : String
  timestamp : N
  metadata : Dict N
  systemInfo : Option (PyVal N)
  pipelineName : Option (PyVal N)

def extractChangeSignature (record : EvaluationRecord N) : Signature N where
  systemVersion := record.systemVersion
  runId := record.runId
  timestamp := record.timestamp
  metadata := (record.metadata.erase "system_info").erase "pipeline_name"
  systemInfo := record.metadata.get? "system_info"
  pipelineName := record.metadata.get? "pipeline_name"

/-- `sig.get("system_info")`. -/
def Signature.info (sig : Signature N) : PyVal N := sig.systemInfo.getD .none

/-- `sig.get("pipeline_name")`. -/
def Signature.pipeline (sig : Signature N) : PyVal N := sig.pipelineName.getD .none

/-- `set(prev) | set(curr)`, in one of the orders Python may take it. -/
def unionKeys (prev curr : Dict N) : List String :=
  prev.keys ++ curr.keys.filter fun key => key ∉ prev.keys

variable [Equality N]

def changedFields (prev curr : Dict N) : List (String × FieldChange N) :=
  (unionKeys prev curr).filterMap fun key =>
    if Equal (prev.get key) (curr.get key) then none
    else some (key, ⟨prev.get key, curr.get key⟩)

def systemInfoFields (prev curr : PyVal N) : List (String × FieldChange N) :=
  match prev.asDict?, curr.asDict? with
  | some prevInfo, some currInfo => changedFields prevInfo currInfo
  | _, _ => []

def diffDetails (prev curr : Signature N) : ChangeDetails N where
  systemVersion :=
    if prev.systemVersion ≠ curr.systemVersion then
      some (prev.systemVersion, curr.systemVersion)
    else none
  pipeline :=
    if ¬ Equal prev.pipeline curr.pipeline then some (prev.pipeline, curr.pipeline) else none
  systemInfoDiff :=
    if ¬ Equal prev.info curr.info then some (systemInfoFields prev.info curr.info) else none
  metadataDiff :=
    if changedFields prev.metadata curr.metadata ≠ [] then
      some (changedFields prev.metadata curr.metadata)
    else none

/-- The type is fixed by the first difference found, except that two dictionaries of system
information turn a version change into a model update. -/
def diffType (prev curr : Signature N) : ChangeType :=
  let changeType := ChangeType.unknown
  let changeType :=
    if prev.systemVersion ≠ curr.systemVersion ∧ changeType = .unknown then .versionChange
    else changeType
  let changeType :=
    if ¬ Equal prev.pipeline curr.pipeline ∧ changeType = .unknown then .modelUpdate
    else changeType
  let changeType :=
    if ¬ Equal prev.info curr.info ∧ prev.info.asDict?.isSome ∧ curr.info.asDict?.isSome ∧
        (changeType = .unknown ∨ changeType = .versionChange) then .modelUpdate
    else changeType
  if changedFields prev.metadata curr.metadata ≠ [] ∧ changeType = .unknown then .configChange
  else changeType

def hasChange (prev curr : Signature N) : Prop :=
  prev.systemVersion ≠ curr.systemVersion ∨ ¬ Equal prev.pipeline curr.pipeline ∨
    ¬ Equal prev.info curr.info ∨ changedFields prev.metadata curr.metadata ≠ []

instance (prev curr : Signature N) : Decidable (hasChange prev curr) :=
  inferInstanceAs (Decidable (_ ∨ _ ∨ _ ∨ _))

def diffSignatures (rt : Runtime N) (prev curr : Signature N) : Option (ChangeEvent N) :=
  if hasChange prev curr then
    some (ChangeEvent.new rt curr.timestamp curr.runId (diffType prev curr)
      (diffDetails prev curr))
  else none

variable [LinearOrder N]

/-- `sorted(records, key=lambda r: r.timestamp)`, which keeps the order of equal timestamps. -/
def sortRecords (records : List (EvaluationRecord N)) : List (EvaluationRecord N) :=
  records.insertionSort fun left right => left.timestamp ≤ right.timestamp

def walk (rt : Runtime N) : Option (Signature N) → List (EvaluationRecord N) →
    List (ChangeEvent N)
  | _, [] => []
  | prev, record :: rest =>
      let curr := extractChangeSignature record
      (prev.bind fun prev => diffSignatures rt prev curr).toList ++ walk rt (some curr) rest

def extractChangeEvents (rt : Runtime N) (records : List (EvaluationRecord N)) :
    List (ChangeEvent N) :=
  walk rt none (sortRecords records)

end RagDrift.Causal
