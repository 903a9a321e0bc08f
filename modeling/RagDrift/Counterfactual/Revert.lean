import RagDrift.Counterfactual.Simulator

set_option autoImplicit false

/- What a record looks like after its own change is reverted, and when nothing of the change
is left. -/
namespace RagDrift.Counterfactual

open Storage (EvaluationRecord)
open Causal

variable {N : Type} [Equality N]

omit [Equality N] in
theorem get?_setOld (value : String → PyVal N) (fields : List (String × FieldChange N))
    (agree : ∀ field ∈ fields, field.2.old = value field.1) (target : Dict N) (key : String) :
    (setOld target fields).get? key =
      if key ∈ fields.map Prod.fst then some (value key) else target.get? key := by
  induction fields generalizing target with
  | nil => rfl
  | cons field rest ih =>
      have here := agree field List.mem_cons_self
      have later := ih (fun other inside => agree other (List.mem_cons_of_mem _ inside))
      rw [setOld, List.foldl_cons, ← setOld, later, here]
      simp only [List.map_cons, List.mem_cons, Dict.get?_set]
      by_cases inside : key ∈ rest.map Prod.fst
      · simp only [inside, or_true, ↓reduceIte]
      · by_cases same : key = field.1
        · rw [if_neg inside, if_pos same, if_pos (Or.inl same), same]
        · simp only [same, inside, or_self, ↓reduceIte]

/-- Undoing the difference of two dictionaries, key by key. -/
theorem get?_setOld_changedFields (prev cur target : Dict N) (key : String) :
    (setOld target (changedFields prev cur)).get? key =
      if Equal (prev.get key) (cur.get key) then target.get? key else some (prev.get key) := by
  rw [get?_setOld prev.get]
  · by_cases same : Equal (prev.get key) (cur.get key)
    · rw [if_pos same, if_neg]
      rintro inside
      obtain ⟨⟨_, change⟩, listed, rfl⟩ := List.mem_map.mp inside
      exact (mem_changedFields.mp listed).1 same
    · rw [if_neg same, if_pos]
      exact List.mem_map.mpr ⟨(key, _), mem_changedFields.mpr ⟨same, rfl⟩, rfl⟩
  · rintro ⟨name, change⟩ inside
    rw [(mem_changedFields.mp inside).2]

/-- The system information of a reverted record: untouched when it did not change, merged
field by field when both sides are dictionaries, an empty one where there was none. -/
def revertedInfo (prev : PyVal N) (cur : Option (PyVal N)) : Option (PyVal N) :=
  if Equal prev (cur.getD .none) then cur
  else match cur with
    | none => some (.ofDict Dict.empty)
    | some value =>
        match prev.asDict?, value.asDict? with
        | some prevInfo, some curInfo =>
            some (.ofDict (setOld curInfo (changedFields prevInfo curInfo)))
        | _, _ => some value

theorem systemInfoFields_of_missing (prev : PyVal N) :
    systemInfoFields prev PyVal.none = [] := by
  unfold systemInfoFields
  split
  · rename_i none
    cases none
  · rfl

omit [Equality N] in
theorem revertSystemInfo_nil (metadata : Dict N) :
    ∃ reverted, revertSystemInfo metadata [] = .ok reverted ∧
      reverted.get? "system_info" =
        some ((metadata.get? "system_info").getD (.ofDict Dict.empty)) ∧
      ∀ key, key ≠ "system_info" → reverted.get? key = metadata.get? key := by
  refine ⟨_, rfl, ?_, ?_⟩
  · split
    · rename_i missing
      rw [Dict.get?_set_self, (Dict.get?_eq_none_iff _ _).mpr missing, Option.getD_none]
    · rename_i present
      rw [not_not, Dict.mem_keys_iff] at present
      obtain ⟨value, found⟩ := Option.isSome_iff_exists.mp present
      rw [found, Option.getD_some]
  · intro key differs
    split
    · rw [Dict.get?_set_ne _ _ differs]
    · rfl

/-- Nothing but the fields of two dictionaries is ever assigned, so the revert cannot fail. -/
theorem revertSystemInfo_spec (metadata : Dict N) (prev : PyVal N)
    (changed : ¬ Equal prev (metadata.get "system_info")) :
    ∃ reverted,
      revertSystemInfo metadata (systemInfoFields prev (metadata.get "system_info")) =
        .ok reverted ∧
      reverted.get? "system_info" = revertedInfo prev (metadata.get? "system_info") ∧
      ∀ key, key ≠ "system_info" → reverted.get? key = metadata.get? key := by
  obtain ⟨plain, ran, info, others⟩ := revertSystemInfo_nil metadata
  cases found : metadata.get? "system_info" with
  | none =>
      have missing : metadata.get "system_info" = PyVal.none := by rw [Dict.get, found]; rfl
      rw [missing, systemInfoFields_of_missing]
      refine ⟨plain, ran, ?_, others⟩
      rw [missing] at changed
      simp only [info, found, revertedInfo, Option.getD_none, changed, ↓reduceIte]
  | some value =>
      have present : metadata.get "system_info" = value := Dict.get_of_get? found
      rw [present] at changed ⊢
      rw [found, Option.getD_some] at info
      rw [revertedInfo, Option.getD_some, if_neg changed]
      unfold systemInfoFields
      cases prevDict : prev.asDict? with
      | none => exact ⟨plain, ran, info, others⟩
      | some prevInfo =>
          cases curDict : value.asDict? with
          | none => exact ⟨plain, ran, info, others⟩
          | some curInfo =>
              have kept : "system_info" ∈ metadata.keys := by
                rw [Dict.mem_keys_iff, found]
                rfl
              cases fields : changedFields prevInfo curInfo with
              | nil =>
                  refine ⟨plain, by simp only [fields, ran], ?_, others⟩
                  rw [info, PyVal.ofDict_of_asDict? curDict]
                  simp only [fields]
                  rfl
              | cons field rest =>
                  refine ⟨metadata.set "system_info" (.ofDict (setOld curInfo (field :: rest))),
                    ?_, ?_, ?_⟩
                  · simp only [fields, revertSystemInfo, kept, not_true, ↓reduceIte, present,
                      curDict]
                  · simp only [fields, Dict.get?_set_self]
                  · intro key differs
                    exact Dict.get?_set_ne _ _ differs

/-- The record `cur` with its change against `prev` taken back. -/
structure RevertedBehind (prev cur reverted : EvaluationRecord N) : Prop where
  recordId : reverted.recordId = cur.recordId
  runId : reverted.runId = cur.runId
  timestamp : reverted.timestamp = cur.timestamp
  metrics : reverted.metrics = cur.metrics
  systemVersion : reverted.systemVersion = prev.systemVersion
  plain : ∀ key, key ≠ "system_info" → reverted.metadata.get? key =
    if Equal (prev.metadata.get key) (cur.metadata.get key) then cur.metadata.get? key
    else some (prev.metadata.get key)
  info : reverted.metadata.get? "system_info" =
    revertedInfo (prev.metadata.get "system_info") (cur.metadata.get? "system_info")

def ownDetails (prev cur : EvaluationRecord N) : ChangeDetails N :=
  diffDetails (extractChangeSignature prev) (extractChangeSignature cur)

theorem revertVersion_own (prev cur : EvaluationRecord N) :
    revertVersion cur.systemVersion (ownDetails prev cur) = prev.systemVersion := by
  have recorded : (ownDetails prev cur).systemVersion =
      if prev.systemVersion ≠ cur.systemVersion then
        some (prev.systemVersion, cur.systemVersion) else none := rfl
  rw [revertVersion, recorded]
  by_cases same : prev.systemVersion = cur.systemVersion
  · rw [if_neg (not_not.mpr same)]
    exact same.symm
  · rw [if_pos same]

theorem get?_revertPipeline_own (prev cur : EvaluationRecord N) (metadata : Dict N)
    (key : String) :
    (revertPipeline metadata (ownDetails prev cur)).get? key =
      if key = "pipeline_name" ∧
          ¬ Equal (prev.metadata.get "pipeline_name") (cur.metadata.get "pipeline_name") then
        some (prev.metadata.get "pipeline_name")
      else metadata.get? key := by
  have recorded : (ownDetails prev cur).pipeline =
      if ¬ Equal (prev.metadata.get "pipeline_name") (cur.metadata.get "pipeline_name") then
        some (prev.metadata.get "pipeline_name", cur.metadata.get "pipeline_name")
      else none := rfl
  rw [revertPipeline, recorded]
  by_cases same : Equal (prev.metadata.get "pipeline_name") (cur.metadata.get "pipeline_name")
  · simp only [same, not_true, ↓reduceIte, and_false]
  · simp only [same, not_false_iff, ↓reduceIte, and_true, Dict.get?_set]

theorem revertInfoDiff_own (prev cur : EvaluationRecord N) (metadata : Dict N)
    (kept : metadata.get? "system_info" = cur.metadata.get? "system_info") :
    ∃ restored, revertInfoDiff metadata (ownDetails prev cur) = .ok restored ∧
      restored.get? "system_info" = revertedInfo (prev.metadata.get "system_info")
        (cur.metadata.get? "system_info") ∧
      ∀ key, key ≠ "system_info" → restored.get? key = metadata.get? key := by
  have current : metadata.get "system_info" = cur.metadata.get "system_info" := by
    rw [Dict.get, Dict.get, kept]
  by_cases same : Equal (prev.metadata.get "system_info") (cur.metadata.get "system_info")
  · refine ⟨metadata, ?_, ?_, fun _ _ => rfl⟩
    · have absent : (ownDetails prev cur).systemInfoDiff = none := if_neg (not_not.mpr same)
      simp only [revertInfoDiff, absent]
    · have untouched : Equal (prev.metadata.get "system_info")
          ((cur.metadata.get? "system_info").getD .none) := same
      simp only [kept, revertedInfo, untouched, ↓reduceIte]
  · have fields : (ownDetails prev cur).systemInfoDiff = some (systemInfoFields
        (prev.metadata.get "system_info") (cur.metadata.get "system_info")) := if_pos same
    rw [← current] at same fields
    obtain ⟨restored, ran, info, others⟩ := revertSystemInfo_spec metadata _ same
    rw [kept] at info
    refine ⟨restored, ?_, info, others⟩
    simp only [revertInfoDiff, fields, ran]

theorem get?_revertMetadataDiff_own (prev cur : EvaluationRecord N) (metadata : Dict N)
    (key : String) :
    (revertMetadataDiff metadata (ownDetails prev cur)).get? key =
      if key = "pipeline_name" ∨ key = "system_info" then metadata.get? key
      else if Equal (prev.metadata.get key) (cur.metadata.get key) then metadata.get? key
      else some (prev.metadata.get key) := by
  have undone : revertMetadataDiff metadata (ownDetails prev cur) =
      setOld metadata (changedFields (extractChangeSignature prev).metadata
        (extractChangeSignature cur).metadata) := by
    simp only [revertMetadataDiff, ownDetails, diffDetails]
    split
    · rename_i fields found
      split at found
      · rw [Option.some.inj found]
      · cases found
    · rename_i found
      split at found
      · cases found
      · rename_i empty
        rw [ne_eq, not_not] at empty
        rw [empty]
        rfl
  rw [undone, get?_setOld_changedFields, metadata_signature_get, metadata_signature_get]
  by_cases named : key = "pipeline_name" ∨ key = "system_info"
  · simp only [if_pos named, equal_none_iff, ↓reduceIte]
  · simp only [if_neg named]

/-- Reverting a record by its own change never fails and restores it key by key. -/
theorem revertChange_own (prev cur : EvaluationRecord N) :
    ∃ reverted, revertChange cur (ownDetails prev cur) = .ok reverted ∧
      RevertedBehind prev cur reverted := by
  have infoKept : (revertPipeline cur.metadata (ownDetails prev cur)).get? "system_info" =
      cur.metadata.get? "system_info" := by
    rw [get?_revertPipeline_own, if_neg (by simp)]
  obtain ⟨restored, ran, info, others⟩ := revertInfoDiff_own prev cur _ infoKept
  refine ⟨_, by rw [revertChange, ran, Except.map], ?_⟩
  refine ⟨rfl, rfl, rfl, rfl, revertVersion_own prev cur, ?_, ?_⟩
  · intro key differs
    rw [get?_revertMetadataDiff_own, others key differs, get?_revertPipeline_own]
    by_cases pipeline : key = "pipeline_name"
    · subst key
      simp only [true_or, ↓reduceIte, true_and, ite_not]
    · simp only [pipeline, differs, or_self, ↓reduceIte, false_and]
  · rw [get?_revertMetadataDiff_own, if_pos (Or.inr rfl), info]

end RagDrift.Counterfactual
