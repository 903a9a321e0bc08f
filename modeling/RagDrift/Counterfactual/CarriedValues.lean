import RagDrift.Counterfactual.Equality
import RagDrift.Python.Exceptions

set_option autoImplicit false

/- An edit of a record that already holds everything the edit would write: the record stays
what it was. -/
namespace RagDrift.Counterfactual

open Storage (EvaluationRecord PyErr)
open Causal
open Exceptions (map_ok_iff)

variable {N : Type}

section Values

variable [Zero N] [One N]

/-- Writing fields into a dictionary changes nothing exactly if they are all in it. -/
theorem setOld_same_iff (value : String → PyVal N) (fields : List (String × FieldChange N))
    (agree : ∀ field ∈ fields, field.2.old = value field.1) (target : Dict N) :
    (setOld target fields).Same target ↔
      ∀ field ∈ fields, SameEntry (target.get? field.1) (some field.2.old) := by
  rw [Dict.same_iff]
  simp only [get?_setOld value fields agree]
  constructor
  · intro same field inside
    have here := same field.1
    rw [if_pos (List.mem_map_of_mem inside)] at here
    rw [agree field inside]
    exact here.symm
  · intro carried key
    by_cases written : key ∈ fields.map Prod.fst
    · rw [if_pos written]
      obtain ⟨field, inside, rfl⟩ := List.mem_map.mp written
      have there := carried field inside
      rw [agree field inside] at there
      exact there.symm
    · rw [if_neg written]

/-- The entries of an override, as fields. -/
def overrideFields (override : Dict N) : List (String × FieldChange N) :=
  override.keys.map fun key => (key, ⟨override.get key, override.get key⟩)

omit [Zero N] [One N] in
theorem applyModify_metadata (record : EvaluationRecord N) (override : Dict N) :
    (applyModify record override).metadata = setOld record.metadata (overrideFields override) := by
  rw [setOld, overrideFields, List.foldl_map]
  rfl

/-- The record already has every entry of the override. -/
def CarriesOverride (override : Dict N) (record : EvaluationRecord N) : Prop :=
  ∀ key ∈ override.keys, SameEntry (record.metadata.get? key) (override.get? key)

theorem applyModify_same_iff (record : EvaluationRecord N) (override : Dict N) :
    SameRecord (applyModify record override) record ↔ CarriesOverride override record := by
  have agree : ∀ field ∈ overrideFields override, field.2.old = override.get field.1 := by
    intro field inside
    obtain ⟨key, _, rfl⟩ := List.mem_map.mp inside
    rfl
  have metadata := setOld_same_iff override.get _ agree record.metadata
  rw [← applyModify_metadata] at metadata
  constructor
  · rintro ⟨_, _, same⟩ key inside
    have there := metadata.mp same _ (List.mem_map_of_mem inside)
    rw [Dict.get?_of_mem inside]
    exact there
  · intro carried
    refine ⟨⟨rfl, rfl, rfl, rfl⟩, rfl, metadata.mpr ?_⟩
    intro field inside
    obtain ⟨key, member, rfl⟩ := List.mem_map.mp inside
    have there := carried key member
    rw [Dict.get?_of_mem member] at there
    exact there

/-- The record already has every old value the details hold. -/
structure Carries (details : ChangeDetails N) (record : EvaluationRecord N) : Prop where
  systemVersion : ∀ old new, details.systemVersion = some (old, new) → record.systemVersion = old
  pipeline : ∀ old new, details.pipeline = some (old, new) →
    SameEntry (record.metadata.get? "pipeline_name") (some old)
  systemInfo : ∀ fields, details.systemInfoDiff = some fields →
    ∃ value, record.metadata.get? "system_info" = some value ∧
      ∀ field ∈ fields, ∃ info, value.asDict? = some info ∧
        SameEntry (info.get? field.1) (some field.2.old)
  metadata : ∀ fields, details.metadataDiff = some fields →
    ∀ field ∈ fields, SameEntry (record.metadata.get? field.1) (some field.2.old)

theorem revertSystemInfo_same_iff (value : String → PyVal N)
    (fields : List (String × FieldChange N))
    (agree : ∀ field ∈ fields, field.2.old = value field.1) (metadata : Dict N) :
    (∃ reverted, revertSystemInfo metadata fields = .ok reverted ∧
        SameEntry (reverted.get? "system_info") (metadata.get? "system_info")) ↔
      ∃ value, metadata.get? "system_info" = some value ∧
        ∀ field ∈ fields, ∃ info, value.asDict? = some info ∧
          SameEntry (info.get? field.1) (some field.2.old) := by
  cases found : metadata.get? "system_info" with
  | none =>
      have missing : "system_info" ∉ metadata.keys := (Dict.get?_eq_none_iff _ _).mp found
      constructor
      · rintro ⟨reverted, ran, same⟩
        cases fields with
        | nil =>
            rw [revertSystemInfo] at ran
            cases ran
            rw [if_pos missing, Dict.get?_set_self] at same
            cases same
        | cons field rest =>
            simp only [revertSystemInfo, missing, not_false_iff, ↓reduceIte, Dict.get_set,
              PyVal.asDict?_ofDict, Except.ok.injEq] at ran
            subst ran
            rw [Dict.get?_set_self] at same
            cases same
      · rintro ⟨_, same, _⟩
        cases same
  | some current =>
      have present : "system_info" ∈ metadata.keys := by
        rw [Dict.mem_keys_iff, found]
        rfl
      have get : metadata.get "system_info" = current := Dict.get_of_get? found
      cases fields with
      | nil =>
          simp only [revertSystemInfo, present, not_true, ↓reduceIte, Except.ok.injEq,
            exists_eq_left', found, Option.some.injEq, List.not_mem_nil, false_implies,
            implies_true, and_true, exists_eq']
          exact iff_of_true (SameEntry.refl _) trivial
      | cons field rest =>
          simp only [revertSystemInfo, present, not_true, ↓reduceIte, get, Option.some.injEq,
            exists_eq_left']
          cases dict : current.asDict? with
          | none =>
              constructor
              · rintro ⟨reverted, ran, _⟩
                cases ran
              · intro carried
                obtain ⟨info, same, _⟩ := carried field List.mem_cons_self
                cases same
          | some info =>
              have merged := setOld_same_iff value (field :: rest) agree info
              simp only [Except.ok.injEq, exists_eq_left', Dict.get?_set_self, sameEntry_some,
                Option.some.injEq]
              rw [← merged, PyVal.ofDict_of_asDict? dict]
              exact Iff.rfl

end Values

section Details

variable [LinearOrder N] [Zero N] [One N]

theorem changedFields_agree (prev cur : Dict N) :
    ∀ field ∈ changedFields prev cur, field.2.old = prev.get field.1 := by
  rintro ⟨key, change⟩ inside
  rw [(mem_changedFields.mp inside).2]

theorem systemInfoFields_agree (prev cur : PyVal N) :
    ∃ value : String → PyVal N,
      ∀ field ∈ systemInfoFields prev cur, field.2.old = value field.1 := by
  unfold systemInfoFields
  split
  · rename_i prevInfo curInfo _ _
    exact ⟨prevInfo.get, changedFields_agree prevInfo curInfo⟩
  · exact ⟨fun _ => .none, fun _ inside => absurd inside List.not_mem_nil⟩

theorem systemInfoDiff_agree {prev cur : EvaluationRecord N}
    {fields : List (String × FieldChange N)}
    (recorded : (ownDetails prev cur).systemInfoDiff = some fields) :
    ∃ value : String → PyVal N, ∀ field ∈ fields, field.2.old = value field.1 := by
  simp only [ownDetails, diffDetails] at recorded
  split at recorded
  · rw [← Option.some.inj recorded]
    exact systemInfoFields_agree _ _
  · cases recorded

theorem metadataDiff_agree {prev cur : EvaluationRecord N}
    {fields : List (String × FieldChange N)}
    (recorded : (ownDetails prev cur).metadataDiff = some fields) :
    ∃ value : String → PyVal N, ∀ field ∈ fields, field.2.old = value field.1 := by
  simp only [ownDetails, diffDetails] at recorded
  split at recorded
  · rw [← Option.some.inj recorded]
    exact ⟨_, changedFields_agree _ _⟩
  · cases recorded

omit [LinearOrder N] [Zero N] [One N] in
theorem revertSystemInfo_frame {metadata reverted : Dict N}
    {fields : List (String × FieldChange N)}
    (ran : revertSystemInfo metadata fields = .ok reverted) {key : String}
    (differs : key ≠ "system_info") : reverted.get? key = metadata.get? key := by
  obtain ⟨plain, created, _, others⟩ := revertSystemInfo_nil metadata
  rw [revertSystemInfo] at created
  cases created
  cases fields with
  | nil =>
      cases ran
      exact others key differs
  | cons field rest =>
      simp only [revertSystemInfo] at ran
      split at ran
      · cases ran
        rw [Dict.get?_set_ne _ _ differs]
        exact others key differs
      · cases ran

omit [LinearOrder N] [Zero N] [One N] in
theorem revertInfoDiff_frame {metadata reverted : Dict N} {details : ChangeDetails N}
    (ran : revertInfoDiff metadata details = .ok reverted) {key : String}
    (differs : key ≠ "system_info") : reverted.get? key = metadata.get? key := by
  rw [revertInfoDiff] at ran
  split at ran
  · exact revertSystemInfo_frame ran differs
  · cases ran
    rfl

theorem revertInfoDiff_same_iff (prev cur : EvaluationRecord N) (metadata : Dict N) :
    (∃ reverted, revertInfoDiff metadata (ownDetails prev cur) = .ok reverted ∧
        SameEntry (reverted.get? "system_info") (metadata.get? "system_info")) ↔
      ∀ fields, (ownDetails prev cur).systemInfoDiff = some fields →
        ∃ value, metadata.get? "system_info" = some value ∧
          ∀ field ∈ fields, ∃ info, value.asDict? = some info ∧
            SameEntry (info.get? field.1) (some field.2.old) := by
  rw [revertInfoDiff]
  cases recorded : (ownDetails prev cur).systemInfoDiff with
  | none =>
      refine iff_of_true ⟨metadata, rfl, SameEntry.refl _⟩ ?_
      intro fields same
      cases same
  | some fields =>
      obtain ⟨value, agree⟩ := systemInfoDiff_agree recorded
      simp only [Option.some.injEq, forall_eq']
      exact revertSystemInfo_same_iff value fields agree metadata

/-- The pipeline name goes back first; it is no part of the system information. -/
theorem revertPipeline_info (prev cur : EvaluationRecord N) (metadata : Dict N) :
    (revertPipeline metadata (ownDetails prev cur)).get? "system_info" =
      metadata.get? "system_info" := by
  rw [get?_revertPipeline_own, if_neg (by simp)]

omit [LinearOrder N] in
theorem revertPipeline_same {details : ChangeDetails N} {metadata : Dict N}
    (carried : ∀ old new, details.pipeline = some (old, new) →
      SameEntry (metadata.get? "pipeline_name") (some old)) (key : String) :
    SameEntry ((revertPipeline metadata details).get? key) (metadata.get? key) := by
  unfold revertPipeline
  split
  · rename_i old new recorded
    rw [Dict.get?_set]
    split
    · rename_i here
      rw [here]
      exact (carried old new recorded).symm
    · exact SameEntry.refl _
  · exact SameEntry.refl _

theorem revertMetadataDiff_same {prev cur : EvaluationRecord N} {restored metadata : Dict N}
    (plain : ∀ key, SameEntry (restored.get? key) (metadata.get? key))
    (carried : ∀ fields, (ownDetails prev cur).metadataDiff = some fields →
      ∀ field ∈ fields, SameEntry (metadata.get? field.1) (some field.2.old)) :
    (revertMetadataDiff restored (ownDetails prev cur)).Same metadata := by
  rw [Dict.same_iff]
  intro key
  unfold revertMetadataDiff
  split
  · rename_i fields recorded
    obtain ⟨value, agree⟩ := metadataDiff_agree recorded
    rw [get?_setOld value fields agree]
    split
    · rename_i written
      obtain ⟨field, inside, rfl⟩ := List.mem_map.mp written
      rw [← agree field inside]
      exact (carried fields recorded field inside).symm
    · exact plain key
  · exact plain key

/-- The revert of a change leaves another record as it is exactly if that record already
carries everything the revert writes. -/
theorem revertChange_same_iff (prev cur record : EvaluationRecord N) :
    (∃ edited, revertChange record (ownDetails prev cur) = .ok edited ∧
        SameRecord edited record) ↔
      Carries (ownDetails prev cur) record := by
  have info := revertInfoDiff_same_iff prev cur
    (revertPipeline record.metadata (ownDetails prev cur))
  rw [revertPipeline_info] at info
  constructor
  · rintro ⟨edited, ran, _, version, metadata⟩
    rw [revertChange] at ran
    obtain ⟨restored, inner, rfl⟩ := map_ok_iff.mp ran
    have entry := (Dict.same_iff _ _).mp metadata
    have pipelineEntry := entry "pipeline_name"
    have infoEntry := entry "system_info"
    rw [get?_revertMetadataDiff_own, if_pos (Or.inl rfl),
      revertInfoDiff_frame inner (by decide)] at pipelineEntry
    rw [get?_revertMetadataDiff_own, if_pos (Or.inr rfl)] at infoEntry
    refine ⟨?_, ?_, info.mp ⟨restored, inner, infoEntry⟩, ?_⟩
    · intro old new recorded
      simpa only [revertVersion, recorded] using version.symm
    · intro old new recorded
      simp only [revertPipeline, recorded, Dict.get?_set_self] at pipelineEntry
      exact pipelineEntry.symm
    · intro fields recorded field inside
      obtain ⟨value, agree⟩ := metadataDiff_agree recorded
      have here := entry field.1
      simp only [revertMetadataDiff, recorded, get?_setOld value fields agree] at here
      rw [if_pos (List.mem_map_of_mem inside)] at here
      rw [agree field inside]
      exact here.symm
  · rintro ⟨version, pipeline, systemInfo, metadata⟩
    obtain ⟨restored, inner, infoEntry⟩ := info.mpr systemInfo
    have ran : revertChange record (ownDetails prev cur) = .ok { record with
        systemVersion := revertVersion record.systemVersion (ownDetails prev cur)
        metadata := revertMetadataDiff restored (ownDetails prev cur) } := by
      rw [revertChange, inner, Except.map]
    refine ⟨_, ran, ⟨rfl, rfl, rfl, rfl⟩, ?_, ?_⟩
    · change revertVersion record.systemVersion (ownDetails prev cur) = record.systemVersion
      unfold revertVersion
      split
      · rename_i old new recorded
        exact (version old new recorded).symm
      · rfl
    · refine revertMetadataDiff_same ?_ metadata
      intro key
      by_cases named : key = "system_info"
      · rw [named]
        exact infoEntry
      · rw [revertInfoDiff_frame inner named]
        exact revertPipeline_same pipeline key

end Details

end RagDrift.Counterfactual
