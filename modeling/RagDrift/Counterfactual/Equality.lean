import RagDrift.Counterfactual.RemovedChange

set_option autoImplicit false

/- Records that Python's `==` identifies, and why a revert cannot tell equal predecessors
apart. -/
namespace RagDrift.Counterfactual

open Storage (EvaluationRecord)
open Causal

variable {N : Type}

theorem SamePlace.refl (record : EvaluationRecord N) : SamePlace record record :=
  ⟨rfl, rfl, rfl, rfl⟩

theorem SamePlace.symm {left right : EvaluationRecord N} (same : SamePlace left right) :
    SamePlace right left :=
  ⟨same.recordId.symm, same.runId.symm, same.timestamp.symm, same.metrics.symm⟩

theorem SamePlace.trans {first second third : EvaluationRecord N} (front : SamePlace first second)
    (back : SamePlace second third) : SamePlace first third :=
  ⟨front.recordId.trans back.recordId, front.runId.trans back.runId,
    front.timestamp.trans back.timestamp, front.metrics.trans back.metrics⟩

section Equality

variable [Zero N] [One N]

/-- Python's `==` on records that keep their place. -/
structure SameRecord (left right : EvaluationRecord N) : Prop where
  place : SamePlace left right
  systemVersion : left.systemVersion = right.systemVersion
  metadata : left.metadata.Same right.metadata

theorem SameRecord.refl (record : EvaluationRecord N) : SameRecord record record :=
  ⟨.refl record, rfl, Dict.Same.refl _⟩

theorem SameRecord.symm {left right : EvaluationRecord N} (same : SameRecord left right) :
    SameRecord right left :=
  ⟨same.place.symm, same.systemVersion.symm, same.metadata.symm⟩

theorem SameRecord.trans {first second third : EvaluationRecord N}
    (front : SameRecord first second) (back : SameRecord second third) :
    SameRecord first third :=
  ⟨front.place.trans back.place, front.systemVersion.trans back.systemVersion,
    front.metadata.trans back.metadata⟩

theorem SameRecord.get {left right : EvaluationRecord N} (same : SameRecord left right)
    (key : String) : (left.metadata.get key).Same (right.metadata.get key) :=
  ((Dict.same_iff_keys _ _).mp same.metadata).2 key

theorem SameRecord.unchanged [DecidableEq N] {left right : EvaluationRecord N}
    (same : SameRecord left right) :
    Unchanged left right :=
  ⟨same.systemVersion, same.get⟩

theorem same_congr_left {first second value : PyVal N} (same : first.Same second) :
    first.Same value ↔ second.Same value :=
  ⟨fun holds => same.symm.trans holds, fun holds => same.trans holds⟩

/-- Python's `==` on what stands under one key, if anything does. -/
def SameEntry (left right : Option (PyVal N)) : Prop :=
  left.map (fun value => value.json.canon) = right.map fun value => value.json.canon

theorem SameEntry.refl (entry : Option (PyVal N)) : SameEntry entry entry := Eq.refl _

theorem SameEntry.symm {left right : Option (PyVal N)} (same : SameEntry left right) :
    SameEntry right left :=
  Eq.symm same

theorem SameEntry.trans {first second third : Option (PyVal N)} (front : SameEntry first second)
    (back : SameEntry second third) : SameEntry first third :=
  Eq.trans front back

theorem sameEntry_some (left right : PyVal N) :
    SameEntry (some left) (some right) ↔ left.Same right := by
  rw [SameEntry, Option.map_some, Option.map_some, Option.some.injEq]
  rfl

theorem SameEntry.getD {left right : Option (PyVal N)} (same : SameEntry left right) :
    (left.getD .none).Same (right.getD .none) := by
  cases left with
  | none =>
      cases right with
      | none => exact PyVal.Same.refl _
      | some value => cases same
  | some value =>
      cases right with
      | none => cases same
      | some other => exact (sameEntry_some value other).mp same

/-- Equal values under every key; a missing key counts as `None`. -/
def SameValues (left right : Dict N) : Prop := ∀ key, (left.get key).Same (right.get key)

theorem SameValues.symm {left right : Dict N} (same : SameValues left right) :
    SameValues right left :=
  fun key => (same key).symm

theorem SameValues.trans {first second third : Dict N} (front : SameValues first second)
    (back : SameValues second third) : SameValues first third :=
  fun key => (front key).trans (back key)

theorem sameValues_of_same {left right : Dict N} (same : left.Same right) :
    SameValues left right :=
  ((Dict.same_iff_keys _ _).mp same).2

theorem asDict?_of_same {left right : PyVal N} (same : left.Same right) {info : Dict N}
    (found : left.asDict? = some info) :
    ∃ other, right.asDict? = some other ∧ info.Same other := by
  rw [PyVal.ofDict_of_asDict? found] at same
  obtain ⟨json, distinct⟩ := right
  cases json with
  | obj members => exact ⟨⟨members, distinct⟩, rfl, same⟩
  | _ => simp [PyVal.Same, PyVal.ofDict, Json.canon] at same

theorem asDict?_isSome_of_same {left right : PyVal N} (same : left.Same right) :
    left.asDict?.isSome = right.asDict?.isSome := by
  rw [Bool.eq_iff_iff, Option.isSome_iff_exists, Option.isSome_iff_exists]
  constructor
  · rintro ⟨info, found⟩
    obtain ⟨other, found', _⟩ := asDict?_of_same same found
    exact ⟨other, found'⟩
  · rintro ⟨info, found⟩
    obtain ⟨other, found', _⟩ := asDict?_of_same same.symm found
    exact ⟨other, found'⟩

/-- Nothing but the system information may differ. -/
structure OnlyInfo (prev cur : EvaluationRecord N) : Prop where
  systemVersion : prev.systemVersion = cur.systemVersion
  plain : ∀ key, key ≠ "system_info" → (prev.metadata.get key).Same (cur.metadata.get key)

theorem OnlyInfo.refl (record : EvaluationRecord N) : OnlyInfo record record :=
  ⟨rfl, fun _ _ => PyVal.Same.refl _⟩

theorem OnlyInfo.symm {left right : EvaluationRecord N} (only : OnlyInfo left right) :
    OnlyInfo right left :=
  ⟨only.systemVersion.symm, fun key plain => (only.plain key plain).symm⟩

theorem OnlyInfo.trans {first second third : EvaluationRecord N} (front : OnlyInfo first second)
    (back : OnlyInfo second third) : OnlyInfo first third :=
  ⟨front.systemVersion.trans back.systemVersion,
    fun key plain => (front.plain key plain).trans (back.plain key plain)⟩

theorem SameRecord.onlyInfo {left right : EvaluationRecord N} (same : SameRecord left right) :
    OnlyInfo left right :=
  ⟨same.systemVersion, fun key _ => same.get key⟩

theorem unchanged_iff_onlyInfo [DecidableEq N] (prev cur : EvaluationRecord N) :
    Unchanged prev cur ↔ OnlyInfo prev cur ∧
      (prev.metadata.get "system_info").Same (cur.metadata.get "system_info") := by
  constructor
  · rintro ⟨version, values⟩
    exact ⟨⟨version, fun key _ => values key⟩, values "system_info"⟩
  · rintro ⟨only, info⟩
    refine ⟨only.systemVersion, ?_⟩
    intro key
    by_cases named : key = "system_info"
    · subst key
      exact info
    · exact only.plain key named

theorem unchanged_congr [DecidableEq N] {prev prev' cur : EvaluationRecord N}
    (same : SameRecord prev prev') :
    Unchanged prev cur ↔ Unchanged prev' cur := by
  rw [Unchanged, Unchanged, same.systemVersion]
  simp only [equal_plain, same_congr_left (same.get _)]

end Equality

section Revert

variable [LinearOrder N] [Zero N] [One N]

theorem diffType_congr {prev prev' cur : EvaluationRecord N} (same : Unchanged prev prev') :
    diffType (extractChangeSignature prev) (extractChangeSignature cur) =
      diffType (extractChangeSignature prev') (extractChangeSignature cur) := by
  have version : (extractChangeSignature prev).systemVersion =
      (extractChangeSignature prev').systemVersion := same.1
  have pipeline :
      Equal (prev.metadata.get "pipeline_name") (extractChangeSignature cur).pipeline ↔
        Equal (prev'.metadata.get "pipeline_name") (extractChangeSignature cur).pipeline :=
    same_congr_left (same.2 "pipeline_name")
  have info : Equal (prev.metadata.get "system_info") (extractChangeSignature cur).info ↔
      Equal (prev'.metadata.get "system_info") (extractChangeSignature cur).info :=
    same_congr_left (same.2 "system_info")
  have dict := asDict?_isSome_of_same (same.2 "system_info")
  have fields : changedFields (extractChangeSignature prev).metadata
        (extractChangeSignature cur).metadata = [] ↔
      changedFields (extractChangeSignature prev').metadata
        (extractChangeSignature cur).metadata = [] := by
    rw [changedFields_eq_nil_iff, changedFields_eq_nil_iff]
    apply forall_congr'
    intro key
    apply same_congr_left
    rw [metadata_signature_get, metadata_signature_get]
    split
    · exact PyVal.Same.refl _
    · exact same.2 key
  rw [← pipeline_signature, ← pipeline_signature] at pipeline
  rw [← info_signature, ← info_signature] at info dict
  simp only [diffType, version, pipeline, info, dict, ne_eq, fields]

/-- Against equal predecessors a record has changes of one id, or none. -/
theorem detectChange_congr {rt : Runtime N} {prev prev' cur : EvaluationRecord N}
    (same : SameRecord prev prev') {change : ChangeEvent N}
    (found : detectChange rt prev cur = some change) :
    ∃ other, detectChange rt prev' cur = some other ∧ other.changeId = change.changeId := by
  have changed : ¬ Unchanged prev' cur := by
    rw [← unchanged_congr same, ← detectChange_eq_none_iff rt, found]
    exact Option.some_ne_none change
  rw [← detectChange_eq_none_iff rt] at changed
  obtain ⟨other, found'⟩ := Option.ne_none_iff_exists'.mp changed
  refine ⟨other, found', ?_⟩
  rw [detectChange_some found, detectChange_some found']
  simp only [ChangeEvent.new, diffType_congr same.unchanged]

/-- What a revert puts under a key: the old value, unless it equals the current one. -/
def restored (prev : PyVal N) (cur : Option (PyVal N)) : Option (PyVal N) :=
  if prev.Same (cur.getD .none) then cur else some prev

theorem restored_getD (prev : PyVal N) (cur : Option (PyVal N)) :
    ((restored prev cur).getD .none).Same prev := by
  rw [restored]
  split
  · rename_i same
    exact same.symm
  · exact PyVal.Same.refl prev

/-- The restored entry tells unequal old values apart. -/
theorem restored_same_iff (left right : PyVal N) (cur : Option (PyVal N)) :
    SameEntry (restored left cur) (restored right cur) ↔ left.Same right := by
  constructor
  · intro same
    exact (restored_getD left cur).symm.trans (same.getD.trans (restored_getD right cur))
  · intro same
    by_cases untouched : left.Same (cur.getD .none)
    · rw [restored, restored, if_pos untouched, if_pos ((same_congr_left same).mp untouched)]
      exact SameEntry.refl cur
    · rw [restored, restored, if_neg untouched,
        if_neg fun holds => untouched ((same_congr_left same).mpr holds)]
      exact (sameEntry_some left right).mpr same

theorem get?_merged (prev cur : Dict N) (key : String) :
    (setOld cur (changedFields prev cur)).get? key = restored (prev.get key) (cur.get? key) :=
  get?_setOld_changedFields prev cur cur key

theorem merged_same_iff (left right cur : Dict N) :
    (setOld cur (changedFields left cur)).Same (setOld cur (changedFields right cur)) ↔
      SameValues left right := by
  rw [Dict.same_iff]
  apply forall_congr'
  intro key
  rw [get?_merged, get?_merged]
  exact restored_same_iff (left.get key) (right.get key) (cur.get? key)

/- What a revert restores of the system information: nothing new where the record holds no
dictionary, an empty dictionary where it holds nothing, a field by field merge otherwise. -/

theorem revertedInfo_other (prev : PyVal N) {value : PyVal N} (other : value.asDict? = none) :
    revertedInfo prev (some value) = some value := by
  rw [revertedInfo, other]
  split
  · rfl
  · cases prev.asDict? <;> rfl

theorem revertedInfo_dict (prev : PyVal N) (info : Dict N) :
    SameEntry (revertedInfo prev (some (.ofDict info))) (some (.ofDict
      (setOld info (changedFields (prev.asDict?.getD info) info)))) := by
  have merged : ∀ old, SameValues old info →
      SameEntry (some (.ofDict info)) (some (.ofDict (setOld info (changedFields old info)))) := by
    intro old same
    have none : changedFields old info = [] := (changedFields_eq_nil_iff old info).mpr same
    rw [none]
    exact SameEntry.refl _
  have itself : SameValues info info := fun key => PyVal.Same.refl _
  by_cases untouched : Equal prev (.ofDict info)
  · rw [revertedInfo, Option.getD_some, if_pos untouched]
    apply merged
    cases found : prev.asDict? with
    | none => exact itself
    | some old =>
        rw [PyVal.ofDict_of_asDict? found] at untouched
        exact sameValues_of_same untouched
  · rw [revertedInfo, Option.getD_some, if_neg untouched, PyVal.asDict?_ofDict]
    cases prev.asDict? with
    | none => exact merged info itself
    | some old => exact SameEntry.refl _

theorem revertedInfo_missing_iff (left right : PyVal N) :
    SameEntry (revertedInfo left none) (revertedInfo right none) ↔
      (left = .none ↔ right = .none) := by
  have isNone : ∀ prev : PyVal N, revertedInfo prev none =
      if prev = .none then none else some (.ofDict Dict.empty) := by
    intro prev
    simp only [revertedInfo, Option.getD_none, equal_none_iff]
  rw [isNone, isNone]
  by_cases leftNone : left = .none <;> by_cases rightNone : right = .none <;>
    simp [SameEntry, leftNone, rightNone]

theorem revertedInfo_dict_iff (left right : PyVal N) (info : Dict N) :
    SameEntry (revertedInfo left (some (.ofDict info)))
        (revertedInfo right (some (.ofDict info))) ↔
      SameValues (left.asDict?.getD info) (right.asDict?.getD info) := by
  have atLeft := revertedInfo_dict left info
  have atRight := revertedInfo_dict right info
  rw [← merged_same_iff _ _ info]
  constructor
  · intro same
    exact (sameEntry_some _ _).mp (atLeft.symm.trans (same.trans atRight))
  · intro same
    exact atLeft.trans (((sameEntry_some _ _).mpr same).trans atRight.symm)

theorem revertedInfo_same {prev prev' : PyVal N} (same : prev.Same prev')
    (cur : Option (PyVal N)) :
    SameEntry (revertedInfo prev cur) (revertedInfo prev' cur) := by
  cases cur with
  | none =>
      rw [revertedInfo_missing_iff, ← PyVal.same_none_iff, ← PyVal.same_none_iff]
      exact same_congr_left same
  | some value =>
      cases isDict : value.asDict? with
      | none =>
          rw [revertedInfo_other prev isDict, revertedInfo_other prev' isDict]
          exact SameEntry.refl _
      | some info =>
          rw [PyVal.ofDict_of_asDict? isDict, revertedInfo_dict_iff]
          cases found : prev.asDict? with
          | none =>
              have found' : prev'.asDict? = none := by
                rw [← Option.not_isSome_iff_eq_none, ← asDict?_isSome_of_same same, found]
                exact Bool.false_ne_true
              rw [found']
              exact fun key => PyVal.Same.refl _
          | some old =>
              obtain ⟨old', found', olds⟩ := asDict?_of_same same found
              rw [found']
              exact sameValues_of_same olds

/-- Two reverts of one record agree when their predecessors agree on everything but the system
information, and restore the same of that. -/
theorem reverted_same_iff {prev prev' cur left right : EvaluationRecord N}
    (behind : RevertedBehind prev cur left) (behind' : RevertedBehind prev' cur right) :
    SameRecord left right ↔ OnlyInfo prev prev' ∧
      SameEntry
        (revertedInfo (prev.metadata.get "system_info") (cur.metadata.get? "system_info"))
        (revertedInfo (prev'.metadata.get "system_info") (cur.metadata.get? "system_info")) := by
  have entry : ∀ key, key ≠ "system_info" →
      (SameEntry (left.metadata.get? key) (right.metadata.get? key) ↔
        (prev.metadata.get key).Same (prev'.metadata.get key)) := by
    intro key plain
    rw [behind.plain key plain, behind'.plain key plain]
    exact restored_same_iff _ _ (cur.metadata.get? key)
  rw [← behind.info, ← behind'.info]
  constructor
  · rintro ⟨_, version, metadata⟩
    rw [Dict.same_iff] at metadata
    refine ⟨⟨?_, fun key plain => (entry key plain).mp (metadata key)⟩, metadata "system_info"⟩
    rw [← behind.systemVersion, ← behind'.systemVersion, version]
  · rintro ⟨only, info⟩
    refine ⟨⟨behind.recordId.trans behind'.recordId.symm, behind.runId.trans behind'.runId.symm,
      behind.timestamp.trans behind'.timestamp.symm, behind.metrics.trans behind'.metrics.symm⟩,
      ?_, ?_⟩
    · rw [behind.systemVersion, behind'.systemVersion, only.systemVersion]
    · rw [Dict.same_iff]
      intro key
      by_cases named : key = "system_info"
      · subst key
        exact info
      · exact (entry key named).mpr (only.plain key named)

theorem revertedBehind_same {prev prev' cur left right : EvaluationRecord N}
    (same : SameRecord prev prev') (behind : RevertedBehind prev cur left)
    (behind' : RevertedBehind prev' cur right) : SameRecord left right :=
  (reverted_same_iff behind behind').mpr
    ⟨same.onlyInfo, revertedInfo_same (same.get "system_info") _⟩

theorem undoBehind_congr {rt : Runtime N} {prev prev' : EvaluationRecord N}
    (same : SameRecord prev prev') (changeId : String) (cur : EvaluationRecord N) :
    SameRecord (undoBehind rt changeId prev cur) (undoBehind rt changeId prev' cur) := by
  cases target : (detectChange rt prev cur).filter fun change => change.changeId = changeId with
  | none =>
      have missed : (detectChange rt prev' cur).filter
          (fun change => change.changeId = changeId) = none := by
        rw [Option.filter_eq_none_iff] at target ⊢
        intro other found named
        obtain ⟨change, found', same'⟩ := detectChange_congr same.symm found
        rw [decide_eq_true_eq] at named
        exact target change found' (by rw [decide_eq_true_eq, same', named])
      rw [undoBehind_missed target, undoBehind_missed missed]
      exact SameRecord.refl cur
  | some change =>
      obtain ⟨found, named⟩ := Option.filter_eq_some_iff.mp target
      rw [decide_eq_true_eq] at named
      subst named
      obtain ⟨other, found', named⟩ := detectChange_congr same found
      have behind' := (revertChange_detected found').2
      rw [named] at behind'
      exact revertedBehind_same same (revertChange_detected found).2 behind'

end Revert

end RagDrift.Counterfactual
