import RagDrift.Counterfactual.Equality

set_option autoImplicit false

/- Two changes at neighbouring records: when the later one is undone the same way whether the
earlier one has been undone before it or not. -/
namespace RagDrift.Counterfactual

open Storage (EvaluationRecord)
open Causal

variable {N : Type}

section Types

variable [LinearOrder N] [Zero N] [One N]

omit [LinearOrder N] [Zero N] [One N] in
theorem version_signature (record : EvaluationRecord N) :
    (extractChangeSignature record).systemVersion = record.systemVersion := rfl

def changeTypeOf (prev cur : EvaluationRecord N) : ChangeType :=
  diffType (extractChangeSignature prev) (extractChangeSignature cur)

/-- Both records hold a dictionary of system information, and not the same. -/
structure InfoUpdate (prev cur : EvaluationRecord N) : Prop where
  differs : ¬ (prev.metadata.get "system_info").Same (cur.metadata.get "system_info")
  prevDict : (prev.metadata.get "system_info").asDict?.isSome
  curDict : (cur.metadata.get "system_info").asDict?.isSome

/-- The type that the parts besides the system information give. -/
def plainType (prev cur : EvaluationRecord N) : ChangeType :=
  if prev.systemVersion ≠ cur.systemVersion then .versionChange
  else if ¬ (prev.metadata.get "pipeline_name").Same (cur.metadata.get "pipeline_name") then
    .modelUpdate
  else if changedFields (extractChangeSignature prev).metadata
      (extractChangeSignature cur).metadata ≠ [] then .configChange
  else .unknown

/-- An update of the system information decides the type, whatever else has changed. -/
theorem changeTypeOf_update {prev cur : EvaluationRecord N} (update : InfoUpdate prev cur) :
    changeTypeOf prev cur = .modelUpdate := by
  have info : ¬ (extractChangeSignature prev).info.Same (extractChangeSignature cur).info ∧
      (extractChangeSignature prev).info.asDict?.isSome ∧
      (extractChangeSignature cur).info.asDict?.isSome :=
    ⟨update.differs, update.prevDict, update.curDict⟩
  rw [changeTypeOf, diffType]
  by_cases version : (extractChangeSignature prev).systemVersion =
      (extractChangeSignature cur).systemVersion <;>
    by_cases pipeline : (extractChangeSignature prev).pipeline.Same
        (extractChangeSignature cur).pipeline <;>
      simp [version, pipeline, info]

theorem changeTypeOf_plain {prev cur : EvaluationRecord N} (plain : ¬ InfoUpdate prev cur) :
    changeTypeOf prev cur = plainType prev cur := by
  have info : ∀ other : Prop,
      ¬ (¬ (extractChangeSignature prev).info.Same (extractChangeSignature cur).info ∧
        (extractChangeSignature prev).info.asDict?.isSome ∧
        (extractChangeSignature cur).info.asDict?.isSome ∧ other) :=
    fun other update => plain ⟨update.1, update.2.1, update.2.2.1⟩
  simp only [changeTypeOf, diffType, plainType, equal_plain, if_neg (info _),
    ← pipeline_signature, ← version_signature]
  by_cases version : (extractChangeSignature prev).systemVersion =
      (extractChangeSignature cur).systemVersion <;>
    by_cases pipeline : (extractChangeSignature prev).pipeline.Same
        (extractChangeSignature cur).pipeline <;>
      simp [version, pipeline]

theorem metadata_unchanged_iff (prev cur : EvaluationRecord N) :
    changedFields (extractChangeSignature prev).metadata (extractChangeSignature cur).metadata =
        [] ↔
      ∀ key, key ≠ "pipeline_name" → key ≠ "system_info" →
        (prev.metadata.get key).Same (cur.metadata.get key) := by
  rw [changedFields_eq_nil_iff]
  apply forall_congr'
  intro key
  rw [metadata_signature_get, metadata_signature_get, ← and_imp, ← not_or]
  by_cases named : key = "pipeline_name" ∨ key = "system_info"
  · simp only [named, ↓reduceIte, equal_plain, PyVal.Same.refl, not_true, false_imp_iff]
  · simp only [named, ↓reduceIte, equal_plain, not_false_iff, true_imp_iff]

theorem plainType_congr {prev prev' : EvaluationRecord N} (only : OnlyInfo prev prev')
    (cur : EvaluationRecord N) : plainType prev cur = plainType prev' cur := by
  have pipeline :
      (prev.metadata.get "pipeline_name").Same (cur.metadata.get "pipeline_name") ↔
        (prev'.metadata.get "pipeline_name").Same (cur.metadata.get "pipeline_name") :=
    same_congr_left (only.plain "pipeline_name" (by decide))
  have metadata : changedFields (extractChangeSignature prev).metadata
        (extractChangeSignature cur).metadata = [] ↔
      changedFields (extractChangeSignature prev').metadata
        (extractChangeSignature cur).metadata = [] := by
    rw [metadata_unchanged_iff, metadata_unchanged_iff]
    apply forall₃_congr
    intro key _ plain
    exact same_congr_left (only.plain key plain)
  simp only [plainType, only.systemVersion, pipeline, ne_eq, metadata]

/-- Without a type nothing but the system information has changed. -/
theorem plainType_unknown_iff (prev cur : EvaluationRecord N) :
    plainType prev cur = .unknown ↔ OnlyInfo prev cur := by
  rw [plainType]
  constructor
  · intro unknown
    split_ifs at unknown with version pipeline metadata
    rw [ne_eq, not_not] at version metadata
    refine ⟨version, ?_⟩
    intro key plain
    by_cases named : key = "pipeline_name"
    · subst key
      exact pipeline
    · exact (metadata_unchanged_iff prev cur).mp metadata key named plain
  · intro only
    have metadata := (metadata_unchanged_iff prev cur).mpr fun key _ plain => only.plain key plain
    rw [if_neg (not_not.mpr only.systemVersion),
      if_neg (not_not.mpr (only.plain "pipeline_name" (by decide))), if_neg (not_not.mpr metadata)]

theorem plainType_modelUpdate_iff (prev cur : EvaluationRecord N) :
    plainType prev cur = .modelUpdate ↔ prev.systemVersion = cur.systemVersion ∧
      ¬ (prev.metadata.get "pipeline_name").Same (cur.metadata.get "pipeline_name") := by
  rw [plainType]
  split_ifs with version pipeline metadata <;> simp_all

end Types

section Lookup

variable [LinearOrder N] [Zero N] [One N] {rt : Runtime N} {store : List (EvaluationRecord N)}

omit [LinearOrder N] [Zero N] [One N] in
/-- The ids of one record tell the types of its changes apart. -/
theorem changeId_inj (separates : Separates rt store) {cur : EvaluationRecord N}
    (inside : cur ∈ store) {left right : ChangeType}
    (same : rt.uuid5 (changeName rt cur.runId cur.timestamp left) =
      rt.uuid5 (changeName rt cur.runId cur.timestamp right)) : left = right := by
  have names := separates.noCollision cur inside cur inside left right same
  rw [changeName, changeName, String.append_right_inj] at names
  cases left <;> cases right <;> first | rfl | exact absurd names (by decide)

/-- A record is its own predecessor as far as a revert can tell. -/
theorem revertedBehind_self (record : EvaluationRecord N) :
    RevertedBehind record record record where
  recordId := rfl
  runId := rfl
  timestamp := rfl
  metrics := rfl
  systemVersion := rfl
  plain := fun key _ => (if_pos (PyVal.Same.refl _)).symm
  info := by
    unfold revertedInfo
    exact (if_pos (PyVal.Same.refl _)).symm

/-- The later change is found behind another predecessor exactly if it has the same type there;
a change that is not found leaves the record as if it stood behind itself. -/
theorem undoBehind_source (separates : Separates rt store) {first second : EvaluationRecord N}
    (inside : second ∈ store) {change : ChangeEvent N}
    (found : detectChange rt first second = some change) (prev : EvaluationRecord N) :
    ∃ source, RevertedBehind source second (undoBehind rt change.changeId prev second) ∧
      Unchanged source
        (if changeTypeOf prev second = changeTypeOf first second then prev else second) := by
  have named : change.changeId = rt.uuid5
      (changeName rt second.runId second.timestamp (changeTypeOf first second)) := by
    rw [detectChange_some found]
    rfl
  have itself : ∀ record : EvaluationRecord N, Unchanged record record :=
    fun record => ⟨rfl, fun key => PyVal.Same.refl _⟩
  cases detected : detectChange rt prev second with
  | none =>
      have missed : undoBehind rt change.changeId prev second = second :=
        undoBehind_missed (by rw [detected]; rfl)
      refine ⟨second, by rw [missed]; exact revertedBehind_self second, ?_⟩
      split
      · obtain ⟨version, values⟩ := (detectChange_eq_none_iff rt prev second).mp detected
        exact ⟨version.symm, fun key => (values key).symm⟩
      · exact itself second
  | some other =>
      have otherNamed : other.changeId = rt.uuid5
          (changeName rt second.runId second.timestamp (changeTypeOf prev second)) := by
        rw [detectChange_some detected]
        rfl
      by_cases same : changeTypeOf prev second = changeTypeOf first second
      · have behind := (revertChange_detected detected).2
        rw [otherNamed, same, ← named] at behind
        exact ⟨prev, behind, by rw [if_pos same]; exact itself prev⟩
      · have missed : undoBehind rt change.changeId prev second = second := by
          apply undoBehind_missed
          rw [detected, Option.filter_some, if_neg]
          rw [decide_eq_true_eq, otherNamed, named]
          exact fun equal => same (changeId_inj separates inside equal)
        rw [missed, if_neg same]
        exact ⟨second, revertedBehind_self second, itself second⟩

/-- Two predecessors from which the same comes back. -/
structure SameUndo (left right cur : EvaluationRecord N) : Prop where
  onlyInfo : OnlyInfo left right
  info : SameEntry
    (revertedInfo (left.metadata.get "system_info") (cur.metadata.get? "system_info"))
    (revertedInfo (right.metadata.get "system_info") (cur.metadata.get? "system_info"))

theorem undoBehind_same_iff (separates : Separates rt store)
    {first second : EvaluationRecord N} (inside : second ∈ store) {change : ChangeEvent N}
    (found : detectChange rt first second = some change) (prev : EvaluationRecord N) :
    SameRecord (undoBehind rt change.changeId prev second)
        (undoBehind rt change.changeId first second) ↔
      SameUndo (if changeTypeOf prev second = changeTypeOf first second then prev else second)
        first second := by
  obtain ⟨source, behind, unchanged⟩ := undoBehind_source separates inside found prev
  obtain ⟨only, info⟩ := (unchanged_iff_onlyInfo _ _).mp unchanged
  have restores := revertedInfo_same info (second.metadata.get? "system_info")
  rw [reverted_same_iff behind (revertChange_detected found).2]
  constructor
  · rintro ⟨alike, same⟩
    exact ⟨only.symm.trans alike, restores.symm.trans same⟩
  · rintro ⟨alike, same⟩
    exact ⟨only.trans alike, restores.trans same⟩

end Lookup

section Independence

variable [Zero N] [One N]

/-- The change is one of the system information alone, and no field of it is recorded. -/
structure Unrecorded (prev cur : EvaluationRecord N) : Prop where
  onlyInfo : OnlyInfo prev cur
  present : "system_info" ∈ cur.metadata.keys
  noDicts : (prev.metadata.get "system_info").asDict? = none ∨
    (cur.metadata.get "system_info").asDict? = none

/-- The first removal moves no field of a dictionary that the second one compares. Where
`first` holds no system information it leaves an empty dictionary there. -/
def InfoIndependent (before first second : EvaluationRecord N) : Prop :=
  if "system_info" ∈ first.metadata.keys then
    (second.metadata.get "system_info").asDict? = none ∨
      ∀ old new, (before.metadata.get "system_info").asDict? = some old →
        (first.metadata.get "system_info").asDict? = some new → SameValues old new
  else
    "system_info" ∈ second.metadata.keys ∧
      ∀ info, (second.metadata.get "system_info").asDict? = some info →
        info = Dict.empty ∨ (first.systemVersion = second.systemVersion ∧
          ¬ (first.metadata.get "pipeline_name").Same (second.metadata.get "pipeline_name") ∧
          ∀ key, info.get key = .none)

def Independent (before first second : EvaluationRecord N) : Prop :=
  Unrecorded first second ∨ (OnlyInfo before first ∧ InfoIndependent before first second)

end Independence

section Cases

variable [LinearOrder N] [Zero N] [One N]

/- What the second removal restores, by what `cur` holds. -/

theorem sameUndo_missing_iff {left right cur : EvaluationRecord N}
    (absent : "system_info" ∉ cur.metadata.keys) :
    SameUndo left right cur ↔ OnlyInfo left right ∧
      (left.metadata.get "system_info" = .none ↔ right.metadata.get "system_info" = .none) := by
  rw [← revertedInfo_missing_iff, ← (Dict.get?_eq_none_iff _ _).mpr absent]
  exact ⟨fun same => ⟨same.1, same.2⟩, fun same => ⟨same.1, same.2⟩⟩

theorem sameUndo_other_iff {left right cur : EvaluationRecord N}
    (present : "system_info" ∈ cur.metadata.keys)
    (other : (cur.metadata.get "system_info").asDict? = none) :
    SameUndo left right cur ↔ OnlyInfo left right := by
  refine ⟨SameUndo.onlyInfo, fun only => ⟨only, ?_⟩⟩
  rw [Dict.get?_of_mem present, revertedInfo_other _ other, revertedInfo_other _ other]
  exact SameEntry.refl _

theorem sameUndo_dict_iff {left right cur : EvaluationRecord N} {info : Dict N}
    (found : (cur.metadata.get "system_info").asDict? = some info) :
    SameUndo left right cur ↔ OnlyInfo left right ∧
      SameValues ((left.metadata.get "system_info").asDict?.getD info)
        ((right.metadata.get "system_info").asDict?.getD info) := by
  rw [← revertedInfo_dict_iff, ← PyVal.ofDict_of_asDict? found,
    ← Dict.get?_of_mem (Dict.mem_keys_of_asDict? found)]
  exact ⟨fun same => ⟨same.1, same.2⟩, fun same => ⟨same.1, same.2⟩⟩

theorem changeTypeOf_agree {left right cur : EvaluationRecord N} (only : OnlyInfo left right)
    (plain : ¬ InfoUpdate left cur) (plain' : ¬ InfoUpdate right cur) :
    changeTypeOf left cur = changeTypeOf right cur := by
  rw [changeTypeOf_plain plain, changeTypeOf_plain plain', plainType_congr only]

/- What the first removal makes of `first`. -/

theorem merged_values (prev cur : Dict N) :
    SameValues (setOld cur (changedFields prev cur)) prev := by
  intro key
  rw [Dict.get, get?_merged]
  exact restored_getD (prev.get key) (cur.get? key)

theorem merged_same_of_values {prev cur : Dict N} (same : SameValues prev cur) :
    (setOld cur (changedFields prev cur)).Same cur := by
  have none : changedFields prev cur = [] := (changedFields_eq_nil_iff prev cur).mpr same
  rw [none]
  exact Dict.Same.refl cur

theorem reverted_onlyInfo {before first reverted : EvaluationRecord N}
    (behind : RevertedBehind before first reverted) : OnlyInfo reverted before := by
  refine ⟨behind.systemVersion, ?_⟩
  intro key plain
  rw [Dict.get, behind.plain key plain]
  exact restored_getD (before.metadata.get key) (first.metadata.get? key)

/-- A merge of dictionaries has the old values, and is the new dictionary if that has them. -/
theorem reverted_dict {before first reverted : EvaluationRecord N}
    (behind : RevertedBehind before first reverted) {new : Dict N}
    (found : (first.metadata.get "system_info").asDict? = some new) :
    ∃ merged, (reverted.metadata.get "system_info").asDict? = some merged ∧
      SameValues merged ((before.metadata.get "system_info").asDict?.getD new) ∧
      (SameValues merged new → merged.Same new) := by
  have entry := behind.info
  rw [Dict.get?_of_mem (Dict.mem_keys_of_asDict? found), PyVal.ofDict_of_asDict? found] at entry
  have same := revertedInfo_dict (before.metadata.get "system_info") new
  rw [← entry] at same
  obtain ⟨merged, isDict, alike⟩ := asDict?_of_same same.getD.symm (PyVal.asDict?_ofDict _)
  have values := (sameValues_of_same alike).symm.trans (merged_values _ new)
  refine ⟨merged, isDict, values, ?_⟩
  intro kept
  exact alike.symm.trans (merged_same_of_values (values.symm.trans kept))

theorem reverted_empty {before first reverted : EvaluationRecord N}
    (behind : RevertedBehind before first reverted)
    (absent : "system_info" ∉ first.metadata.keys)
    (differs : before.metadata.get "system_info" ≠ .none) :
    reverted.metadata.get "system_info" = .ofDict Dict.empty := by
  apply Dict.get_of_get?
  rw [behind.info, (Dict.get?_eq_none_iff _ _).mpr absent]
  simp only [revertedInfo, Option.getD_none, equal_none_iff, differs, ↓reduceIte]

theorem reverted_other {before first reverted : EvaluationRecord N}
    (behind : RevertedBehind before first reverted)
    (present : "system_info" ∈ first.metadata.keys)
    (other : (first.metadata.get "system_info").asDict? = none) :
    reverted.metadata.get "system_info" = first.metadata.get "system_info" := by
  apply Dict.get_of_get?
  rw [behind.info, Dict.get?_of_mem present, revertedInfo_other _ other]

/-- Between records that differ in nothing else a change is one of the system information. -/
theorem info_differs {prev cur : EvaluationRecord N} (only : OnlyInfo prev cur)
    (changed : ¬ Unchanged prev cur) :
    ¬ (prev.metadata.get "system_info").Same (cur.metadata.get "system_info") :=
  fun same => changed ((unchanged_iff_onlyInfo prev cur).mpr ⟨only, same⟩)

omit [LinearOrder N] in
theorem infoUpdate_of_dicts {prev cur : EvaluationRecord N} {old new : Dict N}
    (prevDict : (prev.metadata.get "system_info").asDict? = some old)
    (curDict : (cur.metadata.get "system_info").asDict? = some new)
    (differs : ¬ old.Same new) : InfoUpdate prev cur where
  differs := by
    rw [PyVal.ofDict_of_asDict? prevDict, PyVal.ofDict_of_asDict? curDict]
    exact differs
  prevDict := by rw [prevDict]; rfl
  curDict := by rw [curDict]; rfl

omit [LinearOrder N] in
theorem not_infoUpdate_left {prev cur : EvaluationRecord N}
    (other : (prev.metadata.get "system_info").asDict? = none) : ¬ InfoUpdate prev cur := by
  intro update
  have isDict := update.prevDict
  rw [other] at isDict
  cases isDict

omit [LinearOrder N] in
theorem not_infoUpdate_right {prev cur : EvaluationRecord N}
    (other : (cur.metadata.get "system_info").asDict? = none) : ¬ InfoUpdate prev cur := by
  intro update
  have isDict := update.curDict
  rw [other] at isDict
  cases isDict

omit [LinearOrder N] in
theorem emptyValues_iff (info : Dict N) :
    SameValues Dict.empty info ↔ ∀ key, info.get key = .none := by
  apply forall_congr'
  intro key
  rw [← PyVal.same_none_iff]
  exact ⟨PyVal.Same.symm, PyVal.Same.symm⟩

section Triple

variable {before first second reverted : EvaluationRecord N}

/-- What the lookup behind the reverted record leaves to be compared. -/
def source (reverted first second : EvaluationRecord N) : EvaluationRecord N :=
  if changeTypeOf reverted second = changeTypeOf first second then reverted else second

/-- Dictionaries that differ only in fields holding `None` are an update on either side. -/
theorem agree_of_dicts (behind : RevertedBehind before first reverted)
    (only : OnlyInfo first second) (changed : ¬ Unchanged first second) {new info : Dict N}
    (firstDict : (first.metadata.get "system_info").asDict? = some new)
    (secondDict : (second.metadata.get "system_info").asDict? = some info)
    (values : SameValues info new) :
    changeTypeOf reverted second = changeTypeOf first second := by
  have differs : ¬ new.Same info := by
    have infos := info_differs only changed
    rw [PyVal.ofDict_of_asDict? firstDict, PyVal.ofDict_of_asDict? secondDict] at infos
    exact infos
  obtain ⟨merged, revertedDict, _, kept⟩ := reverted_dict behind firstDict
  have differs' : ¬ merged.Same info := by
    intro same
    have back := kept ((sameValues_of_same same).trans values)
    exact differs (back.symm.trans same)
  rw [changeTypeOf_update (infoUpdate_of_dicts firstDict secondDict differs),
    changeTypeOf_update (infoUpdate_of_dicts revertedDict secondDict differs')]

/-- The first change touches more than the system information: the second one must be of no
recorded field, and then it is not found any more. -/
theorem kept_of_more (behind : RevertedBehind before first reverted)
    (changed : ¬ Unchanged first second) (more : ¬ OnlyInfo before first) :
    SameUndo (source reverted first second) first second ↔ Unrecorded first second := by
  have apart : ¬ OnlyInfo reverted first :=
    fun only => more ((reverted_onlyInfo behind).symm.trans only)
  rw [source]
  constructor
  · intro same
    by_cases agree : changeTypeOf reverted second = changeTypeOf first second
    · rw [if_pos agree] at same
      exact absurd same.onlyInfo apart
    rw [if_neg agree] at same
    have only := same.onlyInfo.symm
    have present : "system_info" ∈ second.metadata.keys := by
      by_contra absent
      have none := (sameUndo_missing_iff absent).mp same
      have differs := info_differs only changed
      rw [Dict.get_of_not_mem absent] at none differs
      rw [none.2.mp rfl] at differs
      exact differs (PyVal.Same.refl _)
    refine ⟨only, present, ?_⟩
    cases firstDict : (first.metadata.get "system_info").asDict? with
    | none => exact Or.inl rfl
    | some new =>
        cases secondDict : (second.metadata.get "system_info").asDict? with
        | none => exact Or.inr rfl
        | some info =>
            have values := ((sameUndo_dict_iff secondDict).mp same).2
            rw [firstDict, secondDict] at values
            exact absurd (agree_of_dicts behind only changed firstDict secondDict values) agree
  · rintro ⟨only, present, noDicts⟩
    have plain : ¬ InfoUpdate first second :=
      noDicts.elim not_infoUpdate_left not_infoUpdate_right
    have disagree : changeTypeOf reverted second ≠ changeTypeOf first second := by
      rw [changeTypeOf_plain plain, (plainType_unknown_iff _ _).mpr only]
      by_cases update : InfoUpdate reverted second
      · rw [changeTypeOf_update update]
        decide
      · rw [changeTypeOf_plain update, ne_eq, plainType_unknown_iff]
        exact fun other => apart (other.trans only.symm)
    rw [if_neg disagree]
    cases secondDict : (second.metadata.get "system_info").asDict? with
    | none => exact (sameUndo_other_iff present secondDict).mpr only.symm
    | some info =>
        have firstDict : (first.metadata.get "system_info").asDict? = none := by
          rw [secondDict] at noDicts
          exact noDicts.resolve_right (Option.some_ne_none info)
        rw [sameUndo_dict_iff secondDict, firstDict, secondDict]
        exact ⟨only.symm, fun key => PyVal.Same.refl _⟩

/-- The second record holds no dictionary, so nothing of one is compared behind either. -/
theorem kept_of_no_dict (behind : RevertedBehind before first reverted)
    (changed : ¬ Unchanged before first) (only : OnlyInfo before first)
    (other : (second.metadata.get "system_info").asDict? = none) :
    SameUndo (source reverted first second) first second ↔
      "system_info" ∈ first.metadata.keys ∨ "system_info" ∈ second.metadata.keys := by
  have alike : OnlyInfo reverted first := (reverted_onlyInfo behind).trans only
  have agree : changeTypeOf reverted second = changeTypeOf first second :=
    changeTypeOf_agree alike (not_infoUpdate_right other) (not_infoUpdate_right other)
  rw [source, if_pos agree]
  by_cases present : "system_info" ∈ second.metadata.keys
  · simp only [sameUndo_other_iff present other, alike, present, or_true]
  · rw [sameUndo_missing_iff present]
    by_cases held : "system_info" ∈ first.metadata.keys
    · refine ⟨fun _ => Or.inl held, fun _ => ⟨alike, ?_⟩⟩
      cases firstDict : (first.metadata.get "system_info").asDict? with
      | none => rw [reverted_other behind held firstDict]
      | some new =>
          obtain ⟨merged, revertedDict, _⟩ := reverted_dict behind firstDict
          rw [PyVal.ofDict_of_asDict? firstDict, PyVal.ofDict_of_asDict? revertedDict]
          exact iff_of_false (PyVal.ofDict_ne_none merged) (PyVal.ofDict_ne_none new)
    · have differs : before.metadata.get "system_info" ≠ .none := by
        have infos := info_differs only changed
        rw [Dict.get_of_not_mem held, PyVal.same_none_iff] at infos
        exact infos
      rw [reverted_empty behind held differs, Dict.get_of_not_mem held]
      constructor
      · rintro ⟨_, none⟩
        exact absurd (none.mpr rfl) (PyVal.ofDict_ne_none _)
      · rintro (inside | inside)
        · exact absurd inside held
        · exact absurd inside present

/-- Both later records hold dictionaries: the first removal may not move a field that the
second one restores. -/
theorem kept_of_dicts (behind : RevertedBehind before first reverted)
    (changed : ¬ Unchanged first second) (only : OnlyInfo before first) {new info : Dict N}
    (firstDict : (first.metadata.get "system_info").asDict? = some new)
    (secondDict : (second.metadata.get "system_info").asDict? = some info) :
    SameUndo (source reverted first second) first second ↔
      ∀ old, (before.metadata.get "system_info").asDict? = some old → SameValues old new := by
  have alike : OnlyInfo reverted first := (reverted_onlyInfo behind).trans only
  obtain ⟨merged, revertedDict, values, kept⟩ := reverted_dict behind firstDict
  have moved : SameUndo reverted first second ↔ SameValues merged new := by
    rw [sameUndo_dict_iff secondDict, revertedDict, firstDict]
    exact ⟨fun same => same.2, fun same => ⟨alike, same⟩⟩
  have unmoved : SameValues merged new ↔
      ∀ old, (before.metadata.get "system_info").asDict? = some old → SameValues old new := by
    cases beforeDict : (before.metadata.get "system_info").asDict? with
    | none =>
        rw [beforeDict] at values
        refine ⟨?_, fun _ => values⟩
        rintro _ old ⟨⟩
    | some old =>
        rw [beforeDict] at values
        constructor
        · rintro same other ⟨⟩
          exact values.symm.trans same
        · exact fun all => values.trans (all old rfl)
  rw [← unmoved, ← moved, source]
  by_cases agree : changeTypeOf reverted second = changeTypeOf first second
  · rw [if_pos agree]
  · rw [if_neg agree]
    constructor
    · intro same
      have values := ((sameUndo_dict_iff secondDict).mp same).2
      rw [firstDict, secondDict] at values
      exact absurd
        (agree_of_dicts behind same.onlyInfo.symm changed firstDict secondDict values) agree
    · intro same
      have values := kept (moved.mp same)
      refine absurd (diffType_congr ((unchanged_iff_onlyInfo _ _).mpr ⟨alike, ?_⟩)) agree
      rw [PyVal.ofDict_of_asDict? revertedDict, PyVal.ofDict_of_asDict? firstDict]
      exact values

/-- The first removal writes an empty dictionary where there was none. Behind it a dictionary is
an update, so the type of the second change is another one unless the pipeline fixes it. -/
theorem kept_of_missing (behind : RevertedBehind before first reverted)
    (changed : ¬ Unchanged before first) (only : OnlyInfo before first)
    (absent : "system_info" ∉ first.metadata.keys) {info : Dict N}
    (secondDict : (second.metadata.get "system_info").asDict? = some info) :
    SameUndo (source reverted first second) first second ↔
      OnlyInfo first second ∨ info = Dict.empty ∨
        (first.systemVersion = second.systemVersion ∧
          ¬ (first.metadata.get "pipeline_name").Same (second.metadata.get "pipeline_name") ∧
          ∀ key, info.get key = .none) := by
  have alike : OnlyInfo reverted first := (reverted_onlyInfo behind).trans only
  have firstNone := Dict.get_of_not_mem absent
  have differs : before.metadata.get "system_info" ≠ .none := by
    have infos := info_differs only changed
    rw [firstNone, PyVal.same_none_iff] at infos
    exact infos
  have revertedDict : (reverted.metadata.get "system_info").asDict? = some Dict.empty := by
    rw [reverted_empty behind absent differs, PyVal.asDict?_ofDict]
  have firstDict : (first.metadata.get "system_info").asDict? = none := by
    rw [firstNone]
    rfl
  have plain : ¬ InfoUpdate first second := not_infoUpdate_left firstDict
  have moved : SameUndo reverted first second ↔ ∀ key, info.get key = .none := by
    rw [sameUndo_dict_iff secondDict, revertedDict, firstDict, ← emptyValues_iff]
    exact ⟨fun same => same.2, fun same => ⟨alike, same⟩⟩
  have missed : SameUndo second first second ↔ OnlyInfo first second := by
    rw [sameUndo_dict_iff secondDict, secondDict, firstDict]
    exact ⟨fun same => same.1.symm, fun same => ⟨same.symm, fun key => PyVal.Same.refl _⟩⟩
  rw [source]
  by_cases empty : info = Dict.empty
  · have still : ¬ InfoUpdate reverted second := by
      intro update
      apply update.differs
      rw [PyVal.ofDict_of_asDict? revertedDict, PyVal.ofDict_of_asDict? secondDict, empty]
      exact PyVal.Same.refl _
    rw [if_pos (changeTypeOf_agree alike still plain), moved]
    subst empty
    exact iff_of_true (fun key => rfl) (Or.inr (Or.inl rfl))
  · have update : InfoUpdate reverted second :=
      infoUpdate_of_dicts revertedDict secondDict
        fun same => empty ((Dict.same_empty_iff info).mp same)
    have agree : changeTypeOf reverted second = changeTypeOf first second ↔
        first.systemVersion = second.systemVersion ∧
          ¬ (first.metadata.get "pipeline_name").Same (second.metadata.get "pipeline_name") := by
      rw [changeTypeOf_update update, changeTypeOf_plain plain, eq_comm,
        plainType_modelUpdate_iff]
    by_cases named : first.systemVersion = second.systemVersion ∧
        ¬ (first.metadata.get "pipeline_name").Same (second.metadata.get "pipeline_name")
    · have more : ¬ OnlyInfo first second :=
        fun same => named.2 (same.plain "pipeline_name" (by decide))
      rw [if_pos (agree.mpr named), moved]
      simp only [more, empty, named.1, named.2, not_false_iff, true_and, false_or]
    · rw [if_neg (mt agree.mp named), missed, ← and_assoc]
      simp only [empty, named, false_and, or_false]

/-- System information that is no dictionary comes back from no removal. -/
theorem kept_of_other (behind : RevertedBehind before first reverted)
    (only : OnlyInfo before first) (held : "system_info" ∈ first.metadata.keys)
    (other : (first.metadata.get "system_info").asDict? = none) :
    SameUndo (source reverted first second) first second := by
  have alike : OnlyInfo reverted first := (reverted_onlyInfo behind).trans only
  have info := reverted_other behind held other
  have same : Unchanged reverted first :=
    (unchanged_iff_onlyInfo _ _).mpr ⟨alike, by rw [info]; exact PyVal.Same.refl _⟩
  have agree : changeTypeOf reverted second = changeTypeOf first second := diffType_congr same
  rw [source, if_pos agree]
  exact ⟨alike, by rw [info]; exact SameEntry.refl _⟩

/-- Undoing the change of `second` gives the same behind the reverted `first` exactly when the
two changes are independent. -/
theorem sameUndo_source_iff (behind : RevertedBehind before first reverted)
    (changed : ¬ Unchanged before first) (changed' : ¬ Unchanged first second) :
    SameUndo (source reverted first second) first second ↔ Independent before first second := by
  by_cases only : OnlyInfo before first
  · rw [Independent, InfoIndependent, and_iff_right only]
    cases secondDict : (second.metadata.get "system_info").asDict? with
    | none =>
        rw [kept_of_no_dict behind changed only secondDict]
        by_cases held : "system_info" ∈ first.metadata.keys
        · rw [if_pos held]
          exact iff_of_true (Or.inl held) (Or.inr (Or.inl rfl))
        · rw [if_neg held]
          constructor
          · intro inside
            refine Or.inr ⟨inside.resolve_left held, ?_⟩
            rintro info ⟨⟩
          · rintro (unrecorded | ⟨present, _⟩)
            · exact Or.inr unrecorded.present
            · exact Or.inr present
    | some info =>
        have present := Dict.mem_keys_of_asDict? secondDict
        by_cases held : "system_info" ∈ first.metadata.keys
        · rw [if_pos held]
          cases firstDict : (first.metadata.get "system_info").asDict? with
          | none =>
              refine iff_of_true (kept_of_other behind only held firstDict) (Or.inr (Or.inr ?_))
              rintro old new _ ⟨⟩
          | some new =>
              have recorded : ¬ Unrecorded first second := by
                rintro ⟨_, _, noDicts⟩
                rw [firstDict, secondDict] at noDicts
                rcases noDicts with ⟨⟨⟩⟩ | ⟨⟨⟩⟩
              rw [kept_of_dicts behind changed' only firstDict secondDict]
              simp only [recorded, reduceCtorEq, false_or, Option.some.injEq]
              refine ⟨?_, fun all old found => all old new found rfl⟩
              rintro all old other found rfl
              exact all old found
        · rw [if_neg held, kept_of_missing behind changed only held secondDict]
          have unrecorded : Unrecorded first second ↔ OnlyInfo first second := by
            refine ⟨Unrecorded.onlyInfo, fun same => ⟨same, present, Or.inl ?_⟩⟩
            rw [Dict.get_of_not_mem held]
            rfl
          simp only [unrecorded, present, true_and, Option.some.injEq, forall_eq']
  · rw [Independent, kept_of_more behind changed' only]
    simp only [only, false_and, or_false]

end Triple

end Cases

end RagDrift.Counterfactual
