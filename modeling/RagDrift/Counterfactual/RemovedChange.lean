import RagDrift.Counterfactual.Target

set_option autoImplicit false

/- Removing a change: what the store looks like afterwards, and whether the change is gone
from it. -/
namespace RagDrift.Counterfactual

open Storage (EvaluationRecord)
open Causal

variable {N : Type} [LinearOrder N]

section Undo

variable [Equality N]

/-- What removing `changeId` makes of the record `cur` that stands behind `prev`. -/
def undoBehind (rt : Runtime N) (changeId : String) (prev cur : EvaluationRecord N) :
    EvaluationRecord N :=
  match (detectChange rt prev cur).filter fun change => change.changeId = changeId with
  | none => cur
  | some change =>
      match revertChange cur change.details with
      | .ok reverted => reverted
      | .error _ => cur

omit [LinearOrder N] in
theorem revertChange_detected {rt : Runtime N} {prev cur : EvaluationRecord N}
    {change : ChangeEvent N} (found : detectChange rt prev cur = some change) :
    revertChange cur change.details = .ok (undoBehind rt change.changeId prev cur) ∧
      RevertedBehind prev cur (undoBehind rt change.changeId prev cur) := by
  obtain ⟨reverted, ran, behind⟩ := revertChange_own prev cur
  have own : change.details = ownDetails prev cur := by
    rw [detectChange_some found]
    rfl
  rw [← own] at ran
  have undone : undoBehind rt change.changeId prev cur = reverted := by
    simp only [undoBehind, found, Option.filter_some, decide_true, ↓reduceIte, ran]
  rw [undone]
  exact ⟨ran, behind⟩

omit [LinearOrder N] in
theorem undoBehind_missed {rt : Runtime N} {changeId : String} {prev cur : EvaluationRecord N}
    (missed : (detectChange rt prev cur).filter (fun change => change.changeId = changeId) =
      none) : undoBehind rt changeId prev cur = cur := by
  simp only [undoBehind, missed]

/-- A record that keeps its place: the same run, time and metrics under the same record id. -/
structure SamePlace (left right : EvaluationRecord N) : Prop where
  recordId : left.recordId = right.recordId
  runId : left.runId = right.runId
  timestamp : left.timestamp = right.timestamp
  metrics : left.metrics = right.metrics

omit [LinearOrder N] in
theorem undoBehind_samePlace (rt : Runtime N) (changeId : String)
    (prev cur : EvaluationRecord N) : SamePlace (undoBehind rt changeId prev cur) cur := by
  cases target : (detectChange rt prev cur).filter fun change => change.changeId = changeId with
  | none =>
      rw [undoBehind_missed target]
      exact ⟨rfl, rfl, rfl, rfl⟩
  | some change =>
      obtain ⟨found, same⟩ := Option.filter_eq_some_iff.mp target
      rw [decide_eq_true_eq] at same
      subst same
      have behind := (revertChange_detected found).2
      exact ⟨behind.recordId, behind.runId, behind.timestamp, behind.metrics⟩

omit [Equality N] in
theorem sorted_before {store front back : List (EvaluationRecord N)}
    {prev cur : EvaluationRecord N} (distinct : RunsDistinct store)
    (split : sortRecords store = front ++ prev :: cur :: back) :
    ∀ record ∈ front ++ [prev], record.runId ≠ cur.runId := by
  have runs := distinct.sorted
  have apart : sortRecords store = (front ++ [prev]) ++ cur :: back := by simp [split]
  rw [RunsDistinct, apart, List.map_append, List.nodup_append] at runs
  intro record inside
  exact runs.2.2 _ (List.mem_map_of_mem inside) _ (by simp)

theorem applyIntervention_found {rt : Runtime N} {store front back : List (EvaluationRecord N)}
    {prev cur : EvaluationRecord N} (separates : Separates rt store)
    (distinct : RunsDistinct store) (split : sortRecords store = front ++ prev :: cur :: back)
    {change : ChangeEvent N} (found : detectChange rt prev cur = some change) :
    applyIntervention rt store (.remove change.changeId) =
      .ok (front ++ prev :: undoBehind rt change.changeId prev cur :: back) := by
  obtain ⟨changeType, named⟩ := detectChange_changeId found
  have target : targetChange rt store change.changeId = some change := by
    rw [targetChange_eq separates distinct ⟨front, back, split⟩ changeType named, found,
      Option.filter_some, if_pos (by simp)]
  have run : change.runId = cur.runId := detectChange_runId found
  have apart : sortRecords store = (front ++ [prev]) ++ cur :: back := by simp [split]
  rw [applyIntervention, Intervention.remove, target]
  change editFirst change.runId _ _ = _
  rw [run, apart, editFirst_split _ (sorted_before distinct split)]
  change (revertChange cur change.details).map _ = _
  rw [(revertChange_detected found).1]
  simp only [Except.map, List.append_assoc, List.singleton_append]

theorem applyIntervention_missed {rt : Runtime N} {store front back : List (EvaluationRecord N)}
    {prev cur : EvaluationRecord N} (separates : Separates rt store)
    (distinct : RunsDistinct store) (split : sortRecords store = front ++ prev :: cur :: back)
    {changeId : String} {changeType : ChangeType}
    (named : changeId = rt.uuid5 (changeName rt cur.runId cur.timestamp changeType))
    (missed : (detectChange rt prev cur).filter (fun change => change.changeId = changeId) =
      none) : applyIntervention rt store (.remove changeId) = .ok store := by
  have target : targetChange rt store changeId = none := by
    rw [targetChange_eq separates distinct ⟨front, back, split⟩ changeType named, missed]
  rw [applyIntervention, Intervention.remove, target]

omit [Equality N] in
/-- Replacing a record by one in the same place keeps the order of the store. -/
theorem sorted_replaced {front back : List (EvaluationRecord N)}
    {prev cur edited : EvaluationRecord N} (place : SamePlace edited cur)
    (sorted : TimeSorted (front ++ prev :: cur :: back)) :
    sortRecords (front ++ prev :: edited :: back) = front ++ prev :: edited :: back := by
  apply sortRecords_of_sorted
  have times : (front ++ prev :: edited :: back).map EvaluationRecord.timestamp =
      (front ++ prev :: cur :: back).map EvaluationRecord.timestamp := by
    simp only [List.map_append, List.map_cons, place.timestamp]
  rw [TimeSorted, ← List.pairwise_map (f := EvaluationRecord.timestamp)
    (R := fun left right => left ≤ right)] at sorted ⊢
  rw [times]
  exact sorted

/-- After the removal no event is left at the run of the change. -/
def ChangeGone (rt : Runtime N) (store : List (EvaluationRecord N)) (change : ChangeEvent N) :
    Prop :=
  ∃ after, applyIntervention rt store (.remove change.changeId) = .ok after ∧
    ∀ event ∈ extractChangeEvents rt after, event.runId ≠ change.runId

theorem changeGone_iff_unchanged {rt : Runtime N} {store : List (EvaluationRecord N)}
    {prev cur : EvaluationRecord N} (separates : Separates rt store)
    (distinct : RunsDistinct store) (consecutive : Consecutive store prev cur)
    {change : ChangeEvent N} (found : detectChange rt prev cur = some change) :
    ChangeGone rt store change ↔
      Unchanged prev (undoBehind rt change.changeId prev cur) := by
  obtain ⟨front, back, split⟩ := consecutive
  have place := undoBehind_samePlace rt change.changeId prev cur
  have sorted : TimeSorted (front ++ prev :: cur :: back) := split ▸ sortRecords_sorted store
  have resorted := sorted_replaced place sorted
  have removed := applyIntervention_found separates distinct split found
  have run : change.runId = (undoBehind rt change.changeId prev cur).runId := by
    rw [detectChange_runId found, place.runId]
  have here : Consecutive (front ++ prev :: undoBehind rt change.changeId prev cur :: back) prev
      (undoBehind rt change.changeId prev cur) := ⟨front, back, resorted⟩
  have apart : RunsDistinct
      (front ++ prev :: undoBehind rt change.changeId prev cur :: back) := by
    have runs := distinct.sorted
    rw [RunsDistinct, split] at runs
    rw [RunsDistinct]
    simpa only [List.map_append, List.map_cons, place.runId] using runs
  rw [← detectChange_eq_none_iff rt, ChangeGone, removed]
  constructor
  · rintro ⟨after, same, gone⟩
    cases same
    by_contra left
    obtain ⟨event, detected⟩ := Option.ne_none_iff_exists'.mp left
    apply gone event (mem_extractChangeEvents.mpr ⟨_, _, here, detected⟩)
    rw [run, detectChange_runId detected]
  · intro none
    refine ⟨_, rfl, ?_⟩
    intro event inside same
    obtain ⟨prev', cur', consecutive', detected⟩ := mem_extractChangeEvents.mp inside
    have runs : cur'.runId = (undoBehind rt change.changeId prev cur).runId := by
      rw [← detectChange_runId detected, same, run]
    obtain ⟨rfl, rfl⟩ := consecutive'.unique apart here runs
    rw [none] at detected
    cases detected

end Undo

section Restored

variable [Zero N] [One N] [NanObjects N]

/-- The new system information equals the old one, or is missing where the old one is empty,
or both are dictionaries, the new one has no key of its own, and no key it lost held `None`. -/
def InfoRestorable (prev : PyVal N) (cur : Option (PyVal N)) : Prop :=
  Equal prev (cur.getD .none) ∨ (cur = none ∧ prev.Same (.ofDict Dict.empty)) ∨
    ∃ prevInfo curInfo, prev = .ofDict prevInfo ∧ cur = some (.ofDict curInfo) ∧
      (∀ key ∈ curInfo.keys, key ∈ prevInfo.keys) ∧
      ∀ key ∈ prevInfo.keys, key ∉ curInfo.keys → prevInfo.get key ≠ PyVal.none

/-- What the revert takes over or writes is the old value, also where that is NaN. -/
theorem same_merged_iff (prev cur : Dict N) :
    prev.Same (setOld cur (changedFields prev cur)) ↔
      (∀ key ∈ cur.keys, key ∈ prev.keys) ∧
      ∀ key ∈ prev.keys, key ∉ cur.keys → prev.get key ≠ PyVal.none := by
  have member : ∀ key, key ∈ (setOld cur (changedFields prev cur)).keys ↔
      (Equal (prev.get key) (cur.get key) → key ∈ cur.keys) := by
    intro key
    rw [Dict.mem_keys_iff, get?_setOld_changedFields, Dict.mem_keys_iff]
    by_cases same : Equal (prev.get key) (cur.get key)
    · rw [if_pos same]
      exact ⟨fun inside _ => inside, fun inside => inside same⟩
    · rw [if_neg same]
      exact ⟨fun _ holds => absurd holds same, fun _ => rfl⟩
  have value : ∀ key, (prev.get key).Same ((setOld cur (changedFields prev cur)).get key) := by
    intro key
    change (prev.get key).Same (((setOld cur (changedFields prev cur)).get? key).getD .none)
    rw [get?_setOld_changedFields]
    split
    · rename_i same
      exact same.1
    · exact PyVal.Same.refl _
  rw [Dict.same_iff_keys]
  constructor
  · rintro ⟨keys, _⟩
    refine ⟨?_, ?_⟩
    · intro key inside
      exact (keys key).mpr ((member key).mpr fun _ => inside)
    · intro key inside outside isNone
      have kept := (member key).mp ((keys key).mp inside)
      rw [isNone, Dict.get_of_not_mem outside] at kept
      exact outside (kept ((equal_none_iff _).mpr rfl))
  · rintro ⟨noNew, noNone⟩
    refine ⟨?_, value⟩
    intro key
    rw [member]
    constructor
    · intro inside same
      by_contra outside
      rw [Dict.get_of_not_mem outside, equal_none_iff] at same
      exact noNone key inside outside same
    · intro kept
      by_contra outside
      have absent : key ∉ cur.keys := fun inside => outside (noNew key inside)
      apply absent
      apply kept
      rw [Dict.get_of_not_mem outside, Dict.get_of_not_mem absent]
      exact (equal_none_iff _).mpr rfl

/-- A dictionary is not NaN. -/
theorem equal_ofDict_iff (prev : PyVal N) (info : Dict N) :
    Equal prev (.ofDict info) ↔ prev.Same (.ofDict info) := by
  constructor
  · exact And.left
  · intro same
    refine ⟨same, ?_⟩
    intro nan
    obtain ⟨json, distinct⟩ := prev
    cases json with
    | num number => simp [PyVal.Same, PyVal.ofDict, Json.canon] at same
    | _ => cases nan

theorem equal_revertedInfo_iff (prev : PyVal N) (cur : Option (PyVal N)) :
    Equal prev ((revertedInfo prev cur).getD .none) ↔ InfoRestorable prev cur := by
  by_cases same : Equal prev (cur.getD .none)
  · simp only [revertedInfo, same, ↓reduceIte, InfoRestorable, true_or]
  · cases cur with
    | none =>
        simp only [revertedInfo, same, ↓reduceIte, Option.getD_some, InfoRestorable, true_and,
          false_or, reduceCtorEq, false_and, and_false, exists_false, or_false, equal_ofDict_iff]
    | some value =>
        simp only [revertedInfo, same, ↓reduceIte, InfoRestorable, reduceCtorEq, false_and,
          false_or, Option.some.injEq]
        have kept : ¬ Equal prev value := same
        constructor
        · intro restored
          split at restored
          · rename_i prevInfo curInfo prevDict curDict
            rw [PyVal.ofDict_of_asDict? prevDict, Option.getD_some, equal_ofDict_iff] at restored
            refine ⟨prevInfo, curInfo, PyVal.ofDict_of_asDict? prevDict,
              PyVal.ofDict_of_asDict? curDict, ?_⟩
            exact (same_merged_iff prevInfo curInfo).mp restored
          · exact absurd restored kept
        · rintro ⟨prevInfo, curInfo, rfl, rfl, keys⟩
          simp only [PyVal.asDict?_ofDict, Option.getD_some, equal_ofDict_iff]
          exact (same_merged_iff prevInfo curInfo).mpr keys

/-- No value of the earlier record is NaN, apart from its system information, which can be
rebuilt. -/
def Restorable (prev cur : EvaluationRecord N) : Prop :=
  (∀ key, key ≠ "system_info" → ¬ IsNan (prev.metadata.get key)) ∧
    InfoRestorable (prev.metadata.get "system_info") (cur.metadata.get? "system_info")

theorem unchanged_reverted_iff {prev cur reverted : EvaluationRecord N}
    (behind : RevertedBehind prev cur reverted) :
    Unchanged prev reverted ↔ Restorable prev cur := by
  rw [Restorable, ← equal_revertedInfo_iff, ← behind.info]
  constructor
  · rintro ⟨_, same⟩
    exact ⟨fun key _ => (same key).2, same "system_info"⟩
  · rintro ⟨finite, info⟩
    refine ⟨behind.systemVersion.symm, ?_⟩
    intro key
    by_cases named : key = "system_info"
    · subst key
      exact info
    · change Equal (prev.metadata.get key) ((reverted.metadata.get? key).getD .none)
      rw [behind.plain key named]
      split
      · rename_i same
        exact same
      · exact ⟨PyVal.Same.refl _, finite key named⟩

/-- A removed change is gone exactly when the earlier record holds no NaN and the revert can
rebuild its system information. -/
theorem removed_change_gone_iff {rt : Runtime N} {store : List (EvaluationRecord N)}
    (separates : Separates rt store) (distinct : RunsDistinct store) {change : ChangeEvent N}
    (inside : change ∈ extractChangeEvents rt store) :
    ChangeGone rt store change ↔
      ∀ prev cur, Consecutive store prev cur → cur.runId = change.runId → Restorable prev cur := by
  obtain ⟨prev, cur, consecutive, found⟩ := mem_extractChangeEvents.mp inside
  have gone := changeGone_iff_unchanged separates distinct consecutive found
  rw [unchanged_reverted_iff (revertChange_detected found).2] at gone
  rw [gone]
  constructor
  · intro restorable prev' cur' consecutive' run
    obtain ⟨rfl, rfl⟩ := consecutive.unique distinct consecutive'
      ((detectChange_runId found).symm.trans run.symm)
    exact restorable
  · intro all
    exact all prev cur consecutive (detectChange_runId found).symm

end Restored

def infoRecord (runId : String) (timestamp : Int) (info : Dict Int) : EvaluationRecord Int :=
  ⟨runId, [], Dict.empty.set "system_info" (.ofDict info), some "v1", runId, timestamp⟩

def grownBefore : EvaluationRecord Int := infoRecord "r1" 1 (Dict.empty.set "name" (.str "rag"))

/-- The second run reports a model, the first one does not. -/
def grownAfter : EvaluationRecord Int :=
  infoRecord "r2" 2 ((Dict.empty.set "name" (.str "rag")).set "model" (.str "m2"))

def grownInfo : List (EvaluationRecord Int) := [grownBefore, grownAfter]

def grownRuntime : Runtime Int :=
  wholeRuntime [("r2:2.0:model_update", "4766ad76-f212-573e-9d81-cd6d0657c38b")]

theorem grownInfo_separates : Separates grownRuntime grownInfo := separates_whole (by decide)

theorem grownInfo_distinct : RunsDistinct grownInfo ∧ TimesDistinct grownInfo := by
  unfold RunsDistinct TimesDistinct
  decide

theorem grownInfo_consecutive : Consecutive grownInfo grownBefore grownAfter := ⟨[], [], rfl⟩

section

/-- Whole numbers, none of them NaN. -/
local instance : NanObjects Int := ⟨fun _ => false⟩

theorem grownInfo_detected : ∃ change, change ∈ extractChangeEvents grownRuntime grownInfo ∧
    detectChange grownRuntime grownBefore grownAfter = some change := by
  have changed : (detectChange grownRuntime grownBefore grownAfter).isSome := by decide
  obtain ⟨change, found⟩ := Option.isSome_iff_exists.mp changed
  exact ⟨change, mem_extractChangeEvents.mpr ⟨_, _, grownInfo_consecutive, found⟩, found⟩

theorem removed_change_gone_iff_grown : ∃ change,
    change ∈ extractChangeEvents grownRuntime grownInfo ∧
    (ChangeGone grownRuntime grownInfo change ↔
      ∀ prev cur, Consecutive grownInfo prev cur → cur.runId = change.runId →
        Restorable prev cur) := by
  obtain ⟨change, inside, _⟩ := grownInfo_detected
  exact ⟨change, inside,
    removed_change_gone_iff grownInfo_separates grownInfo_distinct.1 inside⟩

/-- The revert leaves the new field behind with the value `None`. -/
theorem removed_field_stays : ¬ ∀ (rt : Runtime Int) (store : List (EvaluationRecord Int))
    (change : ChangeEvent Int), Separates rt store → RunsDistinct store → TimesDistinct store →
    change ∈ extractChangeEvents rt store → ChangeGone rt store change := by
  intro all
  obtain ⟨change, inside, found⟩ := grownInfo_detected
  have gone := all grownRuntime grownInfo change grownInfo_separates grownInfo_distinct.1
    grownInfo_distinct.2 inside
  rw [changeGone_iff_unchanged grownInfo_separates grownInfo_distinct.1 grownInfo_consecutive
    found, unchanged_reverted_iff (revertChange_detected found).2, Restorable,
    ← equal_revertedInfo_iff] at gone
  have info := gone.2
  revert info
  decide

end

end RagDrift.Counterfactual
