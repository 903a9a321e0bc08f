import RagDrift.Counterfactual.CarriedValues
import RagDrift.Counterfactual.UnmovedEstimate
import RagDrift.Counterfactual.NextChange

set_option autoImplicit false

/- Interventions on a history in which a run may be recorded more than once: the record to edit
is looked up by its run, so the first record of the run is edited. -/
namespace RagDrift.Counterfactual

open Storage (EvaluationRecord)
open Causal

variable {N : Type}

/-- Different times of the store are written differently. -/
structure SeparatesTimes (rt : Runtime N) (store : List (EvaluationRecord N)) : Prop
    extends Separates rt store where
  timeText : ∀ left ∈ store, ∀ right ∈ store,
    rt.str (.num left.timestamp) = rt.str (.num right.timestamp) →
      left.timestamp = right.timestamp

section Target

variable [LinearOrder N] [Zero N] [One N] {rt : Runtime N} {store : List (EvaluationRecord N)}

/-- With times apart, the change looked up by an id is the one that has it. -/
theorem targetChange_own (separates : SeparatesTimes rt store) (times : TimesDistinct store)
    {change : ChangeEvent N} (inside : change ∈ extractChangeEvents rt store) :
    targetChange rt store change.changeId = some change := by
  obtain ⟨prev, cur, consecutive, found⟩ := mem_extractChangeEvents.mp inside
  obtain ⟨changeType, named⟩ := detectChange_changeId found
  cases target : targetChange rt store change.changeId with
  | none =>
      rw [targetChange, List.find?_eq_none] at target
      exact absurd (target change inside) (by simp)
  | some other =>
      have same : other.changeId = change.changeId := by
        rw [targetChange] at target
        simpa using List.find?_some target
      obtain ⟨prev', cur', consecutive', found'⟩ :=
        mem_extractChangeEvents.mp (List.mem_of_find?_eq_some target)
      obtain ⟨changeType', named'⟩ := detectChange_changeId found'
      have names := separates.noCollision cur' consecutive'.mem_right cur consecutive.mem_right
        changeType' changeType (named'.symm.trans (same.trans named))
      have time := separates.timeText cur' consecutive'.mem_right cur consecutive.mem_right
        (changeName_parts (separates.plain cur' consecutive'.mem_right)
          (separates.plain cur consecutive.mem_right) names).2
      obtain ⟨rfl, rfl⟩ :=
        consecutive'.unique_key EvaluationRecord.timestamp times consecutive time
      exact found'.symm.trans found

omit [LinearOrder N] [Zero N] [One N] in
theorem forall₂_replaced {relation : EvaluationRecord N → EvaluationRecord N → Prop}
    (refl : ∀ record, relation record record) {first edited : EvaluationRecord N}
    (front back : List (EvaluationRecord N)) :
    List.Forall₂ relation (front ++ first :: back) (front ++ edited :: back) ↔
      relation first edited := by
  induction front with
  | nil =>
      have same : List.Forall₂ relation back back :=
        List.forall₂_same.mpr fun record _ => refl record
      simp only [List.nil_append, List.forall₂_cons, same, and_true]
  | cons record front ih =>
      simp only [List.cons_append, List.forall₂_cons, ih, refl record, true_and]

/-- A record keeps its place, and is another only if it is the one at the time of the change. -/
def KeptUnlessChanged (change : ChangeEvent N) (before edited : EvaluationRecord N) : Prop :=
  SamePlace edited before ∧ (before.timestamp ≠ change.timestamp → SameRecord edited before)

omit [LinearOrder N] in
theorem KeptUnlessChanged.refl (change : ChangeEvent N) (record : EvaluationRecord N) :
    KeptUnlessChanged change record record :=
  ⟨.refl record, fun _ => .refl record⟩

/-- The intervention returns and edits no record but the one the change was detected at. -/
def EditsOnlyChanged (rt : Runtime N) (store : List (EvaluationRecord N))
    (change : ChangeEvent N) (intervention : Intervention N) : Prop :=
  ∃ after, applyIntervention rt store intervention = .ok after ∧
    List.Forall₂ (KeptUnlessChanged change) (sortRecords store) after

/-- The record a loop over the sorted history stops at. -/
def firstOfRun (store : List (EvaluationRecord N)) (runId : String) :
    Option (EvaluationRecord N) :=
  (sortRecords store).find? fun record => record.runId = runId

theorem editsOnlyChanged_iff_first (separates : SeparatesTimes rt store)
    (times : TimesDistinct store) {change : ChangeEvent N}
    (inside : change ∈ extractChangeEvents rt store) {intervention : Intervention N}
    (named : intervention.changeId = change.changeId) {first : EvaluationRecord N}
    (found : firstOfRun store change.runId = some first) :
    EditsOnlyChanged rt store change intervention ↔
      ∃ edited, editFor intervention change first = .ok edited ∧
        (first.timestamp ≠ change.timestamp → SameRecord edited first) := by
  obtain ⟨run, front, back, split, before⟩ := List.find?_eq_some_iff_append.mp found
  rw [decide_eq_true_eq] at run
  have others : ∀ record ∈ front, record.runId ≠ first.runId := by
    intro record member same
    have differs := before record member
    simp [same, run] at differs
  have ran : applyIntervention rt store intervention =
      (editFor intervention change first).map fun edited => front ++ edited :: back := by
    rw [applyIntervention, named, targetChange_own separates times inside]
    change editFirst change.runId _ _ = _
    rw [← run, split, editFirst_split _ others]
  rw [EditsOnlyChanged, ran, split]
  cases edit : editFor intervention change first with
  | error reason =>
      constructor
      · rintro ⟨after, returned, _⟩
        cases returned
      · rintro ⟨edited, returned, _⟩
        cases returned
  | ok edited =>
      simp only [Except.map, Except.ok.injEq, exists_eq_left',
        forall₂_replaced (KeptUnlessChanged.refl change), KeptUnlessChanged, editFor_place edit,
        true_and]

/-- The record already holds what the intervention would write. -/
def AlreadyEdited (intervention : Intervention N) (change : ChangeEvent N)
    (record : EvaluationRecord N) : Prop :=
  match intervention.action with
  | .remove => Carries change.details record
  | .modify => CarriesOverride intervention.overrideMetadata record
  | .other _ => True

theorem editFor_same_iff {prev cur : EvaluationRecord N} {change : ChangeEvent N}
    (found : detectChange rt prev cur = some change) (intervention : Intervention N)
    (record : EvaluationRecord N) :
    (∃ edited, editFor intervention change record = .ok edited ∧ SameRecord edited record) ↔
      AlreadyEdited intervention change record := by
  have own : change.details = ownDetails prev cur := by
    rw [detectChange_some found]
    rfl
  unfold editFor AlreadyEdited
  cases intervention.action with
  | remove =>
      simp only [own]
      exact revertChange_same_iff prev cur record
  | modify =>
      simp only [Except.ok.injEq, exists_eq_left']
      exact applyModify_same_iff record intervention.overrideMetadata
  | other name =>
      simp only [Except.ok.injEq, exists_eq_left', iff_true]
      exact SameRecord.refl record

theorem exists_firstOfRun {change : ChangeEvent N}
    (inside : change ∈ extractChangeEvents rt store) :
    ∃ first, firstOfRun store change.runId = some first := by
  obtain ⟨prev, cur, consecutive, found⟩ := mem_extractChangeEvents.mp inside
  apply Option.isSome_iff_exists.mp
  rw [firstOfRun, List.find?_isSome]
  refine ⟨cur, (sortRecords_perm store).mem_iff.mpr consecutive.mem_right, ?_⟩
  simp [detectChange_runId found]

/-- An intervention reaches the record of its change exactly if that is the first record of its
run, or else if the first one already holds what the intervention writes. Records are values here:
no two of them share a metadata dictionary. -/
theorem edits_only_changed_iff (separates : SeparatesTimes rt store)
    (times : TimesDistinct store) {change : ChangeEvent N}
    (inside : change ∈ extractChangeEvents rt store) {intervention : Intervention N}
    (named : intervention.changeId = change.changeId) :
    EditsOnlyChanged rt store change intervention ↔
      ∀ first, firstOfRun store change.runId = some first →
        first.timestamp = change.timestamp ∨ AlreadyEdited intervention change first := by
  obtain ⟨first, lookup⟩ := exists_firstOfRun inside
  obtain ⟨prev, cur, consecutive, found⟩ := mem_extractChangeEvents.mp inside
  rw [editsOnlyChanged_iff_first separates times inside named lookup, lookup]
  simp only [Option.some.injEq, forall_eq']
  by_cases own : first.timestamp = change.timestamp
  · have member : first ∈ store :=
      (sortRecords_perm store).mem_iff.mp (List.mem_of_find?_eq_some lookup)
    have here : first = cur := by
      apply eq_of_timestamp times member consecutive.mem_right
      rw [own, detectChange_some found]
      rfl
    subst here
    obtain ⟨edited, ran⟩ := editFor_detected found intervention
    exact iff_of_true ⟨edited, ran, fun differs => absurd own differs⟩ (Or.inl own)
  · simp only [own, not_false_iff, ne_eq, forall_const, false_or]
    exact editFor_same_iff found intervention first

end Target

def versionRecord (recordId runId : String) (timestamp : Int) (version : String) :
    EvaluationRecord Int :=
  ⟨runId, [], Dict.empty, some version, recordId, timestamp⟩

/-- The run r1 is evaluated again behind r2, by a newer version each time. -/
def twiceRecorded : List (EvaluationRecord Int) :=
  [versionRecord "a" "r1" 1 "v1", versionRecord "b" "r2" 2 "v2", versionRecord "c" "r1" 3 "v3"]

def twiceRuntime : Runtime Int :=
  wholeRuntime [("r2:2.0:version_change", "d2a23888-479d-5707-b4cd-049fb3aac614"),
    ("r1:3.0:version_change", "72b79c44-79c5-5093-8d6c-37069b4967ad")]

theorem twiceRecorded_separates : SeparatesTimes twiceRuntime twiceRecorded where
  toSeparates := separates_whole (by decide)
  timeText := by decide

theorem twiceRecorded_times : TimesDistinct twiceRecorded := by
  unfold TimesDistinct
  decide

theorem twiceRecorded_detected : ∃ change ∈ extractChangeEvents twiceRuntime twiceRecorded,
    change.changeId = "72b79c44-79c5-5093-8d6c-37069b4967ad" ∧ change.timestamp = 3 := by
  have events : (extractChangeEvents twiceRuntime twiceRecorded).map
      (fun change => (change.changeId, change.timestamp)) =
        [("d2a23888-479d-5707-b4cd-049fb3aac614", 2),
          ("72b79c44-79c5-5093-8d6c-37069b4967ad", 3)] := by decide
  have listed : ("72b79c44-79c5-5093-8d6c-37069b4967ad", (3 : Int)) ∈
      (extractChangeEvents twiceRuntime twiceRecorded).map
        (fun change => (change.changeId, change.timestamp)) := by
    rw [events]
    simp
  obtain ⟨change, inside, same⟩ := List.mem_map.mp listed
  rw [Prod.mk.injEq] at same
  exact ⟨change, inside, same⟩

theorem edits_only_changed_iff_twice :
    ∃ change ∈ extractChangeEvents twiceRuntime twiceRecorded,
      (EditsOnlyChanged twiceRuntime twiceRecorded change (.remove change.changeId) ↔
        ∀ first, firstOfRun twiceRecorded change.runId = some first →
          first.timestamp = change.timestamp ∨
            AlreadyEdited (.remove change.changeId) change first) := by
  obtain ⟨change, inside, _⟩ := twiceRecorded_detected
  exact ⟨change, inside,
    edits_only_changed_iff twiceRecorded_separates twiceRecorded_times inside rfl⟩

/-- Removing the change of the second evaluation of r1 gives its first evaluation the version
of r2. -/
theorem earlier_record_edited : ¬ ∀ (rt : Runtime Int) (store : List (EvaluationRecord Int))
    (change : ChangeEvent Int) (intervention : Intervention Int), SeparatesTimes rt store →
    TimesDistinct store → change ∈ extractChangeEvents rt store →
    intervention.changeId = change.changeId →
    intervention.action = .remove ∨ intervention.action = .modify →
    EditsOnlyChanged rt store change intervention := by
  intro all
  obtain ⟨change, inside, named, time⟩ := twiceRecorded_detected
  obtain ⟨after, ran, kept⟩ := all twiceRuntime twiceRecorded change (.remove change.changeId)
    twiceRecorded_separates twiceRecorded_times inside rfl (Or.inl rfl)
  rw [named] at ran
  have versions : ((applyIntervention twiceRuntime twiceRecorded
      (.remove "72b79c44-79c5-5093-8d6c-37069b4967ad")).map fun after =>
        after.map EvaluationRecord.systemVersion) =
      .ok [some "v2", some "v2", some "v3"] := by decide
  rw [ran, Except.map, Except.ok.injEq] at versions
  have sorted : sortRecords twiceRecorded = twiceRecorded := rfl
  rw [sorted, twiceRecorded, List.forall₂_cons_left_iff] at kept
  obtain ⟨edited, rest, ⟨_, same⟩, _, rfl⟩ := kept
  rw [List.map_cons, List.cons.injEq] at versions
  have version := (same (by rw [time]; decide)).systemVersion
  rw [versions.1] at version
  revert version
  decide

end RagDrift.Counterfactual
