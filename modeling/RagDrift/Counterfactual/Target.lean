import RagDrift.Counterfactual.Revert

set_option autoImplicit false

/- Which record an intervention reaches: the change id names a run, a time and a type. -/
namespace RagDrift.Counterfactual

open Storage (EvaluationRecord PyErr)
open Causal

variable {N : Type}

theorem split_at_last {c : Char} {front back front' back' : List Char} (plain : c ∉ back)
    (plain' : c ∉ back') (same : front ++ c :: back = front' ++ c :: back') :
    front = front' ∧ back = back' := by
  rcases List.append_eq_append_iff.mp same with ⟨middle, split, rest⟩ | ⟨middle, split, rest⟩
  · cases middle with
    | nil =>
        rw [List.nil_append, List.cons.injEq] at rest
        exact ⟨by simpa using split.symm, rest.2⟩
    | cons first middle =>
        rw [List.cons_append, List.cons.injEq] at rest
        exact absurd (by rw [rest.2]; simp) plain
  · cases middle with
    | nil =>
        rw [List.nil_append, List.cons.injEq] at rest
        exact ⟨by simpa using split, rest.2.symm⟩
    | cons first middle =>
        rw [List.cons_append, List.cons.injEq] at rest
        exact absurd (by rw [rest.2]; simp) plain'

theorem changeName_parts {rt : Runtime N} {run run' : String} {time time' : N}
    {changeType changeType' : ChangeType} (plain : ':' ∉ (rt.str (.num time)).toList)
    (plain' : ':' ∉ (rt.str (.num time')).toList)
    (same : changeName rt run time changeType = changeName rt run' time' changeType') :
    run = run' ∧ rt.str (.num time) = rt.str (.num time') := by
  have chars : (run.toList ++ ':' :: (rt.str (.num time)).toList) ++
        ':' :: changeType.text.toList =
      (run'.toList ++ ':' :: (rt.str (.num time')).toList) ++ ':' :: changeType'.text.toList := by
    simpa [changeName] using congrArg String.toList same
  obtain ⟨front, _⟩ := split_at_last changeType.text_plain changeType'.text_plain chars
  obtain ⟨runs, times⟩ := split_at_last plain plain' front
  exact ⟨String.toList_inj.mp runs, String.toList_inj.mp times⟩

/-- No two names this store hashes collide, and no timestamp is written with a colon. -/
structure Separates (rt : Runtime N) (store : List (EvaluationRecord N)) : Prop where
  plain : ∀ record ∈ store, ':' ∉ (rt.str (.num record.timestamp)).toList
  noCollision : ∀ left ∈ store, ∀ right ∈ store, ∀ leftType rightType,
    rt.uuid5 (changeName rt left.runId left.timestamp leftType) =
      rt.uuid5 (changeName rt right.runId right.timestamp rightType) →
    changeName rt left.runId left.timestamp leftType =
      changeName rt right.runId right.timestamp rightType

theorem Separates.runId {rt : Runtime N} {store : List (EvaluationRecord N)}
    (separates : Separates rt store) {left right : EvaluationRecord N} (inside : left ∈ store)
    (inside' : right ∈ store) {leftType rightType : ChangeType}
    (same : rt.uuid5 (changeName rt left.runId left.timestamp leftType) =
      rt.uuid5 (changeName rt right.runId right.timestamp rightType)) :
    left.runId = right.runId :=
  (changeName_parts (separates.plain left inside) (separates.plain right inside')
    (separates.noCollision left inside right inside' leftType rightType same)).1

theorem Separates.of_injective {rt : Runtime N} {store : List (EvaluationRecord N)}
    (injective : Function.Injective rt.uuid5)
    (plain : ∀ record ∈ store, ':' ∉ (rt.str (.num record.timestamp)).toList) :
    Separates rt store where
  plain := plain
  noCollision := by
    intro left _ right _ leftType rightType same
    exact injective same

theorem separates_whole {uuids : List (String × String)} {store : List (EvaluationRecord Int)}
    (plain : ∀ record ∈ store,
      ':' ∉ ((wholeRuntime uuids).str (.num record.timestamp)).toList) :
    Separates (wholeRuntime uuids) store :=
  .of_injective (uuidTable uuids).injective plain

theorem editFirst_split {front back : List (EvaluationRecord N)} {cur : EvaluationRecord N}
    (edit : EvaluationRecord N → Except PyErr (EvaluationRecord N))
    (before : ∀ record ∈ front, record.runId ≠ cur.runId) :
    editFirst cur.runId edit (front ++ cur :: back) =
      (edit cur).map fun edited => front ++ edited :: back := by
  induction front with
  | nil =>
      rw [List.nil_append, editFirst, if_pos rfl]
      cases edit cur <;> rfl
  | cons first front ih =>
      have later := ih fun record inside => before record (List.mem_cons_of_mem _ inside)
      rw [List.cons_append, editFirst, if_neg (before first List.mem_cons_self), later]
      cases edit cur <;> rfl

variable [LinearOrder N] [Equality N]

omit [LinearOrder N] in
theorem detectChange_changeId {rt : Runtime N} {prev cur : EvaluationRecord N}
    {change : ChangeEvent N} (found : detectChange rt prev cur = some change) :
    ∃ changeType, change.changeId = rt.uuid5 (changeName rt cur.runId cur.timestamp changeType) :=
  ⟨_, congrArg ChangeEvent.changeId (detectChange_some found)⟩

/-- Looking up an id that names the run of `cur` finds the change of `cur` or nothing. -/
theorem targetChange_eq {rt : Runtime N} {store : List (EvaluationRecord N)}
    (separates : Separates rt store) (distinct : RunsDistinct store)
    {prev cur : EvaluationRecord N} (consecutive : Consecutive store prev cur)
    (changeType : ChangeType) {changeId : String}
    (named : changeId = rt.uuid5 (changeName rt cur.runId cur.timestamp changeType)) :
    targetChange rt store changeId =
      (detectChange rt prev cur).filter fun change => change.changeId = changeId := by
  have only : ∀ change ∈ extractChangeEvents rt store, change.changeId = changeId →
      detectChange rt prev cur = some change := by
    intro change inside same
    obtain ⟨prev', cur', consecutive', found⟩ := mem_extractChangeEvents.mp inside
    obtain ⟨changeType', written⟩ := detectChange_changeId found
    have run := separates.runId consecutive'.mem_right consecutive.mem_right
      (written.symm.trans (same.trans named))
    obtain ⟨rfl, rfl⟩ := consecutive'.unique distinct consecutive run
    exact found
  cases target : targetChange rt store changeId with
  | none =>
      rw [targetChange, List.find?_eq_none] at target
      symm
      rw [Option.filter_eq_none_iff]
      intro change found
      exact target change (mem_extractChangeEvents.mpr ⟨prev, cur, consecutive, found⟩)
  | some change =>
      have same : change.changeId = changeId := by
        simpa using List.find?_some target
      have inside : change ∈ extractChangeEvents rt store := List.mem_of_find?_eq_some target
      rw [only change inside same, Option.filter_some, if_pos (by simpa using same)]

end RagDrift.Counterfactual
