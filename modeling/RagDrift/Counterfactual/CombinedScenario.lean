import RagDrift.Counterfactual.Neighbours

set_option autoImplicit false

/- Several removals, one after the other: each one looks its change up in the store the
earlier ones left behind, so at neighbouring records the order can matter. -/
namespace RagDrift.Counterfactual

open Storage (EvaluationRecord)
open Causal

variable {N : Type}

/- A store some removals have reached is given by the sorted original records and what each of
them has become. -/

def layout (records : List (EvaluationRecord N))
    (state : EvaluationRecord N → EvaluationRecord N) : List (EvaluationRecord N) :=
  records.map state

def InPlace (records : List (EvaluationRecord N))
    (state : EvaluationRecord N → EvaluationRecord N) : Prop :=
  ∀ record ∈ records, SamePlace (state record) record

theorem eq_of_runId {records : List (EvaluationRecord N)} (distinct : RunsDistinct records)
    {left right : EvaluationRecord N} (inside : left ∈ records) (inside' : right ∈ records)
    (same : left.runId = right.runId) : left = right :=
  List.inj_on_of_nodup_map distinct inside inside' same

section Layout

variable [LinearOrder N] {rt : Runtime N} {store : List (EvaluationRecord N)}
  {state : EvaluationRecord N → EvaluationRecord N}

theorem layout_sorted (place : InPlace (sortRecords store) state) :
    sortRecords (layout (sortRecords store) state) = layout (sortRecords store) state := by
  apply sortRecords_of_sorted
  rw [TimeSorted, layout, List.pairwise_map]
  refine (sortRecords_sorted store).imp_of_mem ?_
  intro left right inside inside' before
  rw [(place left inside).timestamp, (place right inside').timestamp]
  exact before

theorem layout_runs (distinct : RunsDistinct store) (place : InPlace (sortRecords store) state) :
    RunsDistinct (layout (sortRecords store) state) := by
  have runs : (layout (sortRecords store) state).map EvaluationRecord.runId =
      (sortRecords store).map EvaluationRecord.runId := by
    rw [layout, List.map_map]
    exact List.map_congr_left fun record inside => (place record inside).runId
  rw [RunsDistinct, runs]
  exact distinct.sorted

theorem layout_separates (separates : Separates rt store)
    (place : InPlace (sortRecords store) state) :
    Separates rt (layout (sortRecords store) state) where
  plain := by
    intro record inside
    obtain ⟨original, member, rfl⟩ := List.mem_map.mp inside
    rw [(place original member).timestamp]
    exact separates.plain original ((sortRecords_perm store).mem_iff.mp member)
  noCollision := by
    intro left inside right inside' leftType rightType same
    obtain ⟨first, member, rfl⟩ := List.mem_map.mp inside
    obtain ⟨second, member', rfl⟩ := List.mem_map.mp inside'
    rw [(place first member).runId, (place first member).timestamp, (place second member').runId,
      (place second member').timestamp] at same ⊢
    exact separates.noCollision first ((sortRecords_perm store).mem_iff.mp member) second
      ((sortRecords_perm store).mem_iff.mp member') leftType rightType same

variable [Zero N] [One N]

/-- What the removal of `changeId` at `cur`, behind `prev`, does to the state. -/
def settle (rt : Runtime N) (changeId : String) (prev cur : EvaluationRecord N)
    (state : EvaluationRecord N → EvaluationRecord N) : EvaluationRecord N → EvaluationRecord N :=
  fun record =>
    if record.runId = cur.runId then undoBehind rt changeId (state prev) (state cur)
    else state record

theorem layout_settle (distinct : RunsDistinct store) {front back : List (EvaluationRecord N)}
    {prev cur : EvaluationRecord N} (split : sortRecords store = front ++ prev :: cur :: back)
    (changeId : String) :
    layout (sortRecords store) (settle rt changeId prev cur state) =
      layout front state ++ state prev :: undoBehind rt changeId (state prev) (state cur) ::
        layout back state := by
  have runs := distinct.sorted
  have others : ∀ record ∈ front ++ [prev], record.runId ≠ cur.runId :=
    sorted_before distinct split
  have later : ∀ record ∈ back, record.runId ≠ cur.runId := by
    rw [RunsDistinct, split] at runs
    intro record inside same
    have tail := (List.nodup_append.mp (by simpa using runs)).2.1
    rw [List.nodup_cons, List.nodup_cons] at tail
    exact tail.2.1 (by rw [← same]; exact List.mem_map_of_mem inside)
  have kept : ∀ records : List (EvaluationRecord N), (∀ record ∈ records,
      record.runId ≠ cur.runId) → records.map (settle rt changeId prev cur state) =
        records.map state := by
    intro records apart
    apply List.map_congr_left
    intro record inside
    rw [settle, if_neg (apart record inside)]
  have prevKept : settle rt changeId prev cur state prev = state prev := by
    rw [settle, if_neg (others prev (by simp))]
  have here : settle rt changeId prev cur state cur =
      undoBehind rt changeId (state prev) (state cur) := by
    rw [settle, if_pos rfl]
  rw [layout, split, List.map_append, List.map_cons, List.map_cons, prevKept, here,
    kept front (fun record inside => others record (by simp [inside])), kept back later]
  rfl

/-- One removal settles the record its id names, whether or not the change is still found. -/
theorem applyIntervention_layout (separates : Separates rt store) (distinct : RunsDistinct store)
    (place : InPlace (sortRecords store) state) {prev cur : EvaluationRecord N}
    (consecutive : Consecutive store prev cur) {changeId : String} {changeType : ChangeType}
    (named : changeId = rt.uuid5 (changeName rt cur.runId cur.timestamp changeType)) :
    applyIntervention rt (layout (sortRecords store) state) (.remove changeId) =
      .ok (layout (sortRecords store) (settle rt changeId prev cur state)) := by
  obtain ⟨front, back, split⟩ := consecutive
  have curIn : cur ∈ sortRecords store := by rw [split]; simp
  have sorted : sortRecords (layout (sortRecords store) state) =
      layout front state ++ state prev :: state cur :: layout back state := by
    rw [layout_sorted place, layout, split, List.map_append, List.map_cons, List.map_cons]
    rfl
  have separates' := layout_separates separates place
  have distinct' := layout_runs distinct place
  have named' : changeId = rt.uuid5
      (changeName rt (state cur).runId (state cur).timestamp changeType) := by
    rw [named, (place cur curIn).runId, (place cur curIn).timestamp]
  rw [layout_settle distinct split]
  cases target : (detectChange rt (state prev) (state cur)).filter
      fun change => change.changeId = changeId with
  | none =>
      rw [applyIntervention_missed separates' distinct' sorted named' target,
        undoBehind_missed target, ← sorted, layout_sorted place]
  | some change =>
      obtain ⟨found, same⟩ := Option.filter_eq_some_iff.mp target
      rw [decide_eq_true_eq] at same
      subst same
      exact applyIntervention_found separates' distinct' sorted found

theorem settle_inPlace (place : InPlace (sortRecords store) state) (distinct : RunsDistinct store)
    {prev cur : EvaluationRecord N} (consecutive : Consecutive store prev cur)
    (changeId : String) :
    InPlace (sortRecords store) (settle rt changeId prev cur state) := by
  intro record inside
  have curIn := (sortRecords_perm store).mem_iff.mpr consecutive.mem_right
  by_cases here : record.runId = cur.runId
  · have same := eq_of_runId distinct.sorted inside curIn here
    subst same
    rw [settle, if_pos rfl]
    exact (undoBehind_samePlace rt changeId (state prev) (state record)).trans
      (place record inside)
  · rw [settle, if_neg here]
    exact place record inside

end Layout

section Same

variable [Zero N] [One N]

theorem layout_same {records : List (EvaluationRecord N)}
    {left right : EvaluationRecord N → EvaluationRecord N}
    (same : ∀ record ∈ records, SameRecord (left record) (right record)) :
    List.Forall₂ SameRecord (layout records left) (layout records right) := by
  induction records with
  | nil => exact .nil
  | cons first rest ih =>
      exact .cons (same first List.mem_cons_self)
        (ih fun record inside => same record (List.mem_cons_of_mem _ inside))

theorem layout_joined {records result : List (EvaluationRecord N)}
    {left right : EvaluationRecord N → EvaluationRecord N}
    (first : List.Forall₂ SameRecord (layout records left) result)
    (second : List.Forall₂ SameRecord (layout records right) result) :
    ∀ record ∈ records, SameRecord (left record) (right record) := by
  induction records generalizing result with
  | nil => exact fun record inside => absurd inside List.not_mem_nil
  | cons here rest ih =>
      cases first with
      | cons firstHere firstRest =>
          cases second with
          | cons secondHere secondRest =>
              intro record inside
              rcases List.mem_cons.mp inside with rfl | later
              · exact firstHere.trans secondHere.symm
              · exact ih firstRest secondRest record later

end Same

/-- The removals of these changes, in this order. -/
def removals (order : List (ChangeEvent N)) : List (Intervention N) :=
  order.map fun change => .remove change.changeId

/-- The scenario lists one removal for each of the changes, in their order. -/
def Lists (scenario : CounterfactualScenario N) (order : List (ChangeEvent N)) : Prop :=
  List.Forall₂ (fun intervention change =>
    intervention.action = .remove ∧ intervention.changeId = change.changeId)
    scenario.interventions order

theorem removals_listed (order : List (ChangeEvent N)) :
    Lists ⟨"", removals order, ""⟩ order := by
  rw [Lists, removals, List.forall₂_map_left_iff, List.forall₂_same]
  exact fun change _ => ⟨rfl, rfl⟩

section Orders

variable [LinearOrder N] [Zero N] [One N] {rt : Runtime N} {store : List (EvaluationRecord N)}

theorem applyScenario_lists {scenario : CounterfactualScenario N} {order : List (ChangeEvent N)}
    (lists : Lists scenario order) :
    applyScenario rt store scenario = (removals order).foldlM (applyIntervention rt) store := by
  rw [applyScenario]
  rw [Lists] at lists
  generalize scenario.interventions = interventions at lists ⊢
  induction lists generalizing store with
  | nil => rfl
  | cons first _ ih =>
      rename_i intervention change _ _ _
      have same : applyIntervention rt store intervention =
          applyIntervention rt store (.remove change.changeId) := by
        obtain ⟨action, changeId, _, _⟩ := intervention
        obtain ⟨removes, names⟩ : action = .remove ∧ changeId = change.changeId := first
        subst removes names
        rfl
      rw [removals, List.map_cons, List.foldlM_cons, List.foldlM_cons, same]
      cases applyIntervention rt store (.remove change.changeId) with
      | error reason => rfl
      | ok after => exact ih

/-- The first removal finds its target and sorts the store. -/
theorem removals_from_sorted (separates : Separates rt store) (distinct : RunsDistinct store)
    {change : ChangeEvent N} (inside : change ∈ extractChangeEvents rt store)
    (rest : List (ChangeEvent N)) :
    (removals (change :: rest)).foldlM (applyIntervention rt) store =
      (removals (change :: rest)).foldlM (applyIntervention rt)
        (layout (sortRecords store) id) := by
  obtain ⟨prev, cur, ⟨front, back, split⟩, found⟩ := mem_extractChangeEvents.mp inside
  obtain ⟨changeType, named⟩ := detectChange_changeId found
  have place : InPlace (sortRecords store) id := fun record _ => SamePlace.refl record
  rw [removals, List.map_cons, List.foldlM_cons, List.foldlM_cons,
    applyIntervention_layout separates distinct place ⟨front, back, split⟩ named,
    applyIntervention_found separates distinct split found, layout_settle distinct split]
  simp only [layout, List.map_id, id_eq]

/-- Records no removal names stay as they are. -/
theorem removals_frame (separates : Separates rt store) (distinct : RunsDistinct store)
    (order : List (ChangeEvent N))
    (inside : ∀ change ∈ order, change ∈ extractChangeEvents rt store)
    (state : EvaluationRecord N → EvaluationRecord N)
    (place : InPlace (sortRecords store) state) :
    ∃ final, (removals order).foldlM (applyIntervention rt) (layout (sortRecords store) state) =
        .ok (layout (sortRecords store) final) ∧
      ∀ record, record.runId ∉ order.map ChangeEvent.runId → final record = state record := by
  induction order generalizing state with
  | nil => exact ⟨state, rfl, fun _ _ => rfl⟩
  | cons change rest ih =>
      obtain ⟨prev, cur, consecutive, found⟩ :=
        mem_extractChangeEvents.mp (inside change List.mem_cons_self)
      obtain ⟨changeType, named⟩ := detectChange_changeId found
      obtain ⟨final, ran, kept⟩ := ih
        (fun other member => inside other (List.mem_cons_of_mem _ member))
        (settle rt change.changeId prev cur state)
        (settle_inPlace place distinct consecutive change.changeId)
      refine ⟨final, ?_, ?_⟩
      · rw [removals, List.map_cons, List.foldlM_cons,
          applyIntervention_layout separates distinct place consecutive named]
        exact ran
      · intro record apart
        rw [List.map_cons, List.mem_cons, not_or] at apart
        rw [kept record apart.2, settle, if_neg]
        rw [← detectChange_runId found]
        exact apart.1

/-- A change next to another one of the set is undone the same way whether its predecessor
is the original record or the reverted one. -/
def UndoKept (rt : Runtime N) (store : List (EvaluationRecord N))
    (changes : List (ChangeEvent N)) : Prop :=
  ∀ before first second, Consecutive store before first → Consecutive store first second →
    ∀ change ∈ changes, change.runId = first.runId →
    ∀ next ∈ changes, next.runId = second.runId →
      SameRecord
        (undoBehind rt next.changeId (undoBehind rt change.changeId before first) second)
        (undoBehind rt next.changeId first second)

/-- The changes of the runs in `done` are undone against the original store, nothing else
has been touched. -/
structure Undone (rt : Runtime N) (store : List (EvaluationRecord N))
    (changes : List (ChangeEvent N)) (done : List String)
    (state : EvaluationRecord N → EvaluationRecord N) : Prop where
  place : InPlace (sortRecords store) state
  waiting : ∀ record ∈ sortRecords store, record.runId ∉ done → state record = record
  settled : ∀ change ∈ changes, change.runId ∈ done → ∀ prev cur, Consecutive store prev cur →
    cur.runId = change.runId → SameRecord (state cur) (undoBehind rt change.changeId prev cur)

theorem Undone.step (distinct : RunsDistinct store) {changes : List (ChangeEvent N)}
    (inside : ∀ change ∈ changes, change ∈ extractChangeEvents rt store)
    (kept : UndoKept rt store changes) {done : List String}
    {state : EvaluationRecord N → EvaluationRecord N}
    (undone : Undone rt store changes done state) (doneOnly : ∀ run ∈ done,
      ∃ change ∈ changes, change.runId = run) {change : ChangeEvent N}
    (member : change ∈ changes) (fresh : change.runId ∉ done) {prev cur : EvaluationRecord N}
    (consecutive : Consecutive store prev cur)
    (found : detectChange rt prev cur = some change) :
    Undone rt store changes (done ++ [change.runId])
      (settle rt change.changeId prev cur state) := by
  have run : change.runId = cur.runId := detectChange_runId found
  have curIn := (sortRecords_perm store).mem_iff.mpr consecutive.mem_right
  have prevIn := (sortRecords_perm store).mem_iff.mpr consecutive.mem_left
  have untouched : state cur = cur := undone.waiting cur curIn (run ▸ fresh)
  refine ⟨settle_inPlace undone.place distinct consecutive _, ?_, ?_⟩
  · intro record recordIn apart
    rw [List.mem_append, List.mem_singleton, not_or] at apart
    rw [settle, if_neg (run ▸ apart.2)]
    exact undone.waiting record recordIn apart.1
  · intro other otherIn reached prev' cur' consecutive' named
    by_cases here : cur'.runId = cur.runId
    · obtain ⟨rfl, rfl⟩ := consecutive'.unique distinct consecutive here
      obtain ⟨prev'', cur'', consecutive'', found'⟩ :=
        mem_extractChangeEvents.mp (inside other otherIn)
      obtain ⟨rfl, rfl⟩ := consecutive''.unique distinct consecutive'
        ((detectChange_runId found').symm.trans named.symm)
      obtain rfl : other = change := Option.some.inj (found'.symm.trans found)
      rw [settle, if_pos rfl, untouched]
      -- The predecessor is original, or its own change has been undone before.
      by_cases before : prev''.runId ∈ done
      · obtain ⟨earlier, earlierIn, same⟩ := doneOnly _ before
        obtain ⟨first, second, consecutive₁, found₁⟩ :=
          mem_extractChangeEvents.mp (inside earlier earlierIn)
        have hit : second = prev'' := eq_of_runId distinct consecutive₁.mem_right
          consecutive'.mem_left ((detectChange_runId found₁).symm.trans same)
        subst hit
        have reverted := undone.settled earlier earlierIn (same ▸ before) first second
          consecutive₁ same.symm
        exact (undoBehind_congr reverted other.changeId cur'').trans
          (kept first second cur'' consecutive₁ consecutive' earlier earlierIn same other
            otherIn run)
      · rw [undone.waiting prev'' prevIn before]
        exact SameRecord.refl _
    · rw [settle, if_neg here]
      rw [List.mem_append, List.mem_singleton] at reached
      rcases reached with earlier | now
      · exact undone.settled other otherIn earlier prev' cur' consecutive' named
      · exact absurd (named.trans (now.trans run)) here

theorem Undone.run (separates : Separates rt store) (distinct : RunsDistinct store)
    {changes : List (ChangeEvent N)}
    (inside : ∀ change ∈ changes, change ∈ extractChangeEvents rt store)
    (kept : UndoKept rt store changes) (order : List (ChangeEvent N))
    (members : ∀ change ∈ order, change ∈ changes) {done : List String}
    (once : (done ++ order.map ChangeEvent.runId).Nodup)
    {state : EvaluationRecord N → EvaluationRecord N}
    (undone : Undone rt store changes done state) (doneOnly : ∀ run ∈ done,
      ∃ change ∈ changes, change.runId = run) :
    ∃ final, (removals order).foldlM (applyIntervention rt) (layout (sortRecords store) state) =
        .ok (layout (sortRecords store) final) ∧
      Undone rt store changes (done ++ order.map ChangeEvent.runId) final := by
  induction order generalizing done state with
  | nil =>
      refine ⟨state, rfl, ?_⟩
      rw [List.map_nil, List.append_nil]
      exact undone
  | cons change rest ih =>
      have member := members change List.mem_cons_self
      obtain ⟨prev, cur, consecutive, found⟩ :=
        mem_extractChangeEvents.mp (inside change member)
      obtain ⟨changeType, named⟩ := detectChange_changeId found
      have split : done ++ (change :: rest).map ChangeEvent.runId =
          (done ++ [change.runId]) ++ rest.map ChangeEvent.runId := by simp
      have fresh : change.runId ∉ done := by
        rw [List.nodup_append] at once
        exact fun earlier => once.2.2 _ earlier _ (by simp) rfl
      rw [split] at once ⊢
      obtain ⟨final, ran, reached⟩ := ih
        (fun other otherIn => members other (List.mem_cons_of_mem _ otherIn)) once
        (undone.step distinct inside kept doneOnly member fresh consecutive found) (by
          intro run runIn
          rw [List.mem_append, List.mem_singleton] at runIn
          rcases runIn with earlier | rfl
          · exact doneOnly run earlier
          · exact ⟨change, member, rfl⟩)
      refine ⟨final, ?_, reached⟩
      rw [removals, List.map_cons, List.foldlM_cons,
        applyIntervention_layout separates distinct undone.place consecutive named]
      exact ran

/-- Every order of the removals gives one store, in which each record of a change carries its
own change reverted. -/
def RevertsAll (rt : Runtime N) (store : List (EvaluationRecord N))
    (changes : List (ChangeEvent N)) : Prop :=
  ∃ result : List (EvaluationRecord N),
    (∀ order, order.Perm changes → ∀ scenario, Lists scenario order →
      ∃ final, applyScenario rt store scenario = .ok final ∧
        List.Forall₂ SameRecord final result) ∧
    ∀ change ∈ changes, ∀ record ∈ store, record.runId = change.runId →
      ∃ reverted, revertChange record change.details = .ok reverted ∧
        ∃ carried ∈ result, SameRecord carried reverted

theorem changes_runs_nodup (distinct : RunsDistinct store) {changes : List (ChangeEvent N)}
    (inside : ∀ change ∈ changes, change ∈ extractChangeEvents rt store)
    (once : changes.Nodup) : (changes.map ChangeEvent.runId).Nodup := by
  refine once.map_on ?_
  intro left leftIn right rightIn same
  obtain ⟨prev, cur, consecutive, found⟩ := mem_extractChangeEvents.mp (inside left leftIn)
  obtain ⟨prev', cur', consecutive', found'⟩ := mem_extractChangeEvents.mp (inside right rightIn)
  obtain ⟨rfl, rfl⟩ := consecutive.unique distinct consecutive'
    ((detectChange_runId found).symm.trans (same.trans (detectChange_runId found')))
  exact Option.some.inj (found.symm.trans found')

theorem undone_start (changes : List (ChangeEvent N)) : Undone rt store changes [] id where
  place := fun record _ => SamePlace.refl record
  waiting := fun _ _ _ => rfl
  settled := fun _ _ reached => absurd reached List.not_mem_nil

/-- Under `UndoKept` a whole order ends with exactly its changes undone. -/
theorem removals_undone (separates : Separates rt store) (distinct : RunsDistinct store)
    {changes : List (ChangeEvent N)}
    (inside : ∀ change ∈ changes, change ∈ extractChangeEvents rt store) (once : changes.Nodup)
    (kept : UndoKept rt store changes) {order : List (ChangeEvent N)}
    (perm : order.Perm changes) :
    ∃ final, (removals order).foldlM (applyIntervention rt) (layout (sortRecords store) id) =
        .ok (layout (sortRecords store) final) ∧
      Undone rt store changes (order.map ChangeEvent.runId) final := by
  have runs : ([] ++ order.map ChangeEvent.runId).Nodup := by
    rw [List.nil_append, (perm.map ChangeEvent.runId).nodup_iff]
    exact changes_runs_nodup distinct inside once
  exact Undone.run separates distinct inside kept order
    (fun change member => perm.mem_iff.mp member) runs (undone_start changes) (by simp)

theorem Undone.same {changes : List (ChangeEvent N)}
    (inside : ∀ change ∈ changes, change ∈ extractChangeEvents rt store)
    {done done' : List String} {left right : EvaluationRecord N → EvaluationRecord N}
    (undone : Undone rt store changes done left) (undone' : Undone rt store changes done' right)
    (same : ∀ run, run ∈ done ↔ run ∈ done')
    (doneOnly : ∀ run ∈ done, ∃ change ∈ changes, change.runId = run)
    (distinct : RunsDistinct store) :
    ∀ record ∈ sortRecords store, SameRecord (left record) (right record) := by
  intro record recordIn
  by_cases reached : record.runId ∈ done
  · obtain ⟨change, member, run⟩ := doneOnly _ reached
    obtain ⟨prev, cur, consecutive, found⟩ := mem_extractChangeEvents.mp (inside change member)
    have hit : cur = record := eq_of_runId distinct consecutive.mem_right
      ((sortRecords_perm store).mem_iff.mp recordIn)
      ((detectChange_runId found).symm.trans run)
    subst hit
    exact (undone.settled change member (run ▸ reached) prev cur consecutive run.symm).trans
      (undone'.settled change member (run ▸ (same _).mp reached) prev cur consecutive
        run.symm).symm
  · rw [undone.waiting record recordIn reached,
      undone'.waiting record recordIn fun earlier => reached ((same _).mpr earlier)]
    exact SameRecord.refl record

theorem revertsAll_of_undoKept (separates : Separates rt store) (distinct : RunsDistinct store)
    {changes : List (ChangeEvent N)}
    (inside : ∀ change ∈ changes, change ∈ extractChangeEvents rt store) (once : changes.Nodup)
    (kept : UndoKept rt store changes) : RevertsAll rt store changes := by
  cases changes with
  | nil =>
      refine ⟨store, ?_, fun change member => absurd member List.not_mem_nil⟩
      intro order perm scenario lists
      rw [perm.eq_nil] at lists
      refine ⟨store, applyScenario_lists lists, ?_⟩
      exact List.forall₂_same.mpr fun record _ => SameRecord.refl record
  | cons first others =>
      obtain ⟨goal, _, undone⟩ :=
        removals_undone separates distinct inside once kept (List.Perm.refl _)
      refine ⟨layout (sortRecords store) goal, ?_, ?_⟩
      · intro order perm scenario lists
        obtain ⟨final, ran, undone'⟩ := removals_undone separates distinct inside once kept perm
        refine ⟨_, ?_, layout_same (undone'.same inside undone ?_ ?_ distinct)⟩
        · rw [applyScenario_lists lists, ← ran]
          cases order with
          | nil => exact absurd perm (by simp)
          | cons change rest =>
              exact removals_from_sorted separates distinct
                (inside change (perm.mem_iff.mp List.mem_cons_self)) rest
        · intro run
          exact (perm.map ChangeEvent.runId).mem_iff
        · intro run member
          obtain ⟨change, changeIn, rfl⟩ := List.mem_map.mp member
          exact ⟨change, perm.mem_iff.mp changeIn, rfl⟩
      · intro change member record recordIn run
        obtain ⟨prev, cur, consecutive, found⟩ :=
          mem_extractChangeEvents.mp (inside change member)
        obtain rfl : record = cur := eq_of_runId distinct recordIn consecutive.mem_right
          (run.trans (detectChange_runId found))
        refine ⟨_, (revertChange_detected found).1, goal record,
          List.mem_map_of_mem ((sortRecords_perm store).mem_iff.mpr recordIn), ?_⟩
        exact undone.settled change member (List.mem_map_of_mem member) prev record consecutive run

/-- Two removals and then others that do not name the same records. -/
theorem removals_pair (separates : Separates rt store) (distinct : RunsDistinct store)
    {prev cur prev' cur' : EvaluationRecord N} {first second : ChangeEvent N}
    (consecutive : Consecutive store prev cur) (found : detectChange rt prev cur = some first)
    (consecutive' : Consecutive store prev' cur')
    (found' : detectChange rt prev' cur' = some second) (rest : List (ChangeEvent N))
    (inside : ∀ change ∈ rest, change ∈ extractChangeEvents rt store) :
    ∃ final, (removals (first :: second :: rest)).foldlM (applyIntervention rt) store =
        .ok (layout (sortRecords store) final) ∧
      ∀ record, record.runId ∉ rest.map ChangeEvent.runId → final record =
        settle rt second.changeId prev' cur' (settle rt first.changeId prev cur id) record := by
  obtain ⟨changeType, named⟩ := detectChange_changeId found
  obtain ⟨changeType', named'⟩ := detectChange_changeId found'
  have start : InPlace (sortRecords store) id := fun record _ => SamePlace.refl record
  have middle : InPlace (sortRecords store) (settle rt first.changeId prev cur id) :=
    settle_inPlace start distinct consecutive first.changeId
  have placed : InPlace (sortRecords store)
      (settle rt second.changeId prev' cur' (settle rt first.changeId prev cur id)) :=
    settle_inPlace middle distinct consecutive' second.changeId
  obtain ⟨final, ran, kept⟩ := removals_frame separates distinct rest inside _ placed
  refine ⟨final, ?_, kept⟩
  rw [removals_from_sorted separates distinct
    (mem_extractChangeEvents.mpr ⟨prev, cur, consecutive, found⟩), removals, List.map_cons,
    List.map_cons, List.foldlM_cons,
    applyIntervention_layout separates distinct start consecutive named]
  change List.foldlM _ _ _ = _
  rw [List.foldlM_cons, applyIntervention_layout separates distinct middle consecutive' named']
  exact ran

omit [LinearOrder N] [Zero N] [One N] in
theorem exists_perm_pair {changes : List (ChangeEvent N)} {first second : ChangeEvent N}
    (member : first ∈ changes) (member' : second ∈ changes) (differ : second ≠ first) :
    ∃ rest, (first :: second :: rest).Perm changes := by
  obtain ⟨front, back, rfl⟩ := List.append_of_mem member
  have others : second ∈ front ++ back := by
    simpa [differ] using member'
  obtain ⟨front', back', split⟩ := List.append_of_mem others
  refine ⟨front' ++ back', ?_⟩
  have inner : (first :: second :: (front' ++ back')).Perm (first :: (front ++ back)) := by
    rw [split]
    exact List.perm_middle.symm.cons first
  exact inner.trans List.perm_middle.symm

/-- Two neighbouring changes, removed first in either order. -/
theorem undoKept_of_revertsAll (separates : Separates rt store) (distinct : RunsDistinct store)
    {changes : List (ChangeEvent N)}
    (inside : ∀ change ∈ changes, change ∈ extractChangeEvents rt store) (once : changes.Nodup)
    (reverts : RevertsAll rt store changes) : UndoKept rt store changes := by
  intro before first second consecutive consecutive' change member run next member' run'
  obtain ⟨result, all, _⟩ := reverts
  have apart : second.runId ≠ first.runId := by
    obtain ⟨front, back, split⟩ := consecutive'
    exact (sorted_before distinct split first (by simp)).symm
  have differ : next ≠ change := by
    rintro rfl
    exact apart (run'.symm.trans run)
  obtain ⟨_, _, firstConsecutive, found⟩ := mem_extractChangeEvents.mp (inside change member)
  obtain ⟨rfl, rfl⟩ := firstConsecutive.unique distinct consecutive
    ((detectChange_runId found).symm.trans run)
  obtain ⟨_, _, secondConsecutive, found'⟩ := mem_extractChangeEvents.mp (inside next member')
  obtain ⟨rfl, rfl⟩ := secondConsecutive.unique distinct consecutive'
    ((detectChange_runId found').symm.trans run')
  rename_i earlier here later
  obtain ⟨rest, perm⟩ := exists_perm_pair member member' differ
  have runs := (perm.map ChangeEvent.runId).nodup_iff.mpr
    (changes_runs_nodup distinct inside once)
  simp only [List.map_cons, List.nodup_cons, List.mem_cons, not_or] at runs
  have restInside : ∀ other ∈ rest, other ∈ extractChangeEvents rt store := fun other otherIn =>
    inside other (perm.mem_iff.mp (List.mem_cons_of_mem _ (List.mem_cons_of_mem _ otherIn)))
  have free : later.runId ∉ rest.map ChangeEvent.runId := by
    rw [← run']
    exact runs.2.1
  obtain ⟨forward, ran, forwardAt⟩ :=
    removals_pair separates distinct consecutive found consecutive' found' rest restInside
  obtain ⟨backward, ran', backwardAt⟩ :=
    removals_pair separates distinct consecutive' found' consecutive found rest restInside
  obtain ⟨final, reached, same⟩ := all _ perm _ (removals_listed _)
  obtain ⟨final', reached', same'⟩ :=
    all _ ((List.Perm.swap change next rest).trans perm) _ (removals_listed _)
  rw [applyScenario_lists (removals_listed _), ran, Except.ok.injEq] at reached
  rw [applyScenario_lists (removals_listed _), ran', Except.ok.injEq] at reached'
  subst reached reached'
  have joined := layout_joined same same' later
    ((sortRecords_perm store).mem_iff.mpr consecutive'.mem_right)
  have afterFirst : forward later = undoBehind rt next.changeId
      (undoBehind rt change.changeId earlier here) later := by
    rw [forwardAt later free, settle, if_pos rfl, settle, if_pos rfl, settle, if_neg apart]
    rfl
  have alone : backward later = undoBehind rt next.changeId here later := by
    rw [backwardAt later free, settle, if_neg apart, settle, if_pos rfl]
    rfl
  rw [afterFirst, alone] at joined
  exact joined

/-- Any two of the changes that stand at neighbouring records are independent. -/
def AllIndependent (store : List (EvaluationRecord N)) (changes : List (ChangeEvent N)) : Prop :=
  ∀ before first second, Consecutive store before first → Consecutive store first second →
    first.runId ∈ changes.map ChangeEvent.runId → second.runId ∈ changes.map ChangeEvent.runId →
      Independent before first second

theorem undoKept_iff_allIndependent (separates : Separates rt store)
    (distinct : RunsDistinct store) {changes : List (ChangeEvent N)}
    (inside : ∀ change ∈ changes, change ∈ extractChangeEvents rt store) :
    UndoKept rt store changes ↔ AllIndependent store changes := by
  have detected : ∀ prev cur, Consecutive store prev cur → ∀ change ∈ changes,
      change.runId = cur.runId → detectChange rt prev cur = some change := by
    intro prev cur consecutive change member run
    obtain ⟨_, _, consecutive', found⟩ := mem_extractChangeEvents.mp (inside change member)
    obtain ⟨rfl, rfl⟩ := consecutive'.unique distinct consecutive
      ((detectChange_runId found).symm.trans run)
    exact found
  have changed : ∀ prev cur change, detectChange rt prev cur = some change →
      ¬ Unchanged prev cur := by
    intro prev cur change found
    rw [← detectChange_eq_none_iff rt, found]
    exact Option.some_ne_none change
  have pair : ∀ before first second change next, Consecutive store first second →
      detectChange rt before first = some change → detectChange rt first second = some next →
      (SameRecord
          (undoBehind rt next.changeId (undoBehind rt change.changeId before first) second)
          (undoBehind rt next.changeId first second) ↔ Independent before first second) := by
    intro before first second change next consecutive found found'
    rw [undoBehind_same_iff separates consecutive.mem_right found']
    exact sameUndo_source_iff (revertChange_detected found).2 (changed _ _ _ found)
      (changed _ _ _ found')
  constructor
  · intro kept before first second consecutive consecutive' member member'
    obtain ⟨change, changeIn, run⟩ := List.mem_map.mp member
    obtain ⟨next, nextIn, run'⟩ := List.mem_map.mp member'
    exact (pair _ _ _ change next consecutive' (detected _ _ consecutive change changeIn run)
      (detected _ _ consecutive' next nextIn run')).mp
        (kept _ _ _ consecutive consecutive' change changeIn run next nextIn run')
  · intro independent before first second consecutive consecutive' change changeIn run next
      nextIn run'
    apply (pair _ _ _ change next consecutive' (detected _ _ consecutive change changeIn run)
      (detected _ _ consecutive' next nextIn run')).mpr
    apply independent _ _ _ consecutive consecutive'
    · rw [← run]
      exact List.mem_map_of_mem changeIn
    · rw [← run']
      exact List.mem_map_of_mem nextIn

/-- Removing several changes reverts each of them, in any order, exactly when those at
neighbouring records are independent. -/
theorem combined_scenario_reverts_iff (separates : Separates rt store)
    (distinct : RunsDistinct store) {changes : List (ChangeEvent N)}
    (inside : ∀ change ∈ changes, change ∈ extractChangeEvents rt store)
    (once : changes.Nodup) : RevertsAll rt store changes ↔ AllIndependent store changes := by
  rw [← undoKept_iff_allIndependent separates distinct inside]
  constructor
  · exact undoKept_of_revertsAll separates distinct inside once
  · exact revertsAll_of_undoKept separates distinct inside once

/-- Changes at records that are not neighbours are all reverted. -/
theorem revertsAll_of_apart (separates : Separates rt store) (distinct : RunsDistinct store)
    {changes : List (ChangeEvent N)}
    (inside : ∀ change ∈ changes, change ∈ extractChangeEvents rt store) (once : changes.Nodup)
    (apart : ∀ first second, Consecutive store first second →
      first.runId ∉ changes.map ChangeEvent.runId ∨
        second.runId ∉ changes.map ChangeEvent.runId) : RevertsAll rt store changes := by
  apply revertsAll_of_undoKept separates distinct inside once
  rw [undoKept_iff_allIndependent separates distinct inside]
  intro before first second _ consecutive member member'
  rcases apart first second consecutive with outside | outside
  · exact absurd member outside
  · exact absurd member' outside

end Orders

def keyRecord (runId : String) (timestamp : Int) (version key : String) : EvaluationRecord Int :=
  ⟨runId, [], Dict.empty.set "k" (.str key), some version, runId, timestamp⟩

/-- A new version, and behind it a new value of a key. -/
def twoChanges : List (EvaluationRecord Int) :=
  [keyRecord "r1" 1 "v1" "a", keyRecord "r2" 2 "v2" "a", keyRecord "r3" 3 "v2" "b"]

def twoRuntime : Runtime Int :=
  wholeRuntime [("r2:2.0:version_change", "d2a23888-479d-5707-b4cd-049fb3aac614"),
    ("r3:3.0:config_change", "cfc18e4a-6631-5fc1-8aca-bd7bf759650a"),
    ("r3:3.0:version_change", "c4247b89-a576-5e17-a4e5-8c13ca008339")]

theorem twoChanges_separates : Separates twoRuntime twoChanges := separates_whole (by decide)

theorem twoChanges_distinct : RunsDistinct twoChanges ∧ TimesDistinct twoChanges := by
  unfold RunsDistinct TimesDistinct
  decide

theorem twoChanges_detected : ∃ change next,
    detectChange twoRuntime (keyRecord "r1" 1 "v1" "a") (keyRecord "r2" 2 "v2" "a") =
      some change ∧
    detectChange twoRuntime (keyRecord "r2" 2 "v2" "a") (keyRecord "r3" 3 "v2" "b") =
      some next ∧
    (∀ listed ∈ [change, next], listed ∈ extractChangeEvents twoRuntime twoChanges) ∧
    [change, next].Nodup := by
  have first : (detectChange twoRuntime (keyRecord "r1" 1 "v1" "a")
      (keyRecord "r2" 2 "v2" "a")).isSome := by decide
  have second : (detectChange twoRuntime (keyRecord "r2" 2 "v2" "a")
      (keyRecord "r3" 3 "v2" "b")).isSome := by decide
  obtain ⟨change, found⟩ := Option.isSome_iff_exists.mp first
  obtain ⟨next, found'⟩ := Option.isSome_iff_exists.mp second
  refine ⟨change, next, found, found', ?_, ?_⟩
  · intro listed member
    rcases List.mem_cons.mp member with rfl | member
    · exact mem_extractChangeEvents.mpr ⟨_, _, ⟨[], [keyRecord "r3" 3 "v2" "b"], rfl⟩, found⟩
    · rw [List.mem_singleton] at member
      subst member
      exact mem_extractChangeEvents.mpr ⟨_, _, ⟨[keyRecord "r1" 1 "v1" "a"], [], rfl⟩, found'⟩
  · rw [List.nodup_cons, List.mem_singleton]
    refine ⟨?_, List.nodup_singleton _⟩
    rintro rfl
    have same := (detectChange_runId found).symm.trans (detectChange_runId found')
    exact absurd same (by decide)

theorem combined_scenario_reverts_iff_two : ∃ changes,
    (∀ change ∈ changes, change ∈ extractChangeEvents twoRuntime twoChanges) ∧
    (RevertsAll twoRuntime twoChanges changes ↔ AllIndependent twoChanges changes) := by
  obtain ⟨change, next, _, _, inside, once⟩ := twoChanges_detected
  exact ⟨[change, next], inside,
    combined_scenario_reverts_iff twoChanges_separates twoChanges_distinct.1 inside once⟩

/-- With the version reverted first, the key change has become a version change, which its id
no longer names. -/
theorem combined_removal_dropped : ¬ ∀ (rt : Runtime Int) (store : List (EvaluationRecord Int))
    (changes : List (ChangeEvent Int)), Separates rt store → RunsDistinct store →
    TimesDistinct store → (∀ change ∈ changes, change ∈ extractChangeEvents rt store) →
    changes.Nodup → RevertsAll rt store changes := by
  intro all
  obtain ⟨change, next, found, found', inside, once⟩ := twoChanges_detected
  have kept := undoKept_of_revertsAll twoChanges_separates twoChanges_distinct.1 inside once
    (all _ _ _ twoChanges_separates twoChanges_distinct.1 twoChanges_distinct.2 inside once)
  have same := (kept _ _ _ ⟨[], [keyRecord "r3" 3 "v2" "b"], rfl⟩
    ⟨[keyRecord "r1" 1 "v1" "a"], [], rfl⟩ change (by simp) (detectChange_runId found) next
    (by simp) (detectChange_runId found')).get "k"
  rw [detectChange_some found, detectChange_some found'] at same
  revert same
  decide

end RagDrift.Counterfactual
