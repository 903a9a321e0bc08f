import RagDrift.Counterfactual.CombinedScenario

set_option autoImplicit false

/- What a removal does to the rest of the history: the record behind the edited one is compared
with another configuration, every other pair of neighbours is as it was. -/
namespace RagDrift.Counterfactual

open Storage (EvaluationRecord)
open Causal

variable {N : Type} [LinearOrder N] {rt : Runtime N} {store : List (EvaluationRecord N)}
  {state : EvaluationRecord N → EvaluationRecord N}

omit [LinearOrder N] in
theorem eq_of_timestamp {records : List (EvaluationRecord N)} (times : TimesDistinct records)
    {left right : EvaluationRecord N} (inside : left ∈ records) (inside' : right ∈ records)
    (same : left.timestamp = right.timestamp) : left = right :=
  List.inj_on_of_nodup_map times inside inside' same

/-- The neighbours of a settled store are what the neighbours have become. -/
theorem layout_consecutive (place : InPlace (sortRecords store) state)
    {prev cur : EvaluationRecord N} :
    Consecutive (layout (sortRecords store) state) prev cur ↔
      ∃ before record, Consecutive store before record ∧ state before = prev ∧
        state record = cur := by
  rw [Consecutive, layout_sorted place]
  constructor
  · rintro ⟨front, back, split⟩
    obtain ⟨first, rest, sorted, _, later⟩ := List.map_eq_append_iff.mp split
    obtain ⟨before, rest', rfl, here, later⟩ := List.map_eq_cons_iff.mp later
    obtain ⟨record, last, rfl, here', _⟩ := List.map_eq_cons_iff.mp later
    exact ⟨before, record, ⟨first, last, sorted⟩, here, here'⟩
  · rintro ⟨before, record, ⟨first, last, sorted⟩, rfl, rfl⟩
    refine ⟨first.map state, last.map state, ?_⟩
    rw [layout, sorted, List.map_append, List.map_cons, List.map_cons]

variable [Zero N] [One N]

/-- An event is reported at the time of the record. -/
def ChangedAt (rt : Runtime N) (records : List (EvaluationRecord N))
    (record : EvaluationRecord N) : Prop :=
  ∃ event ∈ extractChangeEvents rt records, event.timestamp = record.timestamp

theorem changedAt_layout_iff (rt : Runtime N) (times : TimesDistinct store)
    (place : InPlace (sortRecords store) state) {record : EvaluationRecord N}
    (inside : record ∈ store) :
    ChangedAt rt (layout (sortRecords store) state) record ↔
      ∃ before, Consecutive store before record ∧ ¬ Unchanged (state before) (state record) := by
  constructor
  · rintro ⟨event, reported, time⟩
    obtain ⟨prev, cur, consecutive, found⟩ := mem_extractChangeEvents.mp reported
    obtain ⟨before, other, neighbours, rfl, rfl⟩ := (layout_consecutive place).mp consecutive
    have member := neighbours.mem_right
    have here : other = record := by
      apply eq_of_timestamp times member inside
      rw [← (place other ((sortRecords_perm store).mem_iff.mpr member)).timestamp, ← time,
        detectChange_some found]
      rfl
    subst here
    refine ⟨before, neighbours, ?_⟩
    rw [← detectChange_eq_none_iff rt, found]
    exact Option.some_ne_none event
  · rintro ⟨before, neighbours, changed⟩
    rw [← detectChange_eq_none_iff rt] at changed
    obtain ⟨event, found⟩ := Option.ne_none_iff_exists'.mp changed
    refine ⟨event, mem_extractChangeEvents.mpr ⟨_, _, ?_, found⟩, ?_⟩
    · exact (layout_consecutive place).mpr ⟨before, record, neighbours, rfl, rfl⟩
    · rw [detectChange_some found]
      exact (place record ((sortRecords_perm store).mem_iff.mpr inside)).timestamp

theorem changedAt_iff (rt : Runtime N) (times : TimesDistinct store)
    {record : EvaluationRecord N} (inside : record ∈ store) :
    ChangedAt rt store record ↔
      ∃ before, Consecutive store before record ∧ ¬ Unchanged before record := by
  constructor
  · rintro ⟨event, reported, time⟩
    obtain ⟨before, cur, consecutive, found⟩ := mem_extractChangeEvents.mp reported
    have here : cur = record := by
      apply eq_of_timestamp times consecutive.mem_right inside
      rw [← time, detectChange_some found]
      rfl
    subst here
    exact ⟨before, consecutive, (event_at_iff rt times consecutive).mp ⟨event, reported, time⟩⟩
  · rintro ⟨before, consecutive, changed⟩
    exact (event_at_iff rt times consecutive).mpr changed

theorem removal_layout (separates : Separates rt store) (distinct : RunsDistinct store)
    {prev cur : EvaluationRecord N} (consecutive : Consecutive store prev cur)
    {change : ChangeEvent N} (found : detectChange rt prev cur = some change) :
    applyIntervention rt store (.remove change.changeId) =
      .ok (layout (sortRecords store) (settle rt change.changeId prev cur id)) := by
  obtain ⟨front, back, split⟩ := consecutive
  rw [applyIntervention_found separates distinct split found, layout_settle distinct split]
  simp [layout]

theorem settle_removed (rt : Runtime N) (changeId : String) (prev cur : EvaluationRecord N) :
    settle rt changeId prev cur id cur = undoBehind rt changeId prev cur := by
  rw [settle, if_pos rfl]
  rfl

theorem settle_kept (distinct : RunsDistinct store) (rt : Runtime N) (changeId : String)
    {prev cur record : EvaluationRecord N} (here : cur ∈ store) (inside : record ∈ store)
    (differs : record ≠ cur) : settle rt changeId prev cur id record = record := by
  rw [settle, if_neg]
  · rfl
  · intro same
    exact differs (eq_of_runId distinct inside here same)

/-- Where no change was reported one is reported after the removal only directly behind the
edited record, and exactly if that record differs from the restored one. Records are values here:
no two of them share a metadata dictionary. -/
theorem removal_changes_next (separates : Separates rt store) (distinct : RunsDistinct store)
    (times : TimesDistinct store) {change : ChangeEvent N}
    (inside : change ∈ extractChangeEvents rt store) :
    ∃ prev cur restored after, Consecutive store prev cur ∧
      detectChange rt prev cur = some change ∧ revertChange cur change.details = .ok restored ∧
      applyIntervention rt store (.remove change.changeId) = .ok after ∧
      ∀ record ∈ store, ¬ ChangedAt rt store record →
        (ChangedAt rt after record ↔
          Consecutive store cur record ∧ ¬ Unchanged restored record) := by
  obtain ⟨prev, cur, consecutive, found⟩ := mem_extractChangeEvents.mp inside
  have place : InPlace (sortRecords store) (settle rt change.changeId prev cur id) :=
    settle_inPlace (fun record _ => SamePlace.refl record) distinct consecutive change.changeId
  refine ⟨prev, cur, undoBehind rt change.changeId prev cur, _, consecutive, found,
    (revertChange_detected found).1, removal_layout separates distinct consecutive found, ?_⟩
  intro record member quiet
  rw [changedAt_layout_iff rt times place member]
  rw [changedAt_iff rt times member] at quiet
  have other : record ≠ cur := by
    rintro rfl
    apply quiet
    refine ⟨prev, consecutive, ?_⟩
    rw [← detectChange_eq_none_iff rt, found]
    exact Option.some_ne_none change
  have here := consecutive.mem_right
  rw [settle_kept distinct rt change.changeId here member other]
  constructor
  · rintro ⟨before, neighbours, changed⟩
    by_cases edited : before = cur
    · subst edited
      rw [settle_removed] at changed
      exact ⟨neighbours, changed⟩
    · rw [settle_kept distinct rt change.changeId here neighbours.mem_left edited] at changed
      exact absurd ⟨before, neighbours, changed⟩ quiet
  · rintro ⟨neighbours, changed⟩
    refine ⟨cur, neighbours, ?_⟩
    rw [settle_removed]
    exact changed

/-- The new version of the second run is also that of the third. -/
def lastingVersion : List (EvaluationRecord Int) :=
  [keyRecord "r1" 1 "v1" "a", keyRecord "r2" 2 "v2" "a", keyRecord "r3" 3 "v2" "a"]

theorem lastingVersion_separates : Separates twoRuntime lastingVersion :=
  separates_whole (by decide)

theorem lastingVersion_distinct : RunsDistinct lastingVersion ∧ TimesDistinct lastingVersion := by
  unfold RunsDistinct TimesDistinct
  decide

theorem lastingVersion_detected : ∃ change ∈ extractChangeEvents twoRuntime lastingVersion,
    change.changeId = "d2a23888-479d-5707-b4cd-049fb3aac614" := by
  have ids : (extractChangeEvents twoRuntime lastingVersion).map ChangeEvent.changeId =
      ["d2a23888-479d-5707-b4cd-049fb3aac614"] := by decide
  apply List.mem_map.mp
  rw [ids]
  exact List.mem_singleton_self _

theorem removal_changes_next_lasting :
    ∃ change prev cur restored after, Consecutive lastingVersion prev cur ∧
      detectChange twoRuntime prev cur = some change ∧
      revertChange cur change.details = .ok restored ∧
      applyIntervention twoRuntime lastingVersion (.remove change.changeId) = .ok after ∧
      ∀ record ∈ lastingVersion, ¬ ChangedAt twoRuntime lastingVersion record →
        (ChangedAt twoRuntime after record ↔
          Consecutive lastingVersion cur record ∧ ¬ Unchanged restored record) := by
  obtain ⟨change, inside, _⟩ := lastingVersion_detected
  exact ⟨change, removal_changes_next lastingVersion_separates lastingVersion_distinct.1
    lastingVersion_distinct.2 inside⟩

/-- With the version of the second run restored, the third run has the change. -/
theorem removal_starts_change : ¬ ∀ (rt : Runtime Int) (store : List (EvaluationRecord Int))
    (change : ChangeEvent Int), Separates rt store → RunsDistinct store → TimesDistinct store →
    change ∈ extractChangeEvents rt store →
    ∃ after, applyIntervention rt store (.remove change.changeId) = .ok after ∧
      ∀ record ∈ store, ¬ ChangedAt rt store record → ¬ ChangedAt rt after record := by
  intro all
  obtain ⟨change, inside, named⟩ := lastingVersion_detected
  obtain ⟨after, ran, quiet⟩ := all twoRuntime lastingVersion change lastingVersion_separates
    lastingVersion_distinct.1 lastingVersion_distinct.2 inside
  rw [named] at ran
  have before :
      (extractChangeEvents twoRuntime lastingVersion).map ChangeEvent.timestamp = [2] := by
    decide
  have times : ((applyIntervention twoRuntime lastingVersion
      (.remove "d2a23888-479d-5707-b4cd-049fb3aac614")).map fun after =>
        (extractChangeEvents twoRuntime after).map ChangeEvent.timestamp) = .ok [3] := by decide
  rw [ran, Except.map, Except.ok.injEq] at times
  apply quiet (keyRecord "r3" 3 "v2" "a") (by simp [lastingVersion])
  · rintro ⟨event, reported, time⟩
    have listed := List.mem_map_of_mem (f := ChangeEvent.timestamp) reported
    rw [before, List.mem_singleton, time] at listed
    revert listed
    decide
  · apply List.mem_map.mp
    rw [times]
    exact List.mem_singleton_self _

end RagDrift.Counterfactual
