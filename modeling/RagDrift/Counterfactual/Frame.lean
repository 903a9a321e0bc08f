import RagDrift.Counterfactual.Simulator
import RagDrift.Counterfactual.Revert
import RagDrift.Python.Exceptions

set_option autoImplicit false

/- What no intervention changes: the times and the metrics of a store. And when none of them
can fail. -/
namespace RagDrift.Counterfactual

open Storage (EvaluationRecord MetricResult PyErr)
open Causal
open Exceptions (bind_ok_iff map_ok_iff)

variable {N : Type}

/-- All that the estimator reads of a store. -/
def trace (records : List (EvaluationRecord N)) : List (N × List (MetricResult N)) :=
  records.map fun record => (record.timestamp, record.metrics)

theorem revertChange_trace {record edited : EvaluationRecord N} {details : ChangeDetails N}
    (reverted : revertChange record details = .ok edited) :
    edited.timestamp = record.timestamp ∧ edited.metrics = record.metrics := by
  rw [revertChange] at reverted
  obtain ⟨restored, _, rfl⟩ := map_ok_iff.mp reverted
  exact ⟨rfl, rfl⟩

theorem editFirst_trace {runId : String}
    {edit : EvaluationRecord N → Except PyErr (EvaluationRecord N)}
    (kept : ∀ record edited, edit record = .ok edited →
      edited.timestamp = record.timestamp ∧ edited.metrics = record.metrics)
    {records after : List (EvaluationRecord N)}
    (edited : editFirst runId edit records = .ok after) :
    trace after = trace records := by
  induction records generalizing after with
  | nil =>
      cases edited
      rfl
  | cons record rest ih =>
      rw [editFirst] at edited
      split at edited
      · obtain ⟨changed, ran, returned⟩ := bind_ok_iff.mp edited
        cases returned
        obtain ⟨time, metrics⟩ := kept record changed ran
        simp only [trace, List.map_cons, time, metrics]
      · obtain ⟨others, ran, returned⟩ := bind_ok_iff.mp edited
        cases returned
        exact congrArg ((record.timestamp, record.metrics) :: ·) (ih ran)

theorem editFor_trace {intervention : Intervention N} {target : ChangeEvent N}
    (record edited : EvaluationRecord N)
    (ran : editFor intervention target record = .ok edited) :
    edited.timestamp = record.timestamp ∧ edited.metrics = record.metrics := by
  rw [editFor] at ran
  split at ran
  · exact revertChange_trace ran
  · cases ran
    exact ⟨rfl, rfl⟩
  · cases ran
    exact ⟨rfl, rfl⟩

section Sorted

variable [LinearOrder N]

theorem trace_sorted {records after : List (EvaluationRecord N)} (sorted : TimeSorted records)
    (same : trace after = trace records) : sortRecords after = after := by
  apply sortRecords_of_sorted
  rw [TimeSorted, ← List.pairwise_map (f := fun record : EvaluationRecord N =>
    (record.timestamp, record.metrics)) (R := fun left right => left.1 ≤ right.1)] at sorted ⊢
  rw [trace] at same
  rw [same]
  exact sorted

variable [Zero N] [One N]

theorem applyIntervention_trace {rt : Runtime N} {store after : List (EvaluationRecord N)}
    {intervention : Intervention N} (ran : applyIntervention rt store intervention = .ok after) :
    trace (sortRecords after) = trace (sortRecords store) := by
  rw [applyIntervention] at ran
  split at ran
  · cases ran
    rfl
  · have same := editFirst_trace (fun record edited => editFor_trace record edited) ran
    rw [trace_sorted (sortRecords_sorted store) same]
    exact same

/-- A scenario moves no metric value and no timestamp. -/
theorem applyScenario_trace {rt : Runtime N} {store after : List (EvaluationRecord N)}
    {scenario : CounterfactualScenario N} (ran : applyScenario rt store scenario = .ok after) :
    trace (sortRecords after) = trace (sortRecords store) := by
  rw [applyScenario] at ran
  generalize scenario.interventions = interventions at ran
  induction interventions generalizing store with
  | nil =>
      cases ran
      rfl
  | cons intervention rest ih =>
      rw [List.foldlM_cons] at ran
      obtain ⟨middle, first, later⟩ := bind_ok_iff.mp ran
      exact (ih later).trans (applyIntervention_trace first)

end Sorted

/-- The system information, where there is one, is a dictionary. -/
def InfoDict (record : EvaluationRecord N) : Prop :=
  ∀ value, record.metadata.get? "system_info" = some value → value.asDict?.isSome

theorem infoDict_of_none {records : List (EvaluationRecord N)}
    (none : ∀ record ∈ records, record.metadata.get? "system_info" = none) :
    ∀ record ∈ records, InfoDict record := by
  intro record inside value found
  rw [none record inside] at found
  cases found

theorem revertSystemInfo_ok (metadata : Dict N) (fields : List (String × FieldChange N))
    (info : ∀ value, metadata.get? "system_info" = some value → value.asDict?.isSome) :
    ∃ reverted, revertSystemInfo metadata fields = .ok reverted ∧
      ∀ value, reverted.get? "system_info" = some value → value.asDict?.isSome := by
  obtain ⟨plain, ran, here, _⟩ := revertSystemInfo_nil metadata
  have dict : ∃ current, plain.get? "system_info" = some (.ofDict current) := by
    rw [here]
    cases found : metadata.get? "system_info" with
    | none => exact ⟨Dict.empty, rfl⟩
    | some value =>
        obtain ⟨current, isDict⟩ := Option.isSome_iff_exists.mp (info value found)
        exact ⟨current, by rw [Option.getD_some, PyVal.ofDict_of_asDict? isDict]⟩
  obtain ⟨current, present⟩ := dict
  cases fields with
  | nil =>
      refine ⟨plain, ran, ?_⟩
      intro value found
      rw [present, Option.some.injEq] at found
      subst found
      rfl
  | cons field rest =>
      rw [revertSystemInfo] at ran
      have start : (if "system_info" ∉ metadata.keys then
          metadata.set "system_info" (.ofDict Dict.empty) else metadata) = plain :=
        Except.ok.inj ran
      refine ⟨plain.set "system_info" (.ofDict (setOld current (field :: rest))), ?_, ?_⟩
      · rw [revertSystemInfo, start]
        simp only [Dict.get_of_get? present, PyVal.asDict?_ofDict]
      · intro value found
        rw [Dict.get?_set_self, Option.some.injEq] at found
        subst found
        rfl

theorem editFirst_ok {runId : String}
    {edit : EvaluationRecord N → Except PyErr (EvaluationRecord N)}
    (total : ∀ record, InfoDict record → ∃ edited, edit record = .ok edited ∧ InfoDict edited)
    (records : List (EvaluationRecord N)) (info : ∀ record ∈ records, InfoDict record) :
    ∃ after, editFirst runId edit records = .ok after ∧ ∀ record ∈ after, InfoDict record := by
  induction records with
  | nil => exact ⟨[], rfl, fun _ inside => absurd inside List.not_mem_nil⟩
  | cons record rest ih =>
      have later : ∀ other ∈ rest, InfoDict other :=
        fun other inside => info other (List.mem_cons_of_mem _ inside)
      have here := info record List.mem_cons_self
      by_cases hit : record.runId = runId
      · obtain ⟨edited, ran, kept⟩ := total record here
        refine ⟨edited :: rest, by rw [editFirst, if_pos hit, ran]; rfl, ?_⟩
        intro other inside
        rcases List.mem_cons.mp inside with rfl | tail
        · exact kept
        · exact later other tail
      · obtain ⟨after, ran, kept⟩ := ih later
        refine ⟨record :: after, by rw [editFirst, if_neg hit, ran]; rfl, ?_⟩
        intro other inside
        rcases List.mem_cons.mp inside with rfl | tail
        · exact here
        · exact kept other tail

section Changes

variable [LinearOrder N] [Zero N] [One N]

theorem revertMetadataDiff_info (prev cur : EvaluationRecord N) (metadata : Dict N) :
    (revertMetadataDiff metadata (ownDetails prev cur)).get? "system_info" =
      metadata.get? "system_info" := by
  rw [get?_revertMetadataDiff_own, if_pos (Or.inr rfl)]

/-- Reverting a change some other records gave rise to. -/
theorem revertChange_infoDict (prev cur record : EvaluationRecord N) (info : InfoDict record) :
    ∃ reverted, revertChange record (ownDetails prev cur) = .ok reverted ∧
      InfoDict reverted := by
  have pipeline : ∀ value,
      (revertPipeline record.metadata (ownDetails prev cur)).get? "system_info" = some value →
        value.asDict?.isSome := by
    intro value found
    rw [get?_revertPipeline_own, if_neg (by simp)] at found
    exact info value found
  have step : ∃ restored, revertInfoDiff (revertPipeline record.metadata (ownDetails prev cur))
      (ownDetails prev cur) = .ok restored ∧
      ∀ value, restored.get? "system_info" = some value → value.asDict?.isSome := by
    unfold revertInfoDiff
    split
    · exact revertSystemInfo_ok _ _ pipeline
    · exact ⟨_, rfl, pipeline⟩
  obtain ⟨restored, ran, kept⟩ := step
  refine ⟨_, by rw [revertChange, ran, Except.map], ?_⟩
  intro value found
  rw [revertMetadataDiff_info] at found
  exact kept value found

theorem applyIntervention_ok (rt : Runtime N) {store : List (EvaluationRecord N)}
    (info : ∀ record ∈ store, InfoDict record) {intervention : Intervention N}
    (removes : intervention.action = .remove) :
    ∃ after, applyIntervention rt store intervention = .ok after ∧
      ∀ record ∈ after, InfoDict record := by
  rw [applyIntervention]
  cases target : targetChange rt store intervention.changeId with
  | none => exact ⟨store, rfl, info⟩
  | some change =>
      obtain ⟨prev, cur, _, found⟩ :=
        mem_extractChangeEvents.mp (List.mem_of_find?_eq_some target)
      have own : change.details = ownDetails prev cur := by
        rw [detectChange_some found]
        rfl
      apply editFirst_ok
      · intro record here
        rw [editFor, removes, own]
        exact revertChange_infoDict prev cur record here
      · exact fun record inside => info record ((sortRecords_perm store).mem_iff.mp inside)

theorem applyScenario_ok (rt : Runtime N) {store : List (EvaluationRecord N)}
    (info : ∀ record ∈ store, InfoDict record) {scenario : CounterfactualScenario N}
    (removes : ∀ intervention ∈ scenario.interventions, intervention.action = .remove) :
    ∃ after, applyScenario rt store scenario = .ok after := by
  rw [applyScenario]
  generalize scenario.interventions = interventions at removes ⊢
  induction interventions generalizing store with
  | nil => exact ⟨store, rfl⟩
  | cons intervention rest ih =>
      obtain ⟨middle, ran, kept⟩ :=
        applyIntervention_ok rt info (removes intervention List.mem_cons_self)
      obtain ⟨after, reached⟩ :=
        ih kept fun other inside => removes other (List.mem_cons_of_mem _ inside)
      exact ⟨after, by rw [List.foldlM_cons, ran]; exact reached⟩

end Changes

end RagDrift.Counterfactual
