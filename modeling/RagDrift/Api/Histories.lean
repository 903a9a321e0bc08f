import RagDrift.Api.Optimize
import RagDrift.Collections.Sorting

set_option autoImplicit false

/- The pipeline over histories that grow and over histories in another order. -/
namespace RagDrift

open Storage (EvaluationRecord PyErr)

namespace Causal

variable {N : Type} [LinearOrder N] {store newer : List (EvaluationRecord N)}

theorem sortRecords_append
    (later : ∀ old ∈ store, ∀ new ∈ newer, old.timestamp ≤ new.timestamp) :
    sortRecords (store ++ newer) = sortRecords store ++ sortRecords newer :=
  Collections.insertionSort_append later

variable [Equality N]

omit [LinearOrder N] in
theorem walk_append (rt : Runtime N) (prev : Option (Signature N))
    (front back : List (EvaluationRecord N)) :
    ∃ last, walk rt prev (front ++ back) = walk rt prev front ++ walk rt last back := by
  induction front generalizing prev with
  | nil => exact ⟨prev, rfl⟩
  | cons record rest ih =>
      obtain ⟨last, same⟩ := ih (some (extractChangeSignature record))
      refine ⟨last, ?_⟩
      rw [List.cons_append, walk, same, walk, List.append_assoc]

/-- Newer records add changes behind the ones there are. -/
theorem extractChangeEvents_append (rt : Runtime N)
    (later : ∀ old ∈ store, ∀ new ∈ newer, old.timestamp ≤ new.timestamp) :
    ∃ more, extractChangeEvents rt (store ++ newer) = extractChangeEvents rt store ++ more := by
  obtain ⟨last, same⟩ := walk_append rt none (sortRecords store) (sortRecords newer)
  refine ⟨walk rt last (sortRecords newer), ?_⟩
  rw [extractChangeEvents, sortRecords_append later]
  exact same

end Causal

namespace Temporal

theorem getMetricSeriesWithRuns_eq (records : List (EvaluationRecord ℚ)) (metricName : String) :
    getMetricSeriesWithRuns records metricName =
      (Causal.sortRecords records).flatMap (recordPoints metricName) := by
  refine Collections.insertionSort_flatMap ?_ records
  intro record point inside
  obtain ⟨metric, _, rfl⟩ := List.mem_map.mp inside
  rfl

theorem getMetricSeriesWithRuns_append {store newer : List (EvaluationRecord ℚ)}
    (later : ∀ old ∈ store, ∀ new ∈ newer, old.timestamp ≤ new.timestamp) (metricName : String) :
    getMetricSeriesWithRuns (store ++ newer) metricName =
      getMetricSeriesWithRuns store metricName ++ getMetricSeriesWithRuns newer metricName := by
  simp only [getMetricSeriesWithRuns_eq, Causal.sortRecords_append later, List.flatMap_append]

variable {series more : List Point} {size start : Nat}

theorem window_append (fits : start + size ≤ series.length) :
    window (series ++ more) start size = window series start size := by
  rw [window, window, List.drop_append_of_le_length (by omega), List.take_append_of_le_length]
  rw [List.length_drop]
  omega

theorem compareWindows_append (uuid4 : Nat → String) (threshold : ℚ) (metricName : String)
    (fits : start + size ≤ series.length) :
    compareWindows uuid4 (series ++ more) size threshold metricName start =
      compareWindows uuid4 series size threshold metricName start := by
  unfold compareWindows
  rw [window_append fits, window_append (by omega)]

/-- Where the windows of a series start, those of its continuation do, before others. -/
theorem starts_append (series more : List Point) (size : Nat) :
    ∃ further, starts (series ++ more) size = starts series size ++ further := by
  have fewer : (series.length - size + 1 - size + size - 1) / size ≤
      ((series ++ more).length - size + 1 - size + size - 1) / size := by
    refine Nat.div_le_div_right ?_
    rw [List.length_append]
    omega
  obtain ⟨others, count⟩ := Nat.exists_eq_add_of_le fewer
  refine ⟨((List.range others).map
    ((series.length - size + 1 - size + size - 1) / size + ·)).map
      fun index => size + index * size, ?_⟩
  rw [starts, starts, pyRange, pyRange, count, List.range_add, List.map_append]

/-- A continued series has the events it had, and then others. -/
theorem detectDriftEvents_append (more : List Point) {uuid4 : Nat → String} {windowSize : Int}
    {threshold : ℚ} {metricName : String} {events : List DriftEvent}
    (detected : detectDriftEvents uuid4 series windowSize threshold metricName = .ok events) :
    ∃ further, detectDriftEvents uuid4 (series ++ more) windowSize threshold metricName =
      .ok (events ++ further) := by
  by_cases found : events = []
  · subst found
    unfold detectDriftEvents at detected ⊢
    split
    · exact ⟨[], rfl⟩
    · split
      · rw [if_neg (by simp)] at detected
        cases detected
      · exact ⟨[], rfl⟩
      · exact ⟨_, rfl⟩
  · obtain ⟨positive, long, size⟩ := detect_ne_nil detected found
    rw [size] at detected ⊢
    rw [detectDriftEvents_ok positive long, Except.ok.injEq] at detected
    obtain ⟨further, starts⟩ := starts_append series more windowSize.toNat
    rw [detectDriftEvents_ok positive (by rw [List.length_append]; omega)]
    refine ⟨further.filterMap
      (compareWindows uuid4 (series ++ more) windowSize.toNat threshold metricName), ?_⟩
    change Except.ok ((Temporal.starts (series ++ more) windowSize.toNat).filterMap _) = _
    rw [starts, List.filterMap_append, ← detected]
    refine congrArg (fun front => Except.ok (front ++ _)) (List.filterMap_congr ?_)
    intro start inside
    exact compareWindows_append uuid4 threshold metricName (mem_starts positive inside).2

/-- An event as it is found, before an id is drawn for it. -/
def DriftEvent.unnamed (event : DriftEvent) : DriftEvent := { event with eventId := "" }

theorem compareWindows_unnamed (uuid4 other : Nat → String) (series : List Point) (size : Nat)
    (threshold : ℚ) (metricName : String) (start : Nat) :
    (compareWindows uuid4 series size threshold metricName start).map DriftEvent.unnamed =
      (compareWindows other series size threshold metricName start).map DriftEvent.unnamed := by
  unfold compareWindows
  dsimp only
  split
  · rfl
  · split
    · split <;> rfl
    · rfl

/-- The ids that are drawn make no difference to what is found. -/
theorem detectDriftEvents_unnamed {uuid4 : Nat → String} (other : Nat → String)
    {series : List Point} {windowSize : Int} {threshold : ℚ} {metricName : String}
    {events : List DriftEvent}
    (detected : detectDriftEvents uuid4 series windowSize threshold metricName = .ok events) :
    ∃ renamed, detectDriftEvents other series windowSize threshold metricName = .ok renamed ∧
      renamed.map DriftEvent.unnamed = events.map DriftEvent.unnamed := by
  unfold detectDriftEvents at detected ⊢
  split
  · rename_i short
    rw [if_pos short] at detected
    cases detected
    exact ⟨[], rfl, rfl⟩
  · rename_i long
    rw [if_neg long] at detected
    split at detected
    · cases detected
    · cases detected
      exact ⟨[], rfl, rfl⟩
    · cases detected
      refine ⟨_, rfl, ?_⟩
      rw [List.map_filterMap, List.map_filterMap]
      congr 1
      funext start
      exact compareWindows_unnamed other uuid4 series _ threshold metricName start

theorem detectDriftFromStore_append {uuid4 : Nat → String} (other : Nat → String)
    {store newer : List (EvaluationRecord ℚ)}
    (later : ∀ old ∈ store, ∀ new ∈ newer, old.timestamp ≤ new.timestamp) {windowSize : Int}
    {threshold : ℚ} {metricName : String} {events : List DriftEvent}
    (detected : detectDriftFromStore uuid4 store metricName windowSize threshold = .ok events) :
    ∃ renamed further,
      detectDriftFromStore other (store ++ newer) metricName windowSize threshold =
          .ok (renamed ++ further) ∧
        renamed.map DriftEvent.unnamed = events.map DriftEvent.unnamed := by
  obtain ⟨renamed, found, same⟩ := detectDriftEvents_unnamed other detected
  obtain ⟨further, longer⟩ :=
    detectDriftEvents_append (getMetricSeriesWithRuns newer metricName) found
  rw [← getMetricSeriesWithRuns_append later] at longer
  exact ⟨renamed, further, longer, same⟩

end Temporal

namespace Api

open Temporal
open Causal (sortRecords TimesDistinct extractChangeEvents attributeDrift)
open Counterfactual
open Exceptions (bind_ok_iff map_eq_map map_ok_iff)

variable {rt : Runtime ℚ} {ids : PipelineIds} {args : RemediateArgs}
  {store newer : List (EvaluationRecord ℚ)}

/-- A run that works on an event works on the first one. -/
theorem runPipeline_some {run : PipelineRun}
    (ran : runPipeline rt ids store args = .ok (some run)) :
    detectDriftFromStore ids.event store args.metric args.windowSize args.threshold =
        .ok run.driftEvents ∧
      run.driftEvents.head? = some run.driftEvent := by
  obtain ⟨events, detected, chosen⟩ := bind_ok_iff.mp ran
  cases events with
  | nil => cases chosen
  | cons first rest =>
      obtain ⟨other, planned, same⟩ := map_ok_iff.mp chosen
      cases same
      obtain ⟨_, _, returned⟩ := bind_ok_iff.mp planned
      cases returned
      exact ⟨detected, rfl⟩

/-- A history that grows by newer records keeps its changes and its drift events, as the first of
those it has then, the drift events with new ids. Once there is a drift event, the pipeline goes on
planning for that one. -/
theorem grown_history (rt : Runtime ℚ) (ids other : PipelineIds) (args : RemediateArgs)
    (later : ∀ old ∈ store, ∀ new ∈ newer, old.timestamp ≤ new.timestamp) :
    (∃ changes, extractChangeEvents rt (store ++ newer) =
      extractChangeEvents rt store ++ changes) ∧
    (∀ events,
      detectDriftFromStore ids.event store args.metric args.windowSize args.threshold =
        .ok events → ∃ renamed further,
          detectDriftFromStore other.event (store ++ newer) args.metric args.windowSize
              args.threshold = .ok (renamed ++ further) ∧
            renamed.map DriftEvent.unnamed = events.map DriftEvent.unnamed) ∧
    ∀ run, runPipeline rt ids store args = .ok (some run) → ∃ events event,
      detectDriftFromStore other.event (store ++ newer) args.metric args.windowSize
          args.threshold = .ok events ∧
        event.unnamed = run.driftEvent.unnamed ∧
        runPipeline rt other (store ++ newer) args =
          (planFor rt other (store ++ newer) args.topK events event).map some := by
  refine ⟨Causal.extractChangeEvents_append rt later, ?_, ?_⟩
  · intro events detected
    exact detectDriftFromStore_append other.event later detected
  · intro run ran
    obtain ⟨detected, head⟩ := runPipeline_some ran
    obtain ⟨renamed, further, found, same⟩ :=
      detectDriftFromStore_append other.event later detected
    have first := congrArg List.head? same
    rw [List.head?_map, List.head?_map, head] at first
    obtain ⟨event, chosen, alike⟩ := Option.map_eq_some_iff.mp first
    refine ⟨renamed ++ further, event, found, alike, ?_⟩
    apply runPipeline_head rt other (store ++ newer) args found
    rw [List.head?_append, chosen, Option.some_or]

section Order

variable {other : List (EvaluationRecord ℚ)}

theorem extractChangeEvents_congr (same : sortRecords store = sortRecords other) :
    extractChangeEvents rt store = extractChangeEvents rt other := by
  rw [extractChangeEvents, same, ← extractChangeEvents]

/-- An intervention sorts the records, or leaves them for the next one to sort. -/
theorem applyIntervention_congr (rt : Runtime ℚ) (same : sortRecords store = sortRecords other)
    (intervention : Intervention ℚ) :
    (applyIntervention rt store intervention).map sortRecords =
      (applyIntervention rt other intervention).map sortRecords := by
  have target : targetChange rt store intervention.changeId =
      targetChange rt other intervention.changeId := by
    rw [targetChange, extractChangeEvents_congr same, ← targetChange]
  unfold applyIntervention
  rw [target]
  split
  · exact congrArg Except.ok same
  · rw [same]

theorem applyScenario_congr (rt : Runtime ℚ) (same : sortRecords store = sortRecords other)
    (interventions : List (Intervention ℚ)) :
    (interventions.foldlM (applyIntervention rt) store).map sortRecords =
      (interventions.foldlM (applyIntervention rt) other).map sortRecords := by
  induction interventions generalizing store other with
  | nil => exact congrArg Except.ok same
  | cons intervention rest ih =>
      rw [List.foldlM_cons, List.foldlM_cons]
      rcases map_eq_map (applyIntervention_congr rt same intervention) with
        ⟨reason, left, right⟩ | ⟨one, two, left, right, sorted⟩
      · rw [left, right]
      · rw [left, right]
        exact ih sorted

theorem scenarioResult_congr (same : sortRecords store = sortRecords other) (event : DriftEvent)
    (metricName : String) (scenario : CounterfactualScenario ℚ) :
    scenarioResult rt event metricName store scenario =
      scenarioResult rt event metricName other scenario := by
  have applied := applyScenario_congr rt same scenario.interventions
  rw [← applyScenario, ← applyScenario] at applied
  unfold scenarioResult
  rcases map_eq_map applied with ⟨reason, left, right⟩ | ⟨one, two, left, right, sorted⟩
  · rw [left, right]
  · have estimate : estimateMetricAfterIntervention event one metricName .trendAdjusted (3 / 10) =
        estimateMetricAfterIntervention event two metricName .trendAdjusted (3 / 10) := by
      rw [estimateMetricAfterIntervention, sorted, ← estimateMetricAfterIntervention]
    rw [left, right]
    change Except.ok _ = Except.ok _
    rw [estimate]

/-- The order of the records in the file is not seen where no two of them have one time. -/
theorem runPipeline_of_perm (permuted : store.Perm other) (distinct : TimesDistinct store) :
    runPipeline rt ids store args = runPipeline rt ids other args := by
  have same : sortRecords store = sortRecords other :=
    Collections.insertionSort_of_perm permuted distinct
  have detected : detectDriftFromStore ids.event store args.metric args.windowSize
      args.threshold = detectDriftFromStore ids.event other args.metric args.windowSize
        args.threshold := by
    rw [detectDriftFromStore, getMetricSeriesWithRuns_eq, same, ← getMetricSeriesWithRuns_eq,
      ← detectDriftFromStore]
  have planned : planFor rt ids store args.topK = planFor rt ids other args.topK := by
    funext events event
    have attributed : attributeDrift rt event store = attributeDrift rt event other := by
      unfold attributeDrift
      rw [extractChangeEvents_congr same]
    have simulated : runCounterfactualAnalysis rt event (attributeDrift rt event other) store none
        args.topK = runCounterfactualAnalysis rt event (attributeDrift rt event other) other none
          args.topK := by
      rw [runCounterfactualAnalysis, runCounterfactualAnalysis]
      exact congrArg (List.mapM · _) (funext (scenarioResult_congr same event _))
    rw [planFor, planFor, attributed, simulated]
  rw [runPipeline, runPipeline, detected, planned]

end Order

/-- The ids of a later run. -/
def laterIds : PipelineIds := ⟨fun start => "later" ++ toString start, "p2", toString⟩

theorem grown_history_shift : ∃ run,
    runPipeline (decimalRuntime []) shiftIds shiftStore shiftRequest.toRemediateArgs =
        .ok (some run) ∧
      ∃ events event,
        detectDriftFromStore laterIds.event (shiftStore ++ [shiftRecord "r4" 4 0])
            "js_divergence" 1 (15 / 100) = .ok events ∧
          event.unnamed = run.driftEvent.unnamed ∧
          runPipeline (decimalRuntime []) laterIds (shiftStore ++ [shiftRecord "r4" 4 0])
              shiftRequest.toRemediateArgs =
            (planFor (decimalRuntime []) laterIds (shiftStore ++ [shiftRecord "r4" 4 0]) 3
              events event).map some := by
  obtain ⟨events, detected, found⟩ := shiftStore_detected
  obtain ⟨chosen, rest, rfl⟩ := List.exists_cons_of_ne_nil found
  obtain ⟨run, planned, _⟩ := planFor_ok (decimalRuntime []) shiftIds shiftStore
    shiftRequest.toRemediateArgs shiftStore_infoDict (chosen :: rest) chosen
  have ran : runPipeline (decimalRuntime []) shiftIds shiftStore shiftRequest.toRemediateArgs =
      .ok (some run) := by
    rw [runPipeline_head (decimalRuntime []) shiftIds shiftStore shiftRequest.toRemediateArgs
      detected rfl, planned]
    rfl
  have later : ∀ old ∈ shiftStore, ∀ new ∈ [shiftRecord "r4" 4 0],
      old.timestamp ≤ new.timestamp := by decide +kernel
  exact ⟨run, ran, (grown_history (decimalRuntime []) shiftIds laterIds
    shiftRequest.toRemediateArgs later).2.2 run ran⟩

theorem runPipeline_of_perm_shift :
    runPipeline (decimalRuntime []) shiftIds shiftStore shiftRequest.toRemediateArgs =
      runPipeline (decimalRuntime []) shiftIds shiftStore.reverse
        shiftRequest.toRemediateArgs := by
  have distinct : TimesDistinct shiftStore := by
    unfold TimesDistinct
    decide +kernel
  exact runPipeline_of_perm shiftStore.reverse_perm.symm distinct

end Api

end RagDrift
