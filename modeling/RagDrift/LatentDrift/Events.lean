import RagDrift.Causal.Scores
import RagDrift.Counterfactual.CommonDelta
import RagDrift.LatentDrift.ScoreRange
import RagDrift.Optimization.Guarded

set_option autoImplicit false

/- The drift events of the latent engine, and what the optimization cycle makes of those that
carry no time. -/
namespace RagDrift.LatentDrift

open Causal
open Counterfactual
open Exceptions (bind_ok_iff)
open Optimization
open Storage (EvaluationRecord)
open Temporal (DriftEvent)

section Events

-- The float that stands for a real number.
variable (float : ℝ → ℚ)

/-- What every event says about the result it stands for. -/
def eventMetadata (result : LatentDriftResult) : List (String × PyVal ℚ) :=
  [("latent_drift", .bool true), ("drift_score", .num (float result.driftScore)),
    ("threshold", .num (float result.threshold)),
    ("n_samples_baseline", .num result.nSamplesBaseline),
    ("n_samples_current", .num result.nSamplesCurrent),
    ("pca_components",
      .num (((result.metadata.get? "pca_components").bind PyVal.asPlainNumber?).elim 0 float)),
    ("metric_used", .str result.metricUsed), ("track", .str result.track)]

/-- `to_drift_event` -/
def LatentDriftEngine.toDriftEvent (engine : LatentDriftEngine) (pcaComponents : Int)
    (result : LatentDriftResult) (eventId : String) : DriftEvent where
  metricName := "latent_" ++ result.metricUsed
  startTimestamp := 0
  endTimestamp := 0
  magnitude := float result.driftScore
  involvedRunIds := []
  metadata := Dict.empty.setAll (eventMetadata float result ++
    [("metric_breakdown", .ofDict (Dict.empty.setAll
        (result.metricBreakdown.map fun entry => (entry.1, .num (float entry.2))))),
      ("engine_config", .ofDict (Dict.empty.setAll
        [("threshold", .num (float engine.threshold)), ("metric", .str engine.metric),
          ("pca_components", .num pcaComponents),
          ("kde_sample_size", .num engine.kdeSampleSize)]))])
  eventId := eventId

/-- The time is that of the current batch, if it has one. -/
noncomputable def detectLatentDriftEvents (libraries : Libraries) (eventId : String)
    (timestamp : Option ℚ) (baseline current : List (List ℝ)) (track : String) (threshold : ℝ)
    (metric : String) (pcaComponents : Int) : Except DriftError (List DriftEvent) := do
  let result ← computeLatentDrift libraries baseline current track threshold metric pcaComponents
  if result.driftDetected then
    let startTs := timestamp.getD 0
    return [{
      metricName := "latent_" ++ metric
      startTimestamp := startTs
      endTimestamp := startTs
      magnitude := float result.driftScore
      involvedRunIds := []
      metadata := Dict.empty.setAll (eventMetadata float result)
      eventId := eventId }]
  else return []

/-- The events that carry no time: those of `to_drift_event`, and those of a batch without. -/
inductive Timeless (libraries : Libraries) : DriftEvent → Prop where
  | converted (engine : LatentDriftEngine) (pcaComponents : Int) (result : LatentDriftResult)
      (eventId : String) :
      Timeless libraries (engine.toDriftEvent float pcaComponents result eventId)
  | detected {eventId : String} {baseline current : List (List ℝ)} {track : String}
      {threshold : ℝ} {metric : String} {pcaComponents : Int} {events : List DriftEvent}
      {event : DriftEvent}
      (ran : detectLatentDriftEvents float libraries eventId none baseline current track threshold
        metric pcaComponents = .ok events) (inside : event ∈ events) :
      Timeless libraries event

variable {float} {libraries : Libraries} {event : DriftEvent}

theorem Timeless.window (timeless : Timeless float libraries event) :
    event.startTimestamp = 0 ∧ event.endTimestamp = 0 := by
  cases timeless with
  | converted engine pcaComponents result eventId => exact ⟨rfl, rfl⟩
  | detected ran inside =>
      obtain ⟨result, _, returned⟩ := bind_ok_iff.mp ran
      split at returned
      · cases returned
        cases List.mem_singleton.mp inside
        exact ⟨rfl, rfl⟩
      · cases returned
        cases inside

end Events

/-- No two records lie further apart than 24% of the later one's time. -/
def CloseTimes (store : List (EvaluationRecord ℚ)) : Prop :=
  ∀ first ∈ store, 0 < first.timestamp ∧
    ∀ last ∈ store, 19 / 25 * last.timestamp ≤ first.timestamp

theorem maxOr_mem {default : ℚ} {values : List ℚ} (some : values ≠ []) :
    maxOr default values ∈ values := by
  cases values with
  | nil => exact absurd rfl some
  | cons first rest => exact Collections.foldl_min_mem (C := ℚᵒᵈ) rest first

theorem changeTypeWeight_le (changeType : ChangeType) : changeTypeWeight changeType ≤ 1 := by
  cases changeType <;> norm_num [changeTypeWeight]

section Scores

variable {rt : Runtime ℚ} {event : DriftEvent} {store : List (EvaluationRecord ℚ)}
  {change : ChangeEvent ℚ}

theorem change_recorded (inside : change ∈ extractChangeEvents rt store) :
    ∃ record ∈ store, record.timestamp = change.timestamp := by
  obtain ⟨prev, cur, consecutive, found⟩ := mem_extractChangeEvents.mp inside
  refine ⟨cur, consecutive.mem_right, ?_⟩
  rw [detectChange_some found]
  rfl

theorem windowDistance_timeless (window : event.startTimestamp = 0 ∧ event.endTimestamp = 0)
    {time : ℚ} (positive : 0 < time) : windowDistance event time = time := by
  have inner : max (-time) time = time := max_eq_right (by linarith)
  rw [windowDistance, window.1, window.2, sub_zero, zero_sub, inner, max_eq_right positive.le]

theorem mem_features (inside : change ∈ extractChangeEvents rt store) :
    driftFeature event change ∈ buildDriftFeatures event (extractChangeEvents rt store) :=
  List.mem_map_of_mem ((List.mem_insertionSort _).mpr inside)

/-- The largest of the distances is the time of some record. -/
theorem maxDelta_timeless (window : event.startTimestamp = 0 ∧ event.endTimestamp = 0)
    (recent : CloseTimes store) (inside : change ∈ extractChangeEvents rt store) :
    ∃ record ∈ store, maxOr 0 ((buildDriftFeatures event (extractChangeEvents rt store)).map
      DriftFeature.timeDelta) = record.timestamp := by
  have ordered : event.startTimestamp ≤ event.endTimestamp := by rw [window.1, window.2]
  have listed : maxOr 0 ((buildDriftFeatures event (extractChangeEvents rt store)).map
      DriftFeature.timeDelta) ∈ (buildDriftFeatures event (extractChangeEvents rt store)).map
        DriftFeature.timeDelta := by
    apply maxOr_mem
    exact List.ne_nil_of_mem (List.mem_map_of_mem (mem_features inside))
  obtain ⟨feature, built, same⟩ := List.mem_map.mp listed
  obtain ⟨farthest, sorted, rfl⟩ := List.mem_map.mp built
  obtain ⟨record, stored, time⟩ := change_recorded ((List.mem_insertionSort _).mp sorted)
  refine ⟨record, stored, ?_⟩
  rw [← same, timeDelta_eq_windowDistance ordered, ← time,
    windowDistance_timeless window (recent record stored).1]

theorem changeFactor_le (window : event.startTimestamp = 0 ∧ event.endTimestamp = 0)
    (recent : CloseTimes store) (inside : change ∈ extractChangeEvents rt store) :
    (changeFactor rt event store change).score ≤ 87 / 125 := by
  have ordered : event.startTimestamp ≤ event.endTimestamp := by rw [window.1, window.2]
  obtain ⟨last, lastStored, lastTime⟩ := maxDelta_timeless window recent inside
  obtain ⟨record, stored, time⟩ := change_recorded inside
  have positive := (recent last lastStored).1
  have near := (recent record stored).2 last lastStored
  have timeScore_le : timeScore last.timestamp (driftFeature event change) ≤ 6 / 25 := by
    rw [timeScore_eq ordered, if_pos positive, ← time,
      windowDistance_timeless window (recent record stored).1]
    have share : 19 / 25 ≤ record.timestamp / last.timestamp := by
      rw [le_div_iff₀ positive]
      exact near
    linarith
  have weight : (driftFeature event change).changeTypeWeight ≤ 1 :=
    changeTypeWeight_le change.changeType
  have most : maxOr 1 ((buildDriftFeatures event (extractChangeEvents rt store)).map
      DriftFeature.driftMagnitude) = event.magnitude := by
    have listed : maxOr 1 ((buildDriftFeatures event (extractChangeEvents rt store)).map
        DriftFeature.driftMagnitude) ∈ (buildDriftFeatures event
          (extractChangeEvents rt store)).map DriftFeature.driftMagnitude :=
      maxOr_mem (List.ne_nil_of_mem (List.mem_map_of_mem (mem_features inside)))
    obtain ⟨feature, built, same⟩ := List.mem_map.mp listed
    obtain ⟨other, _, rfl⟩ := List.mem_map.mp built
    exact same.symm
  have magnitude : (if event.magnitude > 0 then event.magnitude / event.magnitude else 0) ≤ 1 := by
    split
    · rename_i raised
      rw [div_self raised.ne']
    · exact zero_le_one
  have rounded : pyRound (87 / 125) 4 = 87 / 125 := by decide +kernel
  rw [changeFactor, lastTime, most]
  calc (scoreFeature last.timestamp event.magnitude (driftFeature event change)).score
      ≤ pyRound (87 / 125) 4 := by
        apply pyRound_mono
        apply max_le (by norm_num)
        apply (min_le_right _ _).trans
        have share : (driftFeature event change).driftMagnitude = event.magnitude := rfl
        rw [share]
        linarith
    _ = 87 / 125 := rounded

theorem factor_le (window : event.startTimestamp = 0 ∧ event.endTimestamp = 0)
    (recent : CloseTimes store) {factor : CausalFactor}
    (inside : factor ∈ (attributeDrift rt event store).factors) : factor.score ≤ 87 / 125 := by
  obtain ⟨change, listed, rfl⟩ := List.mem_map.mp ((factors_perm rt event store).mem_iff.mp inside)
  exact changeFactor_le window recent listed

theorem scenarioScore_le {attribution : CausalAttribution} {bound : ℚ}
    (factors : ∀ factor ∈ attribution.factors, factor.score ≤ bound) {topK : Int}
    {scenario : CounterfactualScenario ℚ}
    (built : scenario ∈ buildCounterfactualScenarios rt attribution topK) :
    scenarioScore scenario ≤ bound := by
  cases built_cases built with
  | inl single =>
      obtain ⟨factor, top, same⟩ := single
      subst same
      exact factors factor (mem_of_topFactors top)
  | inr combined =>
      obtain ⟨first, rest, top, same⟩ := combined
      subst same
      apply (combinedScenario_score_le rt attribution.driftEventId first rest).trans
      apply factors first
      apply mem_of_topFactors
      rw [top]
      exact List.mem_cons_self

/-- Without values before the window the estimate is the mean of all values, and 0 without any. -/
theorem storeEstimate_timeless (window : event.startTimestamp = 0 ∧ event.endTimestamp = 0)
    (recent : CloseTimes store) (metricName : String) :
    storeEstimate event metricName store =
      average ((occurrences metricName (sortRecords store)).map Prod.snd) := by
  have none : (occurrences metricName (sortRecords store)).filter
      (fun point => point.1 < event.startTimestamp) = [] := by
    apply List.filter_eq_nil_iff.mpr
    intro point inside
    obtain ⟨record, sorted, listed⟩ := List.mem_flatMap.mp inside
    obtain ⟨metric, _, rfl⟩ := List.mem_map.mp listed
    have stored := (sortRecords_perm store).mem_iff.mp sorted
    have positive := (recent record stored).1
    rw [window.1, decide_eq_true_eq, not_lt]
    exact positive.le
  simp only [storeEstimate, estimateMetricAfterIntervention]
  rw [if_pos none]
  split
  · rename_i empty
    rw [empty]
    simp [average]
  · rfl

theorem selectAction_none {engine : OptimizationEngine} {results : List CounterfactualResult}
    (below : ∀ result ∈ results, result.confidence < engine.minConfidence) :
    selectAction rt engine event results = none := by
  have valid : validResults engine results = [] := by
    apply List.filter_eq_nil_iff.mpr
    intro result inside
    rw [decide_eq_true_eq, not_le]
    exact below result inside
  rw [selectAction, valid]
  rfl

end Scores

section Cycle

variable {rt : Runtime ℚ} {runner : OptimizationRunner} {input : CycleInput}
  {clock : CycleClock} {history after : List (OptimizationAction ℚ)}
  {outcome : OptimizationResult}

/-- A cycle whose results are all below the confidence that is asked for. -/
theorem cycle_unconfident
    (below : ∀ results, runCounterfactualAnalysis rt input.driftEvent input.attribution
      input.store none input.topK = .ok results →
        ∀ result ∈ results, result.confidence < runner.engine.minConfidence)
    (ran : runOptimizationCycle rt runner input clock history = .ok (outcome, after)) :
    outcome.status = .noActionNeeded ∧ outcome.action = none ∧ after = history ∧
      runCounterfactualAnalysis rt input.driftEvent input.attribution input.store none
        input.topK = .ok outcome.counterfactualResults := by
  obtain ⟨results, analysed, rest⟩ := bind_ok_iff.mp ran
  rw [selectAction_none (below results analysed)] at rest
  split at rest
  · cases rest
    exact ⟨rfl, rfl, rfl, analysed⟩
  · cases rest
    exact ⟨rfl, rfl, rfl, analysed⟩

/-- The calls that are about an event without a time, over a store that is not too old. -/
structure AboutTimeless (rt : Runtime ℚ) (float : ℝ → ℚ) (libraries : Libraries)
    (input : CycleInput) : Prop where
  event : Timeless float libraries input.driftEvent
  attribution : input.attribution = attributeDrift rt input.driftEvent input.store
  recent : CloseTimes input.store

variable {float : ℝ → ℚ} {libraries : Libraries}

/-- All results promise the same value, and none of them with much confidence. -/
theorem AboutTimeless.result (about : AboutTimeless rt float libraries input)
    {results : List CounterfactualResult}
    (ran : runCounterfactualAnalysis rt input.driftEvent input.attribution input.store none
      input.topK = .ok results) {result : CounterfactualResult} (inside : result ∈ results) :
    result.confidence ≤ 87 / 125 ∧
      result.counterfactualMetric = pyRound (average ((occurrences input.driftEvent.metricName
        (sortRecords input.store)).map Prod.snd)) 6 := by
  rw [analysis_results ran, about.attribution] at inside
  obtain ⟨scenario, built, same⟩ := List.mem_map.mp inside
  subst same
  have rounded : pyRound (87 / 125) 4 = 87 / 125 := by decide +kernel
  constructor
  · rw [← rounded]
    apply pyRound_mono
    exact scenarioScore_le (fun factor => factor_le about.event.window about.recent) built
  · show pyRound (storeEstimate input.driftEvent input.driftEvent.metricName input.store) 6 = _
    rw [storeEstimate_timeless about.event.window about.recent]

theorem AboutTimeless.cycle (about : AboutTimeless rt float libraries input)
    (confident : 7 / 10 ≤ runner.engine.minConfidence)
    (ran : runOptimizationCycle rt runner input clock history = .ok (outcome, after)) :
    outcome.status = .noActionNeeded ∧ outcome.action = none ∧ after = history ∧
      runCounterfactualAnalysis rt input.driftEvent input.attribution input.store none
        input.topK = .ok outcome.counterfactualResults := by
  apply cycle_unconfident _ ran
  intro results analysed result inside
  have low := (about.result analysed inside).1
  linarith

theorem AboutTimeless.historyAfter (about : AboutTimeless rt float libraries input)
    (confident : 7 / 10 ≤ runner.engine.minConfidence) :
    historyAfter rt runner input clock history = history := by
  unfold Optimization.historyAfter
  split
  · rename_i outcome after ran
    exact (about.cycle confident ran).2.2.1
  · rfl

/-- However many drift events without a time are sent through the cycle, no action is taken: their
window is at time 0, no change scores more than 0.696, and every result promises the same value. -/
theorem timeless_events_unremedied {calls : List (CycleInput × CycleClock)}
    (about : ∀ call ∈ calls, AboutTimeless rt float libraries call.1)
    (confident : 7 / 10 ≤ runner.engine.minConfidence) :
    (∀ event, Timeless float libraries event →
        event.startTimestamp = 0 ∧ event.endTimestamp = 0) ∧
      (∀ call ∈ calls, ∀ factor ∈ call.1.attribution.factors, factor.score ≤ 87 / 125) ∧
      calls.foldl (fun history call => Optimization.historyAfter rt runner call.1 call.2 history)
        history = history ∧
      ∀ call ∈ calls, ∀ outcome after,
        runOptimizationCycle rt runner call.1 call.2 history = .ok (outcome, after) →
          outcome.status = .noActionNeeded ∧ outcome.action = none ∧
            ∀ result ∈ outcome.counterfactualResults, result.confidence ≤ 87 / 125 ∧
              result.counterfactualMetric = pyRound (average
                ((occurrences call.1.driftEvent.metricName
                  (sortRecords call.1.store)).map Prod.snd)) 6 := by
  refine ⟨fun event timeless => timeless.window, ?_, ?_, ?_⟩
  · intro call inside factor listed
    rw [(about call inside).attribution] at listed
    exact factor_le (about call inside).event.window (about call inside).recent listed
  · induction calls with
    | nil => rfl
    | cons call rest ih =>
        rw [List.foldl_cons, (about call List.mem_cons_self).historyAfter confident]
        exact ih fun other inside => about other (List.mem_cons_of_mem _ inside)
  · intro call inside outcome after ran
    have quiet := (about call inside).cycle confident ran
    refine ⟨quiet.1, quiet.2.1, ?_⟩
    intro result listed
    exact (about call inside).result quiet.2.2.2 listed

end Cycle

def lateStore : List (EvaluationRecord ℚ) :=
  [releaseRecord "r1" "v1" 1000, releaseRecord "r2" "v2" 1010]

/-- An event at a time, or at none. -/
def shifted (time : ℚ) : DriftEvent :=
  { (LatentDriftEngine.mk 0 "mmd" 1000 none none).toDriftEvent (fun _ => 1 / 2) 5
      ⟨1, true, 0, 100, 100, "mmd", "unified", [], Dict.empty⟩ "e1" with
    startTimestamp := time
    endTimestamp := time }

def shiftedInput (time : ℚ) : CycleInput :=
  ⟨shifted time, attributeDrift (decimalRuntime []) (shifted time) lateStore, lateStore, none,
    none, 3⟩

example : (historyAfter (decimalRuntime []) defaultRunner (shiftedInput 1010) (instant 2000)
    []).length = 1 := by
  decide +kernel

theorem shiftedInput_timeless :
    AboutTimeless (decimalRuntime []) (fun _ => 1 / 2) oneFeature (shiftedInput 0) where
  event := Timeless.converted _ _ _ _
  attribution := rfl
  recent := by
    unfold CloseTimes
    decide +kernel

theorem timeless_events_unremedied_release :
    [(shiftedInput 0, instant 2000), (shiftedInput 0, instant 3000)].foldl
      (fun history call => historyAfter (decimalRuntime []) defaultRunner call.1 call.2 history)
        [] = [] :=
  (timeless_events_unremedied (List.forall_mem_cons.mpr ⟨shiftedInput_timeless,
    List.forall_mem_singleton.mpr shiftedInput_timeless⟩) (le_refl (7 / 10))).2.2.1

end RagDrift.LatentDrift
