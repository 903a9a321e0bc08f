import RagDrift.Causal.Attribution
import RagDrift.Collections.Ranking
import Mathlib.Tactic.Linarith
import Mathlib.Tactic.NormNum

set_option autoImplicit false

/- The attribution of one drift event scores every change of the store once, and a nearer change
of a weightier type never lower. -/
namespace RagDrift.Causal

open Storage (EvaluationRecord)
open Temporal (DriftEvent)

/-- How far a time lies outside the drift window. -/
def windowDistance (event : DriftEvent) (time : ℚ) : ℚ :=
  max 0 (max (event.startTimestamp - time) (time - event.endTimestamp))

def InWindow (event : DriftEvent) (change : ChangeEvent ℚ) : Prop :=
  event.startTimestamp ≤ change.timestamp ∧ change.timestamp ≤ event.endTimestamp

theorem windowDistance_of_inWindow {event : DriftEvent} {change : ChangeEvent ℚ}
    (inside : InWindow event change) : windowDistance event change.timestamp = 0 := by
  obtain ⟨after, before⟩ := inside
  apply max_eq_left
  apply max_le
  · linarith
  · linarith

/-- A window that does not end before it starts is left on one side only. -/
theorem timeDelta_eq_windowDistance {event : DriftEvent}
    (ordered : event.startTimestamp ≤ event.endTimestamp) (change : ChangeEvent ℚ) :
    (driftFeature event change).timeDelta = windowDistance event change.timestamp := by
  simp only [driftFeature]
  split
  · rename_i inside
    rw [windowDistance_of_inWindow inside]
  · rename_i outside
    rw [windowDistance]
    rcases lt_or_ge change.timestamp event.startTimestamp with early | started
    · have side : max (event.startTimestamp - change.timestamp)
          (change.timestamp - event.endTimestamp) = event.startTimestamp - change.timestamp :=
        max_eq_left (by linarith)
      rw [side, max_eq_right (by linarith), abs_of_nonpos (by linarith),
        abs_of_nonpos (by linarith), neg_sub, neg_sub, min_eq_left (by linarith)]
    · have late : event.endTimestamp < change.timestamp := by
        by_contra inTime
        exact outside ⟨started, not_lt.mp inTime⟩
      have side : max (event.startTimestamp - change.timestamp)
          (change.timestamp - event.endTimestamp) = change.timestamp - event.endTimestamp :=
        max_eq_right (by linarith)
      rw [side, max_eq_right (by linarith), abs_of_nonneg (by linarith),
        abs_of_nonneg (by linarith), min_eq_right (by linarith)]

/-- The boost of a change inside the window changes nothing: its score is already 1. -/
theorem timeScore_eq {event : DriftEvent} (ordered : event.startTimestamp ≤ event.endTimestamp)
    (maxDelta : ℚ) (change : ChangeEvent ℚ) :
    timeScore maxDelta (driftFeature event change) =
      if maxDelta > 0 then 1 - windowDistance event change.timestamp / maxDelta else 1 := by
  rw [timeScore, timeDelta_eq_windowDistance ordered]
  by_cases inside : InWindow event change
  · have flag : (driftFeature event change).inWindow = true := decide_eq_true inside
    rw [if_pos flag, windowDistance_of_inWindow inside, zero_div, sub_zero, ite_self]
    norm_num
  · have flag : ¬ (driftFeature event change).inWindow = true := by
      show ¬ decide _ = true
      rw [decide_eq_true_eq]
      exact inside
    rw [if_neg flag]

theorem timeScore_le {event : DriftEvent} (ordered : event.startTimestamp ≤ event.endTimestamp)
    (maxDelta : ℚ) {near far : ChangeEvent ℚ}
    (closer : windowDistance event near.timestamp ≤ windowDistance event far.timestamp) :
    timeScore maxDelta (driftFeature event far) ≤ timeScore maxDelta (driftFeature event near) := by
  rw [timeScore_eq ordered, timeScore_eq ordered]
  by_cases positive : maxDelta > 0
  · rw [if_pos positive, if_pos positive]
    have scaled := div_le_div_of_nonneg_right closer positive.le
    linarith
  · rw [if_neg positive, if_neg positive]

theorem scoreFeature_mem_unit (maxDelta maxMagnitude : ℚ) (feature : DriftFeature) :
    0 ≤ (scoreFeature maxDelta maxMagnitude feature).score ∧
      (scoreFeature maxDelta maxMagnitude feature).score ≤ 1 := by
  apply pyRound_mem_unit
  · exact le_max_left _ _
  · exact max_le zero_le_one (min_le_left _ _)

theorem scoreFeature_le {event : DriftEvent}
    (ordered : event.startTimestamp ≤ event.endTimestamp) (maxDelta maxMagnitude : ℚ)
    {near far : ChangeEvent ℚ}
    (closer : windowDistance event near.timestamp ≤ windowDistance event far.timestamp)
    (weightier : changeTypeWeight far.changeType ≤ changeTypeWeight near.changeType) :
    (scoreFeature maxDelta maxMagnitude (driftFeature event far)).score ≤
      (scoreFeature maxDelta maxMagnitude (driftFeature event near)).score := by
  have time := timeScore_le ordered maxDelta closer
  have type : (driftFeature event far).changeTypeWeight ≤
      (driftFeature event near).changeTypeWeight := weightier
  have magnitude : (driftFeature event far).driftMagnitude =
      (driftFeature event near).driftMagnitude := rfl
  simp only [scoreFeature, magnitude]
  apply pyRound_mono
  apply max_le_max le_rfl
  apply min_le_min le_rfl
  linarith

/-- The factor `score_causal_impact` makes of one change, next to the store's other changes. -/
def changeFactor (rt : Runtime ℚ) (event : DriftEvent) (store : List (EvaluationRecord ℚ))
    (change : ChangeEvent ℚ) : CausalFactor :=
  let features := buildDriftFeatures event (extractChangeEvents rt store)
  scoreFeature (maxOr 0 (features.map DriftFeature.timeDelta))
    (maxOr 1 (features.map DriftFeature.driftMagnitude)) (driftFeature event change)

theorem changeFactor_metadata (rt : Runtime ℚ) (event : DriftEvent)
    (store : List (EvaluationRecord ℚ)) (change : ChangeEvent ℚ) :
    (changeFactor rt event store change).metadata.get? "change_id" =
      some (.str change.changeId) := by
  simp only [changeFactor, scoreFeature, driftFeature]
  rfl

theorem factors_perm (rt : Runtime ℚ) (event : DriftEvent) (store : List (EvaluationRecord ℚ)) :
    (attributeDrift rt event store).factors.Perm
      ((extractChangeEvents rt store).map (changeFactor rt event store)) := by
  have sorted := Collections.sortedDown_perm CausalFactor.score
    ((buildDriftFeatures event (extractChangeEvents rt store)).map
      (scoreFeature
        (maxOr 0 ((buildDriftFeatures event (extractChangeEvents rt store)).map
          DriftFeature.timeDelta))
        (maxOr 1 ((buildDriftFeatures event (extractChangeEvents rt store)).map
          DriftFeature.driftMagnitude))))
  apply sorted.trans
  have byTime : (buildDriftFeatures event (extractChangeEvents rt store)).Perm
      ((extractChangeEvents rt store).map (driftFeature event)) :=
    (List.perm_insertionSort _ _).map _
  have scored := byTime.map (scoreFeature
    (maxOr 0 ((buildDriftFeatures event (extractChangeEvents rt store)).map
      DriftFeature.timeDelta))
    (maxOr 1 ((buildDriftFeatures event (extractChangeEvents rt store)).map
      DriftFeature.driftMagnitude)))
  rw [List.map_map] at scored
  exact scored

theorem factors_mem_unit (rt : Runtime ℚ) (event : DriftEvent)
    (store : List (EvaluationRecord ℚ)) :
    ∀ factor ∈ (attributeDrift rt event store).factors, 0 ≤ factor.score ∧ factor.score ≤ 1 := by
  intro factor inside
  obtain ⟨change, _, rfl⟩ := List.mem_map.mp ((factors_perm rt event store).mem_iff.mp inside)
  exact scoreFeature_mem_unit _ _ _

theorem computeConfidence_mem_unit {factors : List CausalFactor}
    (unit : ∀ factor ∈ factors, 0 ≤ factor.score ∧ factor.score ≤ 1) :
    0 ≤ computeConfidence factors ∧ computeConfidence factors ≤ 1 := by
  match factors with
  | [] => exact ⟨le_rfl, zero_le_one⟩
  | [factor] =>
      obtain ⟨nonneg, below⟩ := unit factor (List.mem_singleton_self factor)
      exact pyRound_mem_unit 4 nonneg below
  | first :: second :: rest =>
      have top := unit first List.mem_cons_self
      have others : 0 ≤ ((second :: rest).map CausalFactor.score).sum := by
        apply List.sum_nonneg
        intro score inside
        obtain ⟨factor, listed, rfl⟩ := List.mem_map.mp inside
        exact (unit factor (List.mem_cons_of_mem _ listed)).1
      have total : first.score ≤ ((first :: second :: rest).map CausalFactor.score).sum := by
        rw [List.map_cons, List.sum_cons]
        linarith
      simp only [computeConfidence]
      split
      · exact ⟨le_rfl, zero_le_one⟩
      · apply pyRound_mem_unit
        · exact div_nonneg top.1 (top.1.trans total)
        · exact div_le_one_of_le₀ total (top.1.trans total)

/-- What an attribution says about the changes of a store. -/
structure Fair (rt : Runtime ℚ) (event : DriftEvent) (store : List (EvaluationRecord ℚ)) :
    Prop where
  complete : (attributeDrift rt event store).factors.Perm
    ((extractChangeEvents rt store).map (changeFactor rt event store))
  named : ∀ change ∈ extractChangeEvents rt store,
    (changeFactor rt event store change).metadata.get? "change_id" = some (.str change.changeId)
  ids : ((attributeDrift rt event store).factors.map fun factor =>
      factor.metadata.get? "change_id").Perm
    ((extractChangeEvents rt store).map fun change => some (.str change.changeId))
  ranked : (attributeDrift rt event store).factors.Pairwise fun left right =>
    right.score ≤ left.score
  scores : ∀ factor ∈ (attributeDrift rt event store).factors,
    0 ≤ factor.score ∧ factor.score ≤ 1
  confidence : 0 ≤ (attributeDrift rt event store).confidence ∧
    (attributeDrift rt event store).confidence ≤ 1
  closer : ∀ near ∈ extractChangeEvents rt store, ∀ far ∈ extractChangeEvents rt store,
    InWindow event near ∨
      windowDistance event near.timestamp ≤ windowDistance event far.timestamp →
    changeTypeWeight far.changeType ≤ changeTypeWeight near.changeType →
    (changeFactor rt event store far).score ≤ (changeFactor rt event store near).score

theorem attributeDrift_fair (rt : Runtime ℚ) (event : DriftEvent)
    (store : List (EvaluationRecord ℚ)) (ordered : event.startTimestamp ≤ event.endTimestamp) :
    Fair rt event store where
  complete := factors_perm rt event store
  named change _ := changeFactor_metadata rt event store change
  ids := by
    have ids := (factors_perm rt event store).map fun factor => factor.metadata.get? "change_id"
    rw [List.map_map] at ids
    exact ids
  ranked := Collections.pairwise_sortedDown CausalFactor.score _
  scores := factors_mem_unit rt event store
  confidence := computeConfidence_mem_unit (factors_mem_unit rt event store)
  closer near _ far _ placed weightier := by
    apply scoreFeature_le ordered _ _ _ weightier
    rcases placed with inside | distance
    · rw [windowDistance_of_inWindow inside]
      exact le_max_left _ _
    · exact distance

def releaseRecord (runId version prompt : String) (timestamp : ℚ) : EvaluationRecord ℚ :=
  ⟨runId, [], Dict.empty.set "prompt" (.str prompt), some version, runId, timestamp⟩

def releaseEvent : DriftEvent :=
  ⟨"js_divergence", 3, 4, 1 / 4, ["r3"], Dict.empty, "e1"⟩

theorem attributeDrift_fair_release : Fair (decimalRuntime []) releaseEvent
    [releaseRecord "r1" "v1" "short" 1, releaseRecord "r2" "v2" "short" 2,
      releaseRecord "r3" "v2" "long" 3] :=
  attributeDrift_fair (decimalRuntime []) releaseEvent _ (by decide +kernel)

end RagDrift.Causal
