import RagDrift.LatentDrift.Adaptive
import RagDrift.Python.Exceptions
import Mathlib.Tactic.NormNum

set_option autoImplicit false

/- Which scores the adaptive threshold lets through: the score that is judged is already in the
window that it is judged by. -/
namespace RagDrift.LatentDrift

namespace AdaptiveThresholdManager

variable (manager : AdaptiveThresholdManager)

theorem update_entries (score : ℝ) :
    (manager.update score).scores.entries =
      (manager.scores.entries ++ [score]).rtake manager.windowSize := rfl

theorem length_update (score other : ℝ) :
    (manager.update score).scores.entries.length =
      (manager.update other).scores.entries.length := by
  rw [update_entries, update_entries, Collections.length_rtake, Collections.length_rtake,
    List.length_append, List.length_append, List.length_singleton, List.length_singleton]

variable {manager}

/-- A window of several scores is what is kept of the earlier ones, with the new one last. -/
theorem update_several {score : ℝ}
    (several : 2 ≤ (manager.update score).scores.entries.length) :
    ∃ kept, kept ≠ [] ∧ ∀ next, (manager.update next).scores.entries = kept ++ [next] := by
  have bounded : (manager.update score).scores.entries.length ≤ manager.windowSize :=
    (manager.update score).scores.bounded
  obtain ⟨size, windowSize⟩ : ∃ size, manager.windowSize = size + 1 :=
    ⟨manager.windowSize - 1, by omega⟩
  have entries : ∀ next, (manager.update next).scores.entries =
      manager.scores.entries.rtake size ++ [next] := by
    intro next
    calc (manager.update next).scores.entries =
        (manager.scores.entries ++ [next]).rtake (size + 1) :=
          congrArg (List.rtake (manager.scores.entries ++ [next])) windowSize
      _ = manager.scores.entries.rtake size ++ [next] := List.rtake_concat_succ _ _ _
  refine ⟨manager.scores.entries.rtake size, ?_, entries⟩
  intro none
  rw [entries, none, List.nil_append, List.length_singleton] at several
  omega

/-- Scores change the window only. -/
theorem foldl_update_params (history : List ℝ) (manager : AdaptiveThresholdManager) :
    (history.foldl update manager).baseThreshold = manager.baseThreshold ∧
      (history.foldl update manager).sensitivityZ = manager.sensitivityZ ∧
      (history.foldl update manager).minThreshold = manager.minThreshold ∧
      (history.foldl update manager).maxThreshold = manager.maxThreshold := by
  induction history generalizing manager with
  | nil => exact ⟨rfl, rfl, rfl, rfl⟩
  | cons score rest ih => exact ih (manager.update score)

theorem getThreshold_of_few (few : manager.scores.entries.length < 2) :
    manager.getThreshold = manager.baseThreshold := by
  rw [getThreshold]
  exact if_pos few

theorem getThreshold_of_several (several : 2 ≤ manager.scores.entries.length) :
    manager.getThreshold = max manager.minThreshold (min manager.maxThreshold
      (Deviation.mean manager.scores.entries +
        manager.sensitivityZ * Deviation.sampleStd manager.scores.entries)) := by
  rw [getThreshold]
  exact if_neg (not_lt.mpr several)

theorem above_threshold_mono (nonneg : 0 ≤ manager.sensitivityZ) {x y : ℝ} (further : x ≤ y)
    (above : (manager.update x).getThreshold < x) : (manager.update y).getThreshold < y := by
  rcases Nat.lt_or_ge (manager.update x).scores.entries.length 2 with few | several
  · rw [getThreshold_of_few few] at above
    rw [getThreshold_of_few (by rw [manager.length_update y x]; exact few)]
    exact above.trans_le further
  · obtain ⟨kept, some, entries⟩ := update_several several
    rw [getThreshold_of_several several, max_lt_iff, min_lt_iff, entries] at above
    rw [getThreshold_of_several (by rw [manager.length_update y x]; exact several), max_lt_iff,
      min_lt_iff, entries]
    obtain ⟨least, most | bar⟩ := above
    · exact ⟨least.trans_le further, .inl (most.trans_le further)⟩
    · exact ⟨least.trans_le further, .inr (Deviation.above_mono some nonneg further bar)⟩

/-- In a window of few scores no score clears the bar it is part of, which leaves the upper
bound. -/
theorem above_threshold_iff_max (nonneg : 0 ≤ manager.sensitivityZ)
    (ordered : manager.minThreshold ≤ manager.maxThreshold) {score : ℝ} {n : Nat}
    (length : (manager.update score).scores.entries.length = n) (several : 2 ≤ n)
    (few : ((n : ℝ) - 1) ^ 2 ≤ manager.sensitivityZ ^ 2 * n) :
    (manager.update score).getThreshold < score ↔ manager.maxThreshold < score := by
  rw [← length] at several few
  obtain ⟨kept, some, entries⟩ := update_several several
  have count : (((manager.update score).scores.entries.length : ℕ) : ℝ) = kept.length + 1 := by
    rw [entries, List.length_append, List.length_singleton]
    push_cast
    rfl
  rw [count, add_sub_cancel_right] at few
  rw [getThreshold_of_several several, max_lt_iff, min_lt_iff, entries]
  constructor
  · rintro ⟨_, most | bar⟩
    · exact most
    · exact absurd bar (not_lt.mpr (Deviation.not_above some nonneg few score))
  · intro most
    exact ⟨ordered.trans_lt most, .inl most⟩

end AdaptiveThresholdManager

open AdaptiveThresholdManager

variable {manager : AdaptiveThresholdManager} {engine : LatentDriftEngine}

theorem computeDrift_verdict (adaptive : engine.thresholdManager = some manager)
    {vectors : List (List ℝ)} {result : LatentDriftResult} {next : LatentDriftEngine}
    (ran : engine.computeDrift vectors = .ok (result, next)) :
    next.thresholdManager = some (manager.update result.driftScore) ∧
      (result.driftDetected = true ↔
        (manager.update result.driftScore).getThreshold < result.driftScore) := by
  rw [LatentDriftEngine.computeDrift] at ran
  cases fitted : engine.fitted with
  | none =>
      rw [fitted] at ran
      cases ran
  | some baseline =>
      rw [fitted] at ran
      obtain ⟨score, _, returned⟩ := Exceptions.bind_ok_iff.mp ran
      rw [adaptive] at returned
      cases returned
      exact ⟨rfl, decide_eq_true_iff⟩

noncomputable def defaultManager : AdaptiveThresholdManager :=
  .new (15 / 100 : ℚ) (2 : ℚ) 30 (5 / 100 : ℚ) (50 / 100 : ℚ)

/-- The metric of this engine adds up all coordinates. -/
noncomputable def summingEngine (history : List ℝ) : LatentDriftEngine where
  threshold := (15 / 100 : ℚ)
  metric := "mmd"
  kdeSampleSize := 1000
  thresholdManager := some (history.foldl update defaultManager)
  fitted := some ⟨1, [1], 1, fun vectors => .ok (vectors.map List.sum).sum⟩

theorem summingEngine_ran (history : List ℝ) (vectors : List (List ℝ)) : ∃ result next,
    (summingEngine history).computeDrift vectors = .ok (result, next) ∧
      result.driftScore = (vectors.map List.sum).sum :=
  ⟨_, _, rfl, rfl⟩

theorem summingEngine_manager (history : List ℝ) :
    (summingEngine history).thresholdManager = some (history.foldl update defaultManager) := rfl

theorem defaultManager_bounds : 0 ≤ defaultManager.sensitivityZ ∧
    defaultManager.minThreshold ≤ defaultManager.maxThreshold := by
  norm_num [defaultManager, AdaptiveThresholdManager.new]

/-- Of two scores the second is reported where it is above 0.5. -/
theorem summingEngine_detects {result : LatentDriftResult} {next : LatentDriftEngine}
    {vectors : List (List ℝ)}
    (ran : (summingEngine [1 / 10]).computeDrift vectors = .ok (result, next))
    (high : (50 / 100 : ℚ) < result.driftScore) : result.driftDetected = true := by
  have bounds : 0 ≤ ([1 / 10].foldl update defaultManager).sensitivityZ ∧
      ([1 / 10].foldl update defaultManager).minThreshold ≤
        ([1 / 10].foldl update defaultManager).maxThreshold := defaultManager_bounds
  rw [(computeDrift_verdict (summingEngine_manager [1 / 10]) ran).2]
  refine (above_threshold_iff_max bounds.1 bounds.2 (n := 2) rfl le_rfl ?_).mpr high
  norm_num [defaultManager, AdaptiveThresholdManager.new, update]

/-- A score that is reported is also reported when it is higher. -/
theorem adaptive_detection_mono (nonneg : 0 ≤ manager.sensitivityZ) (history : List ℝ)
    (adaptive : engine.thresholdManager = some (history.foldl update manager))
    {first second : List (List ℝ)} {lower higher : LatentDriftResult}
    {afterLower afterHigher : LatentDriftEngine}
    (ranFirst : engine.computeDrift first = .ok (lower, afterLower))
    (ranSecond : engine.computeDrift second = .ok (higher, afterHigher))
    (further : lower.driftScore ≤ higher.driftScore) (detected : lower.driftDetected = true) :
    higher.driftDetected = true := by
  have params := foldl_update_params history manager
  rw [(computeDrift_verdict adaptive ranSecond).2]
  apply above_threshold_mono _ further ((computeDrift_verdict adaptive ranFirst).2.mp detected)
  rw [params.2.1]
  exact nonneg

theorem adaptive_detection_mono_summing : ∃ result next,
    (summingEngine [1 / 10]).computeDrift [[7 / 10]] = .ok (result, next) ∧
      result.driftDetected = true := by
  obtain ⟨lower, afterLower, ranLower, scoreLower⟩ := summingEngine_ran [1 / 10] [[6 / 10]]
  obtain ⟨higher, afterHigher, ran, score⟩ := summingEngine_ran [1 / 10] [[7 / 10]]
  refine ⟨higher, afterHigher, ran, adaptive_detection_mono defaultManager_bounds.1 [1 / 10]
    (summingEngine_manager [1 / 10]) ranLower ran ?_ (summingEngine_detects ranLower ?_)⟩
  · rw [scoreLower, score]
    norm_num
  · rw [scoreLower]
    norm_num

/-- With at most `n` scores in the window, where `(n - 1) ^ 2 ≤ z ^ 2 * n`, only the upper bound
decides. A window of one score is judged by the base threshold. -/
theorem adaptive_blind_spot (nonneg : 0 ≤ manager.sensitivityZ)
    (ordered : manager.minThreshold ≤ manager.maxThreshold) (history : List ℝ)
    (adaptive : engine.thresholdManager = some (history.foldl update manager))
    {vectors : List (List ℝ)} {result : LatentDriftResult} {next : LatentDriftEngine}
    (ran : engine.computeDrift vectors = .ok (result, next)) {after : AdaptiveThresholdManager}
    (updated : next.thresholdManager = some after) {n : Nat}
    (length : after.scores.entries.length = n) :
    (2 ≤ n → ((n : ℝ) - 1) ^ 2 ≤ manager.sensitivityZ ^ 2 * n →
      (result.driftDetected = true ↔ manager.maxThreshold < result.driftScore)) ∧
    (manager.sensitivityZ = 2 → 2 ≤ n → n ≤ 5 → result.driftScore ≤ manager.maxThreshold →
      result.driftDetected = false) ∧
    (n < 2 → (result.driftDetected = true ↔ manager.baseThreshold < result.driftScore)) := by
  obtain ⟨base, sensitivity, least, most⟩ := foldl_update_params history manager
  obtain ⟨same, verdict⟩ := computeDrift_verdict adaptive ran
  rw [same, Option.some.injEq] at updated
  subst updated
  have blind : 2 ≤ n → ((n : ℝ) - 1) ^ 2 ≤ manager.sensitivityZ ^ 2 * n →
      (result.driftDetected = true ↔ manager.maxThreshold < result.driftScore) := by
    intro several few
    rw [verdict, ← most]
    apply above_threshold_iff_max _ _ length several
    · rw [sensitivity]
      exact few
    · rw [sensitivity]
      exact nonneg
    · rw [least, most]
      exact ordered
  refine ⟨blind, ?_, ?_⟩
  · intro two several five below
    have few : ((n : ℝ) - 1) ^ 2 ≤ manager.sensitivityZ ^ 2 * n := by
      have lower : (2 : ℝ) ≤ n := by exact_mod_cast several
      have upper : (n : ℝ) ≤ 5 := by exact_mod_cast five
      rw [two]
      nlinarith
    rw [← Bool.not_eq_true, blind several few]
    exact not_lt.mpr below
  · intro alone
    rw [← length] at alone
    rw [verdict, getThreshold_of_few alone, ← base]
    rfl

theorem adaptive_blind_spot_summing : ∃ result next,
    (summingEngine [1 / 10]).computeDrift [[4 / 10]] = .ok (result, next) ∧
      result.driftDetected = false := by
  obtain ⟨result, next, ran, score⟩ := summingEngine_ran [1 / 10] [[4 / 10]]
  have manager := summingEngine_manager [1 / 10]
  refine ⟨result, next, ran, (adaptive_blind_spot defaultManager_bounds.1 defaultManager_bounds.2
    [1 / 10] manager ran (computeDrift_verdict manager ran).1 (n := 2) rfl).2.1 ?_ le_rfl
    (by omega) ?_⟩
  · norm_num [defaultManager, AdaptiveThresholdManager.new]
  · rw [score]
    norm_num [defaultManager, AdaptiveThresholdManager.new]

end RagDrift.LatentDrift
