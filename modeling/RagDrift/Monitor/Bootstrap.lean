import RagDrift.Monitor.UsableThresholds
import RagDrift.Numeric.Outliers

set_option autoImplicit false

/- `DriftMonitor.calibrate_thresholds`: thresholds from bootstrap samples of a baseline, and how
often the samples a threshold comes from lie above it. -/
namespace RagDrift.Monitor

open Exceptions (bind_ok_iff mapError_ok_iff mapM_ok_iff)
open Numeric (countAbove countAbove_map countAbove_sigmaBound sigmaBound sigmaBound_nonneg
  sigmaBound_pos)
open Telemetry (RAGEvaluationFrame)

noncomputable section

/-- What `np.random.choice` draws in each iteration of the three loops, for whatever number of
rows. -/
structure BootstrapDraws where
  js : Nat → (n : Nat) → Fin n → Fin n
  mmd : Nat → (n : Nat) → Fin n → Fin n
  kl : Nat → (n : Nat) → Fin n → Fin n

/-- `baseline_embeddings[idx]`. -/
def bootstrapSample (rows : List (List ℝ)) (idx : (n : Nat) → Fin n → Fin n) : List (List ℝ) :=
  List.ofFn fun place => rows.get (idx rows.length place)

inductive CalibrationError where
  | vector (reason : VectorError)
  /-- `PCA.fit` raises. -/
  | components
  deriving DecidableEq

def bootstrapJs (pca : List (List ℝ) → List ℝ → ℝ) (baseline sample : List (List ℝ)) :
    Except VectorError ℝ := do
  let (p, q) ← jensenShannonDistributions pca baseline sample
  return jensenshannon p q

def bootstrapMmd (baseline sample : List (List ℝ)) : ℝ :=
  Real.sqrt (discrepancy baseline sample (medianGamma baseline sample))

/-- The divergences between the halves of a sample; one that raises counts as 0. -/
def bootstrapKls (gaussianKde : List ℝ → Option (ℝ → ℝ)) {components : Nat}
    (project : List ℝ → Fin components → ℝ) (sample : List (List ℝ)) : List ℝ :=
  let half := sample.length / 2
  if half < 2 then []
  else List.ofFn fun component =>
    max 0 ((klDivergenceKde gaussianKde ((sample.take half).map fun row => project row component)
      ((sample.drop half).map fun row => project row component) 100).getD 0)

structure BootstrapScores where
  js : List ℝ
  mmd : List ℝ
  kl : List ℝ

/-- The three loops. -/
def bootstrapScores (pca : List (List ℝ) → List ℝ → ℝ) (components : ComponentLibraries)
    (baseline : List (List ℝ)) (nBootstrap : Int) (draws : BootstrapDraws) :
    Except CalibrationError BootstrapScores := do
  let js ← ((List.range nBootstrap.toNat).mapM fun iteration =>
    bootstrapJs pca baseline (bootstrapSample baseline (draws.js iteration))).mapError .vector
  let mmd := (List.range (min nBootstrap 100).toNat).map fun iteration =>
    bootstrapMmd baseline (bootstrapSample baseline (draws.mmd iteration))
  match components.pca (min 10 (width baseline)) baseline with
  | none => .error .components
  | some project =>
      let actualKlIters := min nBootstrap (max 1 (baseline.length / 2 : Nat))
      let kl := (List.range actualKlIters.toNat).flatMap fun iteration =>
        bootstrapKls components.gaussianKde project (bootstrapSample baseline (draws.kl iteration))
      return ⟨js, mmd, if kl = [] then [0] else kl⟩

/-- Three standard deviations above the mean of each list. -/
def bootstrapThresholds (scores : BootstrapScores) : Thresholds ℝ where
  entries := [("js_divergence", sigmaBound (3 : Nat) scores.js),
    ("mmd_score", sigmaBound (3 : Nat) scores.mmd),
    ("per_component_kl", sigmaBound (3 : Nat) scores.kl)]
  distinct := by simp

/-- `calibrate_thresholds`; the averages of an empty list, for `n_bootstrap` below 1, are not
modelled. -/
def DriftMonitor.calibrateThresholds (monitor : DriftMonitor ℝ)
    (pca : List (List ℝ) → List ℝ → ℝ) (components : ComponentLibraries) (baseline : List (List ℝ))
    (nBootstrap : Int) (draws : BootstrapDraws) : Except CalibrationError (DriftMonitor ℝ) := do
  let scores ← bootstrapScores pca components baseline nBootstrap draws
  return { monitor with calibratedThresholds := bootstrapThresholds scores, calibrated := true }

variable {pca : List (List ℝ) → List ℝ → ℝ} {components : ComponentLibraries}
  {baseline : List (List ℝ)} {nBootstrap : Int} {draws : BootstrapDraws}
  {scores : BootstrapScores} {monitor calibrated : DriftMonitor ℝ}

theorem bootstrapJs_nonneg {sample : List (List ℝ)} {score : ℝ}
    (ran : bootstrapJs pca baseline sample = .ok score) : 0 ≤ score := by
  obtain ⟨masses, _, returned⟩ := bind_ok_iff.mp ran
  cases returned
  exact Real.sqrt_nonneg _

theorem bootstrapKls_nonneg (gaussianKde : List ℝ → Option (ℝ → ℝ)) {components : Nat}
    (project : List ℝ → Fin components → ℝ) (sample : List (List ℝ)) :
    ∀ kl ∈ bootstrapKls gaussianKde project sample, 0 ≤ kl := by
  intro kl inside
  unfold bootstrapKls at inside
  dsimp only at inside
  split at inside
  · cases inside
  · rw [List.mem_ofFn] at inside
    obtain ⟨component, same⟩ := inside
    rw [← same]
    exact le_max_left _ _

/-- What the loops collected. -/
theorem bootstrapScores_ok
    (ran : bootstrapScores pca components baseline nBootstrap draws = .ok scores) :
    ((List.range nBootstrap.toNat).mapM fun iteration =>
        bootstrapJs pca baseline (bootstrapSample baseline (draws.js iteration))) =
          .ok scores.js ∧
      scores.mmd = ((List.range (min nBootstrap 100).toNat).map fun iteration =>
        bootstrapMmd baseline (bootstrapSample baseline (draws.mmd iteration))) ∧
      ∀ kl ∈ scores.kl, 0 ≤ kl := by
  obtain ⟨js, drawn, rest⟩ := bind_ok_iff.mp ran
  have collected := mapError_ok_iff.mp drawn
  dsimp only at rest
  cases fitted : components.pca (min 10 (width baseline)) baseline with
  | none =>
      rw [fitted] at rest
      cases rest
  | some project =>
      rw [fitted] at rest
      cases rest
      refine ⟨collected, rfl, ?_⟩
      intro kl inside
      dsimp only at inside
      split at inside
      · simp at inside
        exact inside.ge
      · obtain ⟨iteration, _, made⟩ := List.mem_flatMap.mp inside
        exact bootstrapKls_nonneg _ project _ kl made

theorem width_append {rows : List (List ℝ)} (wide : width rows ≠ 0) (others : List (List ℝ)) :
    width (rows ++ others) = width rows := by
  cases rows with
  | nil => exact absurd rfl wide
  | cons first rest => rfl

theorem bootstrapJs_total (pca : List (List ℝ) → List ℝ → ℝ) (wide : width baseline ≠ 0)
    (sample : List (List ℝ)) : ∃ score, bootstrapJs pca baseline sample = .ok score := by
  have combined : width (baseline ++ sample) ≠ 0 := by rwa [width_append wide]
  rw [bootstrapJs, jensenShannonDistributions, if_neg combined]
  dsimp only
  split <;> exact ⟨_, rfl⟩

/-- Where the PCA finds components, the loops raise nothing. -/
theorem bootstrapScores_total (wide : width baseline ≠ 0)
    (fitted : (components.pca (min 10 (width baseline)) baseline).isSome) :
    ∃ scores, bootstrapScores pca components baseline nBootstrap draws = .ok scores := by
  obtain ⟨project, fitted⟩ := Option.isSome_iff_exists.mp fitted
  have each : ∀ iteration ∈ List.range nBootstrap.toNat, ∃ score,
      bootstrapJs pca baseline (bootstrapSample baseline (draws.js iteration)) = .ok score :=
    fun iteration _ => bootstrapJs_total pca wide _
  obtain ⟨js, drawn⟩ := Exceptions.mapM_ok each
  rw [bootstrapScores, mapError_ok_iff.mpr drawn]
  dsimp only [bind, Except.bind]
  rw [fitted]
  exact ⟨_, rfl⟩

theorem bootstrapScores_nonneg
    (ran : bootstrapScores pca components baseline nBootstrap draws = .ok scores) :
    (∀ js ∈ scores.js, 0 ≤ js) ∧ (∀ mmd ∈ scores.mmd, 0 ≤ mmd) ∧ ∀ kl ∈ scores.kl, 0 ≤ kl := by
  obtain ⟨collected, mmds, kls⟩ := bootstrapScores_ok ran
  refine ⟨?_, ?_, kls⟩
  · intro js inside
    obtain ⟨iteration, _, drawn⟩ := Exceptions.exists_of_mem_results collected inside
    exact bootstrapJs_nonneg drawn
  · intro mmd inside
    rw [mmds] at inside
    obtain ⟨iteration, _, same⟩ := List.mem_map.mp inside
    rw [← same]
    exact Real.sqrt_nonneg _

/-- Whether `compute_jensen_shannon_drift` reports drift. -/
def jsAlarm (monitor : DriftMonitor ℝ) (pca : List (List ℝ) → List ℝ → ℝ)
    (baseline current : List (List ℝ)) : Bool :=
  match monitor.computeJensenShannonDrift pca baseline current with
  | .ok (_, isDrifted) => isDrifted
  | .error _ => false

theorem calibrateThresholds_ok
    (ran : monitor.calibrateThresholds pca components baseline nBootstrap draws =
      .ok calibrated) :
    ∃ scores, bootstrapScores pca components baseline nBootstrap draws = .ok scores ∧
      calibrated.getThreshold "js_divergence" = sigmaBound 3 scores.js ∧
      calibrated.getThreshold "mmd_score" = sigmaBound 3 scores.mmd ∧
      calibrated.getThreshold "per_component_kl" = sigmaBound 3 scores.kl := by
  obtain ⟨scores, drawn, returned⟩ := bind_ok_iff.mp ran
  cases returned
  exact ⟨scores, drawn, rfl, rfl, rfl⟩

theorem calibrateThresholds_nonneg
    (ran : monitor.calibrateThresholds pca components baseline nBootstrap draws =
      .ok calibrated) :
    0 ≤ calibrated.getThreshold "js_divergence" ∧ 0 ≤ calibrated.getThreshold "mmd_score" ∧
      0 ≤ calibrated.getThreshold "per_component_kl" := by
  obtain ⟨scores, drawn, js, mmd, kl⟩ := calibrateThresholds_ok ran
  obtain ⟨jsScores, mmdScores, klScores⟩ := bootstrapScores_nonneg drawn
  have three : (0 : ℝ) ≤ 3 := by norm_num
  rw [js, mmd, kl]
  exact ⟨sigmaBound_nonneg three jsScores, sigmaBound_nonneg three mmdScores,
    sigmaBound_nonneg three klScores⟩

theorem calibrateThresholds_total (monitor : DriftMonitor ℝ) (wide : width baseline ≠ 0)
    (fitted : (components.pca (min 10 (width baseline)) baseline).isSome) :
    ∃ calibrated, monitor.calibrateThresholds pca components baseline nBootstrap draws =
      .ok calibrated := by
  obtain ⟨scores, drawn⟩ : ∃ scores,
      bootstrapScores pca components baseline nBootstrap draws = .ok scores :=
    bootstrapScores_total wide fitted
  rw [DriftMonitor.calibrateThresholds, drawn]
  exact ⟨_, rfl⟩

theorem computeJensenShannonDrift_eq (pca : List (List ℝ) → List ℝ → ℝ)
    (baseline current : List (List ℝ)) :
    monitor.computeJensenShannonDrift pca baseline current =
      (bootstrapJs pca baseline current).map fun score =>
        (score, monitor.isDrifted score 0 0) := by
  unfold DriftMonitor.computeJensenShannonDrift bootstrapJs
  cases jensenShannonDistributions pca baseline current <;> rfl

theorem isDrifted_js (mmd : 0 ≤ monitor.getThreshold "mmd_score")
    (kl : 0 ≤ monitor.getThreshold "per_component_kl") (score : ℝ) :
    monitor.isDrifted score 0 0 = decide (monitor.getThreshold "js_divergence" < score) := by
  simp only [DriftMonitor.isDrifted, not_lt.mpr mmd, not_lt.mpr kl, or_false]

/-- The alarms over the samples a list of scores comes from. -/
theorem jsAlarm_count {samples : List (List (List ℝ))} {js : List ℝ}
    (collected : samples.mapM (bootstrapJs pca baseline) = .ok js)
    (mmd : 0 ≤ monitor.getThreshold "mmd_score")
    (kl : 0 ≤ monitor.getThreshold "per_component_kl") :
    (samples.filter (jsAlarm monitor pca baseline)).length =
      countAbove (monitor.getThreshold "js_divergence") js := by
  have related := mapM_ok_iff.mp collected
  induction related with
  | nil => rfl
  | cons here later ih =>
      rename_i sample score rest scores
      have alarm : jsAlarm monitor pca baseline sample =
          decide (monitor.getThreshold "js_divergence" < score) := by
        rw [jsAlarm, computeJensenShannonDrift_eq, here]
        exact isDrifted_js mmd kl score
      have tail := ih (mapM_ok_iff.mpr later)
      rw [countAbove] at tail ⊢
      rw [List.filter_cons, List.filter_cons, alarm]
      split
      · rw [List.length_cons, List.length_cons, tail]
      · exact tail

/-- Three standard deviations leave a tenth at most. -/
theorem countAbove_tenth (values : List ℝ) :
    countAbove (sigmaBound 3 values) values * 10 ≤ values.length := by
  have counted := countAbove_sigmaBound (k := 3) (by norm_num) values
  have whole : (1 + 3 ^ 2 : ℝ) = 10 := by norm_num
  rw [whole] at counted
  exact_mod_cast counted

/-- Thresholds that are not negative raise no alarm for the baseline in another order. -/
theorem reordered_quiet {current : List (List ℝ)} (reordered : baseline.Perm current)
    (wide : width baseline ≠ 0) (js : 0 ≤ monitor.getThreshold "js_divergence")
    (mmd : 0 ≤ monitor.getThreshold "mmd_score")
    (kl : 0 ≤ monitor.getThreshold "per_component_kl") :
    monitor.computeJensenShannonDrift pca baseline current = .ok (0, false) ∧
      ∀ {S : Type} (permutations : Draws S),
        monitor.computeMmdDrift baseline current permutations = (0, 1, false) := by
  constructor
  · have combined : width (baseline ++ current) ≠ 0 := by rwa [width_append wide]
    obtain ⟨p, same⟩ := jensenShannonDistributions_perm pca reordered combined
    rw [DriftMonitor.computeJensenShannonDrift, same]
    show Except.ok (jensenshannon p p, monitor.isDrifted (jensenshannon p p) 0 0) = _
    rw [jensenshannon_self, isDrifted_js mmd kl, decide_eq_false (not_lt.mpr js)]
  · intro S permutations
    exact computeMmdDrift_perm permutations reordered mmd

/-- At most every tenth bootstrap sample lies above a threshold that `calibrate_thresholds` takes
from them, and no threshold is exceeded by the baseline itself, in any order of its rows. -/
theorem bootstrap_alarms
    (ran : monitor.calibrateThresholds pca components baseline nBootstrap draws =
      .ok calibrated) :
    (((List.range nBootstrap.toNat).map fun iteration =>
        bootstrapSample baseline (draws.js iteration)).filter
          (jsAlarm calibrated pca baseline)).length * 10 ≤ nBootstrap.toNat ∧
      (((List.range (min nBootstrap 100).toNat).map fun iteration =>
        bootstrapSample baseline (draws.mmd iteration)).filter fun sample =>
          calibrated.getThreshold "mmd_score" < bootstrapMmd baseline sample).length * 10 ≤
            (min nBootstrap 100).toNat ∧
      (∃ scores, bootstrapScores pca components baseline nBootstrap draws = .ok scores ∧
        countAbove (calibrated.getThreshold "per_component_kl") scores.kl * 10 ≤
          scores.kl.length) ∧
      ∀ current, baseline.Perm current → width baseline ≠ 0 →
        calibrated.computeJensenShannonDrift pca baseline current = .ok (0, false) ∧
          ∀ {S : Type} (permutations : Draws S),
            calibrated.computeMmdDrift baseline current permutations = (0, 1, false) := by
  obtain ⟨scores, drawn, js, mmd, kl⟩ := calibrateThresholds_ok ran
  obtain ⟨collected, mmds, _⟩ := bootstrapScores_ok drawn
  obtain ⟨jsBound, mmdBound, klBound⟩ := calibrateThresholds_nonneg ran
  refine ⟨?_, ?_, ⟨scores, drawn, ?_⟩, ?_⟩
  · have samples : ((List.range nBootstrap.toNat).map fun iteration =>
        bootstrapSample baseline (draws.js iteration)).mapM (bootstrapJs pca baseline) =
          .ok scores.js := by
      rw [List.mapM_map]
      exact collected
    have lengths := (mapM_ok_iff.mp samples).length_eq
    rw [List.length_map, List.length_range] at lengths
    rw [jsAlarm_count samples mmdBound klBound, js, lengths]
    exact countAbove_tenth scores.js
  · have lengths := congrArg List.length mmds
    rw [List.length_map, List.length_range] at lengths
    have counted := countAbove_tenth scores.mmd
    rw [lengths, ← mmd, mmds, countAbove_map] at counted
    rw [List.filter_map, List.length_map]
    exact counted
  · rw [kl]
    exact countAbove_tenth scores.kl
  · intro current reordered wide
    exact reordered_quiet reordered wide jsBound mmdBound klBound

/-- Of the splits that a baseline window is calibrated on, at most one in `1 + k_sigma ^ 2`
exceeds a threshold. -/
theorem split_alarms {service : DynamicBaselineService} {frames : List (RAGEvaluationFrame ℝ)}
    {kSigma : ℝ} (nonneg : 0 ≤ kSigma) {iterations : Int} {shuffles : Nat → Shuffle}
    {thresholds : Thresholds ℝ}
    (ran : service.computeCalibratedThresholds frames kSigma iterations shuffles =
      .ok thresholds) :
    ∀ metric ∈ calibratedMetrics, ∀ bound, thresholds.get? metric.1 = some bound →
      ∃ measured, (DynamicBaselineService.splits frames iterations shuffles).mapM
          service.measure = .ok measured ∧
        (measured.filter fun split => bound < metric.2 split).length * (1 + kSigma ^ 2) ≤
          (DynamicBaselineService.splits frames iterations shuffles).length := by
  intro metric inside bound found
  unfold DynamicBaselineService.computeCalibratedThresholds at ran
  split at ran
  · cases ran
    cases found
  · obtain ⟨measured, iterated, returned⟩ := bind_ok_iff.mp ran
    cases returned
    refine ⟨measured, iterated, ?_⟩
    obtain ⟨_, other, listed, same⟩ := mem_calibrate_iff.mp (Json.mem_of_lookup found)
    have key : metric = other := by
      have names := congrArg Prod.fst same
      exact List.inj_on_of_nodup_map calibratedMetrics_distinct inside listed names.symm
    subst key
    have value : sigmaBound kSigma (measured.map metric.2) = bound := congrArg Prod.snd same
    have counted := countAbove_sigmaBound nonneg (measured.map metric.2)
    rw [value, countAbove_map, List.length_map, ← (mapM_ok_iff.mp iterated).length_eq] at counted
    exact counted

def fourRows : List (List ℝ) := [[0], [1], [(2 : ℕ)], [(3 : ℕ)]]

/-- Every other iteration draws the first row only. -/
def alternatingDraw (iteration : Nat) (n : Nat) (place : Fin n) : Fin n :=
  if iteration % 2 = 0 then place else ⟨0, Nat.zero_lt_of_lt place.isLt⟩

def alternating : BootstrapDraws := ⟨alternatingDraw, alternatingDraw, alternatingDraw⟩

def plainMonitor : DriftMonitor ℝ := .ofConfig plainService.config

theorem bootstrapMmd_fourRows : 0 < bootstrapMmd fourRows [[0], [0], [0], [0]] := by
  have positive := medianGamma_pos fourRows [[0], [0], [0], [0]]
  rw [bootstrapMmd, Real.sqrt_pos]
  generalize medianGamma fourRows [[0], [0], [0], [0]] = gamma at positive
  have near : Real.exp (-gamma) < 1 := Real.exp_lt_one_iff.mpr (by linarith)
  have middle : Real.exp (-(gamma * 4)) < 1 := Real.exp_lt_one_iff.mpr (by linarith)
  have far : Real.exp (-(gamma * 9)) < 1 := Real.exp_lt_one_iff.mpr (by linarith)
  apply lt_max_of_lt_right
  simp [rbfKernel, cdist, fourRows, sqeuclidean, Numeric.mean]
  norm_num
  linarith

/-- The second iteration of the loop is the first with a distance. -/
theorem alternating_threshold {calibrated : DriftMonitor ℝ}
    (ran : plainMonitor.calibrateThresholds firstAxis plainService.components fourRows 20
      alternating = .ok calibrated) : 0 < calibrated.getThreshold "mmd_score" := by
  obtain ⟨scores, drawn, _, bound, _⟩ := calibrateThresholds_ok ran
  have collected := (bootstrapScores_ok drawn).2.1
  have all := (bootstrapScores_nonneg drawn).2.1
  rw [bound]
  refine sigmaBound_pos (by norm_num) all ?_ bootstrapMmd_fourRows
  rw [collected]
  exact List.mem_map.mpr ⟨1, by decide, rfl⟩

theorem bootstrap_alarms_fourRows : ∃ calibrated,
    plainMonitor.calibrateThresholds firstAxis plainService.components fourRows 20 alternating =
        .ok calibrated ∧
      0 < calibrated.getThreshold "mmd_score" ∧
      (((List.range (20 : Int).toNat).map fun iteration =>
        bootstrapSample fourRows (alternating.js iteration)).filter
          (jsAlarm calibrated firstAxis fourRows)).length * 10 ≤ (20 : Int).toNat := by
  obtain ⟨calibrated, ran⟩ : ∃ calibrated, plainMonitor.calibrateThresholds firstAxis
      plainService.components fourRows 20 alternating = .ok calibrated :=
    calibrateThresholds_total plainMonitor Nat.one_ne_zero rfl
  exact ⟨calibrated, ran, alternating_threshold ran, (bootstrap_alarms ran).1⟩

/-- The bound of the traced window for the transition entropy. -/
def tracedEntropyBound : ℝ :=
  sigmaBound 2.0 (((DynamicBaselineService.splits tracedWindow 20 fun _ =>
    unshuffledIteration).map plainService.recorded).map SplitStatistics.transitionEntropyDelta)

theorem get?_tracedThresholds :
    tracedThresholds.get? "swarm_entropy_threshold" = some tracedEntropyBound := by
  have drawn : (DynamicBaselineService.splits tracedWindow 20 fun _ =>
      unshuffledIteration).map plainService.recorded ≠ [] := by
    simp [DynamicBaselineService.splits, drawnSplits, tracedWindow]
  simp [tracedThresholds, Thresholds.get?, calibrate, calibratedMetrics, drawn, Json.lookup_cons,
    tracedEntropyBound]

theorem split_alarms_traced :
    ∃ measured, (DynamicBaselineService.splits tracedWindow 20 fun _ =>
        unshuffledIteration).mapM plainService.measure = .ok measured ∧
      (measured.filter fun split =>
        tracedEntropyBound < split.transitionEntropyDelta).length * (1 + 2.0 ^ 2 : ℝ) ≤
        (DynamicBaselineService.splits tracedWindow 20 fun _ => unshuffledIteration).length :=
  split_alarms (by norm_num) computeCalibratedThresholds_traced
    ("swarm_entropy_threshold", SplitStatistics.transitionEntropyDelta) entropy_calibrated
    tracedEntropyBound get?_tracedThresholds

end

end RagDrift.Monitor
