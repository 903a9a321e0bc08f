import RagDrift.Monitor.ComponentDrift
import RagDrift.Monitor.Reordered
import RagDrift.Python.Exceptions

set_option autoImplicit false

/- `evaluator.baseline_service`: thresholds from random splits of a baseline window. -/
namespace RagDrift.Monitor

open Drift (matrixEntropy transitionMatrix seenAgents hopPairs countHop entries)
open Exceptions (bind_ok_iff mapM_eq_ok_map eq_map_of_mapM)
open Numeric (mean amax sigmaBound)
open Telemetry (RAGEvaluationFrame)

/-- What one iteration draws: the order in which `random.shuffle` leaves a list of any length,
and the permutations of `compute_mmd_drift`. -/
structure Shuffle where
  order : (n : Nat) → Equiv.Perm (Fin n)
  draws : Draws Unit

structure Split where
  first : List (RAGEvaluationFrame ℝ)
  second : List (RAGEvaluationFrame ℝ)
  draws : Draws Unit

/-- `random.shuffle(frames)`. -/
def shuffleFrames {A : Type} (frames : List A) (order : Equiv.Perm (Fin frames.length)) :
    List A :=
  List.ofFn fun place => frames.get (order place)

/-- Each iteration shuffles the list the one before left behind. -/
def drawnSplits : List Shuffle → List (RAGEvaluationFrame ℝ) → List Split
  | [], _ => []
  | shuffle :: later, before =>
      let frames := shuffleFrames before (shuffle.order before.length)
      let mid := frames.length / 2
      ⟨frames.take mid, frames.drop mid, shuffle.draws⟩ :: drawnSplits later frames

theorem shuffleFrames_perm {A : Type} (frames : List A)
    (order : Equiv.Perm (Fin frames.length)) : (shuffleFrames frames order).Perm frames := by
  have reordered := order.ofFn_comp_perm frames.get
  rwa [List.ofFn_get] at reordered

/-- The two halves of every split are the window in some order. -/
theorem drawnSplits_perm {shuffles : List Shuffle} {frames : List (RAGEvaluationFrame ℝ)} :
    ∀ split ∈ drawnSplits shuffles frames, (split.first ++ split.second).Perm frames := by
  induction shuffles generalizing frames with
  | nil => nofun
  | cons shuffle later ih =>
      have shuffled := shuffleFrames_perm frames (shuffle.order frames.length)
      intro split drawn
      rcases List.mem_cons.mp drawn with rfl | drawnLater
      · rw [List.take_append_drop]
        exact shuffled
      · exact (ih split drawnLater).trans shuffled

/-- What an iteration appends to the five lists. -/
structure SplitStatistics where
  jsDivergence : ℝ
  mmdScore : ℝ
  perComponentKl : ℝ
  spectralDistance : ℝ
  transitionEntropyDelta : ℝ

/-- The settings that a `DriftMonitor` and the service read. -/
structure EvaluatorConfig where
  driftThreshold : ℝ
  mmdThreshold : ℝ
  perComponentKlThreshold : ℝ
  minBaselineFrames : Int

/-- The service with the libraries it calls. -/
structure DynamicBaselineService where
  config : EvaluatorConfig
  runtime : Runtime ℝ
  pca : List (List ℝ) → List ℝ → ℝ
  components : ComponentLibraries

/-- The lists that are averaged, under the names of their thresholds. -/
def calibratedMetrics : List (String × (SplitStatistics → ℝ)) :=
  [("vector_jsd_threshold", SplitStatistics.jsDivergence),
    ("vector_mmd_threshold", SplitStatistics.mmdScore),
    ("vector_per_component_kl_threshold", SplitStatistics.perComponentKl),
    ("graph_spectral_threshold", SplitStatistics.spectralDistance),
    ("swarm_entropy_threshold", SplitStatistics.transitionEntropyDelta)]

theorem calibratedMetrics_distinct : (calibratedMetrics.map Prod.fst).Nodup := by
  simp [calibratedMetrics]

theorem kl_calibrated :
    ("vector_per_component_kl_threshold", SplitStatistics.perComponentKl) ∈ calibratedMetrics := by
  simp [calibratedMetrics]

theorem entropy_calibrated :
    ("swarm_entropy_threshold", SplitStatistics.transitionEntropyDelta) ∈ calibratedMetrics := by
  simp [calibratedMetrics]

noncomputable section

/-- `DriftMonitor(store, notifier=None)`. -/
def DriftMonitor.ofConfig (config : EvaluatorConfig) : DriftMonitor ℝ where
  threshold := config.driftThreshold
  mmdThreshold := config.mmdThreshold
  perComponentKlThreshold := config.perComponentKlThreshold
  calibratedThresholds := .empty
  calibrated := false
  graphCalculator := ⟨0.5, 0.1, 5⟩
  swarmCalculator := ⟨0.5, 1⟩
  savedThresholds := none

/-- `_calibrate` for each list, unless there was no iteration and all lists are empty. -/
def calibrate (kSigma : ℝ) (measured : List SplitStatistics) : Thresholds ℝ where
  entries :=
    if measured = [] then []
    else calibratedMetrics.map fun (metric, statistic) =>
      (metric, sigmaBound kSigma (measured.map statistic))
  distinct := by
    split
    · exact List.nodup_nil
    · rw [List.map_map]
      exact calibratedMetrics_distinct

theorem mem_calibrate_iff {kSigma : ℝ} {measured : List SplitStatistics} {entry : String × ℝ} :
    entry ∈ (calibrate kSigma measured).entries ↔ measured ≠ [] ∧
      ∃ metric ∈ calibratedMetrics,
        (metric.1, sigmaBound kSigma (measured.map metric.2)) = entry := by
  by_cases nothing : measured = []
  · simp [calibrate, nothing]
  · simp only [calibrate, nothing, if_false, List.mem_map, ne_eq, not_false_iff, true_and]

/-- What the verdicts of a calibrated monitor compare with. No name of a threshold is one of the
names that `_get_threshold` looks for. -/
theorem applied_thresholds (monitor : DriftMonitor ℝ) (kSigma : ℝ)
    {measured : List SplitStatistics} (some : measured ≠ []) :
    let calibrated := monitor.applyCalibratedThresholds (calibrate kSigma measured)
    calibrated.getThreshold "js_divergence" =
        sigmaBound kSigma (measured.map SplitStatistics.jsDivergence) ∧
      calibrated.getThreshold "mmd_score" =
        sigmaBound kSigma (measured.map SplitStatistics.mmdScore) ∧
      calibrated.getThreshold "per_component_kl" =
        sigmaBound kSigma (measured.map SplitStatistics.perComponentKl) ∧
      calibrated.graphCalculator.spectralThreshold =
        sigmaBound kSigma (measured.map SplitStatistics.spectralDistance) ∧
      calibrated.swarmCalculator.entropyThreshold =
        sigmaBound kSigma (measured.map SplitStatistics.transitionEntropyDelta) := by
  have entries : (calibrate kSigma measured).entries = calibratedMetrics.map
      fun (metric, statistic) => (metric, sigmaBound kSigma (measured.map statistic)) := if_neg some
  have filled : (calibrate kSigma measured).entries ≠ [] := by
    simp [entries, calibratedMetrics]
  rw [DriftMonitor.applyCalibratedThresholds, if_neg filled]
  simp only [DriftMonitor.getThreshold, Thresholds.getD, Thresholds.get?, entries]
  exact ⟨rfl, rfl, rfl, rfl, rfl⟩

namespace DynamicBaselineService

variable (service : DynamicBaselineService)

/-- The `try` block of an iteration. -/
def componentDrift (split : Split) : Option (ℝ × ℝ × Bool) :=
  match collectVectorEmbeddings split.first, collectVectorEmbeddings split.second with
  | .ok (some bVecs), .ok (some cVecs) =>
      if width bVecs = width cVecs then
        (DriftMonitor.ofConfig service.config).computePerComponentDrift service.components
          bVecs cVecs
      else none
  | _, _ => none

def meanKl (split : Split) : ℝ :=
  match service.componentDrift split with
  | some (_, meanKl, _) => meanKl
  | none => 0

/-- One iteration. -/
def measure (split : Split) : Except VectorError SplitStatistics := do
  let monitor := DriftMonitor.ofConfig service.config
  let vectorResult ← monitor.evaluateVectorDrift service.pca split.first split.second split.draws
  let graphResult := monitor.evaluateGraphDrift service.runtime split.first split.second
  let swarmResult := monitor.evaluateSwarmDrift split.first split.second
  return {
    jsDivergence := vectorResult.jsDivergence
    mmdScore := vectorResult.mmdScore
    perComponentKl := service.meanKl split
    spectralDistance := graphResult.spectralDistance
    transitionEntropyDelta := swarmResult.transitionEntropyDelta }

/-- The splits of a call; the length of the window bounds their number. -/
def splits (baselineFrames : List (RAGEvaluationFrame ℝ)) (iterations : Int)
    (draws : Nat → Shuffle) : List Split :=
  let actualIters := min iterations (baselineFrames.length / 2)
  drawnSplits ((List.range actualIters.toNat).map draws) baselineFrames

/-- `compute_calibrated_thresholds`. -/
def computeCalibratedThresholds (baselineFrames : List (RAGEvaluationFrame ℝ)) (kSigma : ℝ)
    (iterations : Int) (draws : Nat → Shuffle) : Except VectorError (Thresholds ℝ) :=
  if baselineFrames.length < service.config.minBaselineFrames then .ok .empty
  else do
    let measured ← (splits baselineFrames iterations draws).mapM service.measure
    return calibrate kSigma measured

end DynamicBaselineService

section Measured

variable {S : Type} {monitor : DriftMonitor ℝ} {pca : List (List ℝ) → List ℝ → ℝ}
  {F G : List (RAGEvaluationFrame ℝ)} {draws : Draws S} {result : VectorDrift ℝ}

theorem computeJensenShannonDrift_nonneg {baseline current : List (List ℝ)} {score : ℝ × Bool}
    (ran : monitor.computeJensenShannonDrift pca baseline current = .ok score) : 0 ≤ score.1 := by
  obtain ⟨masses, _, returned⟩ := bind_ok_iff.mp ran
  cases returned
  exact Real.sqrt_nonneg _

theorem evaluateVectorDrift_nonneg
    (ran : monitor.evaluateVectorDrift pca F G draws = .ok result) :
    0 ≤ result.jsDivergence ∧ 0 ≤ result.mmdScore := by
  obtain ⟨baselineVectors, _, ran⟩ := bind_ok_iff.mp ran
  obtain ⟨currentVectors, _, ran⟩ := bind_ok_iff.mp ran
  split at ran
  · split at ran
    · cases ran
      exact ⟨le_refl 0, le_refl 0⟩
    · obtain ⟨score, scored, ran⟩ := bind_ok_iff.mp ran
      have js := computeJensenShannonDrift_nonneg scored
      dsimp only at ran
      split at ran
      · cases ran
        exact ⟨js, le_refl 0⟩
      · cases ran
        exact ⟨js, Real.sqrt_nonneg _⟩
  · cases ran
    exact ⟨le_refl 0, le_refl 0⟩

theorem OneDimension.left (oneDim : OneDimension (F ++ G)) : OneDimension F := by
  obtain ⟨dimension, all⟩ := oneDim
  refine ⟨dimension, fun row inside => all row ?_⟩
  rw [frameVectors, List.filterMap_append, List.filter_append]
  exact List.mem_append_left _ inside

theorem OneDimension.right (oneDim : OneDimension (F ++ G)) : OneDimension G :=
  (oneDim.perm List.perm_append_comm).left

/-- Embeddings of one dimension in each window raise nothing. -/
theorem evaluateVectorDrift_total (before : OneDimension F) (after : OneDimension G) :
    ∃ result, monitor.evaluateVectorDrift pca F G draws = .ok result := by
  rw [DriftMonitor.evaluateVectorDrift, collectVectorEmbeddings_eq before,
    collectVectorEmbeddings_eq after]
  by_cases noBaseline : frameVectors F = []
  · simp only [noBaseline, if_true]
    exact ⟨_, rfl⟩
  by_cases noCurrent : frameVectors G = []
  · simp only [noBaseline, noCurrent, if_true, if_false]
    exact ⟨_, rfl⟩
  simp only [noBaseline, noCurrent, if_false, bind, Except.bind]
  split
  · exact ⟨_, rfl⟩
  · have wide := width_frameVectors noBaseline (frameVectors G)
    have scored : ∃ score, monitor.computeJensenShannonDrift pca (frameVectors F)
        (frameVectors G) = .ok score := by
      rw [DriftMonitor.computeJensenShannonDrift, jensenShannonDistributions, if_neg wide]
      dsimp only
      split <;> exact ⟨_, rfl⟩
    obtain ⟨score, scored⟩ := scored
    rw [scored]
    dsimp only
    split <;> exact ⟨_, rfl⟩

theorem evaluateGraphDrift_nonneg (runtime : Runtime ℝ) (monitor : DriftMonitor ℝ)
    (F G : List (RAGEvaluationFrame ℝ)) :
    0 ≤ (monitor.evaluateGraphDrift runtime F G).spectralDistance := by
  rw [DriftMonitor.evaluateGraphDrift]
  split
  · exact le_refl 0
  · show 0 ≤ Drift.spectralDistance _ _ _
    rw [Drift.spectralDistance]
    split
    · exact le_refl 0
    · exact Real.sqrt_nonneg _

namespace Split

variable (split : Split)

/-- The agents of both halves. -/
def agents : List String := seenAgents (frameTraces split.first ++ frameTraces split.second)

/-- How scattered the hops of the first half are. -/
def entropyBefore : ℝ := matrixEntropy (transitionMatrix (frameTraces split.first) split.agents)

def entropyAfter : ℝ := matrixEntropy (transitionMatrix (frameTraces split.second) split.agents)

end Split

/-- The delta is signed; without a trace there is nothing to scatter. -/
theorem evaluateSwarmDrift_delta (monitor : DriftMonitor ℝ) (split : Split) :
    (monitor.evaluateSwarmDrift split.first split.second).transitionEntropyDelta =
      split.entropyAfter - split.entropyBefore := by
  rw [DriftMonitor.evaluateSwarmDrift]
  split
  · rename_i untraced
    rw [Split.entropyAfter, Split.entropyBefore, untraced.1, untraced.2, sub_self]
    rfl
  · rfl

end Measured

namespace DynamicBaselineService

variable (service : DynamicBaselineService) {split : Split} {measured : SplitStatistics}

/-- The divergences of the components of a split; none where they cannot be computed. -/
def splitKls (split : Split) : List ℝ :=
  match collectVectorEmbeddings split.first, collectVectorEmbeddings split.second with
  | .ok (some bVecs), .ok (some cVecs) =>
      if width bVecs = width cVecs then (klDivergences service.components bVecs cVecs).getD []
      else []
  | _, _ => []

theorem componentDrift_cases (split : Split) :
    service.componentDrift split = none ∧ service.splitKls split = [] ∨
      ∃ drifted, service.componentDrift split =
        some (amax (service.splitKls split), mean (service.splitKls split), drifted) := by
  unfold componentDrift splitKls
  split
  · split
    · rw [computePerComponentDrift_eq]
      cases klDivergences service.components _ _ with
      | none =>
          left
          exact ⟨rfl, rfl⟩
      | some kls =>
          right
          exact ⟨_, rfl⟩
    · left
      exact ⟨rfl, rfl⟩
  · left
    exact ⟨rfl, rfl⟩

theorem meanKl_eq (split : Split) : service.meanKl split = mean (service.splitKls split) := by
  unfold meanKl
  rcases service.componentDrift_cases split with ⟨failed, nothing⟩ | ⟨drifted, found⟩
  · simp [failed, nothing, mean]
  · rw [found]

/-- What `_evaluate_vector_drift` returns for a split, if it returns. -/
def splitVectorDrift (split : Split) : VectorDrift ℝ :=
  let monitor := DriftMonitor.ofConfig service.config
  (monitor.evaluateVectorDrift service.pca split.first split.second split.draws).toOption.getD .none

def splitSpectralDistance (split : Split) : ℝ :=
  ((DriftMonitor.ofConfig service.config).evaluateGraphDrift service.runtime split.first
    split.second).spectralDistance

/-- What an iteration appends, if it raises nothing. -/
def recorded (split : Split) : SplitStatistics where
  jsDivergence := (service.splitVectorDrift split).jsDivergence
  mmdScore := (service.splitVectorDrift split).mmdScore
  perComponentKl := mean (service.splitKls split)
  spectralDistance := service.splitSpectralDistance split
  transitionEntropyDelta := split.entropyAfter - split.entropyBefore

variable {service}

theorem splitVectorDrift_eq {result : VectorDrift ℝ}
    (ran : (DriftMonitor.ofConfig service.config).evaluateVectorDrift service.pca split.first
      split.second split.draws = .ok result) : service.splitVectorDrift split = result := by
  rw [splitVectorDrift, ran]
  rfl

theorem splitVectorDrift_nonneg (split : Split) :
    0 ≤ (service.splitVectorDrift split).jsDivergence ∧
      0 ≤ (service.splitVectorDrift split).mmdScore := by
  cases ran : (DriftMonitor.ofConfig service.config).evaluateVectorDrift service.pca split.first
      split.second split.draws with
  | error reason =>
      rw [splitVectorDrift, ran]
      exact ⟨le_refl 0, le_refl 0⟩
  | ok result =>
      rw [splitVectorDrift_eq ran]
      exact evaluateVectorDrift_nonneg ran

theorem measure_ok (ran : service.measure split = .ok measured) :
    measured = service.recorded split := by
  obtain ⟨result, evaluated, returned⟩ := bind_ok_iff.mp ran
  cases returned
  simp only [recorded, splitVectorDrift_eq evaluated, meanKl_eq, evaluateSwarmDrift_delta,
    splitSpectralDistance]

theorem measure_total (oneDim : OneDimension (split.first ++ split.second)) :
    service.measure split = .ok (service.recorded split) := by
  obtain ⟨result, ran⟩ : ∃ result, (DriftMonitor.ofConfig service.config).evaluateVectorDrift
      service.pca split.first split.second split.draws = .ok result :=
    evaluateVectorDrift_total oneDim.left oneDim.right
  have returned : ∃ measured, service.measure split = .ok measured :=
    ⟨_, bind_ok_iff.mpr ⟨result, ran, rfl⟩⟩
  obtain ⟨measured, returned⟩ := returned
  rw [returned, measure_ok returned]

variable {frames : List (RAGEvaluationFrame ℝ)} {kSigma : ℝ} {iterations : Int}
  {draws : Nat → Shuffle} {thresholds : Thresholds ℝ}

theorem splits_perm (drawn : split ∈ splits frames iterations draws) :
    (split.first ++ split.second).Perm frames :=
  drawnSplits_perm split drawn

/-- Thresholds that are returned come from the statistics of all splits. -/
theorem computeCalibratedThresholds_ok (enough : service.config.minBaselineFrames ≤ frames.length)
    (ran : service.computeCalibratedThresholds frames kSigma iterations draws = .ok thresholds) :
    thresholds = calibrate kSigma ((splits frames iterations draws).map service.recorded) := by
  rw [computeCalibratedThresholds, if_neg (not_lt.mpr enough)] at ran
  obtain ⟨measured, iterated, returned⟩ := bind_ok_iff.mp ran
  cases returned
  rw [eq_map_of_mapM (fun _ _ => measure_ok) iterated]

/-- A window of one dimension is calibrated whatever is drawn. -/
theorem computeCalibratedThresholds_total
    (enough : service.config.minBaselineFrames ≤ frames.length) (oneDim : OneDimension frames) :
    service.computeCalibratedThresholds frames kSigma iterations draws =
      .ok (calibrate kSigma ((splits frames iterations draws).map service.recorded)) := by
  have each : ∀ split ∈ splits frames iterations draws,
      service.measure split = .ok (service.recorded split) := by
    intro split drawn
    exact measure_total (oneDim.perm (splits_perm drawn).symm)
  rw [computeCalibratedThresholds, if_neg (not_lt.mpr enough), mapM_eq_ok_map each]
  rfl

end DynamicBaselineService

def unshuffledIteration : Shuffle := ⟨fun _ => 1, unshuffled⟩

theorem shuffleFrames_one {A : Type} (frames : List A) : shuffleFrames frames 1 = frames :=
  List.ofFn_get frames

theorem drawnSplits_unshuffled (count : Nat) (frames : List (RAGEvaluationFrame ℝ)) :
    drawnSplits (List.replicate count unshuffledIteration) frames =
      List.replicate count
        ⟨frames.take (frames.length / 2), frames.drop (frames.length / 2), unshuffled⟩ := by
  induction count with
  | zero => rfl
  | succ count ih =>
      rw [List.replicate_succ, drawnSplits]
      simp only [unshuffledIteration, shuffleFrames_one]
      rw [← unshuffledIteration, ih, List.replicate_succ]

def textFrame : RAGEvaluationFrame ℝ := ⟨⟨none⟩, ⟨none, none⟩, ⟨none, 0⟩, ⟨none⟩⟩

def tracedFrame : RAGEvaluationFrame ℝ :=
  { textFrame with metadata := ⟨some ["retriever", "retriever", "writer"], 0⟩ }

/-- Only the first frame has a trace. -/
def tracedWindow : List (RAGEvaluationFrame ℝ) := tracedFrame :: List.replicate 19 textFrame

/-- Scott's rule, for a sample of at least two values that are not all the same. -/
def scottDensity (sample : List ℝ) : Option (ℝ → ℝ) :=
  let deviations := sample.map fun value => (value - mean sample) ^ 2
  let variance := deviations.sum / (sample.length - 1 : ℝ)
  if sample.length < 2 ∨ variance = 0 then none
  else
    let covariance := variance * ((sample.length : ℝ) ^ (-0.2 : ℝ)) ^ 2
    some fun point => mean (sample.map fun value =>
      Real.exp (-(point - value) ^ 2 / (2.0 * covariance)) / Real.sqrt (2.0 * Real.pi * covariance))

/-- The components are the axes. -/
def plainService : DynamicBaselineService where
  config := ⟨0.15, 0.1, 0.5, 20⟩
  runtime := textRuntime
  pca := firstAxis
  components := ⟨fun _ _ => some fun row component => row.getD component 0, scottDensity⟩

def tracedSplit : Split := ⟨tracedWindow.take 10, tracedWindow.drop 10, unshuffled⟩

theorem tracedWindow_enough : plainService.config.minBaselineFrames ≤ tracedWindow.length := by
  decide

theorem tracedWindow_oneDimension : OneDimension tracedWindow := by
  refine ⟨0, ?_⟩
  simp [tracedWindow, tracedFrame, textFrame, frameVectors, frameEmbedding?]

/-- When no iteration changes the order, all split the window in the same way. -/
theorem splits_tracedWindow :
    DynamicBaselineService.splits tracedWindow 20 (fun _ => unshuffledIteration) =
      List.replicate 10 tracedSplit :=
  drawnSplits_unshuffled 10 tracedWindow

/-- One agent hands over to itself and to another one. -/
def branching : Matrix (Fin 2) (Fin 2) ℝ := Matrix.of fun i _ => if i = 0 then 1 else 0

theorem transitionMatrix_tracedFrame :
    transitionMatrix [tracedFrame.metadata] ["retriever", "writer"] = branching := by
  have source : ["retriever", "writer"].finIdxOf? "retriever" = some 0 := rfl
  have target : ["retriever", "writer"].finIdxOf? "writer" = some 1 := rfl
  have pairs : hopPairs [tracedFrame.metadata] =
      [("retriever", "retriever"), ("retriever", "writer")] := rfl
  ext i j
  rw [transitionMatrix, pairs, List.foldl_cons, List.foldl_cons, List.foldl_nil]
  simp only [countHop, source, target]
  fin_cases i <;> fin_cases j <;> simp [branching]

theorem matrixEntropy_branching : 0 < matrixEntropy branching := by
  have normalized : entries (Matrix.of fun i j =>
      branching i j / max (∑ k, branching i k) 1e-12) = [1 / 2, 1 / 2, 0, 0] := by
    simp [entries, branching, List.finRange_succ]
    norm_num
  have positive : ([1 / 2, 1 / 2, 0, 0] : List ℝ).filter (fun p => 0 < p) = [1 / 2, 1 / 2] := by
    norm_num
  have log : Real.log (1 / 2) < 0 := Real.log_neg (by norm_num) (by norm_num)
  simp only [matrixEntropy, normalized, positive, List.map_cons, List.map_nil, List.sum_cons,
    List.sum_nil]
  rw [if_neg (List.cons_ne_nil _ _)]
  linarith

theorem tracedSplit_entropy : tracedSplit.entropyAfter < tracedSplit.entropyBefore := by
  have agents : tracedSplit.agents = ["retriever", "writer"] := rfl
  have before : frameTraces tracedSplit.first = [tracedFrame.metadata] := rfl
  have after : frameTraces tracedSplit.second = [] := rfl
  have nothing : matrixEntropy (0 : Matrix (Fin 2) (Fin 2) ℝ) = 0 := by
    simp [matrixEntropy, entries]
  rw [Split.entropyAfter, Split.entropyBefore, agents, before, after,
    transitionMatrix_tracedFrame]
  calc matrixEntropy (transitionMatrix [] ["retriever", "writer"])
      = matrixEntropy (0 : Matrix (Fin 2) (Fin 2) ℝ) := rfl
    _ = 0 := nothing
    _ < matrixEntropy branching := matrixEntropy_branching

end

end RagDrift.Monitor
