import RagDrift.Drift.Spectrum
import RagDrift.Drift.Swarm
import RagDrift.Monitor.VectorDrift

set_option autoImplicit false

/- A window against itself in another order: no statistic sees the order of the frames. -/
namespace RagDrift.Monitor

open Drift (GraphDrift SwarmDrift computeGraphDrift_perm computeSwarmDrift_perm)
open Telemetry (RAGEvaluationFrame ExecutionMetadataPayload GraphTopologyPayload)
open Transition (run run_cons)

variable {S E T : Type}

def frameGraphs {N : Type} (frames : List (RAGEvaluationFrame N)) :
    List (GraphTopologyPayload N) :=
  frames.filterMap fun frame => frame.context.graphTopology

/-- The traces with hops or reflections. -/
def frameTraces {N : Type} (frames : List (RAGEvaluationFrame N)) :
    List ExecutionMetadataPayload :=
  (frames.map RAGEvaluationFrame.metadata).filter fun metadata =>
    metadata.agentHops.getD [] ≠ [] ∨ metadata.reflectionIterations ≠ 0

noncomputable section

/-- `_evaluate_graph_drift`. -/
def DriftMonitor.evaluateGraphDrift (runtime : Runtime ℝ) (monitor : DriftMonitor ℝ)
    (baselineFrames currentFrames : List (RAGEvaluationFrame ℝ)) : GraphDrift ℝ :=
  let baselineGraphs := frameGraphs baselineFrames
  let currentGraphs := frameGraphs currentFrames
  if baselineGraphs = [] ∧ currentGraphs = [] then .none
  else monitor.graphCalculator.computeGraphDrift runtime baselineGraphs currentGraphs

/-- `_evaluate_swarm_drift`. -/
def DriftMonitor.evaluateSwarmDrift (monitor : DriftMonitor ℝ)
    (baselineFrames currentFrames : List (RAGEvaluationFrame ℝ)) : SwarmDrift ℝ :=
  let baselineMetadata := frameTraces baselineFrames
  let currentMetadata := frameTraces currentFrames
  if baselineMetadata = [] ∧ currentMetadata = [] then .none
  else monitor.swarmCalculator.computeSwarmDrift baselineMetadata currentMetadata

/-- The collaborators of a monitor of the repository; `raise` places its own exceptions among
those of the service, the notifier and the store. -/
def exactSetup (runtime : Runtime ℝ) (pca : List (List ℝ) → List ℝ → ℝ) (raise : VectorError → E)
    (baselineService : Option (List (RAGEvaluationFrame ℝ) → Draws S → Except E (Thresholds ℝ)))
    (notifier : Bool) : Setup ℝ (Draws S) E where
  baselineService
  notifier
  evaluateVectorDrift monitor baseline current draws :=
    (monitor.evaluateVectorDrift pca baseline current draws).mapError raise
  evaluateGraphDrift monitor baseline current :=
    .ok (monitor.evaluateGraphDrift runtime baseline current)
  evaluateSwarmDrift monitor baseline current := .ok (monitor.evaluateSwarmDrift baseline current)

structure DriftMonitor.Nonnegative (monitor : DriftMonitor ℝ) : Prop where
  threshold : 0 ≤ monitor.threshold
  mmd : 0 ≤ monitor.mmdThreshold
  kl : 0 ≤ monitor.perComponentKlThreshold
  calibrated : ∀ entry ∈ monitor.calibratedThresholds.entries, 0 ≤ entry.2
  spectral : 0 ≤ monitor.graphCalculator.spectralThreshold
  density : 0 ≤ monitor.graphCalculator.densityThreshold
  entropy : 0 ≤ monitor.swarmCalculator.entropyThreshold
  reflection : 0 ≤ monitor.swarmCalculator.reflectionThreshold

theorem Thresholds.getD_nonneg {thresholds : Thresholds ℝ} {default : ℝ}
    (all : ∀ entry ∈ thresholds.entries, 0 ≤ entry.2) (fallback : 0 ≤ default) (metric : String) :
    0 ≤ thresholds.getD metric default := by
  unfold Thresholds.getD Thresholds.get?
  cases found : thresholds.entries.lookup metric with
  | none => exact fallback
  | some value => exact all (metric, value) (Json.mem_of_lookup found)

variable {monitor : DriftMonitor ℝ}

theorem getThreshold_nonneg (nonneg : monitor.Nonnegative) (metric : String) :
    0 ≤ monitor.getThreshold metric := by
  have fallback : 0 ≤ (if metric = "js_divergence" then monitor.threshold
      else if metric = "mmd_score" then monitor.mmdThreshold
      else if metric = "per_component_kl" then monitor.perComponentKlThreshold else 0) := by
    split
    · exact nonneg.threshold
    · split
      · exact nonneg.mmd
      · split
        · exact nonneg.kl
        · exact le_refl 0
  unfold DriftMonitor.getThreshold
  simp only
  split
  · exact Thresholds.getD_nonneg nonneg.calibrated fallback metric
  · exact fallback

theorem isDrifted_zero (nonneg : monitor.Nonnegative) : monitor.isDrifted 0 0 0 = false := by
  simp only [DriftMonitor.isDrifted, not_lt.mpr (getThreshold_nonneg nonneg _), or_self,
    decide_false]

/-- The embeddings the statistics read, which are not empty, have one dimension. -/
def OneDimension (frames : List (RAGEvaluationFrame ℝ)) : Prop :=
  ∃ dimension, ∀ row ∈ frameVectors frames, row.length = dimension

/-- No drift in any of the seven statistics. -/
def stable : Evaluation ℝ := ⟨.none, .none, .none, false⟩

section Reordered

variable {F G : List (RAGEvaluationFrame ℝ)}

theorem frameVectors_perm (reordered : F.Perm G) : (frameVectors F).Perm (frameVectors G) :=
  (reordered.filterMap _).filter _

theorem OneDimension.perm (oneDim : OneDimension F) (reordered : F.Perm G) : OneDimension G := by
  obtain ⟨dimension, all⟩ := oneDim
  refine ⟨dimension, ?_⟩
  intro row inside
  exact all row ((frameVectors_perm reordered).mem_iff.mpr inside)

theorem width_eq {rows : List (List ℝ)} {dimension : Nat} (some : rows ≠ [])
    (all : ∀ row ∈ rows, row.length = dimension) : width rows = dimension := by
  cases rows with
  | nil => exact absurd rfl some
  | cons first rest => exact all first List.mem_cons_self

theorem collectVectorEmbeddings_eq (oneDim : OneDimension F) :
    collectVectorEmbeddings F =
      .ok (if frameVectors F = [] then none else some (frameVectors F)) := by
  obtain ⟨dimension, all⟩ := oneDim
  unfold collectVectorEmbeddings
  by_cases nothing : frameVectors F = []
  · simp only [nothing, if_true]
  · have even : ∀ row ∈ frameVectors F, row.length = width (frameVectors F) := by
      intro row inside
      rw [all row inside, width_eq nothing all]
    simp only [nothing, if_false]
    rw [if_pos even]

/-- What was collected has one dimension. -/
theorem oneDimension_of_collected {vectors : Option (List (List ℝ))}
    (collected : collectVectorEmbeddings F = .ok vectors) : OneDimension F := by
  unfold collectVectorEmbeddings at collected
  by_cases nothing : frameVectors F = []
  · refine ⟨0, ?_⟩
    intro row inside
    rw [nothing] at inside
    cases inside
  · rw [if_neg nothing] at collected
    split at collected
    case isTrue even => exact ⟨width (frameVectors F), even⟩
    case isFalse => cases collected

theorem width_frameVectors (some : frameVectors F ≠ []) (others : List (List ℝ)) :
    width (frameVectors F ++ others) ≠ 0 := by
  cases rows : frameVectors F with
  | nil => exact absurd rows some
  | cons first rest =>
      have inside : first ∈ frameVectors F := rows ▸ List.mem_cons_self
      have filled : first.isEmpty = false := by simpa using (List.mem_filter.mp inside).2
      show first.length ≠ 0
      simpa using filled

theorem computeJensenShannonDrift_perm (pca : List (List ℝ) → List ℝ → ℝ)
    (nonneg : monitor.Nonnegative) (reordered : F.Perm G) (some : frameVectors F ≠ []) :
    monitor.computeJensenShannonDrift pca (frameVectors F) (frameVectors G) =
      .ok (0, false) := by
  obtain ⟨p, same⟩ := jensenShannonDistributions_perm pca (frameVectors_perm reordered)
    (width_frameVectors some (frameVectors G))
  rw [DriftMonitor.computeJensenShannonDrift, same]
  show Except.ok (jensenshannon p p, monitor.isDrifted (jensenshannon p p) 0 0) = _
  rw [jensenshannon_self, isDrifted_zero nonneg]

theorem evaluateVectorDrift_perm {pca : List (List ℝ) → List ℝ → ℝ} (draws : Draws S)
    (nonneg : monitor.Nonnegative) (reordered : F.Perm G) (oneDim : OneDimension F) :
    monitor.evaluateVectorDrift pca F G draws = .ok .none := by
  have rows := frameVectors_perm reordered
  have collectedG := collectVectorEmbeddings_eq (oneDim.perm reordered)
  rw [DriftMonitor.evaluateVectorDrift, collectVectorEmbeddings_eq oneDim, collectedG]
  by_cases nothing : frameVectors F = []
  · rw [if_pos nothing]
    rfl
  · have nothing' : frameVectors G ≠ [] := by
      intro none
      rw [none] at rows
      exact nothing rows.eq_nil
    have widths : width (frameVectors F) = width (frameVectors G) := by
      obtain ⟨dimension, all⟩ := oneDim
      rw [width_eq nothing all]
      exact (width_eq nothing' fun row inside => all row (rows.mem_iff.mpr inside)).symm
    have jsd := computeJensenShannonDrift_perm pca nonneg reordered nothing
    have mmd := computeMmdDrift_perm draws rows (getThreshold_nonneg nonneg "mmd_score")
    rw [if_neg nothing, if_neg nothing']
    simp only [bind, Except.bind, widths, ne_eq, not_true_eq_false, if_false, jsd, mmd]
    split <;> rfl

theorem evaluateGraphDrift_perm (runtime : Runtime ℝ) (nonneg : monitor.Nonnegative)
    (reordered : F.Perm G) : monitor.evaluateGraphDrift runtime F G = .none := by
  have graphs : (frameGraphs F).Perm (frameGraphs G) := reordered.filterMap _
  rw [DriftMonitor.evaluateGraphDrift]
  split
  · rfl
  · exact computeGraphDrift_perm runtime graphs nonneg.spectral nonneg.density

theorem evaluateSwarmDrift_perm (nonneg : monitor.Nonnegative) (reordered : F.Perm G) :
    monitor.evaluateSwarmDrift F G = .none := by
  have traces : (frameTraces F).Perm (frameTraces G) := (reordered.map _).filter _
  rw [DriftMonitor.evaluateSwarmDrift]
  split
  · rfl
  · exact computeSwarmDrift_perm traces nonneg.entropy nonneg.reflection

theorem evaluate_perm (runtime : Runtime ℝ) (pca : List (List ℝ) → List ℝ → ℝ)
    (raise : VectorError → E)
    (baselineService : Option (List (RAGEvaluationFrame ℝ) → Draws S → Except E (Thresholds ℝ)))
    (notifier : Bool) (draws : Draws S) (nonneg : monitor.Nonnegative) (reordered : F.Perm G)
    (oneDim : OneDimension F) :
    (exactSetup runtime pca raise baselineService notifier).evaluate monitor F G draws =
      .ok stable := by
  simp only [Setup.evaluate, exactSetup, evaluateVectorDrift_perm draws nonneg reordered oneDim,
    evaluateGraphDrift_perm runtime nonneg reordered, evaluateSwarmDrift_perm nonneg reordered]
  rfl

/-- No false alarm on a reordered window: whatever other calls do meanwhile, a call with a
window and a permutation of it ends with no drift in any statistic, unless the notifier or the
store raises. -/
theorem reordered_window_stable [DecidableEq T] (runtime : Runtime ℝ)
    (pca : List (List ℝ) → List ℝ → ℝ) (raise : VectorError → E)
    (baselineService : Option (List (RAGEvaluationFrame ℝ) → Draws S → Except E (Thresholds ℝ)))
    (notifier : Bool) {start final : State T ℝ E} {task : T} {draws : Draws S}
    {events : List (Event T ℝ (Draws S) E)} (nonneg : start.monitor.Nonnegative)
    (some : F ≠ []) (reordered : F.Perm G) (oneDim : OneDimension F)
    (once : ∀ event ∈ events, ¬ event.Calls task)
    (ran : run (exactSetup runtime pca raise baselineService notifier).step start
      (.call task (.some F) (.some G) draws :: events) = .some final) :
    (final.pc task).Reports stable ∨
      ∃ reason, final.pc task = .raised reason ∧ ∃ event ∈ events, event.Raises task reason := by
  obtain ⟨next, stepped, later⟩ := run_cons.mp ran
  apply run_reports ?_ once later
  cases step_cases stepped with
  | fetch _ _ _ _ _ dynamic _ => exact absurd dynamic some
  | explicit _ _ _ _ _ _ =>
      rw [pc_setPc_self]
      simp only [Option.getD_some]
      rw [evaluate_perm runtime pca raise baselineService notifier draws nonneg reordered oneDim]
      exact proceed_reports _ G stable

end Reordered

def vectorFrame (first : ℝ) : RAGEvaluationFrame ℝ :=
  ⟨⟨some [first, 0]⟩, ⟨none, none⟩, ⟨none, 0⟩, ⟨none⟩⟩

def textRuntime : Runtime ℝ where
  uuid5 name := name
  str value :=
    match value.json with
    | .str text => text
    | _ => "None"
  fixed _ _ := ""

/-- Of four rows, two of them `[0, 0]` and two `[1, 0]`, the component is the first axis. -/
def firstAxis (_ : List (List ℝ)) (row : List ℝ) : ℝ := row.headD 0 - 0.5

def plainSetup : Setup ℝ (Draws Unit) VectorError :=
  exactSetup textRuntime firstAxis id none false

def plainState : State Unit ℝ VectorError where
  monitor := ⟨0.15, 0.1, 0.5, .empty, false, ⟨0.5, 0.1, 5⟩, ⟨0.5, 1⟩, none⟩
  pc _ := .idle
  store := []

theorem plainState_nonnegative : plainState.monitor.Nonnegative := by
  constructor <;> norm_num [plainState, Thresholds.empty]

def forwards : List (RAGEvaluationFrame ℝ) := [vectorFrame 0, vectorFrame 1]

def backwards : List (RAGEvaluationFrame ℝ) := [vectorFrame 1, vectorFrame 0]

theorem forwards_oneDimension : OneDimension forwards := by
  refine ⟨2, ?_⟩
  simp [forwards, frameVectors, frameEmbedding?, vectorFrame]

theorem forwards_perm : forwards.Perm backwards := List.Perm.swap _ _ _

def unshuffled : Draws Unit := ⟨fun _ _ => 1, ()⟩

def storedFrames : List (Event Unit ℝ (Draws Unit) VectorError) :=
  [.recorded () (.ok ()), .recorded () (.ok ())]

theorem run_swapped : ∃ final, run plainSetup.step plainState
    (.call () (some forwards) (some backwards) unshuffled :: storedFrames) = some final ∧
      final.store.map Prod.fst = backwards := by
  have evaluated : plainSetup.evaluate plainState.monitor forwards backwards unshuffled =
      .ok stable :=
    evaluate_perm textRuntime firstAxis id none false unshuffled plainState_nonnegative
      forwards_perm forwards_oneDimension
  have called : plainSetup.step plainState
      (.call () (some forwards) (some backwards) unshuffled) =
      some (plainState.setPc () (plainSetup.proceed backwards (.ok stable))) := by
    rw [← evaluated]
    rfl
  rw [run, called]
  exact ⟨_, rfl, rfl⟩

theorem reordered_window_stable_swapped : ∃ final, run plainSetup.step plainState
      (.call () (some forwards) (some backwards) unshuffled :: storedFrames) = some final ∧
    ((final.pc ()).Reports stable ∨ ∃ reason, final.pc () = .raised reason ∧
      ∃ event ∈ storedFrames, event.Raises () reason) := by
  obtain ⟨final, ran, _⟩ := run_swapped
  exact ⟨final, ran, reordered_window_stable textRuntime firstAxis id none false
    plainState_nonnegative (List.cons_ne_nil _ _) forwards_perm forwards_oneDimension
    (by simp [storedFrames, Event.Calls]) ran⟩

end

end RagDrift.Monitor
