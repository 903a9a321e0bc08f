import RagDrift.Monitor.Calibration

set_option autoImplicit false

/- The average of reflections that `evaluate_frames` compares. Frames with neither hops nor
reflections are left out before the average is taken. -/
namespace RagDrift.Monitor

open Drift (SwarmDrift averageReflections reflectionIterations)
open Exceptions (bind_ok_iff)
open Numeric (mean)
open Telemetry (RAGEvaluationFrame ExecutionMetadataPayload)
open Transition (run)

noncomputable section

section Averages

variable (frames : List (RAGEvaluationFrame ℝ))

def allReflections : List ℝ := frames.map fun frame => reflectionIterations frame.metadata

/-- The frames with neither hops nor reflections. -/
def idleFrames : Nat :=
  frames.countP fun frame => frame.metadata.agentHops.getD [] = [] ∧
    frame.metadata.reflectionIterations = 0

/-- What the average gains where the idle frames are left out. -/
def inflation : ℝ :=
  idleFrames frames * (allReflections frames).sum /
    (frames.length * (frames.length - idleFrames frames))

theorem length_frameTraces : (frameTraces frames).length + idleFrames frames = frames.length := by
  rw [frameTraces, ← List.countP_eq_length_filter, List.countP_map, idleFrames]
  rw [List.length_eq_countP_add_countP (fun frame : RAGEvaluationFrame ℝ =>
    decide (frame.metadata.agentHops.getD [] ≠ [] ∨ frame.metadata.reflectionIterations ≠ 0))]
  congr 1
  apply List.countP_congr
  intro frame _
  simp only [decide_eq_true_iff]
  tauto

/-- The idle frames have no reflections to leave out. -/
theorem sum_frameTraces :
    ((frameTraces frames).map reflectionIterations).sum = (allReflections frames).sum := by
  induction frames with
  | nil => rfl
  | cons frame rest ih =>
      rw [frameTraces] at ih ⊢
      rw [allReflections, List.map_cons, List.map_cons, List.sum_cons]
      by_cases traced : frame.metadata.agentHops.getD [] ≠ [] ∨
          frame.metadata.reflectionIterations ≠ 0
      · rw [List.filter_cons_of_pos (by simpa using traced), List.map_cons, List.sum_cons, ih]
        rfl
      · have none : reflectionIterations frame.metadata = 0 := by
          push Not at traced
          rw [reflectionIterations, traced.2, Int.cast_zero]
        rw [List.filter_cons_of_neg (by simpa using traced), ih, none, zero_add]
        rfl

theorem averageReflections_frameTraces :
    averageReflections (frameTraces frames) = mean (allReflections frames) + inflation frames := by
  have sum := sum_frameTraces frames
  have count : (allReflections frames).length = frames.length := List.length_map _
  rw [mean, inflation, count]
  by_cases nothing : frameTraces frames = []
  · rw [nothing, List.map_nil, List.sum_nil] at sum
    rw [← sum, nothing, averageReflections, if_pos rfl]
    ring
  · have length : ((frameTraces frames).length : ℝ) + idleFrames frames = frames.length := by
      exact_mod_cast length_frameTraces frames
    have traced : (0 : ℝ) < (frameTraces frames).length :=
      Nat.cast_pos.mpr (List.length_pos_iff.mpr nothing)
    have idle : (0 : ℝ) ≤ idleFrames frames := Nat.cast_nonneg _
    rw [averageReflections, if_neg nothing, mean, sum, List.length_map, ← length,
      add_sub_cancel_right]
    have whole : ((frameTraces frames).length : ℝ) + idleFrames frames ≠ 0 := by linarith
    field_simp

end Averages

theorem evaluateSwarmDrift_reflections (monitor : DriftMonitor ℝ)
    (F G : List (RAGEvaluationFrame ℝ)) :
    (monitor.evaluateSwarmDrift F G).avgReflectionIterationsDelta =
      averageReflections (frameTraces G) - averageReflections (frameTraces F) := by
  rw [DriftMonitor.evaluateSwarmDrift]
  split
  · rename_i untraced
    rw [untraced.1, untraced.2, sub_self]
    rfl
  · rfl

section Evaluations

variable {S E T : Type} {runtime : Runtime ℝ} {pca : List (List ℝ) → List ℝ → ℝ}
  {raise : VectorError → E}
  {baselineService : Option (List (RAGEvaluationFrame ℝ) → Draws S → Except E (Thresholds ℝ))}
  {notifier : Bool} {F G : List (RAGEvaluationFrame ℝ)}

theorem evaluate_swarmDrift {monitor : DriftMonitor ℝ} {draws : Draws S} {result : Evaluation ℝ}
    (ran : (exactSetup runtime pca raise baselineService notifier).evaluate monitor F G draws =
      .ok result) : result.swarmDrift = monitor.evaluateSwarmDrift F G := by
  obtain ⟨vectorDrift, _, ran⟩ := bind_ok_iff.mp ran
  obtain ⟨graphDrift, _, ran⟩ := bind_ok_iff.mp ran
  obtain ⟨swarmDrift, evaluated, returned⟩ := bind_ok_iff.mp ran
  cases returned
  exact (Except.ok.inj evaluated).symm

theorem evaluate_shift_iff {monitor : DriftMonitor ℝ} {draws : Draws S} {result : Evaluation ℝ}
    (ran : (exactSetup runtime pca raise baselineService notifier).evaluate monitor F G draws =
      .ok result) :
    result.swarmDrift.avgReflectionIterationsDelta =
      mean (allReflections G) - mean (allReflections F) ↔ inflation G = inflation F := by
  rw [evaluate_swarmDrift ran, evaluateSwarmDrift_reflections, averageReflections_frameTraces,
    averageReflections_frameTraces]
  constructor
  · intro same
    linarith
  · intro same
    rw [same]
    ring

/-- A call reports the shift of the average over all frames if and only if leaving out the idle
frames gains as much in both windows. -/
theorem reflectionDelta_iff [DecidableEq T] {start final : State T ℝ E} {task : T}
    {draws : Draws S} {events : List (Event T ℝ (Draws S) E)} {result : Evaluation ℝ}
    (filled : F ≠ []) (once : ∀ event ∈ events, ¬ event.Calls task)
    (ran : run (exactSetup runtime pca raise baselineService notifier).step start
      (.call task (some F) (some G) draws :: events) = some final)
    (reported : (final.pc task).Reports result) :
    result.swarmDrift.avgReflectionIterationsDelta =
      mean (allReflections G) - mean (allReflections F) ↔ inflation G = inflation F :=
  evaluate_shift_iff (reports_evaluated filled once ran reported)

end Evaluations

/-- A trace without hops. -/
def hoplessFrame (reflections : Int) : RAGEvaluationFrame ℝ :=
  { textFrame with metadata := ⟨none, reflections⟩ }

def halfReflecting : List (RAGEvaluationFrame ℝ) := [hoplessFrame 2, hoplessFrame 0]

def allReflecting : List (RAGEvaluationFrame ℝ) := [hoplessFrame 2, hoplessFrame 2]

theorem run_hopless : ∃ final result, run plainSetup.step plainState
      (.call () (some halfReflecting) (some allReflecting) unshuffled :: []) = some final ∧
    (final.pc ()).Reports result ∧
    plainSetup.evaluate plainState.monitor halfReflecting allReflecting unshuffled =
      .ok result := by
  have oneDim : OneDimension (halfReflecting ++ allReflecting) := by
    refine ⟨0, ?_⟩
    simp [halfReflecting, allReflecting, hoplessFrame, textFrame, frameVectors, frameEmbedding?]
  obtain ⟨vectorDrift, evaluated⟩ : ∃ vectorDrift,
      plainState.monitor.evaluateVectorDrift firstAxis halfReflecting allReflecting unshuffled =
        .ok vectorDrift :=
    evaluateVectorDrift_total oneDim.left oneDim.right
  have returned : plainSetup.evaluateVectorDrift plainState.monitor halfReflecting allReflecting
      unshuffled = .ok vectorDrift := by
    show (plainState.monitor.evaluateVectorDrift firstAxis halfReflecting allReflecting
      unshuffled).mapError id = _
    rw [evaluated]
    rfl
  obtain ⟨result, ran⟩ : ∃ result, plainSetup.evaluate plainState.monitor halfReflecting
      allReflecting unshuffled = .ok result :=
    ⟨_, bind_ok_iff.mpr ⟨vectorDrift, returned, rfl⟩⟩
  have called : plainSetup.step plainState
      (.call () (some halfReflecting) (some allReflecting) unshuffled) =
      some (plainState.setPc () (plainSetup.proceed allReflecting (.ok result))) := by
    rw [← ran]
    rfl
  refine ⟨plainState.setPc () (plainSetup.proceed allReflecting (.ok result)), result, ?_, ?_, ran⟩
  · rw [run, called]
    rfl
  · rw [pc_setPc_self]
    exact proceed_reports plainSetup allReflecting result

theorem reflectionDelta_iff_hopless : ∃ final result,
    run plainSetup.step plainState
      (.call () (some halfReflecting) (some allReflecting) unshuffled :: []) = some final ∧
    (final.pc ()).Reports result ∧
    (result.swarmDrift.avgReflectionIterationsDelta =
      mean (allReflections allReflecting) - mean (allReflections halfReflecting) ↔
        inflation allReflecting = inflation halfReflecting) := by
  obtain ⟨final, result, ran, reported, _⟩ := run_hopless
  exact ⟨final, result, ran, reported,
    reflectionDelta_iff (List.cons_ne_nil _ _) (by simp) ran reported⟩

theorem inflation_hopless : inflation halfReflecting = 1 ∧ inflation allReflecting = 0 := by
  have idle : idleFrames halfReflecting = 1 ∧ idleFrames allReflecting = 0 := by
    decide
  constructor
  · rw [inflation, idle.1]
    norm_num [halfReflecting, allReflections, hoplessFrame, reflectionIterations]
  · rw [inflation, idle.2, Nat.cast_zero, zero_mul, zero_div]

/-- Twice as many traces reflect, and no shift is reported. -/
theorem doubled_share_unseen : ¬ ∀ (baseline current : List (RAGEvaluationFrame ℝ))
    (final : State Unit ℝ VectorError) (result : Evaluation ℝ), baseline ≠ [] → current ≠ [] →
    (∀ frame ∈ baseline ++ current, 0 ≤ frame.metadata.reflectionIterations) →
    run plainSetup.step plainState
      (.call () (some baseline) (some current) unshuffled :: []) = some final →
    (final.pc ()).Reports result →
    result.swarmDrift.avgReflectionIterationsDelta =
      mean (allReflections current) - mean (allReflections baseline) := by
  intro all
  obtain ⟨final, result, ran, reported, evaluated⟩ := run_hopless
  have nonneg : ∀ frame ∈ halfReflecting ++ allReflecting,
      0 ≤ frame.metadata.reflectionIterations := by
    simp [halfReflecting, allReflecting, hoplessFrame]
  have shift := all halfReflecting allReflecting final result (List.cons_ne_nil _ _)
    (List.cons_ne_nil _ _) nonneg ran reported
  have same := (evaluate_shift_iff evaluated).mp shift
  rw [inflation_hopless.1, inflation_hopless.2] at same
  exact zero_ne_one same

end

end RagDrift.Monitor
