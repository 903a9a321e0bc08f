import RagDrift.Monitor.RunDrift
import RagDrift.RagPipelines.Base

set_option autoImplicit false

/- The two ways from the response of a pipeline to a frame of telemetry: through a run, and
`RAGEvaluationFrame.from_legacy_rag_response`. -/
namespace RagDrift.Monitor

open Exceptions (bind_ok_iff)
open Ingestion (BridgeError Coercions RAGRun accept agentHops?)
open Optimization.Selectors (truthy)
open RagPipelines (BridgedRun PostInit RAGResponse SystemInfoArgs getOr rebuiltInfo)
open Telemetry (ExecutionMetadataPayload RAGEvaluationFrame)

variable {S E N : Type}

/-- `RAGEvaluationFrame.from_legacy_rag_response`. -/
def fromLegacyRagResponse (response : RAGResponse N) : RAGEvaluationFrame N where
  query := ⟨some response.queryEmbedding⟩
  context := ⟨none, none⟩
  metadata := ⟨none, response.reflectionIterations⟩
  output := ⟨none⟩

/-- Whether `(self.system_info.name or "").lower()` returns: only texts have a `lower`. -/
def lowers [DecidableEq N] [Zero N] : Option (SystemInfoArgs N) → Bool
  | none => true
  | some info => !truthy info.name || info.name.asText?.isSome

/-- The run as `to_evaluation_frame` reads it: nothing of the system info but the name, which only
the type of the frame depends on. -/
def readRun (run : BridgedRun N) : RAGRun N where
  schemaVersion := run.schemaVersion
  runId := run.runId
  query := run.query
  retrievedDocs := run.retrievedDocs
  retrievedDocIds := none
  retrievedEmbeddings := none
  queryEmbedding := run.queryEmbedding
  answer := run.answer
  answerEmbedding := none
  systemInfo := none
  metadata := run.metadata
  timestamp := run.timestamp
  systemVersion := none

noncomputable section

/-- `response.to_ragrun().to_evaluation_frame()`, with what the run draws; `none` where it
raises. -/
def runFrame? (coercions : Coercions ℝ) (item : RAGResponse ℝ × PostInit ℝ) :
    Option (RAGEvaluationFrame ℝ) :=
  let run := item.1.toRagrun (fun number => (number : ℝ)) item.2
  if lowers run.systemInfo then ((readRun run).toEvaluationFrame coercions).toOption else none

def legacyFrames (items : List (RAGResponse ℝ × PostInit ℝ)) : List (RAGEvaluationFrame ℝ) :=
  items.map fun item => fromLegacyRagResponse item.1

/-- `int` of an int is that int. -/
def KeepsInts (coercions : Coercions ℝ) : Prop :=
  ∀ number : Int, coercions.int (.num (number : ℝ)) = some number

variable {coercions : Coercions ℝ} {item : RAGResponse ℝ × PostInit ℝ}
  {frame : RAGEvaluationFrame ℝ}

theorem accept_ok_iff {A : Type} {reason : BridgeError} {given : Option A} {value : A} :
    accept reason given = .ok value ↔ given = some value := by
  cases given <;> simp [accept]

theorem executionMetadata_of_int {run : RAGRun ℝ} {iterations : Int}
    {payload : ExecutionMetadataPayload} (ints : KeepsInts coercions)
    (counted : run.metadata.get "reflection_iterations" = .num (iterations : ℝ))
    (ran : run.executionMetadata coercions = .ok payload) :
    payload.reflectionIterations = iterations ∧
      agentHops? (run.metadata.get "agent_hops") = some payload.agentHops := by
  obtain ⟨reflections, reflected, ran⟩ := bind_ok_iff.mp ran
  obtain ⟨hops, routed, ran⟩ := bind_ok_iff.mp ran
  rw [accept_ok_iff, counted] at reflected
  rw [accept_ok_iff] at routed
  have kept : reflections = iterations := by
    by_cases zero : iterations = 0
    · subst zero
      simpa [truthy, PyVal.num] using reflected.symm
    · have raised : truthy (PyVal.num (iterations : ℝ)) = true := by
        simp [truthy, PyVal.num, zero]
      rw [if_pos raised, ints] at reflected
      exact (Option.some.inj reflected).symm
  dsimp only at ran
  split at ran
  · cases ran
    exact ⟨kept, routed⟩
  · cases ran

/-- A frame by way of a run: an empty embedding is none, and the hops are kept. -/
theorem runFrame?_eq_some (ints : KeepsInts coercions)
    (made : runFrame? coercions item = some frame) :
    frame.query.embedding =
        (if item.1.queryEmbedding = [] then none else some item.1.queryEmbedding) ∧
      frame.context = ⟨none, none⟩ ∧ frame.output = ⟨none⟩ ∧
      frame.metadata.reflectionIterations = item.1.reflectionIterations ∧
      agentHops? (item.1.metadata.get "agent_hops") = some frame.metadata.agentHops := by
  obtain ⟨_, made⟩ := Option.ite_none_right_eq_some.mp made
  have bridged := Exceptions.toOption_some_iff.mp made
  obtain ⟨_, _, bridged⟩ := bind_ok_iff.mp bridged
  obtain ⟨payload, metadata, bridged⟩ := bind_ok_iff.mp bridged
  obtain ⟨_, _, returned⟩ := bind_ok_iff.mp bridged
  cases returned
  have given : ((item.1.toRagrun (fun number => (number : ℝ)) item.2).metadata.get
      "reflection_iterations") = .num (item.1.reflectionIterations : ℝ) := by
    simp [RAGResponse.toRagrun, Dict.get_set]
  have routed : (readRun (item.1.toRagrun (fun number => (number : ℝ)) item.2)).metadata.get
      "agent_hops" = item.1.metadata.get "agent_hops" := by
    simp [readRun, RAGResponse.toRagrun, Dict.get_set]
  have counted := executionMetadata_of_int ints given metadata
  rw [routed] at counted
  exact ⟨rfl, rfl, rfl, counted⟩

/-- The frames of a window by way of runs. -/
def RunFrames (coercions : Coercions ℝ) (items : List (RAGResponse ℝ × PostInit ℝ))
    (frames : List (RAGEvaluationFrame ℝ)) : Prop :=
  List.Forall₂ (fun item frame => runFrame? coercions item = some frame) items frames

variable {items : List (RAGResponse ℝ × PostInit ℝ)} {frames : List (RAGEvaluationFrame ℝ)}

/-- Only one of the two frames of a response without an embedding has one, which is empty. -/
theorem frameVectors_legacyFrames (ints : KeepsInts coercions)
    (made : RunFrames coercions items frames) :
    frameVectors (legacyFrames items) = frameVectors frames := by
  induction made with
  | nil => rfl
  | @cons item frame rest others here _ ih =>
      obtain ⟨embedding, context, output, _⟩ := runFrame?_eq_some ints here
      have picked : frameEmbedding? frame =
          if item.1.queryEmbedding = [] then none else some item.1.queryEmbedding := by
        rw [frameEmbedding?, embedding, context, output]
        split <;> rfl
      have legacy : frameEmbedding? (fromLegacyRagResponse item.1) =
          some item.1.queryEmbedding := rfl
      have split : legacyFrames (item :: rest) =
          fromLegacyRagResponse item.1 :: legacyFrames rest := rfl
      rw [frameVectors, frameVectors] at ih ⊢
      rw [split, List.filterMap_cons, List.filterMap_cons, legacy, picked]
      by_cases empty : item.1.queryEmbedding = []
      · simpa [empty] using ih
      · simpa [empty] using ih

theorem frameGraphs_legacyFrames (items : List (RAGResponse ℝ × PostInit ℝ)) :
    frameGraphs (legacyFrames items) = [] := by
  apply List.filterMap_eq_nil_iff.mpr
  intro frame inside
  obtain ⟨item, _, rfl⟩ := List.mem_map.mp inside
  rfl

theorem frameGraphs_runFrames (ints : KeepsInts coercions)
    (made : RunFrames coercions items frames) : frameGraphs frames = [] := by
  induction made with
  | nil => rfl
  | cons here _ ih =>
      have context := (runFrame?_eq_some ints here).2.1
      rw [frameGraphs] at ih ⊢
      rw [List.filterMap_cons, context]
      exact ih

/-- Without hops the two frames have the same metadata. -/
theorem metadata_legacyFrames (ints : KeepsInts coercions)
    (made : RunFrames coercions items frames)
    (hopless : ∀ item ∈ items, item.1.metadata.get "agent_hops" = .none) :
    (legacyFrames items).map RAGEvaluationFrame.metadata =
      frames.map RAGEvaluationFrame.metadata := by
  induction made with
  | nil => rfl
  | @cons item frame rest others here _ ih =>
      obtain ⟨_, _, _, reflections, hops⟩ := runFrame?_eq_some ints here
      rw [hopless item List.mem_cons_self] at hops
      have same : frame.metadata = (fromLegacyRagResponse item.1).metadata := by
        have none : frame.metadata.agentHops = none := (Option.some.inj hops).symm
        cases payload : frame.metadata
        rw [payload] at reflections none
        subst reflections none
        rfl
      rw [List.map_cons, same,
        ← ih fun other inside => hopless other (List.mem_cons_of_mem _ inside)]
      rfl

/-- A window of legacy frames has no hops to count. -/
theorem transitionMatrix_legacyFrames (items : List (RAGResponse ℝ × PostInit ℝ))
    (agents : List String) :
    (Drift.transitionMatrix (frameTraces (legacyFrames items)) agents :
      Matrix (Fin agents.length) (Fin agents.length) ℝ) = 0 := by
  have none : Drift.hopPairs (frameTraces (legacyFrames items)) = [] := by
    apply List.flatMap_eq_nil_iff.mpr
    intro payload inside
    obtain ⟨frame, there, rfl⟩ := List.mem_map.mp (List.mem_of_mem_filter inside)
    obtain ⟨item, _, rfl⟩ := List.mem_map.mp there
    rfl
  rw [Drift.transitionMatrix, none]
  rfl

theorem transitionEntropyDelta_legacyFrames (monitor : DriftMonitor ℝ)
    (baseline current : List (RAGResponse ℝ × PostInit ℝ)) :
    (monitor.evaluateSwarmDrift (legacyFrames baseline)
      (legacyFrames current)).transitionEntropyDelta = 0 := by
  unfold DriftMonitor.evaluateSwarmDrift
  dsimp only
  split
  · rfl
  · unfold Drift.SwarmDriftCalculator.computeSwarmDrift
    dsimp only
    rw [transitionMatrix_legacyFrames, transitionMatrix_legacyFrames, sub_self]

/-- Whichever way the responses of two windows become frames, their vector drift and their graph
drift are the same, and without hops all of their evaluation. The hops are lost on the legacy way:
no transition entropy ever moves there. -/
theorem legacy_frames_evaluated (ints : KeepsInts coercions) (runtime : Runtime ℝ)
    (pca : List (List ℝ) → List ℝ → ℝ) (monitor : DriftMonitor ℝ) (draws : Draws S)
    {baseline current : List (RAGResponse ℝ × PostInit ℝ)}
    {baselineFrames currentFrames : List (RAGEvaluationFrame ℝ)}
    (before : RunFrames coercions baseline baselineFrames)
    (now : RunFrames coercions current currentFrames) :
    monitor.evaluateVectorDrift pca (legacyFrames baseline) (legacyFrames current) draws =
        monitor.evaluateVectorDrift pca baselineFrames currentFrames draws ∧
      monitor.evaluateGraphDrift runtime (legacyFrames baseline) (legacyFrames current) =
        monitor.evaluateGraphDrift runtime baselineFrames currentFrames ∧
      (monitor.evaluateSwarmDrift (legacyFrames baseline)
        (legacyFrames current)).transitionEntropyDelta = 0 ∧
      ((∀ item ∈ baseline ++ current, item.1.metadata.get "agent_hops" = .none) →
        ∀ (raise : VectorError → E) service notifier,
          (exactSetup runtime pca raise service notifier).evaluate monitor (legacyFrames baseline)
              (legacyFrames current) draws =
            (exactSetup runtime pca raise service notifier).evaluate monitor baselineFrames
              currentFrames draws) := by
  have vector : monitor.evaluateVectorDrift pca (legacyFrames baseline) (legacyFrames current)
      draws = monitor.evaluateVectorDrift pca baselineFrames currentFrames draws := by
    unfold DriftMonitor.evaluateVectorDrift collectVectorEmbeddings
    rw [frameVectors_legacyFrames ints before, frameVectors_legacyFrames ints now]
  have graph : monitor.evaluateGraphDrift runtime (legacyFrames baseline) (legacyFrames current) =
      monitor.evaluateGraphDrift runtime baselineFrames currentFrames := by
    unfold DriftMonitor.evaluateGraphDrift
    rw [frameGraphs_legacyFrames, frameGraphs_legacyFrames, frameGraphs_runFrames ints before,
      frameGraphs_runFrames ints now]
  refine ⟨vector, graph, transitionEntropyDelta_legacyFrames monitor baseline current, ?_⟩
  intro hopless raise service notifier
  have swarm : monitor.evaluateSwarmDrift (legacyFrames baseline) (legacyFrames current) =
      monitor.evaluateSwarmDrift baselineFrames currentFrames := by
    have old := metadata_legacyFrames ints before fun item inside =>
      hopless item (List.mem_append_left _ inside)
    have new := metadata_legacyFrames ints now fun item inside =>
      hopless item (List.mem_append_right _ inside)
    unfold DriftMonitor.evaluateSwarmDrift frameTraces
    rw [old, new]
  simp only [Setup.evaluate, exactSetup, vector, graph, swarm]

theorem keepsInts_plainCoercions : KeepsInts plainCoercions := by
  intro number
  show some (if (0 : ℝ) ≤ number then ⌊(number : ℝ)⌋ else ⌈(number : ℝ)⌉) = some number
  rw [Int.floor_intCast, Int.ceil_intCast, ite_self]

/-- The name of a pipeline, and a model that is no text. -/
def plainMetadata : Dict ℝ :=
  (Dict.empty.set "pipeline_name" (.str "NaiveRAG")).set "model" (.num (4 : ℕ))

def plainItem (embedding : List ℝ) (iterations : Int) : RAGResponse ℝ × PostInit ℝ :=
  (⟨"query", ["document"], "answer", embedding, iterations, 0, plainMetadata⟩, ⟨"run", 0⟩)

def plainRun (embedding : List ℝ) (iterations : Int) : RAGRun ℝ where
  schemaVersion := "1.0"
  runId := "run"
  query := "query"
  retrievedDocs := ["document"]
  retrievedDocIds := none
  retrievedEmbeddings := none
  queryEmbedding := if embedding = [] then none else some embedding
  answer := some "answer"
  answerEmbedding := none
  systemInfo := none
  metadata := (plainMetadata.set "reflection_iterations" (.num (iterations : ℝ))).set
    "final_confidence" (.num 0)
  timestamp := 0
  systemVersion := none

theorem plainRun_frame (embedding : List ℝ) (iterations : Int) :
    (plainRun embedding iterations).toEvaluationFrame plainCoercions =
      .ok ⟨⟨if embedding = [] then none else some embedding⟩, ⟨none, none⟩, ⟨none, iterations⟩,
        ⟨none⟩⟩ := by
  have known : plainCoercions.fromTimestamp 0 = true := by
    simp only [plainCoercions, decide_eq_true_eq]
    norm_num
  have reflections : (plainRun embedding iterations).metadata.get "reflection_iterations" =
      .num (iterations : ℝ) := by
    simp [plainRun, Dict.get_set]
  have confidence : (plainRun embedding iterations).metadata.get "final_confidence" = .num 0 := by
    simp [plainRun, Dict.get_set]
  have hops : (plainRun embedding iterations).metadata.get "agent_hops" = .none := by
    simp only [plainRun, plainMetadata, Dict.get_set]
    rfl
  have latency : (plainRun embedding iterations).metadata.get "latency_ms" = .none := by
    simp only [plainRun, plainMetadata, Dict.get_set]
    rfl
  have counted : (if truthy (PyVal.num (iterations : ℝ)) then
      plainCoercions.int (.num (iterations : ℝ)) else some 0) = some iterations := by
    by_cases zero : iterations = 0
    · simp [truthy, PyVal.num, zero]
    · rw [if_pos (by simp [truthy, PyVal.num, zero]), keepsInts_plainCoercions]
  have unrouted : agentHops? (PyVal.none : PyVal ℝ) = some none := if_pos rfl
  have unsure : truthy (PyVal.num (0 : ℝ)) = false := by simp [truthy, PyVal.num]
  have metadata : (plainRun embedding iterations).executionMetadata plainCoercions =
      .ok ⟨none, iterations⟩ := by
    rw [RAGRun.executionMetadata, reflections, hops, latency, counted, unrouted]
    simp only [accept, bind, Except.bind, true_or, if_true]
    rfl
  rw [RAGRun.toEvaluationFrame, metadata, confidence]
  simp only [unsure, Bool.false_eq_true, if_false, accept, bind, Except.bind]
  simp only [plainRun, known, if_true]
  rfl

theorem runFrame?_plainItem (embedding : List ℝ) (iterations : Int) :
    runFrame? plainCoercions (plainItem embedding iterations) =
      some ⟨⟨if embedding = [] then none else some embedding⟩, ⟨none, none⟩, ⟨none, iterations⟩,
        ⟨none⟩⟩ := by
  have named : lowers ((plainItem embedding iterations).1.toRagrun
      (fun number => (number : ℝ)) (plainItem embedding iterations).2).systemInfo = true := by
    simp [lowers, RAGResponse.toRagrun, rebuiltInfo, getOr, plainItem, plainMetadata, truthy,
      Dict.get_set, Dict.mem_keys_iff, Dict.get?_set, PyVal.str, PyVal.asText?]
  rw [runFrame?, if_pos named]
  show ((plainRun embedding iterations).toEvaluationFrame plainCoercions).toOption = _
  rw [plainRun_frame]
  rfl

theorem legacy_frames_evaluated_plain :
    (exactSetup textRuntime firstAxis id none false).evaluate plainState.monitor
        [⟨⟨some [0, 1]⟩, ⟨none, none⟩, ⟨none, 0⟩, ⟨none⟩⟩]
        [⟨⟨some []⟩, ⟨none, none⟩, ⟨none, 2⟩, ⟨none⟩⟩] unshuffled =
      (exactSetup textRuntime firstAxis id none false).evaluate plainState.monitor
        [⟨⟨some [0, 1]⟩, ⟨none, none⟩, ⟨none, 0⟩, ⟨none⟩⟩]
        [⟨⟨none⟩, ⟨none, none⟩, ⟨none, 2⟩, ⟨none⟩⟩] unshuffled :=
  (legacy_frames_evaluated keepsInts_plainCoercions textRuntime firstAxis plainState.monitor
    unshuffled (.cons (runFrame?_plainItem [0, 1] 0) .nil)
    (.cons (runFrame?_plainItem [] 2) .nil)).2.2.2
      (by simp [plainItem, plainMetadata, Dict.get_set]; rfl) id none false

end

end RagDrift.Monitor
