import RagDrift.RagPipelines.Base

set_option autoImplicit false

/- What a run keeps on the way through a response and back. -/
namespace RagDrift.RagPipelines

open Ingestion (RAGRun RAGSystemInfo)
open Optimization.Selectors (truthy)

variable {N : Type}

/-- The keys `from_ragrun` writes. -/
def foldedKeys : List String :=
  ["reflection_iterations", "final_confidence", "run_id", "schema_version", "timestamp",
    "system_info"]

theorem get?_setDefault (d : Dict N) {key name : String} (value : PyVal N)
    (differs : name ≠ key) : (setDefault d key value).get? name = d.get? name := by
  unfold setDefault
  split
  · rfl
  · exact d.get?_set_ne value differs

theorem get_setDefault_self (d : Dict N) (key : String) (value : PyVal N) :
    (setDefault d key value).get key = (d.get? key).getD value := by
  unfold setDefault
  split
  case isTrue inside => rw [Dict.get?_of_mem inside, Option.getD_some]
  case isFalse absent =>
    rw [Dict.get_set, if_pos rfl, (d.get?_eq_none_iff key).mpr absent, Option.getD_none]

section Folded

variable [Zero N] (run : RAGRun N)

/-- Every other key keeps its value. -/
theorem get?_foldedMetadata {name : String} (kept : name ∉ foldedKeys) :
    (foldedMetadata run).get? name = run.metadata.get? name := by
  simp only [foldedKeys, List.mem_cons, List.not_mem_nil, or_false, not_or] at kept
  obtain ⟨reflections, confidence, runId, version, time, info⟩ := kept
  unfold foldedMetadata
  cases run.systemInfo with
  | none =>
      simp only [Dict.get?_set, runId, version, time, if_false, get?_setDefault _ _ confidence,
        get?_setDefault _ _ reflections]
  | some systemInfo =>
      simp only [Dict.get?_set, runId, version, time, info, if_false,
        get?_setDefault _ _ confidence, get?_setDefault _ _ reflections]

theorem foldedMetadata_reflections : (foldedMetadata run).get "reflection_iterations" =
    (run.metadata.get? "reflection_iterations").getD (.num 0) := by
  rw [← get_setDefault_self]
  unfold foldedMetadata Dict.get
  cases run.systemInfo with
  | none => simp [Dict.get?_set, get?_setDefault]
  | some systemInfo => simp [Dict.get?_set, get?_setDefault]

theorem foldedMetadata_confidence : (foldedMetadata run).get "final_confidence" =
    (run.metadata.get? "final_confidence").getD (.num 0) := by
  have others : (setDefault run.metadata "reflection_iterations" (.num 0)).get?
      "final_confidence" = run.metadata.get? "final_confidence" := get?_setDefault _ _ (by simp)
  rw [← others, ← get_setDefault_self]
  unfold foldedMetadata Dict.get
  cases run.systemInfo with
  | none => simp [Dict.get?_set]
  | some systemInfo => simp [Dict.get?_set]

end Folded

section Bridge

variable [DecidableEq N] [Zero N]

def systemInfoArgs (info : RAGSystemInfo) : SystemInfoArgs N where
  name := .str info.name
  model := optionText info.model
  embeddingModel := optionText info.embeddingModel
  retriever := optionText info.retriever
  version := optionText info.version

/-- The same run, up to an answer that is `None` or empty. -/
structure KeepsIdentity (run : RAGRun N) (back : BridgedRun N) : Prop where
  runId : back.runId = run.runId
  timestamp : back.timestamp = run.timestamp
  schemaVersion : back.schemaVersion = run.schemaVersion
  query : back.query = run.query
  retrievedDocs : back.retrievedDocs = run.retrievedDocs
  queryEmbedding : back.queryEmbedding = run.queryEmbedding
  answer : back.answer.getD "" = run.answer.getD ""
  systemInfo : back.systemInfo = run.systemInfo.map systemInfoArgs

/-- The two entries that become fields of the response are numbers to pydantic. -/
structure Accepted (validators : Validators N) (run : RAGRun N) : Prop where
  reflections : (validators.int
    ((run.metadata.get? "reflection_iterations").getD (.num 0))).isSome
  confidence : (validators.float ((run.metadata.get? "final_confidence").getD (.num 0))).isSome

theorem rebuiltInfo_congr {first second : Dict N}
    (same : ∀ name ∉ foldedKeys, first.get? name = second.get? name) :
    rebuiltInfo first = rebuiltInfo second := by
  have get : ∀ name ∉ foldedKeys, first.get name = second.get name := by
    intro name kept
    rw [Dict.get, Dict.get, same name kept]
  have keys : "pipeline_name" ∈ first.keys ↔ "pipeline_name" ∈ second.keys := by
    rw [Dict.mem_keys_iff, Dict.mem_keys_iff, same _ (by simp [foldedKeys])]
  unfold rebuiltInfo getOr
  simp only [keys]
  rw [get "pipeline_name" (by simp [foldedKeys]), get "model" (by simp [foldedKeys]),
    get "embedding_model" (by simp [foldedKeys]), get "retriever" (by simp [foldedKeys]),
    get "version" (by simp [foldedKeys])]

theorem fromRagrun_eq_some {validators : Validators N} {run : RAGRun N}
    {response : RAGResponse N} (returned : fromRagrun validators run = some response) :
    Accepted validators run ∧ response.query = run.query ∧
      response.retrievedContexts = run.retrievedDocs ∧
      response.generatedAnswer = run.answer.getD "" ∧
      response.queryEmbedding = run.queryEmbedding.getD [] ∧
      rebuiltInfo response.metadata = rebuiltInfo run.metadata := by
  unfold fromRagrun at returned
  obtain ⟨reflections, reflected, returned⟩ := Option.bind_eq_some_iff.mp returned
  obtain ⟨confidence, confident, returned⟩ := Option.bind_eq_some_iff.mp returned
  rw [foldedMetadata_reflections] at reflected
  rw [foldedMetadata_confidence] at confident
  cases returned
  refine ⟨⟨?_, ?_⟩, rfl, rfl, rfl, rfl, ?_⟩
  · rw [reflected, Option.isSome_some]
  · rw [confident, Option.isSome_some]
  · apply rebuiltInfo_congr
    intro name kept
    have first : name ≠ "reflection_iterations" := by
      rintro rfl
      exact kept (by simp [foldedKeys])
    have second : name ≠ "final_confidence" := by
      rintro rfl
      exact kept (by simp [foldedKeys])
    rw [Dict.get?_erase, if_neg second, Dict.get?_erase, if_neg first,
      get?_foldedMetadata run kept]

omit [DecidableEq N] in
theorem fromRagrun_total {validators : Validators N} {run : RAGRun N}
    (accepted : Accepted validators run) :
    ∃ response, fromRagrun validators run = some response := by
  obtain ⟨reflections, reflected⟩ := Option.isSome_iff_exists.mp accepted.reflections
  obtain ⟨confidence, confident⟩ := Option.isSome_iff_exists.mp accepted.confidence
  rw [← foldedMetadata_reflections] at reflected
  rw [← foldedMetadata_confidence] at confident
  unfold fromRagrun
  simp only [reflected, confident]
  exact ⟨_, rfl⟩

omit [DecidableEq N] [Zero N] in
theorem bridged_embedding (embedding : Option (List N)) :
    (if embedding.getD [] = [] then none else some (embedding.getD [])) = embedding ↔
      embedding ≠ some [] := by
  cases embedding with
  | none => simp
  | some entries =>
      by_cases empty : entries = []
      · simp [empty]
      · simp [empty]

/-- A run comes back only with the id and the time that are drawn for the new run, the version
of the schema and a system that the metadata names under other keys than those that are
written. -/
theorem bridge_keeps_identity_iff (ofInt : Int → N) (validators : Validators N)
    (postInit : PostInit N) (run : RAGRun N) :
    (∃ response, fromRagrun validators run = some response ∧
        KeepsIdentity run (response.toRagrun ofInt postInit)) ↔
      Accepted validators run ∧ postInit.uuid4 = run.runId ∧ postInit.time = run.timestamp ∧
        run.schemaVersion = schemaVersion ∧ run.queryEmbedding ≠ some [] ∧
        rebuiltInfo run.metadata = run.systemInfo.map systemInfoArgs := by
  constructor
  · rintro ⟨response, returned, kept⟩
    obtain ⟨accepted, _, _, _, embedding, rebuilt⟩ := fromRagrun_eq_some returned
    have filled := kept.queryEmbedding
    have info := kept.systemInfo
    simp only [RAGResponse.toRagrun, embedding, rebuilt] at filled info
    exact ⟨accepted, kept.runId, kept.timestamp, kept.schemaVersion.symm,
      (bridged_embedding _).mp filled, info⟩
  · rintro ⟨accepted, runId, time, version, filled, info⟩
    obtain ⟨response, returned⟩ := fromRagrun_total accepted
    obtain ⟨_, query, docs, answer, embedding, rebuilt⟩ := fromRagrun_eq_some returned
    refine ⟨response, returned, runId, time, version.symm, query, docs, ?_, ?_, ?_⟩
    · simp only [RAGResponse.toRagrun, embedding]
      exact (bridged_embedding _).mpr filled
    · simp only [RAGResponse.toRagrun, answer, Option.getD_some]
    · simp only [RAGResponse.toRagrun, rebuilt]
      exact info

end Bridge

def numericValidators : Validators ℚ where
  int value := value.asNumber?.bind fun number => if number.den = 1 then some number.num else none
  float value := value.asNumber?

/-- A run that knows its system, as the runs of a pipeline do. -/
def namedRun : RAGRun ℚ where
  schemaVersion := "1.0"
  runId := "run"
  query := "query"
  retrievedDocs := ["document"]
  retrievedDocIds := none
  retrievedEmbeddings := none
  queryEmbedding := none
  answer := some "answer"
  answerEmbedding := none
  systemInfo := some ⟨"NaiveRAG", some "model", none, none, none⟩
  metadata := .empty
  timestamp := 0
  systemVersion := none

/-- The system is lost whatever is drawn. -/
theorem bridge_loses_identity : ¬ ∀ (validators : Validators ℚ) (postInit : PostInit ℚ)
    (run : RAGRun ℚ), ∃ response, fromRagrun validators run = some response ∧
      KeepsIdentity run (response.toRagrun Int.cast postInit) := by
  intro always
  obtain ⟨response, returned, kept⟩ := always numericValidators ⟨"run", 0⟩ namedRun
  obtain ⟨_, _, _, _, _, rebuilt⟩ := fromRagrun_eq_some returned
  have info := kept.systemInfo
  simp only [RAGResponse.toRagrun, rebuilt] at info
  cases info

end RagDrift.RagPipelines
