import RagDrift.Cache.Caches
import RagDrift.Transition.Journal

set_option autoImplicit false

/- `evaluator.rag_pipelines.naive_rag`: the calls of `execute` that share the caches. A step is
what one call does between two awaits. -/
namespace RagDrift.RagPipelines

open Cache (Cached Libraries embeddingJson)
open Json (NumText)

variable {N T E : Type}

structure NaiveRAG where
  modelName : String

/-- The constants of `config`, the mock vectors, and what pydantic takes for a list of floats. -/
structure Backend (N : Type) where
  embeddingModel : String
  isMockKey : Bool
  generateMockEmbedding : String → List N
  floats : Json N → Option (List N)

/-- `choices[0].message.content` and `dict(response.get("usage", {}))`. -/
structure Completion (N : Type) where
  content : Option String
  usage : Dict N
  deriving DecidableEq

def generateMockCompletion [Zero N] : Completion N where
  content := some ("Based on the provided context, this is a synthesized mock response " ++
    "generated for offline functional verification.")
  usage := Dict.empty.setAll
    [("total_tokens", .num 0), ("prompt_tokens", .num 0), ("completion_tokens", .num 0)]

/-- `_execute_vector_search`, which stands in for a database that raises. -/
def executeVectorSearch : Except E (List String) → List String
  | .ok contents => contents
  | .error _ => ["Fallback: Database connectivity failure context execution placeholder."]

def prompt (query : String) (contexts : List String) : String :=
  "Answer the query using ONLY the context provided.\nContext:\n" ++ "\n".intercalate contexts ++
    "\n\nQuery: " ++ query

/-- The response that is made of the answers of the services. -/
def NaiveRAG.respond [Zero N] (rag : NaiveRAG) (backend : Backend N) (query : String)
    (vector : List N) (contexts : List String) (answer : String) (usage : Dict N) :
    RAGResponse N where
  query
  retrievedContexts := contexts
  generatedAnswer := answer
  queryEmbedding := vector
  reflectionIterations := 0
  finalConfidence := 0
  metadata := Dict.empty.setAll
    [("pipeline_name", .str "NaiveRAG"), ("model", .str rag.modelName),
      ("embedding_model", .str backend.embeddingModel), ("token_usage", .ofDict usage)]

/-- Where a call of `execute` stands. A vector from the cache is whatever JSON was there. -/
inductive Pc (N : Type) where
  | idle
  | embedding (rag : NaiveRAG) (query : String)
  | searching (rag : NaiveRAG) (query : String) (vector : Json N)
  | completing (rag : NaiveRAG) (query : String) (vector : Json N) (contexts : List String)
  | returned (response : RAGResponse N)
  | raised

def Pc.atRest : Pc N → Bool
  | .idle | .returned _ | .raised => true
  | _ => false

/-- What was done to the Redis database, and the calls. -/
structure State (T N : Type) where
  calls : List (Cache.Event N)
  pc : T → Pc N

def State.init : State T N := ⟨[], fun _ => .idle⟩

/-- The database after one more call, and a task that goes on. -/
def State.after [DecidableEq T] (state : State T N) (more : List (Cache.Event N)) (task : T)
    (pc : Pc N) : State T N :=
  ⟨state.calls ++ more, Function.update state.pc task pc⟩

/-- What a call does up to its next await, for the answer of the one before. A call of a service
that fails for good raises, as does an await whose task is cancelled. Each step says whether the
connections to the database work. -/
inductive Event (T N E : Type) where
  | execute (task : T) (rag : NaiveRAG) (query : String) (results embeddings : Bool)
  | embedded (task : T) (answer : Except E (List N)) (connected : Bool)
  | searched (task : T) (records : Except E (List String)) (connected : Bool)
  | completed (task : T) (answer : Except E (Completion N)) (connected : Bool)
  | cancelled (task : T)
  /-- Another pipeline looks for the vector of a text. -/
  | looked (text : String) (connected : Bool)
  /-- Another pipeline keeps the vector that the embedding model gave it for a text. -/
  | kept (text : String) (vector : List N) (connected : Bool)
  | expired (key : String)

/-- What the services answered, and what the callers got. -/
inductive Effect (T N : Type) where
  | embedded (text : String) (vector : List N)
  | found (vector : Json N) (contexts : List String)
  | completed (modelName prompt : String) (completion : Completion N)
  | replied (task : T) (query : String) (response : RAGResponse N)
  deriving DecidableEq

/-- What `EmbeddingCache.get` returned, unless it was `None`. -/
def cachedVector : Option (Cached N) → Option (Json N)
  | some (.embedding .null) => none
  | some (.embedding vector) => some vector
  | _ => none

def cachedResult : Option (Cached N) → Option (RAGResponse N)
  | some (.result response) => some response
  | _ => none

section Steps

variable [DecidableEq T] [NumText N] [Zero N] (libraries : Libraries N) (backend : Backend N)

/-- `execute` from the answer of the language model on. -/
def State.complete (state : State T N) (task : T) (rag : NaiveRAG) (query : String)
    (vector : Json N) (contexts : List String) (completion : Completion N) (connected : Bool) :
    State T N × List (Effect T N) :=
  let sent : Effect T N := .completed rag.modelName (prompt query contexts) completion
  match completion.content, backend.floats vector with
  | some answer, some queryVector =>
      let response := rag.respond backend query queryVector contexts answer completion.usage
      (state.after [.setResult query "NaiveRAG" response connected] task (.returned response),
        [sent, .replied task query response])
  | _, _ => (state.after [] task .raised, [sent])

/-- The step that an event makes, with its effects. -/
def perform (state : State T N) : Event T N E → Option (State T N × List (Effect T N))
  | .execute task rag query results embeddings =>
      if (state.pc task).atRest then
        let asked : Cache.Event N := .getResult query "NaiveRAG" results
        match cachedResult (asked.reply libraries state.calls) with
        | some response =>
            some (state.after [asked] task (.returned response), [.replied task query response])
        | none =>
            let looked : Cache.Event N := .getEmbedding query embeddings
            match cachedVector (looked.reply libraries (state.calls ++ [asked])) with
            | some vector =>
                some (state.after [asked, looked] task (.searching rag query vector), [])
            | none =>
                if backend.isMockKey then
                  let vector := backend.generateMockEmbedding query
                  some (state.after [asked, looked] task
                    (.searching rag query (embeddingJson vector)), [.embedded query vector])
                else some (state.after [asked, looked] task (.embedding rag query), [])
      else none
  | .embedded task answer connected =>
      match state.pc task, answer with
      | .embedding rag query, .ok vector =>
          some (state.after [.setEmbedding query vector connected] task
            (.searching rag query (embeddingJson vector)), [.embedded query vector])
      | .embedding _ _, .error _ => some (state.after [] task .raised, [])
      | _, _ => none
  | .searched task records connected =>
      match state.pc task with
      | .searching rag query vector =>
          let contexts := executeVectorSearch records
          let found : Effect T N := .found vector contexts
          if backend.isMockKey then
            let (next, sent) := state.complete backend task rag query vector contexts
              generateMockCompletion connected
            some (next, found :: sent)
          else some (state.after [] task (.completing rag query vector contexts), [found])
      | _ => none
  | .completed task answer connected =>
      match state.pc task, answer with
      | .completing rag query vector contexts, .ok completion =>
          some (state.complete backend task rag query vector contexts completion connected)
      | .completing _ _ _ _, .error _ => some (state.after [] task .raised, [])
      | _, _ => none
  | .cancelled task =>
      if (state.pc task).atRest then none else some (state.after [] task .raised, [])
  | .looked text connected => some (⟨state.calls ++ [.getEmbedding text connected], state.pc⟩, [])
  | .kept text vector connected =>
      some (⟨state.calls ++ [.setEmbedding text vector connected], state.pc⟩,
        [.embedded text vector])
  | .expired key => some (⟨state.calls ++ [.expire key], state.pc⟩, [])

def step (state : State T N) (event : Event T N E) : Option (State T N) :=
  (perform libraries backend state event).map Prod.fst

def effects (state : State T N) (event : Event T N E) : List (Effect T N) :=
  ((perform libraries backend state event).map Prod.snd).getD []

end Steps

end RagDrift.RagPipelines
