import RagDrift.Python.Exceptions
import RagDrift.RagPipelines.Base

set_option autoImplicit false

/- `evaluator.rag_pipelines.agentic_rag`. The answers of the language model, the embedding model
and the vector search are given by the place of the call: those of a round of reflection behind
those of the rounds before it. -/
namespace RagDrift.RagPipelines

open Optimization.Selectors (truthy)

/-- What the services answer, or raise. A content that is no JSON is `none`. -/
structure Responses (E : Type) where
  plan : Except E (Option (PyVal Number))
  /-- The embedding of an item of a round, cached or not; round 0 is that of the sub-queries. -/
  embedding : Nat → Nat → Except E (List Number)
  search : Nat → Nat → List String
  synthesis : Nat → Except E (Option String)
  reflection : Nat → Except E (Option (PyVal Number))

inductive ExecuteError (E : Type) where
  | service (reason : E)
  | attributeError
  | typeError
  | validationError

structure AgenticRAG where
  modelName : String
  embeddingModel : String
  maxReflectionIterations : Nat

/-- A call of `_reflect_on_answer` and the dictionary it returned. -/
structure Reflected where
  answer : Option String
  contexts : List String
  reflection : Dict Number

/-- The variables of the loop; the calls are a record that the code does not keep. -/
structure Loop where
  answer : Option String
  contexts : List String
  finalConfidence : Number
  reflectionIterations : Nat
  calls : List Reflected

variable {E : Type}

/-- The items of `for item in value`. -/
def iterate (value : PyVal Number) : Option (List (PyVal Number)) :=
  match value.asItems?, value.asText?, value.asDict? with
  | some items, _, _ => some items
  | none, some text, _ => some (text.toList.map fun letter => .str (String.singleton letter))
  | none, none, some members => some (members.keys.map .str)
  | none, none, none => none

def decomposeQuery (query : String) :
    Except E (Option (PyVal Number)) → Except (ExecuteError E) (List (PyVal Number))
  | .error reason => .error (.service reason)
  | .ok none => .ok [.str query, .str ("Context clarification for " ++ query)]
  | .ok (some parsed) => .ok (parsed.asItems?.getD [.str query])

/-- The dictionary in place of a reflection that cannot be read. -/
def assumedSufficient : Dict Number :=
  Dict.empty.setAll
    [("answer_sufficient", .bool true), ("claims_supported", .bool true),
      ("missing_context", .arr []), ("confidence_score", .num 1)]

/-- `_reflect_on_answer`, whose callers ask the result for `get`. -/
def reflectOnAnswer :
    Except E (Option (PyVal Number)) → Except (ExecuteError E) (Dict Number)
  | .error reason => .error (.service reason)
  | .ok none => .ok assumedSufficient
  | .ok (some parsed) =>
      match parsed.asDict? with
      | some reflection => .ok reflection
      | none => .error .attributeError

def confidenceScore (reflection : Dict Number) : PyVal Number :=
  (reflection.get? "confidence_score").getD (.num 1)

def missingContext (reflection : Dict Number) : PyVal Number :=
  (reflection.get? "missing_context").getD (.arr [])

/-- `confidence >= 0.7 and not missing`. -/
def isSufficient (confidence : Number) (reflection : Dict Number) : Bool :=
  Number.finite (7 / 10) ≤ confidence ∧ truthy (missingContext reflection) = false

/-- What is searched for the items of a round: a vector for each, and the contexts of all.
Only a text has a key in the cache. -/
def gather (responses : Responses E) (round : Nat) :
    Nat → List (PyVal Number) → Except (ExecuteError E) (List (List Number) × List String)
  | _, [] => .ok ([], [])
  | place, item :: rest => do
      match item.asText? with
      | none => throw .typeError
      | some _ =>
          let vector ← (responses.embedding round place).mapError .service
          let (vectors, contexts) ← gather responses round (place + 1) rest
          return (vector :: vectors, responses.search round place ++ contexts)

def synthesize (responses : Responses E) (round : Nat) :
    Except (ExecuteError E) (Option String) :=
  (responses.synthesis round).mapError .service

/-- `for i in range(config.MAX_REFLECTION_ITERATIONS)`, from round `i` on. -/
def reflectLoop (responses : Responses E) :
    (remaining i : Nat) → Loop → Except (ExecuteError E) Loop
  | 0, _, loop => .ok loop
  | remaining + 1, i, loop => do
      let reflection ← reflectOnAnswer (responses.reflection i)
      match (confidenceScore reflection).asNumber? with
      | none => throw .typeError
      | some confidence =>
          let reflected : Loop := {
            answer := loop.answer
            contexts := loop.contexts
            finalConfidence := confidence
            reflectionIterations := i + 1
            calls := loop.calls ++ [⟨loop.answer, loop.contexts, reflection⟩] }
          if isSufficient confidence reflection then
            return reflected
          else
            match iterate (missingContext reflection) with
            | none => throw .typeError
            | some missing =>
                let (_, found) ← gather responses (i + 1) 0 missing
                let answer ← synthesize responses (i + 1)
                reflectLoop responses remaining (i + 1)
                  { reflected with answer, contexts := loop.contexts ++ found }

/-- `execute`, with the calls of `_reflect_on_answer` it made. -/
def AgenticRAG.execute (rag : AgenticRAG) (responses : Responses E) (query : String) :
    Except (ExecuteError E) (RAGResponse Number × List Reflected) := do
  let subQueries ← decomposeQuery query responses.plan
  let (vectors, contexts) ← gather responses 0 0 subQueries
  let answer ← synthesize responses 0
  let loop ← reflectLoop responses rag.maxReflectionIterations 0 ⟨answer, contexts, 0, 0, []⟩
  match loop.answer with
  | none => throw .validationError
  | some generatedAnswer =>
      let response : RAGResponse Number := {
        query
        retrievedContexts := loop.contexts
        generatedAnswer
        queryEmbedding := vectors.head?.getD []
        reflectionIterations := loop.reflectionIterations
        finalConfidence := loop.finalConfidence
        metadata := Dict.empty.setAll
          [("pipeline_name", .str "AgenticRAG"), ("model", .str rag.modelName),
            ("embedding_model", .str rag.embeddingModel),
            ("sub_queries_generated", .arr subQueries), ("token_usage", .ofDict .empty)] }
      return (response, loop.calls)

end RagDrift.RagPipelines
