import RagDrift.RagPipelines.NaiveRag
import RagDrift.Transition.Places

set_option autoImplicit false

/- Where the replies of `NaiveRAG` come from, when all its calls share the caches. -/
namespace RagDrift.RagPipelines

open Cache (Cached Libraries embeddingJson mostRecent)
open Json (NumText)
open Transition (Justified forall_moved journal justified_nil run run_journal)

variable {N T E : Type} [Zero N] {backend : Backend N} {sent : List (Effect T N)}

/-- The response is made of answers that were given for this query, one after another. -/
def Traced (backend : Backend N) (sent : List (Effect T N)) (query : String)
    (response : RAGResponse N) : Prop :=
  ∃ rag : NaiveRAG, ∃ vector contexts answer usage,
    response = rag.respond backend query vector contexts answer usage ∧
      [.embedded query vector, .found (embeddingJson vector) contexts,
        .completed rag.modelName (prompt query contexts) ⟨some answer, usage⟩].Sublist sent

def Effect.Reason (backend : Backend N) (sent : List (Effect T N)) : Effect T N → Prop
  | .replied _ query response => Traced backend sent query response
  | _ => True

/-- What the caches were given for an entry. -/
def Given (backend : Backend N) (sent : List (Effect T N)) : Cache.Entry × Cached N → Prop
  | (.embedding text, .embedding value) =>
      ∃ vector, value = embeddingJson vector ∧ .embedded text vector ∈ sent
  | (.result query pipelineName, .result response) =>
      pipelineName = "NaiveRAG" ∧ Traced backend sent query response
  | _ => False

/-- What a call has in hand. -/
def Pc.Has (sent : List (Effect T N)) : Pc N → Prop
  | .searching _ query value =>
      ∃ vector, value = embeddingJson vector ∧ [.embedded query vector].Sublist sent
  | .completing _ query value contexts =>
      ∃ vector, value = embeddingJson vector ∧
        [.embedded query vector, .found value contexts].Sublist sent
  | _ => True

/-- All that the caches and the calls hold, and all that was replied, comes from the services. -/
structure State.Backed (backend : Backend N) (state : State T N) (sent : List (Effect T N)) :
    Prop where
  given : ∀ set ∈ state.calls.filterMap Cache.Event.sets, Given backend sent set
  has : ∀ task, (state.pc task).Has sent
  replies : Justified (Effect.Reason backend) sent

theorem Traced.mono {query : String} {response : RAGResponse N}
    (traced : Traced backend sent query response) (out : List (Effect T N)) :
    Traced backend (sent ++ out) query response := by
  obtain ⟨rag, vector, contexts, answer, usage, made, answers⟩ := traced
  exact ⟨rag, vector, contexts, answer, usage, made,
    answers.trans (List.sublist_append_left sent out)⟩

theorem Given.mono {set : Cache.Entry × Cached N} (given : Given backend sent set)
    (out : List (Effect T N)) : Given backend (sent ++ out) set := by
  obtain ⟨entry, value⟩ := set
  cases entry with
  | embedding text =>
      cases value with
      | embedding value =>
          obtain ⟨vector, same, answered⟩ := given
          exact ⟨vector, same, List.mem_append_left out answered⟩
      | result response => exact given
  | result query pipelineName =>
      cases value with
      | embedding value => exact given
      | result response => exact ⟨given.1, given.2.mono out⟩

omit [Zero N] in
theorem Pc.Has.mono {pc : Pc N} (has : pc.Has sent) (out : List (Effect T N)) :
    pc.Has (sent ++ out) := by
  have more : sent.Sublist (sent ++ out) := List.sublist_append_left sent out
  cases pc with
  | searching rag query value =>
      obtain ⟨vector, same, answers⟩ := has
      exact ⟨vector, same, answers.trans more⟩
  | completing rag query value contexts =>
      obtain ⟨vector, same, answers⟩ := has
      exact ⟨vector, same, answers.trans more⟩
  | _ => trivial

theorem State.Backed.heard {state : State T N} (backed : state.Backed backend sent)
    {out : List (Effect T N)} (replies : Justified (Effect.Reason backend) (sent ++ out)) :
    state.Backed backend (sent ++ out) :=
  ⟨fun set inside => (backed.given set inside).mono out, fun task => (backed.has task).mono out,
    replies⟩

/-- Calls of the caches, with what is added to the journal. -/
theorem State.Backed.call {state : State T N} (backed : state.Backed backend sent)
    {more : List (Cache.Event N)} {out : List (Effect T N)}
    (given : ∀ set ∈ more.filterMap Cache.Event.sets, Given backend (sent ++ out) set)
    (replies : Justified (Effect.Reason backend) (sent ++ out)) :
    State.Backed backend ⟨state.calls ++ more, state.pc⟩ (sent ++ out) := by
  have heard := backed.heard replies
  refine ⟨?_, heard.has, replies⟩
  intro set inside
  rw [List.filterMap_append] at inside
  rcases List.mem_append.mp inside with old | new
  · exact heard.given set old
  · exact given set new

theorem State.Backed.after [DecidableEq T] {state : State T N} (backed : state.Backed backend sent)
    {more : List (Cache.Event N)} {out : List (Effect T N)} {pc : Pc N} (task : T)
    (given : ∀ set ∈ more.filterMap Cache.Event.sets, Given backend (sent ++ out) set)
    (has : pc.Has (sent ++ out)) (replies : Justified (Effect.Reason backend) (sent ++ out)) :
    (state.after more task pc).Backed backend (sent ++ out) := by
  have called := backed.call given replies
  exact ⟨called.given, forall_moved called.has task has, replies⟩

/-- A call that goes on without a word to the services. -/
theorem State.Backed.quiet [DecidableEq T] {state : State T N} (backed : state.Backed backend sent)
    {more : List (Cache.Event N)} {pc : Pc N} (task : T)
    (asks : more.filterMap Cache.Event.sets = []) (has : pc.Has sent) :
    (state.after more task pc).Backed backend (sent ++ []) := by
  refine backed.after task ?_ (has.mono []) (by rw [List.append_nil]; exact backed.replies)
  intro set inside
  rw [asks] at inside
  cases inside

theorem given_name {query pipelineName : String} {value : Cached N}
    (given : Given backend sent (.result query pipelineName, value)) :
    pipelineName = "NaiveRAG" := by
  cases value with
  | embedding value => exact given.elim
  | result response => exact given.1

section Database

variable [NumText N] {libraries : Libraries N} {calls : List (Cache.Event N)}

/-- A cache gives back what it was given for the same entry. -/
theorem reply_given (sound : libraries.Sound)
    (given : ∀ set ∈ calls.filterMap Cache.Event.sets, Given backend sent set)
    {event : Cache.Event N} {entry : Cache.Entry} {value : Cached N}
    (asks : event.asks = some entry)
    (own : ∀ query pipelineName, entry = .result query pipelineName → pipelineName = "NaiveRAG")
    (reply : event.reply libraries calls = some value) : Given backend sent (entry, value) := by
  have plain : '|' ∉ "NaiveRAG".toList := by decide
  have apart : ∀ other ∈ calls.filterMap Cache.Event.sets,
      Cache.raw other.1.parts = Cache.raw entry.parts → other.1 = entry := by
    rintro ⟨other, kept⟩ inside same
    rcases Cache.raw_parts_eq same with equal | ⟨text, name, query, asked, rfl, rfl, joined⟩
    · exact equal
    · obtain rfl := given_name (given _ inside)
      obtain rfl := own query asked rfl
      obtain ⟨rfl, _⟩ := Cache.raw_pair_injective plain plain joined
      rfl
  rcases Cache.reply_of_asks asks calls with missed | answered
  · rw [missed] at reply
    cases reply
  · rw [answered] at reply
    rcases Cache.get_eq sound apart with missed | recent
    · rw [missed] at reply
      cases reply
    · rw [recent] at reply
      obtain ⟨setter, earlier, set⟩ := List.exists_of_findSome?_eq_some reply
      obtain ⟨⟨other, kept⟩, sets, chosen⟩ := Option.bind_eq_some_iff.mp set
      rw [Option.ite_none_right_eq_some, Option.some.injEq] at chosen
      obtain ⟨rfl, rfl⟩ := chosen
      exact given _ (List.mem_filterMap.mpr ⟨setter, List.mem_reverse.mp earlier, sets⟩)

theorem cachedResult_given (sound : libraries.Sound)
    (given : ∀ set ∈ calls.filterMap Cache.Event.sets, Given backend sent set) {query : String}
    {connected : Bool} {response : RAGResponse N}
    (cached : cachedResult ((Cache.Event.getResult query "NaiveRAG" connected).reply libraries
      calls) = some response) : Traced backend sent query response := by
  unfold cachedResult at cached
  split at cached
  case h_2 => cases cached
  case h_1 reply =>
    cases cached
    have own : ∀ text pipelineName, Cache.Entry.result query "NaiveRAG" =
        .result text pipelineName → pipelineName = "NaiveRAG" := by
      intro text pipelineName same
      exact (Cache.Entry.result.inj same).2.symm
    exact (reply_given sound given rfl own reply).2

theorem cachedVector_given (sound : libraries.Sound)
    (given : ∀ set ∈ calls.filterMap Cache.Event.sets, Given backend sent set) {query : String}
    {connected : Bool} {value : Json N}
    (cached : cachedVector ((Cache.Event.getEmbedding query connected).reply libraries calls) =
      some value) : ∃ vector, value = embeddingJson vector ∧ .embedded query vector ∈ sent := by
  unfold cachedVector at cached
  split at cached
  case h_1 => cases cached
  case h_3 => cases cached
  case h_2 reply =>
    cases cached
    have own : ∀ text pipelineName, Cache.Entry.embedding query = .result text pipelineName →
        pipelineName = "NaiveRAG" := by
      intro text pipelineName same
      cases same
    exact reply_given sound given rfl own reply

end Database

section Steps

variable [DecidableEq T] {state next : State T N} {out : List (Effect T N)}

/-- The last part of a call puts the answers together. -/
theorem complete_backed (reads : ∀ vector, backend.floats (embeddingJson vector) = some vector)
    (backed : state.Backed backend sent) {task : T} {rag : NaiveRAG} {query : String}
    {vector : List N} {contexts : List String} {completion : Completion N} {connected : Bool}
    (answers : [.embedded query vector, .found (embeddingJson vector) contexts].Sublist sent)
    (completed : state.complete backend task rag query (embeddingJson vector) contexts completion
      connected = (next, out)) : next.Backed backend (sent ++ out) := by
  obtain ⟨content, usage⟩ := completion
  have told : Justified (Effect.Reason backend)
      (sent ++ [.completed rag.modelName (prompt query contexts) ⟨content, usage⟩]) :=
    backed.replies.concat trivial
  cases content with
  | none =>
      cases completed
      exact backed.after task (fun set inside => absurd inside List.not_mem_nil) trivial told
  | some answer =>
      have traced : Traced backend
          (sent ++ [.completed rag.modelName (prompt query contexts) ⟨some answer, usage⟩]) query
          (rag.respond backend query vector contexts answer usage) :=
        ⟨rag, vector, contexts, answer, usage, rfl, answers.append (List.Sublist.refl _)⟩
      have replied := told.concat
        (show Effect.Reason backend _ (.replied task query _) from traced)
      have kept := traced.mono
        [.replied task query (rag.respond backend query vector contexts answer usage)]
      rw [List.append_assoc] at replied kept
      simp only [State.complete, reads] at completed
      cases completed
      refine backed.after task ?_ trivial replied
      intro set inside
      cases connected with
      | false => cases inside
      | true =>
          rw [List.mem_singleton.mp inside]
          exact ⟨rfl, kept⟩

omit [DecidableEq T] in
theorem setEmbedding_given (text : String) (vector : List N) (connected : Bool) :
    ∀ set ∈ [Cache.Event.setEmbedding text vector connected].filterMap Cache.Event.sets,
      Given backend (sent ++ [.embedded text vector]) set := by
  intro set inside
  cases connected with
  | false => cases inside
  | true =>
      rw [List.mem_singleton.mp inside]
      exact ⟨vector, rfl, List.mem_append_right sent List.mem_cons_self⟩

/-- What a step does is backed by the services. -/
theorem perform_backed [NumText N] {libraries : Libraries N} (sound : libraries.Sound)
    (reads : ∀ vector, backend.floats (embeddingJson vector) = some vector)
    (backed : state.Backed backend sent) {event : Event T N E}
    (performed : perform libraries backend state event = some (next, out)) :
    next.Backed backend (sent ++ out) := by
  unfold perform at performed
  cases event with
  | execute task rag query results embeddings =>
      dsimp only at performed
      split at performed
      case isFalse => cases performed
      case isTrue rest =>
        split at performed
        case h_1 response cached =>
          cases performed
          have traced := cachedResult_given sound backed.given cached
          exact backed.after task (fun set inside => absurd inside List.not_mem_nil) trivial
            (backed.replies.concat traced)
        case h_2 =>
          split at performed
          case h_1 vector cached =>
            cases performed
            have given : ∀ set ∈ (state.calls ++
                [Cache.Event.getResult query "NaiveRAG" results]).filterMap Cache.Event.sets,
                Given backend sent set := by
              rw [List.filterMap_append]
              intro set inside
              rcases List.mem_append.mp inside with old | new
              · exact backed.given set old
              · cases new
            obtain ⟨known, same, answered⟩ := cachedVector_given sound given cached
            exact backed.quiet task rfl ⟨known, same, List.singleton_sublist.mpr answered⟩
          case h_2 =>
            split at performed
            case isTrue mock =>
              cases performed
              refine backed.after task (fun set inside => absurd inside List.not_mem_nil) ?_
                (backed.replies.concat trivial)
              exact ⟨_, rfl, List.sublist_append_right sent _⟩
            case isFalse live =>
              cases performed
              exact backed.quiet task rfl trivial
  | embedded task answer connected =>
      dsimp only at performed
      split at performed
      case h_1 rag query vector pc =>
        cases performed
        exact backed.after task (setEmbedding_given query vector connected)
          ⟨_, rfl, List.sublist_append_right sent _⟩ (backed.replies.concat trivial)
      case h_2 reason pc =>
        cases performed
        exact backed.quiet task rfl trivial
      case h_3 => cases performed
  | searched task records connected =>
      dsimp only at performed
      split at performed
      case h_2 => cases performed
      case h_1 rag query value pc =>
        have holding := backed.has task
        rw [pc] at holding
        obtain ⟨vector, rfl, answers⟩ := holding
        split at performed
        case isTrue mock =>
          have heard := backed.heard (backed.replies.concat (show Effect.Reason backend _
            (.found (embeddingJson vector) (executeVectorSearch records)) from trivial))
          cases completed : state.complete backend task rag query (embeddingJson vector)
            (executeVectorSearch records) generateMockCompletion connected with
          | mk after more =>
              rw [completed] at performed
              cases performed
              have ended :=
                complete_backed reads heard (answers.append (List.Sublist.refl _)) completed
              rw [List.append_assoc] at ended
              exact ended
        case isFalse live =>
          cases performed
          refine backed.after task (fun set inside => absurd inside List.not_mem_nil) ?_
            (backed.replies.concat trivial)
          exact ⟨vector, rfl, answers.append (List.Sublist.refl _)⟩
  | completed task answer connected =>
      dsimp only at performed
      split at performed
      case h_1 rag query value contexts completion pc =>
        have holding := backed.has task
        rw [pc] at holding
        obtain ⟨vector, rfl, answers⟩ := holding
        exact complete_backed reads backed answers (Option.some.inj performed)
      case h_2 reason pc =>
        cases performed
        exact backed.quiet task rfl trivial
      case h_3 => cases performed
  | cancelled task =>
      dsimp only at performed
      split at performed
      case isTrue => cases performed
      case isFalse =>
        cases performed
        exact backed.quiet task rfl trivial
  | looked text connected =>
      cases performed
      exact backed.call (fun set inside => absurd inside List.not_mem_nil)
        (by rw [List.append_nil]; exact backed.replies)
  | kept text vector connected =>
      cases performed
      exact backed.call (setEmbedding_given text vector connected) (backed.replies.concat trivial)
  | expired key =>
      cases performed
      exact backed.call (fun set inside => absurd inside List.not_mem_nil)
        (by rw [List.append_nil]; exact backed.replies)

/-- However the calls of all pipelines take turns, which of their connections fail and which
entries vanish: each reply to a query is put together from a vector of this query, from contexts
found for that vector and from an answer to the prompt of both, all of which were given before. -/
theorem replies_traced [NumText N] {libraries : Libraries N} (sound : libraries.Sound)
    (reads : ∀ vector, backend.floats (embeddingJson vector) = some vector)
    {events : List (Event T N E)} {final : State T N}
    (ran : run (step libraries backend) State.init events = some final)
    {front back : List (Effect T N)} {task : T} {query : String} {response : RAGResponse N}
    (sent : journal (step libraries backend) (effects libraries backend) State.init events =
      front ++ .replied task query response :: back) : Traced backend front query response := by
  have keeps : ∀ (state : State T N) (event : Event T N E) next sent,
      state.Backed backend sent → True → step libraries backend state event = some next →
        next.Backed backend (sent ++ effects libraries backend state event) := by
    intro state event next sent backed _ stepped
    obtain ⟨⟨after, out⟩, performed, rfl⟩ := Option.map_eq_some_iff.mp stepped
    rw [effects, performed]
    exact perform_backed sound reads backed performed
  have initially : State.Backed backend (State.init : State T N) [] :=
    ⟨fun set inside => absurd inside List.not_mem_nil, fun _ => trivial, justified_nil⟩
  have backed := run_journal keeps initially (fun _ _ => trivial) ran
  exact backed.replies front (.replied task query response) back sent

end Steps

def sampleFloats : Json Int → Option (List Int)
  | .arr items => items.mapM fun
      | .num number => some number
      | _ => none
  | _ => none

def sampleBackend : Backend Int := ⟨"ada", false, fun _ => [], sampleFloats⟩

def sampleReply : RAGResponse Int :=
  NaiveRAG.respond ⟨"large"⟩ sampleBackend "q" [1] ["c"] "a" .empty

def sampleReplyText : List Char :=
  ["\x7b\"query\":\"q\",", "\"retrieved_", "contexts\":[\"c\"],", "\"generated_",
    "answer\":\"a\",", "\"query_", "embedding\":[1.0],", "\"reflection_", "iterations\":0,",
    "\"final_", "confidence\":0.0,", "\"metadata\":\x7b\"pipeline_", "name\":\"NaiveRAG\",",
    "\"model\":\"large\",", "\"embedding_", "model\":\"ada\",", "\"token_",
    "usage\":\x7b\x7d\x7d\x7d"].flatMap String.toList

def sampleReplyJson : Json Int :=
  .obj [("query", .str "q"), ("retrieved_contexts", .arr [.str "c"]),
    ("generated_answer", .str "a"), ("query_embedding", .arr [.num 1]),
    ("reflection_iterations", .num 0), ("final_confidence", .num 0),
    ("metadata", .obj [("pipeline_name", .str "NaiveRAG"), ("model", .str "large"),
      ("embedding_model", .str "ada"), ("token_usage", .obj [])])]

theorem loads_sampleReplyText : Json.loads sampleReplyText = some sampleReplyJson := by
  decide +kernel

/-- The hashes of two keys, and the text of one response. -/
def replyLibraries : Libraries Int where
  sha256 := uuidTable
    [("result|q|NaiveRAG", "f3202469999f3155a5323df40e1e99ad27857a420fcd4867faffdc132c492eeb"),
      ("embedding|q", "b0c9bed68d3b63513dd0dab9d4c39fd12c6f7711e2ffe1584010b1306a98687f")]
  modelDumpJson response := if response = sampleReply then sampleReplyText else []
  modelValidate data := if data = sampleReplyJson then some sampleReply else none

theorem replyLibraries_sound : replyLibraries.Sound where
  injective := (uuidTable _).injective
  validates := by
    intro response data parsed
    by_cases same : response = sampleReply
    · right
      have text : replyLibraries.modelDumpJson response = sampleReplyText := if_pos same
      rw [text, loads_sampleReplyText, Option.some.injEq] at parsed
      subst parsed
      simp only [replyLibraries, same, if_true]
    · have text : replyLibraries.modelDumpJson response = [] := if_neg same
      rw [text] at parsed
      cases parsed

theorem sampleFloats_embeddingJson (vector : List Int) :
    sampleFloats (embeddingJson vector) = some vector := by
  rw [embeddingJson, sampleFloats]
  induction vector with
  | nil => rfl
  | cons number rest ih =>
      rw [List.map_cons, List.mapM_cons, ih]
      rfl

/-- Two calls for one query, of pipelines with different models. -/
def repeatedQuery : List (Event Bool Int String) :=
  [.execute false ⟨"large"⟩ "q" true true, .embedded false (.ok [1]) true,
    .searched false (.ok ["c"]) true, .completed false (.ok ⟨some "a", .empty⟩) true,
    .execute true ⟨"small"⟩ "q" true true]

def repeatedAnswers : List (Effect Bool Int) :=
  [.embedded "q" [1], .found (.arr [.num 1]) ["c"],
    .completed "large" (prompt "q" ["c"]) ⟨some "a", .empty⟩, .replied false "q" sampleReply]

theorem repeatedQuery_isSome :
    (run (step replyLibraries sampleBackend) State.init repeatedQuery).isSome := by
  decide +kernel

theorem replies_traced_repeated : Traced sampleBackend repeatedAnswers "q" sampleReply := by
  have sent : journal (step replyLibraries sampleBackend) (effects replyLibraries sampleBackend)
      State.init repeatedQuery = repeatedAnswers ++ .replied true "q" sampleReply :: [] := by
    decide +kernel
  exact replies_traced replyLibraries_sound sampleFloats_embeddingJson
    (Option.some_get repeatedQuery_isSome).symm sent

end RagDrift.RagPipelines
