import RagDrift.RagPipelines.AgenticRag

set_option autoImplicit false

/- Which answer the confidence of `AgenticRAG.execute` is about. -/
namespace RagDrift.RagPipelines

open Exceptions (bind_ok_iff mapError_ok_iff toOption_some_iff)

variable {E : Type}

namespace Responses

variable (responses : Responses E)

/-- The dictionary of the reflection of a round. -/
def reflected (round : Nat) : Dict Number :=
  (reflectOnAnswer (responses.reflection round)).toOption.getD .empty

def confidence (round : Nat) : Option Number :=
  (confidenceScore (responses.reflected round)).asNumber?

/-- The reflection of a round ends the loop. -/
def Sufficient (round : Nat) : Prop :=
  ∃ confidence, responses.confidence round = some confidence ∧
    isSufficient confidence (responses.reflected round) = true

def searched (round count : Nat) : List String :=
  (List.range count).flatMap (responses.search round)

/-- The contexts found for what a reflection misses. -/
def found (round : Nat) : List String :=
  responses.searched (round + 1)
    ((iterate (missingContext (responses.reflected round))).getD []).length

/-- The answer the reflection of a round reads. -/
def answer (round : Nat) : Option String := (responses.synthesis round).toOption.getD none

def contexts (start : List String) : Nat → List String
  | 0 => start
  | round + 1 => contexts start round ++ responses.found round

def call (start : List String) (round : Nat) : Reflected :=
  ⟨responses.answer round, responses.contexts start round, responses.reflected round⟩

/-- The loop before a round. -/
def loop (start : List String) (round : Nat) (confidence : Number) : Loop where
  answer := responses.answer round
  contexts := responses.contexts start round
  finalConfidence := confidence
  reflectionIterations := round
  calls := (List.range round).map (responses.call start)

/-- The loop left in a round whose reflection is sufficient. -/
def stopped (start : List String) (round : Nat) (confidence : Number) : Loop where
  answer := responses.answer round
  contexts := responses.contexts start round
  finalConfidence := confidence
  reflectionIterations := round + 1
  calls := (List.range (round + 1)).map (responses.call start)

end Responses

variable {responses : Responses E}

theorem gather_contexts {round place : Nat} {items : List (PyVal Number)}
    {gathered : List (List Number) × List String}
    (ran : gather responses round place items = .ok gathered) :
    gathered.2 = (List.range' place items.length).flatMap (responses.search round) := by
  induction items generalizing place gathered with
  | nil =>
      cases ran
      rfl
  | cons item rest ih =>
      rw [gather] at ran
      split at ran
      · cases ran
      · obtain ⟨vector, _, ran⟩ := bind_ok_iff.mp ran
        obtain ⟨others, later, returned⟩ := bind_ok_iff.mp ran
        cases returned
        rw [List.length_cons, List.range'_succ, List.flatMap_cons, ← ih later]

theorem synthesize_ok {round : Nat} {answer : Option String}
    (ran : synthesize responses round = .ok answer) : responses.answer round = answer := by
  have answered := mapError_ok_iff.mp ran
  simp only [Responses.answer, answered, Except.toOption, Option.getD_some]

theorem reflected_ok {round : Nat} {reflection : Dict Number}
    (ran : reflectOnAnswer (responses.reflection round) = .ok reflection) :
    responses.reflected round = reflection := by
  simp only [Responses.reflected, ran, Except.toOption, Option.getD_some]

/-- A round leaves the loop where its reflection is sufficient, and otherwise it answers anew. -/
theorem reflectLoop_succ {start : List String} {remaining round : Nat} {before : Number}
    {final : Loop} (ran : reflectLoop responses (remaining + 1) round
      (responses.loop start round before) = .ok final) :
    ∃ confidence, responses.confidence round = some confidence ∧
      (responses.Sufficient round ∧ final = responses.stopped start round confidence ∨
        ¬ responses.Sufficient round ∧ reflectLoop responses remaining (round + 1)
          (responses.loop start (round + 1) confidence) = .ok final) := by
  rw [reflectLoop] at ran
  obtain ⟨reflection, reflects, ran⟩ := bind_ok_iff.mp ran
  have here := reflected_ok reflects
  split at ran
  · cases ran
  case h_2 confidence number =>
    have known : responses.confidence round = some confidence := by
      rw [Responses.confidence, here, number]
    have recorded : (responses.loop start round before).calls ++
        [⟨responses.answer round, responses.contexts start round, reflection⟩] =
          (List.range (round + 1)).map (responses.call start) := by
      rw [List.range_succ, List.map_append, List.map_singleton, Responses.call, here]
      rfl
    refine ⟨confidence, known, ?_⟩
    split at ran
    case isTrue sufficient =>
      cases ran
      refine .inl ⟨⟨confidence, known, ?_⟩, ?_⟩
      · rw [here]
        exact sufficient
      · rw [Responses.stopped, ← recorded]
        rfl
    case isFalse insufficient =>
      split at ran
      · cases ran
      case h_2 missing iterated =>
        obtain ⟨gathered, found, ran⟩ := bind_ok_iff.mp ran
        obtain ⟨answer, synthesized, ran⟩ := bind_ok_iff.mp ran
        have contexts : responses.found round = gathered.2 := by
          rw [gather_contexts found, Responses.found, here, iterated, Option.getD_some,
            Responses.searched, List.range_eq_range']
        refine .inr ⟨?_, ?_⟩
        · rintro ⟨other, same, sufficient⟩
          rw [known, Option.some.injEq] at same
          rw [here, ← same] at sufficient
          exact insufficient sufficient
        · rw [Responses.loop, ← recorded, synthesize_ok synthesized, Responses.contexts, contexts]
          exact ran

/-- The loop ends in the first round whose reflection is sufficient, with what that reflection
read, or behind its last round, with an answer that no reflection has read yet. -/
theorem reflectLoop_ok {start : List String} {remaining round : Nat} {before : Number}
    {final : Loop} (scored : 0 < round → responses.confidence (round - 1) = some before)
    (ran : reflectLoop responses remaining round (responses.loop start round before) = .ok final) :
    (∃ last confidence, last < round + remaining ∧ responses.Sufficient last ∧
        responses.confidence last = some confidence ∧
        final = responses.stopped start last confidence) ∨
      (∀ other, round ≤ other → other < round + remaining → ¬ responses.Sufficient other) ∧
        ∃ confidence, final = responses.loop start (round + remaining) confidence ∧
          (0 < round + remaining →
            responses.confidence (round + remaining - 1) = some confidence) := by
  induction remaining generalizing round before with
  | zero =>
      cases ran
      refine .inr ⟨?_, before, rfl, scored⟩
      intro other low high
      omega
  | succ remaining ih =>
      obtain ⟨confidence, known, ⟨sufficient, stops⟩ | ⟨goesOn, next⟩⟩ := reflectLoop_succ ran
      · exact .inl ⟨round, confidence, by omega, sufficient, known, stops⟩
      · have prior : 0 < round + 1 → responses.confidence (round + 1 - 1) = some confidence :=
          fun _ => known
        rcases ih prior next with ⟨last, score, early, stops⟩ | ⟨none, score, ends, scores⟩
        · exact .inl ⟨last, score, by omega, stops⟩
        · refine .inr ⟨?_, score, ?_, ?_⟩
          · intro other low high
            rcases Nat.eq_or_lt_of_le low with rfl | later
            · exact goesOn
            · exact none other later (by omega)
          · rw [ends, show round + 1 + remaining = round + (remaining + 1) by omega]
          · intro _
            rw [← scores (by omega)]
            congr 1
            omega

theorem contexts_add (start : List String) (round count : Nat) :
    responses.contexts start (round + count) = responses.contexts start round ++
      (List.range' round count).flatMap responses.found := by
  induction count with
  | zero => simp
  | succ count ih =>
      rw [← Nat.add_assoc, Responses.contexts, ih, List.range'_concat, List.flatMap_append,
        List.flatMap_singleton, List.append_assoc, Nat.one_mul]

theorem contexts_eq_iff (start : List String) {first last : Nat} (before : first ≤ last) :
    responses.contexts start first = responses.contexts start last ↔
      ∀ round, first ≤ round → round < last → responses.found round = [] := by
  obtain ⟨count, rfl⟩ := Nat.exists_eq_add_of_le before
  rw [contexts_add, List.self_eq_append_right, List.flatMap_eq_nil_iff]
  constructor
  · intro nothing round low high
    exact nothing round (List.mem_range'_1.mpr ⟨low, high⟩)
  · intro nothing round inside
    obtain ⟨low, high⟩ := List.mem_range'_1.mp inside
    exact nothing round low high

/-- The confidence of a response is that of a reflection on its answer and its contexts. -/
def Belongs (response : RAGResponse Number) (calls : List Reflected) : Prop :=
  ∃ call ∈ calls, call.answer = some response.generatedAnswer ∧
    call.contexts = response.retrievedContexts ∧
    (confidenceScore call.reflection).asNumber? = some response.finalConfidence

/-- The loop does not run out of rounds, or its last rounds find nothing and end in an answer
that was already given the confidence of the last reflection. -/
def Responses.Settles (responses : Responses E) (rounds : Nat) : Prop :=
  (∃ round < rounds, responses.Sufficient round) ∨
    ∃ round < rounds, (∀ later, round ≤ later → later < rounds → responses.found later = []) ∧
      responses.answer round = responses.answer rounds ∧
      responses.confidence round = responses.confidence (rounds - 1)

/-- A loop that runs out of rounds returns an answer that no reflection has read. -/
theorem execute_confidence_iff (rag : AgenticRAG) (responses : Responses E) (query : String)
    (reflects : 1 ≤ rag.maxReflectionIterations) {response : RAGResponse Number}
    {calls : List Reflected} (returned : rag.execute responses query = .ok (response, calls)) :
    Belongs response calls ↔ responses.Settles rag.maxReflectionIterations := by
  obtain ⟨subQueries, _, returned⟩ := bind_ok_iff.mp returned
  obtain ⟨⟨vectors, start⟩, _, returned⟩ := bind_ok_iff.mp returned
  obtain ⟨answer, synthesized, returned⟩ := bind_ok_iff.mp returned
  obtain ⟨final, ran, returned⟩ := bind_ok_iff.mp returned
  have first : (⟨answer, start, 0, 0, []⟩ : Loop) = responses.loop start 0 0 := by
    rw [Responses.loop, synthesize_ok synthesized]
    rfl
  rw [first] at ran
  split at returned
  · cases returned
  case h_2 generatedAnswer generated =>
    cases returned
    rcases reflectLoop_ok (fun positive => absurd positive (lt_irrefl 0)) ran with
      ⟨last, confidence, early, sufficient, known, rfl⟩ | ⟨insufficient, confidence, rfl, scored⟩
    · refine iff_of_true ⟨responses.call start last, ?_, generated, rfl, known⟩ (.inl ?_)
      · exact List.mem_map.mpr ⟨last, List.mem_range.mpr (Nat.lt_succ_self last), rfl⟩
      · exact ⟨last, by omega, sufficient⟩
    · rw [Nat.zero_add] at insufficient scored generated
      have last := scored (by omega)
      constructor
      · rintro ⟨call, inside, sameAnswer, sameContexts, sameConfidence⟩
        obtain ⟨round, early, rfl⟩ := List.mem_map.mp inside
        rw [Nat.zero_add] at early
        have before := List.mem_range.mp early
        refine .inr ⟨round, before, ?_, ?_, ?_⟩
        · rw [← contexts_eq_iff start before.le]
          simpa only [Responses.loop, Responses.call, Nat.zero_add] using sameContexts
        · exact sameAnswer.trans generated.symm
        · rw [last]
          exact sameConfidence
      · rintro (⟨round, before, sufficient⟩ | ⟨round, before, nothing, sameAnswer, same⟩)
        · exact absurd sufficient (insufficient round (Nat.zero_le round) before)
        · refine ⟨responses.call start round, ?_, sameAnswer.trans generated, ?_, same.trans last⟩
          · rw [Nat.zero_add]
            exact List.mem_map.mpr ⟨round, List.mem_range.mpr before, rfl⟩
          · simp only [Responses.loop, Nat.zero_add]
            exact (contexts_eq_iff start before.le).mpr nothing

/-- A planner whose text is no list, one context for each search, and a new answer whenever one
is asked for. -/
def scripted (reflection : Option (PyVal Number)) : Responses Unit where
  plan := .ok none
  embedding _ _ := .ok [0]
  search _ _ := ["context"]
  synthesis round := .ok (some (if round = 0 then "first" else "second"))
  reflection _ := .ok reflection

/-- Certain of the answer, and asking for more. -/
def certainButMissing : Dict Number :=
  Dict.empty.setAll [("confidence_score", .num 1), ("missing_context", .arr [.str "detail"])]

def agentic (rounds : Nat) : AgenticRAG := ⟨"model", "embedding", rounds⟩

theorem execute_scripted_answer : ∃ response calls,
    (agentic 1).execute (scripted (some (.ofDict certainButMissing))) "query" =
      .ok (response, calls) ∧ response.generatedAnswer = "second" ∧
      calls.map Reflected.answer = [some "first"] := by
  have ran : (((agentic 1).execute (scripted (some (.ofDict certainButMissing)))
      "query").toOption.map fun result =>
        (result.1.generatedAnswer, result.2.map Reflected.answer)) =
      some ("second", [some "first"]) := by
    decide +kernel
  obtain ⟨⟨response, calls⟩, returned, read⟩ := Option.map_eq_some_iff.mp ran
  obtain ⟨answer, scored⟩ := Prod.mk.inj read
  exact ⟨response, calls, toOption_some_iff.mp returned, answer, scored⟩

theorem execute_confidence_stale : ¬ ∀ (rag : AgenticRAG) (responses : Responses Unit)
    (query : String), 1 ≤ rag.maxReflectionIterations →
      ∀ response calls, rag.execute responses query = .ok (response, calls) →
        Belongs response calls := by
  intro always
  obtain ⟨response, calls, returned, answer, scored⟩ := execute_scripted_answer
  obtain ⟨call, inside, sameAnswer, _⟩ :=
    always (agentic 1) _ "query" (by decide) response calls returned
  have read : call.answer ∈ calls.map Reflected.answer := List.mem_map_of_mem inside
  rw [scored, sameAnswer, answer] at read
  simp at read

theorem execute_confidence_iff_satisfied : ∃ response calls,
    (agentic 3).execute (scripted none) "query" = .ok (response, calls) ∧
      (Belongs response calls ↔ (scripted none).Settles 3) := by
  have ran : ((agentic 3).execute (scripted none) "query").toOption.isSome := by
    decide +kernel
  obtain ⟨⟨response, calls⟩, returned⟩ := Option.isSome_iff_exists.mp ran
  rw [toOption_some_iff] at returned
  exact ⟨response, calls, returned,
    execute_confidence_iff (agentic 3) (scripted none) "query" (by decide) returned⟩

end RagDrift.RagPipelines
