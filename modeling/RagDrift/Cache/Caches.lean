import RagDrift.Collections.Latest
import RagDrift.Json.RoundTrip
import RagDrift.RagPipelines.Base

set_option autoImplicit false

/- `evaluator.cache`: two caches in one Redis database. -/
namespace RagDrift.Cache

open Collections (Change stored latest latest_filterMap_concat stored_eq)
open Json (NumText dumps loads loads_dumps)
open RagPipelines (RAGResponse)

variable {N : Type}

/-- `sha256(raw.encode()).hexdigest()` and the JSON of pydantic. -/
structure Libraries (N : Type) where
  sha256 : String → String
  modelDumpJson : RAGResponse N → List Char
  modelValidate : Json N → Option (RAGResponse N)

/-- The texts of two different keys have different hashes, and a response that is read back is
the one that was written. -/
structure Libraries.Sound [NumText N] (libraries : Libraries N) : Prop where
  injective : Function.Injective libraries.sha256
  validates : ∀ response data, loads (libraries.modelDumpJson response) = some data →
    libraries.modelValidate data = none ∨ libraries.modelValidate data = some response

/-- What a caller means: a kind of entry, a query text and, for a result, a pipeline name. -/
inductive Entry where
  | embedding (queryText : String)
  | result (queryText pipelineName : String)
  deriving DecidableEq

/-- The arguments of `_make_key`. -/
def Entry.parts : Entry → List String
  | embedding queryText => ["embedding", queryText]
  | result queryText pipelineName => ["result", queryText, pipelineName]

def raw (parts : List String) : String := "|".intercalate parts

def makeKey (libraries : Libraries N) (parts : List String) : String :=
  libraries.sha256 (raw parts)

/-- What a cache was given, or gives back. -/
inductive Cached (N : Type) where
  | embedding (value : Json N)
  | result (response : RAGResponse N)

def embeddingJson (embedding : List N) : Json N := .arr (embedding.map .num)

/-- A call whose connection fails is logged and has no effect on the database. -/
inductive Event (N : Type) where
  | getEmbedding (queryText : String) (connected : Bool)
  | setEmbedding (queryText : String) (embedding : List N) (connected : Bool)
  | getResult (queryText pipelineName : String) (connected : Bool)
  | setResult (queryText pipelineName : String) (response : RAGResponse N) (connected : Bool)
  /-- The time of an entry is over. -/
  | expire (key : String)

section Calls

variable [NumText N] (libraries : Libraries N)

def written : Cached N → List Char
  | .embedding value => dumps value
  | .result response => libraries.modelDumpJson response

/-- `json.loads(str(raw))`, and for a result `RAGResponse.model_validate`. -/
def read : Entry → List Char → Option (Cached N)
  | .embedding _, text => (loads text).map .embedding
  | .result _ _, text => ((loads text).bind libraries.modelValidate).map .result

/-- The entry and the value of a call that reaches the database. -/
def Event.sets : Event N → Option (Entry × Cached N)
  | .setEmbedding queryText embedding true =>
      some (.embedding queryText, .embedding (embeddingJson embedding))
  | .setResult queryText pipelineName response true =>
      some (.result queryText pipelineName, .result response)
  | _ => none

/-- What a call does to the database. -/
def Event.change? (event : Event N) : Option (Change String (List Char)) :=
  match event with
  | .expire key => some (.drop key)
  | _ => event.sets.map fun set => .put (makeKey libraries set.1.parts) (written libraries set.2)

def database (events : List (Event N)) : String → Option (List Char) :=
  stored (events.filterMap (Event.change? libraries))

/-- `get` of an entry. -/
def get (events : List (Event N)) (entry : Entry) : Option (Cached N) :=
  (database libraries events (makeKey libraries entry.parts)).bind (read libraries entry)

/-- What a call returns; a `get` that fails is a miss. -/
def Event.reply (before : List (Event N)) : Event N → Option (Cached N)
  | .getEmbedding queryText true => get libraries before (.embedding queryText)
  | .getResult queryText pipelineName true => get libraries before (.result queryText pipelineName)
  | _ => none

end Calls

/-- The entry a call asks for. -/
def Event.asks : Event N → Option Entry
  | .getEmbedding queryText _ => some (.embedding queryText)
  | .getResult queryText pipelineName _ => some (.result queryText pipelineName)
  | _ => none

def Event.setAt (entry : Entry) (event : Event N) : Option (Cached N) :=
  event.sets.bind fun set => if set.1 = entry then some set.2 else none

/-- The value most recently set for an entry. -/
def mostRecent (events : List (Event N)) (entry : Entry) : Option (Cached N) :=
  events.reverse.findSome? (Event.setAt entry)

/-- Every `get` of a sequence of calls returns nothing or the value most recently set for the
entry it asks for. -/
def Unmixed [NumText N] (libraries : Libraries N) (events : List (Event N)) : Prop :=
  ∀ before event after, events = before ++ event :: after → ∀ entry, event.asks = some entry →
    event.reply libraries before = none ∨ event.reply libraries before = mostRecent before entry

/-- No result is asked for whose query text and pipeline name join to the text of another result
that was set before it. -/
def Apart (events : List (Event N)) : Prop :=
  ∀ before event after, events = before ++ event :: after → ∀ queryText pipelineName,
    event.asks = some (.result queryText pipelineName) →
      ∀ otherText otherName response,
        (.result otherText otherName, .result response) ∈ before.filterMap Event.sets →
          raw [otherText, otherName] = raw [queryText, pipelineName] →
            otherText = queryText ∧ otherName = pipelineName

theorem raw_pair (first second : String) :
    (raw [first, second]).toList = first.toList ++ '|' :: second.toList := by
  simp [raw, String.intercalate_cons_cons]

theorem raw_triple (first second third : String) :
    (raw [first, second, third]).toList = first.toList ++ '|' :: (raw [second, third]).toList := by
  simp [raw, String.intercalate_cons_cons]

/-- Only two results can have one key. -/
theorem raw_parts_eq {first second : Entry} (same : raw first.parts = raw second.parts) :
    first = second ∨ ∃ queryText pipelineName otherText otherName,
      first = .result queryText pipelineName ∧ second = .result otherText otherName ∧
        raw [queryText, pipelineName] = raw [otherText, otherName] := by
  have texts := congrArg String.toList same
  cases first with
  | embedding queryText =>
      cases second with
      | embedding otherText =>
          rw [Entry.parts, Entry.parts, raw_pair, raw_pair] at texts
          have equal : queryText.toList = otherText.toList := by simpa using texts
          exact .inl (congrArg Entry.embedding (String.toList_inj.mp equal))
      | result otherText otherName =>
          rw [Entry.parts, Entry.parts, raw_pair, raw_triple] at texts
          simp at texts
  | result queryText pipelineName =>
      cases second with
      | embedding otherText =>
          rw [Entry.parts, Entry.parts, raw_pair, raw_triple] at texts
          simp at texts
      | result otherText otherName =>
          rw [Entry.parts, Entry.parts, raw_triple, raw_triple] at texts
          have equal : (raw [queryText, pipelineName]).toList =
              (raw [otherText, otherName]).toList := by
            simpa using texts
          exact .inr ⟨_, _, _, _, rfl, rfl, String.toList_inj.mp equal⟩

theorem split_at_separator {front back front' back' : List Char} (plain : '|' ∉ front)
    (plain' : '|' ∉ front') (same : front ++ '|' :: back = front' ++ '|' :: back') :
    front = front' ∧ back = back' := by
  induction front generalizing front' with
  | nil =>
      cases front' with
      | nil => exact ⟨rfl, (List.cons.inj same).2⟩
      | cons letter rest =>
          exact absurd (List.mem_cons.mpr (.inl (List.cons.inj same).1)) plain'
  | cons letter rest ih =>
      cases front' with
      | nil => exact absurd (List.mem_cons.mpr (.inl (List.cons.inj same).1.symm)) plain
      | cons letter' rest' =>
          obtain ⟨rfl, later⟩ := List.cons.inj same
          obtain ⟨rfl, rfl⟩ := ih (fun inside => plain (List.mem_cons_of_mem _ inside))
            (fun inside => plain' (List.mem_cons_of_mem _ inside)) later
          exact ⟨rfl, rfl⟩

/-- Pipeline names without the separator keep all results apart. -/
theorem raw_pair_injective {queryText pipelineName otherText otherName : String}
    (plain : '|' ∉ pipelineName.toList) (otherPlain : '|' ∉ otherName.toList)
    (same : raw [otherText, otherName] = raw [queryText, pipelineName]) :
    otherText = queryText ∧ otherName = pipelineName := by
  -- Read from its end, a key has its first separator behind the pipeline name.
  have texts := congrArg (fun text => text.toList.reverse) same
  simp only [raw_pair, List.reverse_append, List.reverse_cons, List.append_assoc,
    List.singleton_append] at texts
  obtain ⟨names, queries⟩ :=
    split_at_separator (by simpa using otherPlain) (by simpa using plain) texts
  exact ⟨String.toList_inj.mp (List.reverse_inj.mp queries),
    String.toList_inj.mp (List.reverse_inj.mp names)⟩

def Event.pipelineName? : Event N → Option String
  | .getResult _ pipelineName _ => some pipelineName
  | .setResult _ pipelineName _ _ => some pipelineName
  | _ => none

/-- The names of the pipelines of the repository, which are those of classes, have none. -/
theorem apart_of_plain_names {events : List (Event N)}
    (plain : ∀ event ∈ events, ∀ name ∈ event.pipelineName?, '|' ∉ name.toList) :
    Apart events := by
  intro before event after split queryText pipelineName asks otherText otherName response inside
    same
  obtain ⟨setter, earlier, sets⟩ := List.mem_filterMap.mp inside
  have asked : event.pipelineName? = some pipelineName := by
    cases event <;> cases asks
    rfl
  have set : setter.pipelineName? = some otherName := by
    unfold Event.sets at sets
    split at sets <;> cases sets
    rfl
  exact raw_pair_injective (plain event (by simp [split]) _ asked)
    (plain setter (by simp [split, earlier]) _ set) same

section Database

variable [NumText N] {libraries : Libraries N}

omit [NumText N] in
theorem sets_cases {event : Event N} {set : Entry × Cached N} (sets : event.sets = some set) :
    (∃ queryText embedding,
        set = (.embedding queryText, .embedding (embeddingJson embedding))) ∨
      ∃ queryText pipelineName response,
        set = (.result queryText pipelineName, .result response) := by
  unfold Event.sets at sets
  split at sets
  · cases sets
    exact .inl ⟨_, _, rfl⟩
  · cases sets
    exact .inr ⟨_, _, _, rfl⟩
  · cases sets

omit [NumText N] in
theorem embeddingJson_distinct (embedding : List N) : (embeddingJson embedding).KeysDistinct := by
  rw [embeddingJson, Json.KeysDistinct, Json.keysDistinctItems_iff]
  intro item inside
  obtain ⟨number, _, rfl⟩ := List.mem_map.mp inside
  trivial

/-- A value that was set is read back, or a miss. -/
theorem read_written (sound : libraries.Sound) {event : Event N} {set : Entry × Cached N}
    (sets : event.sets = some set) :
    read libraries set.1 (written libraries set.2) = none ∨
      read libraries set.1 (written libraries set.2) = some set.2 := by
  rcases sets_cases sets with ⟨queryText, embedding, rfl⟩ | ⟨queryText, pipelineName, response, rfl⟩
  · right
    simp only [read, written, loads_dumps _ (embeddingJson_distinct embedding), Option.map_some]
  · simp only [read, written]
    cases parsed : (loads (libraries.modelDumpJson response) : Option (Json N)) with
    | none => exact .inl rfl
    | some data =>
        rcases sound.validates response data parsed with none | same
        · left
          rw [Option.bind_some, none, Option.map_none]
        · right
          rw [Option.bind_some, same, Option.map_some]

theorem change?_of_sets {event : Event N} {set : Entry × Cached N} (sets : event.sets = some set) :
    event.change? libraries =
      some (.put (makeKey libraries set.1.parts) (written libraries set.2)) := by
  unfold Event.change?
  split
  · cases sets
  · rw [sets, Option.map_some]

/-- A call puts under the key of an entry what it sets for the entry. -/
theorem putAt_change (sound : libraries.Sound) {event : Event N} {entry : Entry}
    (apart : ∀ set, event.sets = some set → raw set.1.parts = raw entry.parts → set.1 = entry) :
    (event.change? libraries).bind (Change.putAt (makeKey libraries entry.parts)) =
      (event.setAt entry).map (written libraries) := by
  rw [Event.setAt]
  cases sets : event.sets with
  | none =>
      rw [Option.bind_none, Option.map_none]
      unfold Event.change?
      split
      · rfl
      · rw [sets]
        rfl
  | some set =>
      rw [change?_of_sets sets, Option.bind_some, Option.bind_some, Change.putAt]
      by_cases here : set.1 = entry
      · rw [if_pos here, if_pos (congrArg (fun key : Entry => makeKey libraries key.parts) here),
          Option.map_some]
      · have keys : makeKey libraries set.1.parts ≠ makeKey libraries entry.parts := fun same =>
          here (apart set sets (sound.injective same))
        rw [if_neg here, if_neg keys, Option.map_none]

omit [NumText N] in
theorem mostRecent_concat (events : List (Event N)) (event : Event N) (entry : Entry) :
    mostRecent (events ++ [event]) entry =
      (event.setAt entry).or (mostRecent events entry) := by
  rw [mostRecent, List.reverse_append, List.reverse_singleton, List.singleton_append,
    List.findSome?_cons]
  cases event.setAt entry <;> rfl

/-- Under a key that no other entry shares, the text put last is that of the value most
recently set. -/
theorem latest_eq (sound : libraries.Sound) {events : List (Event N)} {entry : Entry}
    (apart : ∀ other ∈ events.filterMap Event.sets,
      raw other.1.parts = raw entry.parts → other.1 = entry) :
    latest (events.filterMap (Event.change? libraries)) (makeKey libraries entry.parts) =
      (mostRecent events entry).map (written libraries) := by
  induction events using List.reverseRecOn with
  | nil => rfl
  | append_singleton before event ih =>
      have earlier := ih fun other inside => apart other (by
        rw [List.filterMap_append]
        exact List.mem_append_left _ inside)
      have last : ∀ set, event.sets = some set → raw set.1.parts = raw entry.parts →
          set.1 = entry := fun set sets =>
        apart set (List.mem_filterMap.mpr ⟨event, by simp, sets⟩)
      rw [latest_filterMap_concat, mostRecent_concat, putAt_change sound last, earlier,
        Option.map_or]

/-- Entries whose keys are their own are never mixed up. -/
theorem get_eq (sound : libraries.Sound) {events : List (Event N)} {entry : Entry}
    (apart : ∀ other ∈ events.filterMap Event.sets,
      raw other.1.parts = raw entry.parts → other.1 = entry) :
    get libraries events entry = none ∨ get libraries events entry = mostRecent events entry := by
  rw [get, database]
  rcases stored_eq (events.filterMap (Event.change? libraries)) (makeKey libraries entry.parts)
    with gone | held
  · left
    rw [gone, Option.bind_none]
  · rw [held, latest_eq sound apart]
    cases recent : mostRecent events entry with
    | none => exact .inl rfl
    | some value =>
        obtain ⟨event, _, set⟩ := List.exists_of_findSome?_eq_some recent
        obtain ⟨⟨other, value'⟩, sets, chosen⟩ := Option.bind_eq_some_iff.mp set
        rw [Option.ite_none_right_eq_some, Option.some.injEq] at chosen
        obtain ⟨rfl, rfl⟩ := chosen
        rw [Option.map_some, Option.bind_some]
        exact read_written sound sets

theorem reply_of_asks {event : Event N} {entry : Entry} (asks : event.asks = some entry)
    (before : List (Event N)) : event.reply libraries before = none ∨
      event.reply libraries before = get libraries before entry := by
  cases event with
  | getEmbedding queryText connected =>
      cases asks
      cases connected with
      | false => exact .inl rfl
      | true => exact .inr rfl
  | getResult queryText pipelineName connected =>
      cases asks
      cases connected with
      | false => exact .inl rfl
      | true => exact .inr rfl
  | _ => cases asks

/-- Sequences of calls in which no looked-up result shares its key with another one never mix
entries, whatever expires and whichever calls fail. -/
theorem caches_unmixed (sound : libraries.Sound) {events : List (Event N)}
    (apart : Apart events) : Unmixed libraries events := by
  intro before event after split entry asks
  have own : ∀ other ∈ before.filterMap Event.sets,
      raw other.1.parts = raw entry.parts → other.1 = entry := by
    intro other inside same
    rcases raw_parts_eq same with equal | ⟨otherText, otherName, queryText, pipelineName, rest⟩
    · exact equal
    · obtain ⟨theirs, ours, joined⟩ := rest
      subst ours
      obtain ⟨setter, _, sets⟩ := List.mem_filterMap.mp inside
      rcases sets_cases sets with ⟨_, _, rfl⟩ | ⟨_, _, response, rfl⟩
      · cases theirs
      · cases theirs
        obtain ⟨rfl, rfl⟩ := apart before event after split queryText pipelineName asks otherText
          otherName response inside joined
        rfl
  rcases reply_of_asks asks before with missed | answered
  · exact .inl missed
  · rw [answered]
    exact get_eq sound own

/-- A key that two entries share gives the one what was set for the other. -/
theorem get_of_shared_key {event : Event N} {set : Entry × Cached N} {entry : Entry}
    (sets : event.sets = some set) (shared : raw set.1.parts = raw entry.parts) :
    get libraries [event] entry = read libraries entry (written libraries set.2) := by
  have key : makeKey libraries entry.parts = makeKey libraries set.1.parts :=
    congrArg libraries.sha256 shared.symm
  rw [get, database, List.filterMap_cons_some (change?_of_sets sets), List.filterMap_nil, key]
  simp [stored, Change.apply]

end Database

def sampleResponse : RAGResponse Int := ⟨"a|b", [], "yes", [], 0, 0, .empty⟩

def sampleText : List Char :=
  ["\x7b\"query\":\"a|b\",", "\"retrieved_", "contexts\":[],", "\"generated_", "answer\":\"yes\",",
    "\"query_", "embedding\":[],", "\"reflection_", "iterations\":0,", "\"final_",
    "confidence\":0.0,", "\"metadata\":\x7b\x7d\x7d"].flatMap String.toList

def sampleJson : Json Int :=
  .obj [("query", .str "a|b"), ("retrieved_contexts", .arr []), ("generated_answer", .str "yes"),
    ("query_embedding", .arr []), ("reflection_iterations", .num 0), ("final_confidence", .num 0),
    ("metadata", .obj [])]

theorem loads_sampleText : loads sampleText = some sampleJson := by
  decide +kernel

/-- The hash of one key, and the text of one response. -/
def sampleLibraries : Libraries Int where
  sha256 := uuidTable
    [("result|a|b|c", "dd8bf018cd3528da4c6d7fb8db2abeba2682b63654f61af3570491a2a3bbb956")]
  modelDumpJson response := if response = sampleResponse then sampleText else []
  modelValidate data := if data = sampleJson then some sampleResponse else none

theorem sampleLibraries_sound : sampleLibraries.Sound where
  injective := (uuidTable _).injective
  validates := by
    intro response data parsed
    by_cases same : response = sampleResponse
    · right
      have text : sampleLibraries.modelDumpJson response = sampleText := if_pos same
      rw [text, loads_sampleText, Option.some.injEq] at parsed
      subst parsed
      simp only [sampleLibraries, same, if_true]
    · have text : sampleLibraries.modelDumpJson response = [] := if_neg same
      rw [text] at parsed
      cases parsed

/-- The same key for the query `a|b` of a pipeline `c` and the query `a` of a pipeline `b|c`. -/
def mixedCalls (asked : Event Int) : List (Event Int) :=
  [.setResult "a|b" "c" sampleResponse true, asked]

theorem mixedCalls_reply :
    (Event.getResult "a" "b|c" true : Event Int).reply sampleLibraries
      [.setResult "a|b" "c" sampleResponse true] = some (.result sampleResponse) := by
  have shared : raw (Entry.result "a|b" "c").parts = raw (Entry.result "a" "b|c").parts := rfl
  show get sampleLibraries _ (.result "a" "b|c") = _
  have sets : (Event.setResult "a|b" "c" sampleResponse true : Event Int).sets =
      some (.result "a|b" "c", .result sampleResponse) := rfl
  rw [get_of_shared_key sets shared, read]
  have text : written sampleLibraries (.result sampleResponse) = sampleText := by
    simp [written, sampleLibraries]
  have back : sampleLibraries.modelValidate sampleJson = some sampleResponse := by
    simp [sampleLibraries]
  rw [text, loads_sampleText, Option.bind_some, back, Option.map_some]

theorem caches_mixed : ¬ ∀ (libraries : Libraries Int), libraries.Sound →
    ∀ events : List (Event Int), Unmixed libraries events := by
  intro always
  rcases always sampleLibraries sampleLibraries_sound (mixedCalls (.getResult "a" "b|c" true))
    [.setResult "a|b" "c" sampleResponse true] (.getResult "a" "b|c" true) [] rfl
    (.result "a" "b|c") rfl with missed | own
  · rw [mixedCalls_reply] at missed
    cases missed
  · rw [mixedCalls_reply] at own
    cases own

theorem caches_unmixed_plain :
    Unmixed sampleLibraries (mixedCalls (.getResult "a|b" "c" true)) := by
  refine caches_unmixed sampleLibraries_sound (apart_of_plain_names ?_)
  simp [mixedCalls, Event.pipelineName?]

end RagDrift.Cache
