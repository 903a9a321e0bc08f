import RagDrift.Json.RoundTrip
import RagDrift.Json.Reading
import RagDrift.Json.Fractions
import RagDrift.Python.Exceptions
import RagDrift.RagPipelines.Base

set_option autoImplicit false

/- `RAGRun.to_dict` and `RAGRun.from_dict`. Neither a dataclass nor `from_dict` checks the
types of the fields, so a field of the run is whatever value it was given. Arrays are numpy's. -/
namespace RagDrift.Ingestion

open Exceptions (bind_ok_iff map_ok_iff mapM_ok_iff)
open Json (dumps loads loads_dumps NumText)
open RagPipelines (PostInit SystemInfoArgs)

variable {N M : Type}

/-- `np.asarray`, `none` where it raises, and `ndarray.tolist`. -/
structure Numpy (N M : Type) where
  asarray : PyVal N → Option M
  tolist : M → PyVal N

/-- The array can be made again from the lists that `tolist` writes. -/
def Numpy.Recreates (numpy : Numpy N M) (array : M) : Prop :=
  numpy.tolist array ≠ .none ∧ numpy.asarray (numpy.tolist array) = some array

/-- A `RAGRun`: after `__post_init__` it has an id and a time. -/
@[ext] structure RunObject (N M : Type) where
  schemaVersion : PyVal N
  runId : PyVal N
  query : PyVal N
  retrievedDocs : PyVal N
  retrievedDocIds : PyVal N
  retrievedEmbeddings : Option (List M)
  queryEmbedding : Option M
  answer : PyVal N
  answerEmbedding : Option M
  systemInfo : Option (SystemInfoArgs N)
  metadata : PyVal N
  timestamp : PyVal N
  systemVersion : PyVal N
  identified : runId ≠ .none
  timed : timestamp ≠ .none

def RunObject.arrays (run : RunObject N M) : List M :=
  run.retrievedEmbeddings.getD [] ++ run.queryEmbedding.toList ++ run.answerEmbedding.toList

inductive RunError where
  /-- `RAGSystemInfo(**value)` of a value that is no mapping. -/
  | notMapping
  | unexpectedArgument (name : String)
  | missingArgument (name : String)
  /-- The `for` over a value that cannot be iterated. -/
  | notIterable
  /-- What `np.asarray` raises. -/
  | notArray
  deriving DecidableEq

/-- `data[key] if key in data and data[key] is not None`. -/
def given (data : Dict N) (key : String) : Option (PyVal N) :=
  match (data.get key).json with
  | .null => none
  | _ => some (data.get key)

theorem given_of_get? {data : Dict N} {key : String} {value : PyVal N}
    (held : data.get? key = some value) (present : value ≠ .none) :
    given data key = some value := by
  rw [given, Dict.get_of_get? held]
  split
  · rename_i empty
    exact absurd (PyVal.ext empty) present
  · rfl

theorem given_none {data : Dict N} {key : String} (held : data.get? key = some .none) :
    given data key = none := by
  rw [given, Dict.get_of_get? held]
  rfl

theorem given_getD_ne_none (data : Dict N) (key : String) {default : PyVal N}
    (present : default ≠ .none) : (given data key).getD default ≠ .none := by
  rw [given]
  split
  · exact present
  · rename_i full
    intro empty
    exact full (congrArg PyVal.json empty)

/-- What `for e in value` goes over: the items of a list, the characters of a text and the
keys of a dictionary. -/
def iter? (value : PyVal N) : Option (List (PyVal N)) :=
  match value.json with
  | .arr _ => value.asItems?
  | .str text => some (text.toList.map fun c => .str (String.singleton c))
  | .obj members => some (members.map fun member => .str member.1)
  | _ => none

def systemInfoFields : List String := ["name", "model", "embedding_model", "retriever", "version"]

/-- The entries of `asdict`. -/
def infoFields (info : SystemInfoArgs N) : List (String × PyVal N) :=
  [("name", info.name), ("model", info.model), ("embedding_model", info.embeddingModel),
    ("retriever", info.retriever), ("version", info.version)]

def infoDict (info : SystemInfoArgs N) : Dict N := Dict.empty.setAll (infoFields info)

/-- `RAGSystemInfo(**value)`. -/
def ofKwargs (value : Dict N) : Except RunError (SystemInfoArgs N) :=
  match value.keys.find? fun key => key ∉ systemInfoFields with
  | some key => .error (.unexpectedArgument key)
  | none =>
      if "name" ∈ value.keys then
        .ok { name := value.get "name"
              model := value.get "model"
              embeddingModel := value.get "embedding_model"
              retriever := value.get "retriever"
              version := value.get "version" }
      else .error (.missingArgument "name")

def readSystemInfo (data : Dict N) : Except RunError (Option (SystemInfoArgs N)) :=
  match given data "system_info" with
  | none => .ok none
  | some value =>
      match value.asDict? with
      | none => .error .notMapping
      | some info => (ofKwargs info).map some

def asarray (numpy : Numpy N M) (value : PyVal N) : Except RunError M :=
  match numpy.asarray value with
  | none => .error .notArray
  | some array => .ok array

def readArray (numpy : Numpy N M) (data : Dict N) (key : String) :
    Except RunError (Option M) :=
  match given data key with
  | none => .ok none
  | some value => (asarray numpy value).map some

def asarrays (numpy : Numpy N M) (value : PyVal N) : Except RunError (List M) :=
  match iter? value with
  | none => .error .notIterable
  | some items => items.mapM (asarray numpy)

def readArrays (numpy : Numpy N M) (data : Dict N) (key : String) :
    Except RunError (Option (List M)) :=
  match given data key with
  | none => .ok none
  | some value => (asarrays numpy value).map some

def writeArray (numpy : Numpy N M) : Option M → PyVal N
  | none => .none
  | some array => numpy.tolist array

def writeArrays (numpy : Numpy N M) : Option (List M) → PyVal N
  | none => .none
  | some arrays => .arr (arrays.map numpy.tolist)

def writeInfo : Option (SystemInfoArgs N) → PyVal N
  | none => .none
  | some info => .ofDict (infoDict info)

def RunObject.fields (numpy : Numpy N M) (run : RunObject N M) : List (String × PyVal N) :=
  [("schema_version", run.schemaVersion), ("run_id", run.runId), ("query", run.query),
    ("retrieved_docs", run.retrievedDocs), ("retrieved_doc_ids", run.retrievedDocIds),
    ("retrieved_embeddings", writeArrays numpy run.retrievedEmbeddings),
    ("query_embedding", writeArray numpy run.queryEmbedding), ("answer", run.answer),
    ("answer_embedding", writeArray numpy run.answerEmbedding),
    ("system_info", writeInfo run.systemInfo), ("metadata", run.metadata),
    ("timestamp", run.timestamp), ("system_version", run.systemVersion)]

def RunObject.toDict (numpy : Numpy N M) (run : RunObject N M) : Dict N :=
  Dict.empty.setAll (run.fields numpy)

/-- `kwargs[key]`, or the default of the dataclass. -/
def argument (data : Dict N) (key : String) (default : PyVal N) : PyVal N :=
  (data.get? key).getD default

/-- `cls(**kwargs)`, with the arguments that need no conversion taken from the data. -/
def RunObject.ofArguments (postInit : PostInit N) (data : Dict N)
    (systemInfo : Option (SystemInfoArgs N)) (retrievedEmbeddings : Option (List M))
    (queryEmbedding answerEmbedding : Option M) : RunObject N M where
  schemaVersion := argument data "schema_version" (.str RagPipelines.schemaVersion)
  -- `__post_init__` replaces the `None` of these two, whether it was given or not.
  runId := (given data "run_id").getD (.str postInit.uuid4)
  timestamp := (given data "timestamp").getD (.num postInit.time)
  query := argument data "query" (.str "")
  retrievedDocs := argument data "retrieved_docs" (.arr [])
  retrievedDocIds := argument data "retrieved_doc_ids" .none
  retrievedEmbeddings := retrievedEmbeddings
  queryEmbedding := queryEmbedding
  answer := argument data "answer" .none
  answerEmbedding := answerEmbedding
  systemInfo := systemInfo
  metadata := argument data "metadata" (.ofDict .empty)
  systemVersion := argument data "system_version" .none
  identified := given_getD_ne_none data "run_id" nofun
  timed := given_getD_ne_none data "timestamp" nofun

def RunObject.fromDict (numpy : Numpy N M) (postInit : PostInit N) (data : Dict N) :
    Except RunError (RunObject N M) := do
  let systemInfo ← readSystemInfo data
  let retrievedEmbeddings ← readArrays numpy data "retrieved_embeddings"
  let queryEmbedding ← readArray numpy data "query_embedding"
  let answerEmbedding ← readArray numpy data "answer_embedding"
  return .ofArguments postInit data systemInfo retrievedEmbeddings queryEmbedding answerEmbedding

/-- The keys whose values are taken over as they are. -/
def plainKeys : List String :=
  ["schema_version", "run_id", "query", "retrieved_docs", "retrieved_doc_ids", "answer",
    "metadata", "timestamp", "system_version"]

/-- The keys whose `None` is replaced by `__post_init__`. -/
def filledKeys : List String := ["run_id", "timestamp"]

def arrayKeys : List String := ["query_embedding", "answer_embedding"]

def runKeys : List String := plainKeys ++ arrayKeys ++ ["retrieved_embeddings", "system_info"]

theorem get?_toDict (numpy : Numpy N M) (run : RunObject N M) {key : String} {value : PyVal N}
    (listed : (key, value) ∈ run.fields numpy) : (run.toDict numpy).get? key = some value := by
  apply Dict.get?_setAll _ listed
  show ["schema_version", "run_id", "query", "retrieved_docs", "retrieved_doc_ids",
    "retrieved_embeddings", "query_embedding", "answer", "answer_embedding", "system_info",
    "metadata", "timestamp", "system_version"].Nodup
  decide

theorem get?_infoDict (info : SystemInfoArgs N) {key : String} {value : PyVal N}
    (listed : (key, value) ∈ infoFields info) : (infoDict info).get? key = some value := by
  apply Dict.get?_setAll _ listed
  show systemInfoFields.Nodup
  decide

theorem keys_infoDict (info : SystemInfoArgs N) : (infoDict info).keys = systemInfoFields := by
  simp [infoDict, infoFields, Dict.setAll, Dict.set, Dict.keys, Dict.empty, Json.setMember,
    systemInfoFields]

theorem ofKwargs_infoDict (info : SystemInfoArgs N) : ofKwargs (infoDict info) = .ok info := by
  have known : (infoDict info).keys.find? (fun key => key ∉ systemInfoFields) = none := by
    rw [keys_infoDict]
    decide
  have named : "name" ∈ (infoDict info).keys := by
    rw [keys_infoDict]
    decide
  have held : ∀ {key value}, (key, value) ∈ infoFields info → (infoDict info).get key = value :=
    fun listed => Dict.get_of_get? (get?_infoDict info listed)
  rw [ofKwargs, known]
  dsimp only
  rw [if_pos named, held (by simp [infoFields] : ("name", info.name) ∈ _),
    held (by simp [infoFields] : ("model", info.model) ∈ _),
    held (by simp [infoFields] : ("embedding_model", info.embeddingModel) ∈ _),
    held (by simp [infoFields] : ("retriever", info.retriever) ∈ _),
    held (by simp [infoFields] : ("version", info.version) ∈ _)]

theorem readSystemInfo_write {data : Dict N} {info : Option (SystemInfoArgs N)}
    (held : data.get? "system_info" = some (writeInfo info)) :
    readSystemInfo data = .ok info := by
  cases info with
  | none => rw [readSystemInfo, given_none held]
  | some info =>
      rw [readSystemInfo, given_of_get? held (PyVal.ofDict_ne_none _)]
      show (ofKwargs (infoDict info)).map some = _
      rw [ofKwargs_infoDict]
      rfl

theorem asarray_recreates {numpy : Numpy N M} {array : M} (recreates : numpy.Recreates array) :
    asarray numpy (numpy.tolist array) = .ok array := by
  rw [asarray, recreates.2]

theorem readArray_write {numpy : Numpy N M} {data : Dict N} {key : String} {array : Option M}
    (held : data.get? key = some (writeArray numpy array))
    (recreates : ∀ found ∈ array, numpy.Recreates found) :
    readArray numpy data key = .ok array := by
  cases array with
  | none => rw [readArray, given_none held]
  | some array =>
      have here := recreates array rfl
      rw [readArray, given_of_get? held here.1]
      show (asarray numpy (numpy.tolist array)).map some = _
      rw [asarray_recreates here]
      rfl

theorem asarrays_recreates {numpy : Numpy N M} {arrays : List M}
    (recreates : ∀ array ∈ arrays, numpy.Recreates array) :
    asarrays numpy (.arr (arrays.map numpy.tolist)) = .ok arrays := by
  have items : iter? (.arr (arrays.map numpy.tolist)) = some (arrays.map numpy.tolist) :=
    PyVal.asItems?_arr _
  rw [asarrays, items]
  apply mapM_ok_iff.mpr
  rw [List.forall₂_map_left_iff, List.forall₂_same]
  intro array inside
  exact asarray_recreates (recreates array inside)

theorem readArrays_write {numpy : Numpy N M} {data : Dict N} {key : String}
    {arrays : Option (List M)} (held : data.get? key = some (writeArrays numpy arrays))
    (recreates : ∀ array ∈ arrays.getD [], numpy.Recreates array) :
    readArrays numpy data key = .ok arrays := by
  cases arrays with
  | none => rw [readArrays, given_none held]
  | some arrays =>
      have present : writeArrays numpy (some arrays) ≠ .none := nofun
      rw [readArrays, given_of_get? held present]
      show (asarrays numpy (.arr (arrays.map numpy.tolist))).map some = _
      have each : ∀ array ∈ arrays, numpy.Recreates array := recreates
      rw [asarrays_recreates each]
      rfl

theorem RunObject.ofArguments_toDict (numpy : Numpy N M) (run : RunObject N M)
    (postInit : PostInit N) :
    ofArguments postInit (run.toDict numpy) run.systemInfo run.retrievedEmbeddings
      run.queryEmbedding run.answerEmbedding = run := by
  have held : ∀ {key value} default, (key, value) ∈ run.fields numpy →
      argument (run.toDict numpy) key default = value := by
    intro key value default listed
    rw [argument, get?_toDict numpy run listed, Option.getD_some]
  have filled : ∀ {key value} default, (key, value) ∈ run.fields numpy → value ≠ .none →
      (given (run.toDict numpy) key).getD default = value := by
    intro key value default listed present
    rw [given_of_get? (get?_toDict numpy run listed) present, Option.getD_some]
  apply RunObject.ext <;> dsimp only [ofArguments]
  case runId => exact filled _ (by simp [fields]) run.identified
  case timestamp => exact filled _ (by simp [fields]) run.timed
  all_goals exact held _ (by simp [fields])

theorem RunObject.fromDict_toDict {numpy : Numpy N M} {run : RunObject N M}
    (recreates : ∀ array ∈ run.arrays, numpy.Recreates array) (postInit : PostInit N) :
    fromDict numpy postInit (run.toDict numpy) = .ok run := by
  have info : readSystemInfo (run.toDict numpy) = .ok run.systemInfo :=
    readSystemInfo_write (get?_toDict numpy run (by simp [fields]))
  have rows : readArrays numpy (run.toDict numpy) "retrieved_embeddings" =
      .ok run.retrievedEmbeddings := by
    apply readArrays_write (get?_toDict numpy run (by simp [fields]))
    intro array inside
    exact recreates array (by simp [arrays, inside])
  have query : readArray numpy (run.toDict numpy) "query_embedding" = .ok run.queryEmbedding := by
    apply readArray_write (get?_toDict numpy run (by simp [fields]))
    intro array inside
    exact recreates array (by simp [arrays, Option.mem_def.mp inside])
  have answer : readArray numpy (run.toDict numpy) "answer_embedding" =
      .ok run.answerEmbedding := by
    apply readArray_write (get?_toDict numpy run (by simp [fields]))
    intro array inside
    exact recreates array (by simp [arrays, Option.mem_def.mp inside])
  rw [fromDict, info, rows, query, answer]
  exact congrArg Except.ok (ofArguments_toDict numpy run postInit)

/-- What stands in `written` of the fields of the data: plain values as they were given, the
embeddings as numpy reads and lists them, and in `system_info` every entry that was given. -/
structure Kept (numpy : Numpy N M) (data written : Dict N) : Prop where
  field : ∀ key ∈ plainKeys, ∀ value, data.get? key = some value →
    value ≠ .none ∨ key ∉ filledKeys → written.get? key = some value
  embedding : ∀ key ∈ arrayKeys, ∀ value, data.get? key = some value → value ≠ .none →
    ∃ array, numpy.asarray value = some array ∧ written.get? key = some (numpy.tolist array)
  embeddings : ∀ value, data.get? "retrieved_embeddings" = some value → value ≠ .none →
    ∃ items arrays, iter? value = some items ∧
      List.Forall₂ (fun item array => numpy.asarray item = some array) items arrays ∧
      written.get? "retrieved_embeddings" = some (.arr (arrays.map numpy.tolist))
  systemInfo : ∀ value, data.get? "system_info" = some value → value ≠ .none →
    ∃ info full, value = .ofDict info ∧ "name" ∈ info.keys ∧
      (∀ name ∈ info.keys, name ∈ systemInfoFields) ∧
      written.get? "system_info" = some (.ofDict full) ∧
      ∀ name entry, info.get? name = some entry → full.get? name = some entry

theorem asarray_ok_iff {numpy : Numpy N M} {value : PyVal N} {array : M} :
    asarray numpy value = .ok array ↔ numpy.asarray value = some array := by
  rw [asarray]
  cases numpy.asarray value with
  | none => exact ⟨nofun, nofun⟩
  | some found => simp

theorem readArray_kept {numpy : Numpy N M} {data : Dict N} {key : String} {array : Option M}
    (ran : readArray numpy data key = .ok array) {value : PyVal N}
    (held : data.get? key = some value) (present : value ≠ .none) :
    ∃ found, numpy.asarray value = some found ∧ writeArray numpy array = numpy.tolist found := by
  rw [readArray, given_of_get? held present] at ran
  obtain ⟨found, read, rfl⟩ := map_ok_iff.mp ran
  exact ⟨found, asarray_ok_iff.mp read, rfl⟩

theorem readArrays_kept {numpy : Numpy N M} {data : Dict N} {key : String}
    {arrays : Option (List M)} (ran : readArrays numpy data key = .ok arrays) {value : PyVal N}
    (held : data.get? key = some value) (present : value ≠ .none) :
    ∃ items found, iter? value = some items ∧
      List.Forall₂ (fun item array => numpy.asarray item = some array) items found ∧
      writeArrays numpy arrays = .arr (found.map numpy.tolist) := by
  rw [readArrays, given_of_get? held present] at ran
  obtain ⟨found, read, rfl⟩ := map_ok_iff.mp ran
  rw [asarrays] at read
  cases items : iter? value with
  | none =>
      rw [items] at read
      cases read
  | some list =>
      rw [items] at read
      refine ⟨list, found, rfl, ?_, rfl⟩
      exact (mapM_ok_iff.mp read).imp fun _ _ => asarray_ok_iff.mp

theorem ofKwargs_kept {value : Dict N} {info : SystemInfoArgs N} (ran : ofKwargs value = .ok info) :
    "name" ∈ value.keys ∧ (∀ name ∈ value.keys, name ∈ systemInfoFields) ∧
      ∀ name entry, value.get? name = some entry → (infoDict info).get? name = some entry := by
  unfold ofKwargs at ran
  split at ran
  · cases ran
  · rename_i known
    split at ran
    · rename_i named
      have listed : ∀ name ∈ value.keys, name ∈ systemInfoFields := by
        intro name inside
        simpa using List.find?_eq_none.mp known name inside
      refine ⟨named, listed, ?_⟩
      intro name entry held
      have inside : name ∈ value.keys := (value.mem_keys_iff name).mpr (by rw [held]; rfl)
      cases ran
      apply get?_infoDict
      rw [← Dict.get_of_get? held]
      have fieldNames := listed name inside
      simp only [systemInfoFields, List.mem_cons, List.not_mem_nil, or_false] at fieldNames
      rcases fieldNames with rfl | rfl | rfl | rfl | rfl <;> simp [infoFields]
    · cases ran

theorem readSystemInfo_kept {data : Dict N} {systemInfo : Option (SystemInfoArgs N)}
    (ran : readSystemInfo data = .ok systemInfo) {value : PyVal N}
    (held : data.get? "system_info" = some value) (present : value ≠ .none) :
    ∃ info full, value = .ofDict info ∧ "name" ∈ info.keys ∧
      (∀ name ∈ info.keys, name ∈ systemInfoFields) ∧ writeInfo systemInfo = .ofDict full ∧
      ∀ name entry, info.get? name = some entry → full.get? name = some entry := by
  rw [readSystemInfo, given_of_get? held present] at ran
  dsimp only at ran
  cases mapping : value.asDict? with
  | none =>
      rw [mapping] at ran
      cases ran
  | some info =>
      rw [mapping] at ran
      obtain ⟨args, built, rfl⟩ := map_ok_iff.mp ran
      obtain ⟨named, known, kept⟩ := ofKwargs_kept built
      exact ⟨info, infoDict args, PyVal.ofDict_of_asDict? mapping, named, known, rfl, kept⟩

theorem RunObject.fromDict_ok {numpy : Numpy N M} {postInit : PostInit N} {data : Dict N}
    {run : RunObject N M} (ran : fromDict numpy postInit data = .ok run) :
    readSystemInfo data = .ok run.systemInfo ∧
      readArrays numpy data "retrieved_embeddings" = .ok run.retrievedEmbeddings ∧
      readArray numpy data "query_embedding" = .ok run.queryEmbedding ∧
      readArray numpy data "answer_embedding" = .ok run.answerEmbedding ∧
      run = ofArguments postInit data run.systemInfo run.retrievedEmbeddings run.queryEmbedding
        run.answerEmbedding := by
  obtain ⟨systemInfo, atInfo, rest⟩ := bind_ok_iff.mp ran
  obtain ⟨rows, atRows, rest⟩ := bind_ok_iff.mp rest
  obtain ⟨query, atQuery, rest⟩ := bind_ok_iff.mp rest
  obtain ⟨answer, atAnswer, built⟩ := bind_ok_iff.mp rest
  cases Except.ok.inj built
  exact ⟨atInfo, atRows, atQuery, atAnswer, rfl⟩

/-- The plain fields that `cls(**kwargs)` is given are those of the data. -/
theorem RunObject.ofArguments_field (numpy : Numpy N M) (postInit : PostInit N) {data : Dict N}
    (systemInfo : Option (SystemInfoArgs N)) (rows : Option (List M)) (query answer : Option M)
    {key : String} (plain : key ∈ plainKeys) {value : PyVal N}
    (held : data.get? key = some value) (present : value ≠ .none ∨ key ∉ filledKeys) :
    (key, value) ∈ (ofArguments postInit data systemInfo rows query answer).fields numpy := by
  have taken : ∀ default, argument data key default = value := by
    intro default
    rw [argument, held, Option.getD_some]
  have filled : key ∈ filledKeys → ∀ default, (given data key).getD default = value := by
    intro inside default
    have full := present.resolve_right (not_not.mpr inside)
    rw [given_of_get? held full, Option.getD_some]
  simp only [plainKeys, List.mem_cons, List.not_mem_nil, or_false] at plain
  rcases plain with rfl | rfl | rfl | rfl | rfl | rfl | rfl | rfl | rfl
  · simp [fields, ofArguments, taken]
  · simp [fields, ofArguments, filled (by decide)]
  · simp [fields, ofArguments, taken]
  · simp [fields, ofArguments, taken]
  · simp [fields, ofArguments, taken]
  · simp [fields, ofArguments, taken]
  · simp [fields, ofArguments, taken]
  · simp [fields, ofArguments, filled (by decide)]
  · simp [fields, ofArguments, taken]

theorem RunObject.fromDict_kept {numpy : Numpy N M} {postInit : PostInit N} {data : Dict N}
    {run : RunObject N M} (ran : fromDict numpy postInit data = .ok run) :
    Kept numpy data (run.toDict numpy) := by
  obtain ⟨atInfo, atRows, atQuery, atAnswer, built⟩ := fromDict_ok ran
  constructor
  case field =>
    intro key plain value held present
    apply get?_toDict
    rw [built]
    exact ofArguments_field numpy postInit _ _ _ _ plain held present
  case embedding =>
    intro key listed value held present
    simp only [arrayKeys, List.mem_cons, List.not_mem_nil, or_false] at listed
    rcases listed with rfl | rfl
    · obtain ⟨array, read, written⟩ := readArray_kept atQuery held present
      exact ⟨array, read, get?_toDict numpy run (by simp [fields, written])⟩
    · obtain ⟨array, read, written⟩ := readArray_kept atAnswer held present
      exact ⟨array, read, get?_toDict numpy run (by simp [fields, written])⟩
  case embeddings =>
    intro value held present
    obtain ⟨items, arrays, iterated, read, written⟩ := readArrays_kept atRows held present
    exact ⟨items, arrays, iterated, read, get?_toDict numpy run (by simp [fields, written])⟩
  case systemInfo =>
    intro value held present
    obtain ⟨info, full, same, named, known, written, kept⟩ :=
      readSystemInfo_kept atInfo held present
    exact ⟨info, full, same, named, known, get?_toDict numpy run (by simp [fields, written]), kept⟩

theorem RunObject.fromDict_congr {data other : Dict N}
    (same : ∀ key ∈ runKeys, data.get? key = other.get? key) (numpy : Numpy N M)
    (postInit : PostInit N) :
    fromDict numpy postInit data = fromDict numpy postInit other := by
  have atKey : ∀ key ∈ runKeys, given data key = given other key := by
    intro key listed
    rw [given, given, Dict.get, Dict.get, same key listed]
  have plain : ∀ key ∈ runKeys, ∀ default, argument data key default =
      argument other key default := by
    intro key listed default
    rw [argument, argument, same key listed]
  have built : ofArguments (M := M) postInit data = ofArguments postInit other := by
    funext systemInfo rows query answer
    apply RunObject.ext <;> dsimp only [ofArguments]
    case runId => rw [atKey "run_id" (by decide)]
    case timestamp => rw [atKey "timestamp" (by decide)]
    all_goals exact plain _ (by decide) _
  rw [fromDict, fromDict, built, readSystemInfo, readSystemInfo, atKey "system_info" (by decide)]
  simp only [readArrays, readArray, atKey _ (by decide : "retrieved_embeddings" ∈ runKeys),
    atKey _ (by decide : "query_embedding" ∈ runKeys),
    atKey _ (by decide : "answer_embedding" ∈ runKeys)]

/-- A run whose arrays can be made again is read back from its JSON text. Whatever dictionary
is read, the plain fields stand as they were given and the embeddings as numpy lists them; a key
that a run does not have is passed over, and one that its `system_info` does not have is
refused. -/
theorem run_codec [NumText N] (numpy : Numpy N M) (postInit : PostInit N) :
    (∀ run : RunObject N M, (∀ array ∈ run.arrays, numpy.Recreates array) →
        ((loads (dumps (.obj (run.toDict numpy).members))).bind Json.toDict?).map
          (RunObject.fromDict numpy postInit) = some (.ok run)) ∧
      (∀ data run, RunObject.fromDict numpy postInit data = .ok run →
        Kept numpy data (run.toDict numpy)) ∧
      (∀ data other : Dict N, (∀ key ∈ runKeys, data.get? key = other.get? key) →
        RunObject.fromDict numpy postInit data = RunObject.fromDict numpy postInit other) ∧
      ∀ (data info : Dict N) name, data.get? "system_info" = some (.ofDict info) →
        name ∈ info.keys → name ∉ systemInfoFields →
          ∀ run, RunObject.fromDict numpy postInit data ≠ .ok run := by
  refine ⟨?_, ?_, ?_, ?_⟩
  · intro run recreates
    rw [loads_dumps _ (run.toDict numpy).distinct, Option.bind_some, Json.toDict?_members,
      Option.map_some, RunObject.fromDict_toDict recreates]
  · intro data run ran
    exact RunObject.fromDict_kept ran
  · intro data other same
    exact RunObject.fromDict_congr same numpy postInit
  · intro data info name held inside unknown run ran
    have kept := (RunObject.fromDict_kept ran).systemInfo _ held (PyVal.ofDict_ne_none info)
    obtain ⟨found, full, same, named, known, written, entries⟩ := kept
    have here : info = found := Option.some.inj (congrArg PyVal.asDict? same)
    subst here
    exact unknown (known name inside)

/-- The arrays of numbers in one dimension. -/
def vectors : Numpy ℚ (List ℚ) where
  asarray value := value.asItems?.bind fun items => items.mapM PyVal.asPlainNumber?
  tolist row := .arr (row.map .num)

theorem vectors_recreates (row : List ℚ) : vectors.Recreates row := by
  refine ⟨nofun, ?_⟩
  simp only [vectors, PyVal.asItems?_arr, Option.bind_some]
  have undoes : ∀ number : ℚ, (PyVal.num number).asPlainNumber? = some number := fun _ => rfl
  exact mapM_undoes undoes row

/-- A run with two embeddings whose model and answer are numbers. -/
def untypedRun : RunObject ℚ (List ℚ) where
  schemaVersion := .str "1.0"
  runId := .num 7
  query := .str "q"
  retrievedDocs := .arr [.str "d", .none]
  retrievedDocIds := .none
  retrievedEmbeddings := some [[1 / 2, 1 / 4]]
  queryEmbedding := some [1 / 2, 1]
  answer := .num 3
  answerEmbedding := none
  systemInfo := some ⟨.str "naive", .num 4, .none, .none, .none⟩
  metadata := .ofDict .empty
  timestamp := .num 0
  systemVersion := .none
  identified := nofun
  timed := nofun

theorem run_codec_untyped :
    ((loads (dumps (.obj (untypedRun.toDict vectors).members))).bind Json.toDict?).map
      (RunObject.fromDict vectors ⟨"id", 5⟩) = some (.ok untypedRun) :=
  (run_codec vectors ⟨"id", 5⟩).1 untypedRun fun array _ => vectors_recreates array

end RagDrift.Ingestion
