import RagDrift.Storage.SaveHistory
import RagDrift.Storage.Typed

set_option autoImplicit false

/- Reading a history as evaluation records, and the copies made of it: `query_by_run`, `clone`,
`to_in_memory`. -/
namespace RagDrift.Storage

open Json (dumps NumText)

variable {N : Type}

/-- What `__post_init__` draws for the record at an index that was stored without. -/
structure Draws (N : Type) where
  uuid4 : Nat → String
  time : Nat → N

/-- The loaded records where every field holds what its annotation says. -/
def typedRecords (draws : Draws N) (records : List (LoadedRecord N)) :
    Option (List (EvaluationRecord N)) :=
  records.zipIdx.mapM fun item => item.1.typed? (draws.uuid4 item.2) (draws.time item.2)

/-- `evaluator.storage.in_memory_store.InMemoryHistoryStore`. -/
structure InMemoryHistoryStore (N : Type) where
  records : List (EvaluationRecord N)

def InMemoryHistoryStore.loadAll (store : InMemoryHistoryStore N) : List (EvaluationRecord N) :=
  store.records

variable [NumText N]

/-- `none` where a line holds a record that is not of the annotated types. -/
def loadRecords (draws : Draws N) (disk : Disk) :
    Except PyErr (Option (List (EvaluationRecord N))) :=
  (loadAll disk).map (typedRecords draws)

def queryByRun (draws : Draws N) (disk : Disk) (runId : String) :
    Except PyErr (Option (List (EvaluationRecord N))) :=
  (loadRecords draws disk).map fun records =>
    records.map fun records => records.filter fun record => record.runId = runId

/-- The text that `clone` writes in one batch. -/
def batchText (records : List (EvaluationRecord N)) : List Char :=
  let lines := records.map fun record => dumps record.toDict
  if lines ≠ [] then ['\n'].intercalate lines ++ ['\n'] else []

/-- `clone(path)`, onto whatever is at the other path. -/
def clone (draws : Draws N) (disk target : Disk) : Except PyErr (Option Disk) :=
  (loadRecords draws disk).map fun records =>
    records.map fun records => { target with file := some (batchText records) }

def toInMemory (draws : Draws N) (disk : Disk) :
    Except PyErr (Option (InMemoryHistoryStore N)) :=
  (loadRecords draws disk).map fun records => records.map InMemoryHistoryStore.mk

omit [NumText N] in
theorem typedRecords_loaded (draws : Draws N) (records : List (EvaluationRecord N)) :
    typedRecords draws (records.map EvaluationRecord.loaded) = some records := by
  have general : ∀ start, ((records.map EvaluationRecord.loaded).zipIdx start).mapM
      (fun item => item.1.typed? (draws.uuid4 item.2) (draws.time item.2)) = some records := by
    induction records with
    | nil =>
        intro start
        rfl
    | cons record rest ih =>
        intro start
        rw [List.map_cons, List.zipIdx_cons, List.mapM_cons, record.typed?_loaded, ih]
        rfl
  exact general 0

theorem loadRecords_of_loadAll {disk : Disk} {records : List (EvaluationRecord N)}
    (read : loadAll disk = .ok (records.map EvaluationRecord.loaded)) (draws : Draws N) :
    loadRecords draws disk = .ok (some records) := by
  rw [loadRecords, read, Except.map, typedRecords_loaded]

/-- A batch of lines is the history that saving the records one by one leaves. -/
theorem batchText_eq_historyText (records : List (EvaluationRecord N)) :
    batchText records = historyText records := by
  cases records with
  | nil => rfl
  | cons record rest =>
      rw [batchText, List.map_cons, if_pos (List.cons_ne_nil _ _)]
      induction rest generalizing record with
      | nil => simp [historyText]
      | cons next rest ih =>
          have later := ih next
          rw [historyText, List.flatMap_cons, ← historyText, ← later, List.map_cons,
            List.intercalate_cons_cons]
          simp only [List.append_assoc]

theorem saves_hold (records : List (EvaluationRecord N)) :
    Holds (records.foldl save Disk.fresh) records ∧
      CleanStart (records.foldl save Disk.fresh) := by
  induction records using List.reverseRecOn with
  | nil => exact ⟨holds_fresh, .inl rfl⟩
  | append_singleton records record ih =>
      rw [List.foldl_append, List.foldl_cons, List.foldl_nil]
      exact ⟨ih.1.save ih.2 record, .inr rfl⟩

/-- What was saved record by record is what every way of reading the store gives back. -/
theorem store_round_trip (records : List (EvaluationRecord N)) (draws : Draws N) :
    loadRecords draws (records.foldl save Disk.fresh) = .ok (some records) ∧
      (∀ target, ∃ copy,
        clone draws (records.foldl save Disk.fresh) target = .ok (some copy) ∧
        loadRecords draws copy = .ok (some records)) ∧
      (toInMemory draws (records.foldl save Disk.fresh)).map
        (fun store => store.map InMemoryHistoryStore.loadAll) = .ok (some records) ∧
      ∀ runId, queryByRun draws (records.foldl save Disk.fresh) runId =
        .ok (some (records.filter fun record => record.runId = runId)) := by
  have read := loadRecords_of_loadAll (saves_hold records).1.loadAll draws
  refine ⟨read, ?_, ?_, ?_⟩
  · intro target
    refine ⟨{ target with file := some (batchText records) }, ?_, ?_⟩
    · rw [clone, read]
      rfl
    · apply loadRecords_of_loadAll
      rw [batchText_eq_historyText]
      exact loadText_historyText records
  · rw [toInMemory, read]
    rfl
  · intro runId
    rw [queryByRun, read]
    rfl

end RagDrift.Storage
