import RagDrift.Storage.Decoded

set_option autoImplicit false

/- A batch of records given to `POST /v1/eval` or to the `eval` command, and what it leaves of the
history. -/
namespace RagDrift.Storage

open Text (pieces universalNewlines isSpace)
open Json (dumps NumText)
open Exceptions (bind_ok_iff map_ok_iff)

variable {N : Type} [DecidableEq N] [Zero N] [One N] [NumText N]

/-- The decoded record and its dictionary: all that can raise before the disk is touched. -/
def ready (draws : Draws N) (index : Nat) (data : Json N) :
    Except PyErr (LoadedRecord N × Json N) := do
  let record ← decode draws index data
  let value ← record.toDict
  return (record, value)

/-- The loop of both callers, `count` records into the batch. -/
def ingest (draws : Draws N) : Nat → Disk → List (Json N) → Disk × Except PyErr Nat
  | count, disk, [] => (disk, .ok count)
  | count, disk, data :: rest =>
      match ready draws count data with
      | .error reason => (disk, .error reason)
      | .ok (_, value) => ingest draws (count + 1) (saveValue disk value) rest

/-- The route; the number is the `ingested` of its response. -/
def evaluate (draws : Draws N) (disk : Disk) (records : List (Dict N)) : Disk × Except PyErr Nat :=
  ingest draws 0 disk (records.map fun data => .obj data.members)

/-- The command, on what `json.load` made of its input file. -/
def cmdEval (draws : Draws N) (disk : Disk) : Json N → Disk × Except PyErr Nat
  | .obj members => ingest draws 0 disk [.obj members]
  | records =>
      match iterate records with
      | .error reason => (disk, .error reason)
      | .ok items => ingest draws 0 disk items

inductive Caller where
  | evaluate
  | cmdEval

def Caller.run (draws : Draws N) (disk : Disk) (batch : List (Dict N)) :
    Caller → Disk × Except PyErr Nat
  | .evaluate => Storage.evaluate draws disk batch
  | .cmdEval => Storage.cmdEval draws disk (.arr (batch.map fun data => .obj data.members))

theorem Caller.run_eq (caller : Caller) (draws : Draws N) (disk : Disk) (batch : List (Dict N)) :
    caller.run draws disk batch =
      ingest draws 0 disk (batch.map fun data => .obj data.members) := by
  cases caller <;> rfl

/-- All records of the batch, decoded. -/
def decodeBatch (draws : Draws N) : Nat → List (Json N) → Except PyErr (List (LoadedRecord N))
  | _, [] => .ok []
  | count, data :: rest => do
      let record ← decode draws count data
      let records ← decodeBatch draws (count + 1) rest
      return record :: records

/-- A call that raised has left the history as it was, and one that returned has added the
batch. -/
def AllOrNothing (draws : Draws N) (before : List (LoadedRecord N)) (batch : List (Json N))
    (left : Disk × Except PyErr Nat) : Prop :=
  match left.2 with
  | .error _ => loadAll left.1 = .ok before
  | .ok _ => ∃ records, decodeBatch draws 0 batch = .ok records ∧
      loadAll left.1 = .ok (before ++ records)

/-- The records in front of the first one that raises. -/
def accepted (draws : Draws N) : Nat → List (Json N) → List (LoadedRecord N)
  | _, [] => []
  | count, data :: rest =>
      match ready draws count data with
      | .error _ => []
      | .ok (record, _) => record :: accepted draws (count + 1) rest

/-- One of the records raises, so not all of them stand in front of the first that does. -/
def Fails (draws : Draws N) (batch : List (Json N)) : Prop :=
  (accepted draws 0 batch).length < batch.length

instance (draws : Draws N) (batch : List (Json N)) : Decidable (Fails draws batch) :=
  inferInstanceAs (Decidable ((accepted draws 0 batch).length < batch.length))

/-- Only blanks stand behind the last line break. -/
def Terminated (content : List Char) : Prop := ∀ c ∈ lastPiece content, isSpace c = true

instance (content : List Char) : Decidable (Terminated content) :=
  inferInstanceAs (Decidable (∀ c ∈ lastPiece content, isSpace c = true))

/-- What is read of the line that the next save continues. -/
def unfinished (content : List Char) : List (LoadedRecord N) :=
  match loadLine (lastPiece content) with
  | .ok record => record.toList
  | .error _ => []

/-- What can be read of records that were saved one after the other: the first one is lost if it
continues a line. -/
def legible (content : List Char) (saved : List (LoadedRecord N)) : List (LoadedRecord N) :=
  (if Terminated content then saved else saved.tail).filterMap LoadedRecord.reloaded

/-- Where no record raises, the history ends in a line break and every item of the metrics was a
dictionary; where one does, the records in front of it leave as much to read as the unfinished
line that the first of them destroys. -/
def KeepsHistory (draws : Draws N) (file : Option (List Char)) (batch : List (Json N)) : Prop :=
  let content := file.getD []
  let saved := accepted draws 0 batch
  saved = [] ∨
    if Fails draws batch then legible content saved = unfinished content
    else Terminated content ∧ ∀ record ∈ saved, ∀ metric ∈ record.metrics, metric.Decoded

theorem ready_ok_iff {draws : Draws N} {index : Nat} {data : Json N} {record : LoadedRecord N}
    {value : Json N} : ready draws index data = .ok (record, value) ↔
      decode draws index data = .ok record ∧ record.toDict = .ok value := by
  rw [ready, bind_ok_iff]
  constructor
  · rintro ⟨decoded, here, rest⟩
    obtain ⟨written, there, same⟩ := bind_ok_iff.mp rest
    cases same
    exact ⟨here, there⟩
  · rintro ⟨here, there⟩
    exact ⟨record, here, bind_ok_iff.mpr ⟨value, there, rfl⟩⟩

/-- The loop saves the accepted records, and whether it raises is whether there are others. -/
theorem ingest_spec (draws : Draws N) (count : Nat) (disk : Disk) (batch : List (Json N)) :
    ∃ values, List.Forall₂ (fun record value => record.toDict = .ok value)
        (accepted draws count batch) values ∧
      (ingest draws count disk batch).1 = values.foldl saveValue disk ∧
      ((accepted draws count batch).length < batch.length ∧
          (∃ reason, (ingest draws count disk batch).2 = .error reason) ∨
        (accepted draws count batch).length = batch.length ∧
          (∃ total, (ingest draws count disk batch).2 = .ok total) ∧
          decodeBatch draws count batch = .ok (accepted draws count batch)) := by
  induction batch generalizing count disk with
  | nil => exact ⟨[], .nil, rfl, .inr ⟨rfl, ⟨count, rfl⟩, rfl⟩⟩
  | cons data rest ih =>
      rw [accepted, ingest]
      cases prepared : ready draws count data with
      | error reason => exact ⟨[], .nil, rfl, .inl ⟨Nat.succ_pos _, reason, rfl⟩⟩
      | ok pair =>
          obtain ⟨record, value⟩ := pair
          obtain ⟨decoded, written⟩ := ready_ok_iff.mp prepared
          obtain ⟨values, all, disks, ends⟩ := ih (count + 1) (saveValue disk value)
          refine ⟨value :: values, .cons written all, disks, ?_⟩
          rcases ends with ⟨fewer, failed⟩ | ⟨same, returned, loaded⟩
          · exact .inl ⟨Nat.succ_lt_succ fewer, failed⟩
          · refine .inr ⟨congrArg Nat.succ same, returned, ?_⟩
            rw [decodeBatch, decoded, loaded]
            rfl

/-- The accepted records were decoded from dictionaries. -/
theorem accepted_complete (draws : Draws N) (count : Nat) (batch : List (Dict N)) :
    ∀ record ∈ accepted draws count (batch.map fun data => .obj data.members),
      record.Complete := by
  induction batch generalizing count with
  | nil => simp [accepted]
  | cons data rest ih =>
      rw [List.map_cons, accepted]
      cases prepared : ready draws count (.obj data.members) with
      | error reason => simp
      | ok pair =>
          rw [List.forall_mem_cons]
          exact ⟨decode_complete (ready_ok_iff.mp prepared).1, ih (count + 1)⟩

omit [DecidableEq N] [Zero N] [One N] in
theorem loadLine_terminated {content : List Char} (ended : Terminated content) :
    (loadLine (lastPiece content) : Except PyErr (Option (LoadedRecord N))) = .ok none :=
  loadLine_blank ended

/-- A saved record is read behind the history if that is terminated, and otherwise it takes the
unfinished line with it. -/
theorem loadText_saved {content : List Char} {before : List (LoadedRecord N)}
    (readable : loadText content = .ok before) {record : LoadedRecord N} {value : Json N}
    (written : record.toDict = .ok value) :
    ∃ kept : List (LoadedRecord N), before = kept ++ unfinished content ∧
      loadText (universalNewlines content ++ dumps value ++ ['\n']) =
        .ok (kept ++ legible content [record]) ∧
      Terminated (universalNewlines content ++ dumps value ++ ['\n']) := by
  obtain ⟨front, old, new⟩ := loadText_append_value content value
  have shaped := LoadedRecord.toDict_shaped written
  rw [loadText, old, loadLines_append] at readable
  obtain ⟨kept, first, readable⟩ := bind_ok_iff.mp readable
  obtain ⟨others, last, same⟩ := map_ok_iff.mp readable
  obtain ⟨found, line, last⟩ := bind_ok_iff.mp last
  cases last
  have piece : unfinished content = found.toList := by
    rw [unfinished, line]
  refine ⟨kept, ?_, ?_, ?_⟩
  · rw [piece, ← same, List.append_nil]
  · have tail : (loadLine (lastPiece content ++ dumps value) :
        Except PyErr (Option (LoadedRecord N))) =
        .ok (if Terminated content then record.reloaded else none) := by
      by_cases ended : Terminated content
      · rw [if_pos ended, loadLine_value shaped _ ended, loadValue_written written]
      · rw [if_neg ended]
        simp only [Terminated, not_forall, Bool.not_eq_true] at ended
        obtain ⟨c, inside, visible⟩ := ended
        exact loadLine_value_glued shaped ⟨c, inside, visible⟩
    rw [loadText, new, loadLines_append, first, loadLines_cons_ok tail,
      loadLines_cons_ok (loadLine_blank (by simp))]
    rw [legible, List.filterMap_eq_flatMap_toList]
    by_cases ended : Terminated content
    · simp [ended, loadLines, Except.map, Except.bind]
    · simp [ended, loadLines, Except.map, Except.bind]
  · rw [Terminated, lastPiece, new]
    simp

omit [DecidableEq N] [Zero N] [One N] in
theorem unfinished_terminated {content : List Char} (ended : Terminated content) :
    (unfinished content : List (LoadedRecord N)) = [] := by
  rw [unfinished, loadLine_terminated ended]
  rfl

theorem legible_terminated {content : List Char} (ended : Terminated content)
    (saved : List (LoadedRecord N)) :
    legible content saved = saved.filterMap LoadedRecord.reloaded := by
  rw [legible, if_pos ended]

/-- Behind a terminated history every saved record is read as its line is. -/
theorem loadAll_saves_terminated {content : List Char} {before : List (LoadedRecord N)}
    (readable : loadText content = .ok before) (ended : Terminated content)
    {records : List (LoadedRecord N)} {values : List (Json N)}
    (written : List.Forall₂ (fun record value => record.toDict = .ok value) records values) :
    loadAll (values.foldl saveValue ⟨some content, none⟩) =
      .ok (before ++ records.filterMap LoadedRecord.reloaded) := by
  induction written generalizing content before with
  | nil =>
      rw [List.filterMap_nil, List.append_nil]
      exact readable
  | @cons record value records values here _ ih =>
      obtain ⟨kept, same, read, again⟩ := loadText_saved readable here
      rw [unfinished_terminated ended, List.append_nil] at same
      have clean : CleanStart ⟨some content, none⟩ := .inr rfl
      rw [List.foldl_cons, saveValue_clean clean, Option.getD_some, ih read again,
        legible_terminated ended, same, List.append_assoc, ← List.filterMap_append]
      rfl

/-- What is left of the history, and behind it what can be read of the saved records. -/
theorem loadAll_saves {disk : Disk} {before : List (LoadedRecord N)}
    (readable : loadAll disk = .ok before) (clean : CleanStart disk)
    {records : List (LoadedRecord N)} {values : List (Json N)}
    (written : List.Forall₂ (fun record value => record.toDict = .ok value) records values)
    (some : records ≠ []) :
    ∃ kept, before = kept ++ unfinished (disk.file.getD []) ∧
      loadAll (values.foldl saveValue disk) =
        .ok (kept ++ legible (disk.file.getD []) records) := by
  cases written with
  | nil => exact absurd rfl some
  | @cons record value records values here later =>
      rw [loadAll_eq_loadText] at readable
      obtain ⟨kept, same, read, ended⟩ := loadText_saved readable here
      refine ⟨kept, same, ?_⟩
      rw [List.foldl_cons, saveValue_clean clean, loadAll_saves_terminated read ended later,
        List.append_assoc]
      by_cases start : Terminated (disk.file.getD [])
      · rw [legible_terminated start, legible_terminated start, ← List.filterMap_append]
        rfl
      · rw [legible, legible, if_neg start, if_neg start]
        rfl

/-- Saved records are all read behind the history exactly where it is terminated and each of them
is read back. -/
theorem legible_eq_iff {content : List Char} {saved : List (LoadedRecord N)}
    (complete : ∀ record ∈ saved, record.Complete) (some : saved ≠ []) :
    legible content saved = unfinished content ++ saved ↔
      Terminated content ∧ ∀ record ∈ saved, ∀ metric ∈ record.metrics, metric.Decoded := by
  have all : saved.filterMap LoadedRecord.reloaded = saved ↔
      ∀ record ∈ saved, ∀ metric ∈ record.metrics, metric.Decoded := by
    have each := List.filterMap_eq_map_iff_forall_eq_some (f := LoadedRecord.reloaded)
      (g := id) (l := saved)
    rw [List.map_id] at each
    rw [each]
    exact forall₂_congr fun record inside => reloaded_eq_self_iff (complete record inside)
  by_cases ended : Terminated content
  · rw [legible_terminated ended, unfinished_terminated ended, List.nil_append, all]
    simp only [ended, true_and]
  · refine iff_of_false ?_ (fun both => ended both.1)
    intro same
    have shorter := List.length_filterMap_le LoadedRecord.reloaded saved.tail
    have lengths := congrArg List.length same
    rw [legible, if_neg ended, List.length_append] at lengths
    rw [List.length_tail] at shorter
    have positive := List.length_pos_iff.mpr some
    omega

/-- Where no save left a `.tmp` file, a batch is ingested wholly or not at all exactly where no
record in front of one that raises can be read later, or where none raises and all of them can. -/
theorem ingestion_all_or_nothing_iff (draws : Draws N) {disk : Disk} (batch : List (Dict N))
    {before : List (LoadedRecord N)} (readable : loadAll disk = .ok before)
    (clean : CleanStart disk) (caller : Caller) :
    AllOrNothing draws before (batch.map fun data => .obj data.members)
        (caller.run draws disk batch) ↔
      KeepsHistory draws disk.file (batch.map fun data => .obj data.members) := by
  rw [caller.run_eq]
  have complete := accepted_complete draws 0 batch
  generalize batch.map (fun data => Json.obj data.members) = values at complete ⊢
  obtain ⟨written, all, disks, ends⟩ := ingest_spec draws 0 disk values
  rw [AllOrNothing, KeepsHistory, disks]
  by_cases empty : accepted draws 0 values = []
  · rw [empty] at all ends
    cases all
    simp only [empty, true_or, iff_true]
    rcases ends with ⟨_, reason, failed⟩ | ⟨_, ⟨total, returned⟩, loaded⟩
    · rw [failed]
      exact readable
    · rw [returned]
      refine ⟨[], loaded, ?_⟩
      rw [List.append_nil]
      exact readable
  · obtain ⟨kept, same, after⟩ := loadAll_saves readable clean all empty
    subst same
    rw [after]
    simp only [empty, false_or]
    rcases ends with ⟨fewer, reason, failed⟩ | ⟨entire, ⟨total, returned⟩, loaded⟩
    · rw [failed, if_pos (show Fails draws values from fewer)]
      simp only [Except.ok.injEq, List.append_cancel_left_eq]
    · rw [returned, if_neg (show ¬ Fails draws values from entire.not_lt), loaded,
        ← legible_eq_iff complete empty]
      simp only [Except.ok.injEq, exists_eq_left', List.append_assoc, List.append_cancel_left_eq]

/-- The first record can be saved, the metrics of the second are `null`. -/
def brokenBatch : List (Dict Int) :=
  [⟨[("record_id", .str "a"), ("run_id", .str "run-1"), ("timestamp", .num 1)], by decide⟩,
    ⟨[("record_id", .str "b"), ("run_id", .str "run-1"), ("metrics", .null)], by decide⟩]

def fixedDraws : Draws Int := ⟨fun _ => "drawn", fun _ => 0⟩

theorem brokenBatch_evaluate :
    (evaluate fixedDraws Disk.fresh brokenBatch).2 = .error .typeError ∧
      (loadAll (evaluate fixedDraws Disk.fresh brokenBatch).1 :
        Except PyErr (List (LoadedRecord Int))).toOption.map List.length = some 1 := by
  decide +kernel

theorem ingestion_not_all_or_nothing : ¬ ∀ (draws : Draws Int) (file : Option (List Char))
    (batch : List (Dict Int)) (before : List (LoadedRecord Int)) (caller : Caller),
    loadAll ⟨file, none⟩ = .ok before →
      AllOrNothing draws before (batch.map fun data => .obj data.members)
        (caller.run draws ⟨file, none⟩ batch) := by
  intro always
  have kept := always fixedDraws none brokenBatch [] .evaluate rfl
  obtain ⟨failed, one⟩ := brokenBatch_evaluate
  have ran : Caller.evaluate.run fixedDraws ⟨none, none⟩ brokenBatch =
      evaluate fixedDraws Disk.fresh brokenBatch := rfl
  rw [AllOrNothing, ran, failed] at kept
  simp only at kept
  rw [kept] at one
  cases one

theorem ingestion_all_or_nothing_iff_sample :
    AllOrNothing fixedDraws [(sampleRecord "a" 1).loaded]
        (brokenBatch.map fun data => .obj data.members)
        (Caller.cmdEval.run fixedDraws (Disk.holding (dumps (sampleRecord "a" 1).toDict))
          brokenBatch) ↔
      KeepsHistory fixedDraws (some (dumps (sampleRecord "a" 1).toDict))
        (brokenBatch.map fun data => .obj data.members) :=
  ingestion_all_or_nothing_iff fixedDraws brokenBatch (loadAll_unterminated (sampleRecord "a" 1))
    (.inr rfl) .cmdEval

end RagDrift.Storage
