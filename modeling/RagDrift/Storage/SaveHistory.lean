import RagDrift.Python.Exceptions
import RagDrift.Storage.JsonStore

set_option autoImplicit false

/- What the history file says after saves: onto a text that was there before, and along a
sequence of saves any of which may stop between two of its file operations. -/
namespace RagDrift.Storage

open Text (pieces universalNewlines isSpace)
open Json (dumps NumText)
open Exceptions (bind_ok_iff map_ok_iff)

variable {N : Type} [NumText N]

/-- Nothing an earlier save left behind can end up in the history file. -/
def CleanStart (disk : Disk) : Prop := disk.file = none ∨ disk.tmp.getD [] = []

theorem saveValue_clean {disk : Disk} (clean : CleanStart disk) (value : Json N) :
    saveValue disk value =
      ⟨some (universalNewlines (disk.file.getD []) ++ dumps value ++ ['\n']), none⟩ := by
  obtain ⟨file, tmp⟩ := disk
  cases file with
  | none => exact saveValue_of_missing tmp value
  | some content =>
      have empty : tmp.getD [] = [] := clean.resolve_left nofun
      rw [saveValue_of_existing, empty]
      rfl

theorem save_clean {disk : Disk} (clean : CleanStart disk) (record : EvaluationRecord N) :
    save disk record =
      ⟨some (universalNewlines (disk.file.getD []) ++ dumps record.toDict ++ ['\n']), none⟩ :=
  saveValue_clean clean record.toDict

/-- A missing file is read as an empty one. -/
theorem loadAll_eq_loadText (disk : Disk) :
    (loadAll disk : Except PyErr (List (LoadedRecord N))) = loadText (disk.file.getD []) := by
  obtain ⟨file, tmp⟩ := disk
  cases file <;> rfl

theorem loadLines_record_end {front : List (List Char)} {last : List Char}
    (blank : ∀ c ∈ last, isSpace c = true) (record : EvaluationRecord N) :
    loadLines (front ++ [last ++ dumps record.toDict, []]) =
      (loadLines front).map (· ++ [record.loaded]) := by
  have tail : loadLines [last ++ dumps record.toDict, []] = .ok [record.loaded] := by
    rw [loadLines_cons_ok (loadLine_record _ blank record),
      loadLines_cons_ok (loadLine_blank (by simp))]
    rfl
  rw [loadLines_append, tail]
  cases (loadLines front : Except PyErr (List (LoadedRecord N))) <;> rfl

theorem loadLines_glued_end {front : List (List Char)} {last : List Char}
    (visible : ∃ c ∈ last, isSpace c = false) (record : EvaluationRecord N) :
    (loadLines (front ++ [last ++ dumps record.toDict, []]) :
      Except PyErr (List (LoadedRecord N))) = loadLines front := by
  have tail : (loadLines [last ++ dumps record.toDict, []] :
      Except PyErr (List (LoadedRecord N))) = .ok [] := by
    rw [loadLines_cons_ok (loadLine_glued visible record),
      loadLines_cons_ok (loadLine_blank (by simp))]
    rfl
  rw [loadLines_append, tail]
  cases loaded : (loadLines front : Except PyErr (List (LoadedRecord N))) with
  | error reason => rfl
  | ok records => exact congrArg Except.ok (List.append_nil records)

theorem loadLines_prefix_length {front back : List (List Char)} {records : List (LoadedRecord N)}
    (read : loadLines (front ++ back) = .ok records) :
    ∃ kept : List (LoadedRecord N), loadLines front = .ok kept ∧ kept.length ≤ records.length := by
  rw [loadLines_append] at read
  obtain ⟨kept, loaded, returned⟩ := bind_ok_iff.mp read
  obtain ⟨more, _, rfl⟩ := map_ok_iff.mp returned
  refine ⟨kept, loaded, ?_⟩
  rw [List.length_append]
  exact Nat.le_add_right _ _

/-- The text behind the last line break of the history. -/
def Disk.unended (disk : Disk) : List Char := lastPiece (disk.file.getD [])

/-- The pieces of the old text and, from them, those of the text after the save. -/
theorem loadAll_save {disk : Disk} (clean : CleanStart disk) (record : EvaluationRecord N) :
    ∃ front,
      (loadAll disk : Except PyErr (List (LoadedRecord N))) =
        loadLines (front ++ [disk.unended]) ∧
      (loadAll (save disk record) : Except PyErr (List (LoadedRecord N))) =
        loadLines (front ++ [disk.unended ++ dumps record.toDict, []]) := by
  obtain ⟨front, before, after⟩ := loadText_append_record (disk.file.getD []) record
  refine ⟨front, ?_, ?_⟩
  · rw [loadAll_eq_loadText, loadText, before]
    rfl
  · rw [save_clean clean]
    exact after

theorem save_appends_of_blank {disk : Disk} {records : List (LoadedRecord N)}
    (readable : loadAll disk = .ok records) (clean : CleanStart disk)
    (record : EvaluationRecord N) (blank : ∀ c ∈ disk.unended, isSpace c = true) :
    loadAll (save disk record) = .ok (records ++ [record.loaded]) := by
  obtain ⟨front, before, after⟩ := loadAll_save clean record
  have skipped : loadLines [disk.unended] = .ok ([] : List (LoadedRecord N)) := by
    rw [loadLines_cons_ok (loadLine_blank blank)]
    rfl
  rw [before, loadLines_append, skipped] at readable
  rw [after, loadLines_record_end blank]
  obtain ⟨kept, loaded, returned⟩ := bind_ok_iff.mp readable
  obtain ⟨others, none, same⟩ := map_ok_iff.mp returned
  cases none
  rw [List.append_nil] at same
  rw [loaded, same]
  rfl

/-- Behind an unfinished line the new one is lost with it. -/
theorem save_loses_of_visible {disk : Disk} {records : List (LoadedRecord N)}
    (readable : loadAll disk = .ok records) (clean : CleanStart disk)
    (record : EvaluationRecord N) (visible : ∃ c ∈ disk.unended, isSpace c = false) :
    ∃ kept : List (LoadedRecord N),
      loadAll (save disk record) = .ok kept ∧ kept.length ≤ records.length := by
  obtain ⟨front, before, after⟩ := loadAll_save clean record
  rw [before] at readable
  rw [after, loadLines_glued_end visible]
  exact loadLines_prefix_length readable

/-- A save that no earlier one left a `.tmp` file for keeps what was readable and adds its record
exactly when only blanks stand behind the last line break; otherwise the new line is glued to the
unfinished one. -/
theorem save_appends_iff {disk : Disk} {records : List (LoadedRecord N)}
    (readable : loadAll disk = .ok records) (clean : CleanStart disk)
    (record : EvaluationRecord N) :
    loadAll (save disk record) = .ok (records ++ [record.loaded]) ↔
      ∀ c ∈ disk.unended, isSpace c = true := by
  constructor
  · intro appended
    by_contra solid
    simp only [not_forall, Bool.not_eq_true] at solid
    obtain ⟨c, inside, visible⟩ := solid
    obtain ⟨kept, loaded, shorter⟩ :=
      save_loses_of_visible readable clean record ⟨c, inside, visible⟩
    rw [loaded, Except.ok.injEq] at appended
    rw [appended, List.length_append, List.length_singleton] at shorter
    omega
  · exact save_appends_of_blank readable clean record

/-- A record with whole-number times, for runs on a concrete disk. -/
def sampleRecord (recordId : String) (timestamp : Int) : EvaluationRecord Int :=
  ⟨"run-1", [], Dict.empty, some "v1", recordId, timestamp⟩

/-- A record without its line break is read as one line. -/
theorem pieces_unterminated (record : EvaluationRecord N) :
    pieces (universalNewlines (dumps record.toDict)) = [dumps record.toDict] := by
  have plain : universalNewlines (dumps record.toDict) = dumps record.toDict :=
    Text.universalNewlines_of_no_carriage _ fun c inside => (record_line record c inside).2
  rw [plain]
  exact Text.pieces_line _ fun c inside => (record_line record c inside).1

theorem loadAll_unterminated (record : EvaluationRecord N) :
    loadAll (Disk.holding (dumps record.toDict)) = .ok [record.loaded] := by
  have first : loadLine (dumps record.toDict) = .ok (some record.loaded) :=
    loadLine_record [] (by simp) record
  change loadLines (pieces (universalNewlines (dumps record.toDict))) = _
  rw [pieces_unterminated, loadLines_cons_ok first]
  rfl

theorem unended_unterminated (record : EvaluationRecord N) :
    ∃ c ∈ (Disk.holding (dumps record.toDict)).unended, isSpace c = false := by
  refine ⟨'{', ?_, by decide⟩
  rw [Disk.unended, Disk.holding, Option.getD_some, lastPiece, pieces_unterminated,
    EvaluationRecord.toDict, Json.dumps]
  exact List.mem_cons_self

/-- A history file whose last line has no newline loses that line and the new one. -/
theorem save_after_unterminated_line : ¬ ∀ (content : List Char)
    (records : List (LoadedRecord Int)) (record : EvaluationRecord Int),
    loadAll (Disk.holding content) = .ok records →
    loadAll (save (Disk.holding content) record) = .ok (records ++ [record.loaded]) := by
  intro preserves
  have readable := loadAll_unterminated (sampleRecord "a" 1)
  have appended := preserves _ _ (sampleRecord "b" 2) readable
  obtain ⟨kept, loaded, shorter⟩ := save_loses_of_visible readable (Or.inr rfl)
    (sampleRecord "b" 2) (unended_unterminated (sampleRecord "a" 1))
  rw [loaded, Except.ok.injEq] at appended
  rw [appended] at shorter
  exact absurd shorter (by decide)

theorem save_appends_iff_unterminated :
    loadAll (save (Disk.holding (dumps (sampleRecord "a" 1).toDict)) (sampleRecord "b" 2)) =
        .ok ([(sampleRecord "a" 1).loaded] ++ [(sampleRecord "b" 2).loaded]) ↔
      ∀ c ∈ (Disk.holding (dumps (sampleRecord "a" 1).toDict)).unended, isSpace c = true :=
  save_appends_iff (loadAll_unterminated (sampleRecord "a" 1)) (Or.inr rfl) (sampleRecord "b" 2)

def historyText (records : List (EvaluationRecord N)) : List Char :=
  records.flatMap fun record => dumps record.toDict ++ ['\n']

theorem historyText_no_carriage (records : List (EvaluationRecord N)) :
    universalNewlines (historyText records) = historyText records := by
  apply Text.universalNewlines_of_no_carriage
  intro c inside
  obtain ⟨record, _, member⟩ := List.mem_flatMap.mp inside
  exact record_no_carriage record c member

theorem historyText_append (records : List (EvaluationRecord N)) (record : EvaluationRecord N) :
    historyText records ++ dumps record.toDict ++ ['\n'] = historyText (records ++ [record]) := by
  simp only [historyText, List.flatMap_append, List.flatMap_singleton, List.append_assoc]

theorem loadLines_records (records : List (EvaluationRecord N)) (rest : List (List Char)) :
    loadLines ((records.map fun record => dumps record.toDict) ++ rest) =
      (loadLines rest).map (records.map EvaluationRecord.loaded ++ ·) := by
  induction records with
  | nil =>
      rw [List.map_nil, List.nil_append]
      cases (loadLines rest : Except PyErr (List (LoadedRecord N))) <;> rfl
  | cons record others ih =>
      have first : loadLine (dumps record.toDict) = .ok (some record.loaded) :=
        loadLine_record [] (by simp) record
      rw [List.map_cons, List.cons_append, loadLines_cons_ok first, ih]
      cases (loadLines rest : Except PyErr (List (LoadedRecord N))) <;> rfl

theorem loadText_historyText (records : List (EvaluationRecord N)) :
    loadText (historyText records) = .ok (records.map EvaluationRecord.loaded) := by
  have lines : pieces (historyText records) =
      (records.map fun record => dumps record.toDict) ++ [[]] := by
    rw [historyText,
      ← List.flatMap_map (f := fun record : EvaluationRecord N => dumps record.toDict)
      (g := fun line => line ++ ['\n'])]
    apply Text.pieces_lines
    intro line inside c member
    obtain ⟨record, _, rfl⟩ := List.mem_map.mp inside
    exact (record_line record c member).1
  rw [loadText, historyText_no_carriage, lines, loadLines_records,
    loadLines_cons_ok (loadLine_blank (by simp))]
  simp only [loadLines, Except.map, Option.toList_none, List.append_nil]

/-- The history file holds these records and nothing else. -/
def Holds (disk : Disk) (records : List (EvaluationRecord N)) : Prop :=
  disk.file = if records = [] then none else some (historyText records)

theorem Holds.loadAll {disk : Disk} {records : List (EvaluationRecord N)}
    (holds : Holds disk records) : loadAll disk = .ok (records.map EvaluationRecord.loaded) := by
  rw [Storage.loadAll, holds]
  cases records with
  | nil => rfl
  | cons record rest => exact loadText_historyText (record :: rest)

theorem holds_fresh : Holds Disk.fresh ([] : List (EvaluationRecord N)) := rfl

theorem Holds.save {disk : Disk} {records : List (EvaluationRecord N)} (holds : Holds disk records)
    (clean : CleanStart disk) (record : EvaluationRecord N) :
    Holds (save disk record) (records ++ [record]) := by
  obtain ⟨file, tmp⟩ := disk
  have nonempty : records ++ [record] ≠ [] := by simp
  rw [Holds, if_neg nonempty, ← historyText_append]
  cases records with
  | nil =>
      have missing : file = none := holds
      rw [missing, save_of_missing]
      rfl
  | cons first rest =>
      have content : file = some (historyText (first :: rest)) := holds
      subst file
      have empty : tmp.getD [] = [] := by
        rcases clean with missing | empty
        · cases missing
        · exact empty
      rw [save_of_existing, empty, List.nil_append, historyText_no_carriage]

/-- A save call: run to its end, or stopped after so many of its four file operations. -/
structure SaveCall (N : Type) where
  record : EvaluationRecord N
  stop : Option (Fin 4)

def SaveCall.run (disk : Disk) (call : SaveCall N) : Disk :=
  match call.stop with
  | none => save disk call.record
  | some reached => runOps ((saveOps disk (dumps call.record.toDict)).take reached) disk

def runSaves (disk : Disk) (calls : List (SaveCall N)) : Disk :=
  calls.foldl SaveCall.run disk

/-- What the calls may leave to read: the record of every completed call, once and in order,
and of a stopped call its record or nothing. -/
inductive Contributes : List (SaveCall N) → List (EvaluationRecord N) → Prop where
  | nil : Contributes [] []
  | completed {record calls records} (rest : Contributes calls records) :
      Contributes (⟨record, none⟩ :: calls) (record :: records)
  | dropped {record reached calls records} (rest : Contributes calls records) :
      Contributes (⟨record, some reached⟩ :: calls) records
  | kept {record reached calls records} (rest : Contributes calls records) :
      Contributes (⟨record, some reached⟩ :: calls) (record :: records)

def CrashConsistent (calls : List (SaveCall N)) : Prop :=
  ∃ records, Contributes calls records ∧
    loadAll (runSaves Disk.fresh calls) = .ok (records.map EvaluationRecord.loaded)

/-- No completed save of the run starts on the leftovers of a stopped one. -/
def CleanRun : Disk → List (SaveCall N) → Prop
  | _, [] => True
  | disk, call :: rest =>
      (call.stop = none → CleanStart disk) ∧ CleanRun (call.run disk) rest

def completedRecords (calls : List (SaveCall N)) : List (EvaluationRecord N) :=
  (calls.filter fun call => call.stop.isNone).map SaveCall.record

/-- Before `os.replace` no operation touches the history file. -/
theorem stopped_keeps_file (disk : Disk) (record : EvaluationRecord N) (reached : Fin 4) :
    (SaveCall.run disk ⟨record, some reached⟩).file = disk.file := by
  match reached with
  | 0 => rfl
  | 1 => exact openTmp_file _ disk
  | 2 => exact (copyHistory_file _).trans (openTmp_file _ disk)
  | 3 =>
      exact (writeLine_file _ _).trans ((copyHistory_file _).trans (openTmp_file _ disk))

theorem runSaves_holds {disk : Disk} {before : List (EvaluationRecord N)}
    (holds : Holds disk before) (calls : List (SaveCall N)) (clean : CleanRun disk calls) :
    Holds (runSaves disk calls) (before ++ completedRecords calls) := by
  induction calls generalizing disk before with
  | nil => simpa [runSaves, completedRecords] using holds
  | cons call rest ih =>
      obtain ⟨record, stop⟩ := call
      obtain ⟨start, later⟩ := clean
      cases stop with
      | none =>
          have saved : Holds (SaveCall.run disk ⟨record, none⟩) (before ++ [record]) :=
            holds.save (start rfl) record
          have result := ih saved later
          rw [List.append_assoc] at result
          exact result
      | some reached =>
          have same : Holds (SaveCall.run disk ⟨record, some reached⟩) before := by
            rw [Holds, stopped_keeps_file]
            exact holds
          exact ih same later

omit [NumText N] in
theorem contributes_completed (calls : List (SaveCall N)) :
    Contributes calls (completedRecords calls) := by
  induction calls with
  | nil => exact .nil
  | cons call rest ih =>
      obtain ⟨record, stop⟩ := call
      cases stop with
      | none => exact .completed ih
      | some reached => exact .dropped ih

theorem CleanRun.take {disk : Disk} {calls : List (SaveCall N)} (clean : CleanRun disk calls)
    (count : Nat) : CleanRun disk (calls.take count) := by
  induction calls generalizing disk count with
  | nil =>
      rw [List.take_nil]
      exact clean
  | cons call rest ih =>
      cases count with
      | zero => trivial
      | succ count => exact ⟨clean.1, ih clean.2 count⟩

/-- As long as completed saves start clean, after every call the history is that of the
completed saves. -/
theorem saves_crash_consistent (calls : List (SaveCall N)) (clean : CleanRun Disk.fresh calls)
    (count : Nat) : CrashConsistent (calls.take count) := by
  refine ⟨completedRecords (calls.take count), contributes_completed _, ?_⟩
  have holds := runSaves_holds holds_fresh _ (clean.take count)
  rw [List.nil_append] at holds
  exact holds.loadAll

theorem saves_crash_consistent_retry :
    CrashConsistent ([⟨sampleRecord "a" 1, some 2⟩, ⟨sampleRecord "b" 2, none⟩].take 2) := by
  have clean : CleanRun Disk.fresh
      [⟨sampleRecord "a" 1, some 2⟩, ⟨sampleRecord "b" 2, none⟩] := by
    refine And.intro ?_ (And.intro ?_ trivial)
    · intro completed
      cases completed
    · intro completed
      exact Or.inl rfl
  exact saves_crash_consistent _ clean 2

theorem historyText_ne_nil (first : EvaluationRecord N) (rest : List (EvaluationRecord N)) :
    historyText (first :: rest) ≠ [] := by
  simp [historyText]

/-- A save stopped behind the copy leaves the history in the `.tmp` file, and the next save
copies it there again. -/
theorem save_after_stopped_copy (first : EvaluationRecord N) (rest : List (EvaluationRecord N))
    (stopped next : EvaluationRecord N) :
    Holds (save (SaveCall.run ⟨some (historyText (first :: rest)), none⟩ ⟨stopped, some 2⟩) next)
      ((first :: rest) ++ (first :: rest) ++ [next]) := by
  have left : SaveCall.run ⟨some (historyText (first :: rest)), none⟩ ⟨stopped, some 2⟩ =
      ⟨some (historyText (first :: rest)), some (historyText (first :: rest))⟩ := by
    change copyHistory ⟨some (historyText (first :: rest)), some []⟩ = _
    simp only [copyHistory, historyText_ne_nil, ne_eq, not_false_eq_true, ↓reduceIte,
      historyText_no_carriage, Option.map_some, List.nil_append]
  rw [left, save_of_existing, Option.getD_some, historyText_no_carriage, Holds,
    if_neg (by simp), ← historyText_append]
  simp only [historyText, List.flatMap_append]

/-- The history doubled by a stopped save is not what the calls may leave. -/
theorem stopped_save_doubles_history : ¬ ∀ calls : List (SaveCall Int), CrashConsistent calls := by
  intro consistent
  obtain ⟨records, contributes, read⟩ := consistent [⟨sampleRecord "a" 1, none⟩,
    ⟨sampleRecord "b" 2, some 2⟩, ⟨sampleRecord "c" 3, none⟩]
  have first : SaveCall.run Disk.fresh ⟨sampleRecord "a" 1, none⟩ =
      ⟨some (historyText [sampleRecord "a" 1]), none⟩ := by
    rw [← List.nil_append [sampleRecord "a" 1], ← historyText_append]
    exact save_of_missing none (sampleRecord "a" 1)
  have doubled : Holds (runSaves Disk.fresh [⟨sampleRecord "a" 1, none⟩,
      ⟨sampleRecord "b" 2, some 2⟩, ⟨sampleRecord "c" 3, none⟩])
      [sampleRecord "a" 1, sampleRecord "a" 1, sampleRecord "c" 3] := by
    rw [runSaves, List.foldl_cons, first]
    exact save_after_stopped_copy (sampleRecord "a" 1) [] (sampleRecord "b" 2) (sampleRecord "c" 3)
  rw [doubled.loadAll, Except.ok.injEq] at read
  -- three records are read, so the stopped call would have had to contribute a second "a"
  have ids := congrArg (List.map LoadedRecord.recordId) read
  cases contributes with
  | completed rest =>
      cases rest with
      | dropped rest =>
          cases rest with
          | completed rest =>
              cases rest
              simp [EvaluationRecord.loaded, sampleRecord] at ids
      | kept rest =>
          cases rest with
          | completed rest =>
              cases rest
              simp [EvaluationRecord.loaded, sampleRecord] at ids

end RagDrift.Storage
