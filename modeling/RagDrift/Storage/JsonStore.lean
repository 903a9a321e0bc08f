import RagDrift.Storage.Models
import RagDrift.Text.Lines
import RagDrift.Json.WholeNumbers

set_option autoImplicit false

/- `JSONHistoryStore`: one JSON object a line, a new file put in place of the old one at
every save. The disk is the history file and its `.tmp` neighbour, each absent or a text. -/
namespace RagDrift.Storage

open Text (pieces universalNewlines isSpace strip)
open Json (dumps loads NumText)

structure Disk where
  file : Option (List Char)
  tmp : Option (List Char)
  deriving DecidableEq

def Disk.fresh : Disk := ⟨none, none⟩

def Disk.holding (content : List Char) : Disk := ⟨some content, none⟩

inductive WriteMode where
  | append
  | write
  deriving DecidableEq

def writeMode (disk : Disk) : WriteMode :=
  if disk.file.isSome then .append else .write

/-- `open(tmp_path, write_mode)`. -/
def openTmp (mode : WriteMode) (disk : Disk) : Disk :=
  match mode with
  | .append => { disk with tmp := some (disk.tmp.getD []) }
  | .write => { disk with tmp := some [] }

/-- The history is copied behind what the `.tmp` file already holds. -/
def copyHistory (disk : Disk) : Disk :=
  match disk.file with
  | some content =>
      if content ≠ [] then { disk with tmp := disk.tmp.map (· ++ universalNewlines content) }
      else disk
  | none => disk

def writeLine (line : List Char) (disk : Disk) : Disk :=
  { disk with tmp := disk.tmp.map (· ++ line ++ ['\n']) }

@[simp] theorem openTmp_file (mode : WriteMode) (disk : Disk) :
    (openTmp mode disk).file = disk.file := by
  cases mode <;> rfl

@[simp] theorem copyHistory_file (disk : Disk) : (copyHistory disk).file = disk.file := by
  unfold copyHistory
  split
  · split
    · rfl
    · rfl
  · rfl

@[simp] theorem writeLine_file (line : List Char) (disk : Disk) :
    (writeLine line disk).file = disk.file := rfl

/-- `os.replace(tmp_path, self._path)`. -/
def replaceTmp (disk : Disk) : Disk := ⟨disk.tmp, none⟩

/-- The file operations of one save, in order; the mode is fixed before the first. -/
def saveOps (disk : Disk) (line : List Char) : List (Disk → Disk) :=
  [openTmp (writeMode disk), copyHistory, writeLine line, replaceTmp]

def runOps (ops : List (Disk → Disk)) (disk : Disk) : Disk :=
  ops.foldl (fun current op => op current) disk

variable {N : Type} [NumText N]

def save (disk : Disk) (record : EvaluationRecord N) : Disk :=
  runOps (saveOps disk (dumps record.toDict)) disk

/-- One turn of the loop: a blank line, text that is no JSON and a `TypeError` skip the line,
any other exception leaves the loop. -/
def loadLine (line : List Char) : Except PyErr (Option (LoadedRecord N)) :=
  if strip line = [] then .ok none
  else match (loads (strip line) : Option (Json N)) with
    | none => .ok none
    | some data =>
        match LoadedRecord.fromDict data with
        | .ok record => .ok (some record)
        | .error .typeError => .ok none
        | .error reason => .error reason

def loadLines : List (List Char) → Except PyErr (List (LoadedRecord N))
  | [] => .ok []
  | line :: rest => do
      let record ← loadLine line
      let records ← loadLines rest
      return record.toList ++ records

def loadText (content : List Char) : Except PyErr (List (LoadedRecord N)) :=
  loadLines (pieces (universalNewlines content))

def loadAll (disk : Disk) : Except PyErr (List (LoadedRecord N)) :=
  match disk.file with
  | none => .ok []
  | some content => loadText content

theorem loadLines_cons_ok {line : List Char} {rest : List (List Char)}
    {record : Option (LoadedRecord N)} (first : loadLine line = .ok record) :
    loadLines (line :: rest) = (loadLines rest).map (record.toList ++ ·) := by
  rw [loadLines, first]
  cases (loadLines rest : Except PyErr (List (LoadedRecord N))) <;> rfl

theorem loadLines_append (front back : List (List Char)) :
    (loadLines (front ++ back) : Except PyErr (List (LoadedRecord N))) =
      (loadLines front).bind fun records => (loadLines back).map (records ++ ·) := by
  induction front with
  | nil =>
      rw [List.nil_append, loadLines]
      cases (loadLines back : Except PyErr (List (LoadedRecord N))) <;> rfl
  | cons line rest ih =>
      rw [List.cons_append, loadLines, loadLines, ih]
      cases (loadLine line : Except PyErr (Option (LoadedRecord N))) with
      | error reason => rfl
      | ok record =>
          cases (loadLines rest : Except PyErr (List (LoadedRecord N))) with
          | error reason => rfl
          | ok records =>
              cases (loadLines back : Except PyErr (List (LoadedRecord N))) with
              | error reason => rfl
              | ok others =>
                  exact congrArg Except.ok (List.append_assoc _ _ _).symm

theorem loadLine_blank {line : List Char} (blank : ∀ c ∈ line, isSpace c = true) :
    (loadLine line : Except PyErr (Option (LoadedRecord N))) = .ok none := by
  rw [loadLine, if_pos ((Text.strip_eq_nil_iff line).mpr blank)]

/-- An object as `to_dict` writes it, the id in front. -/
def RecordShaped (value : Json N) : Prop :=
  ∃ recordId members, value = .obj (("record_id", recordId) :: members)

omit [NumText N] in
theorem EvaluationRecord.toDict_shaped (record : EvaluationRecord N) :
    RecordShaped record.toDict :=
  ⟨_, _, rfl⟩

/-- What a line that holds a value is read as. -/
def loadValue (value : Json N) : Except PyErr (Option (LoadedRecord N)) :=
  match LoadedRecord.fromDict value with
  | .ok record => .ok (some record)
  | .error .typeError => .ok none
  | .error reason => .error reason

section Shaped

variable {value : Json N} (shaped : RecordShaped value)
include shaped

theorem strip_value_line (front : List Char) :
    strip (front ++ dumps value) = front.dropWhile isSpace ++ dumps value := by
  obtain ⟨recordId, members, rfl⟩ := shaped
  obtain ⟨middle, shape⟩ := Json.dumps_obj_ends (("record_id", recordId) :: members)
  exact Text.strip_append_solid front _ '{' '}' middle shape (by decide) (by decide)

theorem dumps_value_ne_nil : dumps value ≠ [] := by
  obtain ⟨recordId, members, rfl⟩ := shaped
  obtain ⟨middle, shape⟩ := Json.dumps_obj_ends (("record_id", recordId) :: members)
  rw [shape]
  simp

/-- Blanks in front of a value's text do not hide it. -/
theorem loadLine_value (front : List Char) (blank : ∀ c ∈ front, isSpace c = true) :
    loadLine (front ++ dumps value) = loadValue value.reread := by
  have bare : strip (front ++ dumps value) = dumps value := by
    rw [strip_value_line shaped, List.dropWhile_eq_nil_iff.mpr blank, List.nil_append]
  rw [loadLine, bare, if_neg (dumps_value_ne_nil shaped), Json.loads_dumps_reread]
  rfl

/-- Anything visible in front of a value's text loses the line. -/
theorem loadLine_value_glued {front : List Char} (visible : ∃ c ∈ front, isSpace c = false) :
    (loadLine (front ++ dumps value) : Except PyErr (Option (LoadedRecord N))) = .ok none := by
  have shape := strip_value_line shaped front
  obtain ⟨recordId, members, rfl⟩ := shaped
  cases remains : front.dropWhile isSpace with
  | nil =>
      obtain ⟨c, inside, solid⟩ := visible
      rw [List.dropWhile_eq_nil_iff.mp remains c inside] at solid
      cases solid
  | cons c rest =>
      have solid : isSpace c = false := Text.dropWhile_head_solid remains
      have notBlank : Json.isBlank c = false := by
        by_contra blank
        simp only [Json.isBlank, Bool.not_eq_false, Bool.or_eq_true, beq_iff_eq] at blank
        rcases blank with ((rfl | rfl) | rfl) | rfl <;> revert solid <;> decide
      have refused : loads (front.dropWhile isSpace ++
          dumps (.obj (("record_id", recordId) :: members))) = (none : Option (Json N)) := by
        refine Json.loads_glued _ ⟨c, ?_, notBlank⟩ "record_id" recordId members 'r' ?_ ?_
          (by decide)
        · rw [remains]
          exact List.mem_cons_self
        · exact ['e', 'c', 'o', 'r', 'd', '_', 'i', 'd', '"']
        · decide
      have nonempty : front.dropWhile isSpace ++
          dumps (.obj (("record_id", recordId) :: members)) ≠ [] := by
        rw [remains]
        simp
      rw [loadLine, shape, if_neg nonempty, refused]

end Shaped

omit [NumText N] in
theorem loadValue_record (record : EvaluationRecord N) :
    loadValue record.toDict = .ok (some record.loaded) := by
  simp only [loadValue, record.fromDict_toDict]

theorem loadLine_record (front : List Char) (blank : ∀ c ∈ front, isSpace c = true)
    (record : EvaluationRecord N) :
    loadLine (front ++ dumps record.toDict) = .ok (some record.loaded) := by
  rw [loadLine_value record.toDict_shaped front blank,
    Json.reread_of_distinct _ record.toDict_distinct, loadValue_record]

theorem loadLine_glued {front : List Char} (visible : ∃ c ∈ front, isSpace c = false)
    (record : EvaluationRecord N) :
    (loadLine (front ++ dumps record.toDict) : Except PyErr (Option (LoadedRecord N))) =
      .ok none :=
  loadLine_value_glued record.toDict_shaped visible

theorem value_line (value : Json N) : ∀ c ∈ dumps value, c ≠ '\n' ∧ c ≠ '\r' := by
  intro c inside
  have line := Json.dumps_line value c inside
  simpa only [Json.isLineChar, Bool.and_eq_true, bne_iff_ne, ne_eq] using line

theorem record_line (record : EvaluationRecord N) :
    ∀ c ∈ dumps record.toDict, c ≠ '\n' ∧ c ≠ '\r' :=
  value_line record.toDict

theorem value_no_carriage (value : Json N) : ∀ c ∈ dumps value ++ ['\n'], c ≠ '\r' := by
  intro c inside
  rcases List.mem_append.mp inside with text | newline
  · exact (value_line value c text).2
  · rw [List.mem_singleton] at newline
    rw [newline]
    decide

theorem record_no_carriage (record : EvaluationRecord N) :
    ∀ c ∈ dumps record.toDict ++ ['\n'], c ≠ '\r' :=
  value_no_carriage record.toDict

/-- A save of a value. -/
def saveValue (disk : Disk) (value : Json N) : Disk := runOps (saveOps disk (dumps value)) disk

theorem saveValue_of_missing (tmp : Option (List Char)) (value : Json N) :
    saveValue ⟨none, tmp⟩ value = ⟨some (dumps value ++ ['\n']), none⟩ := by
  simp only [saveValue, saveOps, runOps, List.foldl_cons, List.foldl_nil, writeMode, openTmp,
    copyHistory, writeLine, replaceTmp, Option.isSome_none, Bool.false_eq_true, ↓reduceIte,
    Option.map_some, List.nil_append]

theorem save_of_missing (tmp : Option (List Char)) (record : EvaluationRecord N) :
    save ⟨none, tmp⟩ record = ⟨some (dumps record.toDict ++ ['\n']), none⟩ :=
  saveValue_of_missing tmp record.toDict

/-- A file that exists is opened for appending, so the history lands behind whatever an
earlier save left in the `.tmp` file. -/
theorem saveValue_of_existing (content : List Char) (tmp : Option (List Char)) (value : Json N) :
    saveValue ⟨some content, tmp⟩ value =
      ⟨some (tmp.getD [] ++ universalNewlines content ++ dumps value ++ ['\n']), none⟩ := by
  by_cases empty : content = []
  · subst content
    simp [saveValue, saveOps, runOps, writeMode, openTmp, copyHistory, writeLine, replaceTmp,
      universalNewlines]
  · simp [saveValue, saveOps, runOps, writeMode, openTmp, copyHistory, writeLine, replaceTmp,
      empty]

theorem save_of_existing (content : List Char) (tmp : Option (List Char))
    (record : EvaluationRecord N) :
    save ⟨some content, tmp⟩ record =
      ⟨some (tmp.getD [] ++ universalNewlines content ++ dumps record.toDict ++ ['\n']),
        none⟩ :=
  saveValue_of_existing content tmp record.toDict

/-- The part of a text behind its last line break. -/
def lastPiece (content : List Char) : List Char :=
  (pieces (universalNewlines content)).getLastD []

/-- Adding a line to a text that was read changes its last piece only. -/
theorem loadText_append_value (content : List Char) (value : Json N) :
    ∃ front, pieces (universalNewlines content) = front ++ [lastPiece content] ∧
      pieces (universalNewlines (universalNewlines content ++ dumps value ++ ['\n'])) =
        front ++ [lastPiece content ++ dumps value, []] := by
  obtain ⟨front, last, before, after⟩ := Text.pieces_append_line (universalNewlines content)
    (dumps value) (fun c inside => (value_line value c inside).1)
  have lastEq : lastPiece content = last := by
    rw [lastPiece, before, List.getLastD_concat]
  refine ⟨front, by rw [before, lastEq], ?_⟩
  have stable : universalNewlines (universalNewlines content ++ (dumps value ++ ['\n'])) =
      universalNewlines content ++ (dumps value ++ ['\n']) := by
    apply Text.universalNewlines_read_append
    exact value_no_carriage value
  rw [List.append_assoc, stable, ← List.append_assoc, after, lastEq]

theorem loadText_append_record (content : List Char) (record : EvaluationRecord N) :
    ∃ front, pieces (universalNewlines content) = front ++ [lastPiece content] ∧
      (loadText (universalNewlines content ++ dumps record.toDict ++ ['\n']) :
          Except PyErr (List (LoadedRecord N))) =
        loadLines (front ++ [lastPiece content ++ dumps record.toDict, []]) := by
  obtain ⟨front, before, after⟩ := loadText_append_value content record.toDict
  exact ⟨front, before, by rw [loadText, after]⟩

end RagDrift.Storage
