import RagDrift.Storage.SaveHistory
import RagDrift.Transition.Runs
import Mathlib.Data.Bool.Basic
import Mathlib.Logic.Function.Basic

set_option autoImplicit false

/- Two `save` calls on one path, their file operations in any order. An open file stays the
file it was when its name is given to another one, so that files have numbers here. -/
namespace RagDrift.Storage

open Text (universalNewlines isSpace)
open Json (dumps NumText)
open Transition (run Meets)

structure Files where
  content : Nat → List Char
  fresh : Nat
  path : Option Nat
  tmp : Option Nat

def Files.write (files : Files) (handle : Nat) (text : List Char) : Files :=
  { files with content := Function.update files.content handle text }

/-- `open(tmp_path, write_mode)`. -/
def Files.openTmp (mode : WriteMode) (files : Files) : Files × Nat :=
  match files.tmp with
  | some handle =>
      match mode with
      | .append => (files, handle)
      | .write => (files.write handle [], handle)
  | none =>
      ({ files.write files.fresh [] with fresh := files.fresh + 1, tmp := some files.fresh },
        files.fresh)

/-- The history, as it is now, behind what the open file holds. -/
def Files.copyHistory (handle : Nat) (files : Files) : Files :=
  match files.path with
  | some history =>
      if files.content history ≠ [] then
        files.write handle (files.content handle ++ universalNewlines (files.content history))
      else files
  | none => files

def Files.writeLine (handle : Nat) (line : List Char) (files : Files) : Files :=
  files.write handle (files.content handle ++ line ++ ['\n'])

/-- `os.replace(tmp_path, self._path)`, which raises where there is no such file. -/
def Files.replaceTmp (files : Files) : Option Files :=
  files.tmp.map fun handle => { files with path := some handle, tmp := none }

/-- What other programs see. -/
def Files.disk (files : Files) : Disk :=
  ⟨files.path.map files.content, files.tmp.map files.content⟩

/-- How far a call has come. -/
inductive Phase where
  | called
  | tested (mode : WriteMode)
  | opened (handle : Nat)
  | copied (handle : Nat)
  | written (handle : Nat)
  | returned
  | raised
  deriving DecidableEq

@[simp] def Phase.holdsOpen : Phase → Prop
  | .opened _ | .copied _ | .written _ => True
  | .called | .tested _ | .returned | .raised => False

/-- The next operation opens the `.tmp` file. -/
@[simp] def Phase.opensNext : Phase → Prop
  | .tested _ => True
  | .called | .opened _ | .copied _ | .written _ | .returned | .raised => False

instance : DecidablePred Phase.holdsOpen
  | .opened _ | .copied _ | .written _ => .isTrue trivial
  | .called | .tested _ | .returned | .raised => .isFalse id

instance : DecidablePred Phase.opensNext
  | .tested _ => .isTrue trivial
  | .called | .opened _ | .copied _ | .written _ | .returned | .raised => .isFalse id

structure Race where
  files : Files
  phase : Bool → Phase

def Race.advance (race : Race) (who : Bool) (files : Files) (phase : Phase) : Race :=
  ⟨files, Function.update race.phase who phase⟩

/-- The next file operation of one of the two calls. -/
def Race.step (lines : Bool → List Char) (race : Race) (who : Bool) : Option Race :=
  match race.phase who with
  | .called =>
      some (race.advance who race.files
        (.tested (if race.files.path.isSome then .append else .write)))
  | .tested mode =>
      some (race.advance who (race.files.openTmp mode).1 (.opened (race.files.openTmp mode).2))
  | .opened handle => some (race.advance who (race.files.copyHistory handle) (.copied handle))
  | .copied handle =>
      some (race.advance who (race.files.writeLine handle (lines who)) (.written handle))
  | .written _ =>
      match race.files.replaceTmp with
      | some files => some (race.advance who files .returned)
      | none => some (race.advance who race.files .raised)
  | .returned | .raised => none

def Race.start (content : List Char) : Race :=
  ⟨⟨Function.update (fun _ => []) 0 content, 1, some 0, none⟩, fun _ => .called⟩

/-- A call opens the `.tmp` file only while the other one does not have it open. -/
def OpensAlone (race : Race) (who : Bool) : Prop :=
  (race.phase who).opensNext → ¬ (race.phase (!who)).holdsOpen

instance (race : Race) (who : Bool) : Decidable (OpensAlone race who) :=
  inferInstanceAs (Decidable (_ → _))

@[simp] theorem advance_phase_self (race : Race) (who : Bool) (files : Files) (phase : Phase) :
    (race.advance who files phase).phase who = phase :=
  Function.update_self _ _ _

@[simp] theorem advance_phase_other (race : Race) (who : Bool) (files : Files) (phase : Phase) :
    (race.advance who files phase).phase (!who) = race.phase (!who) :=
  Function.update_of_ne (by cases who <;> decide) _ _

@[simp] theorem advance_files (race : Race) (who : Bool) (files : Files) (phase : Phase) :
    (race.advance who files phase).files = files := rfl

variable {lines : Bool → List Char} {race next : Race} {who : Bool}

inductive Stepped (lines : Bool → List Char) (race : Race) (who : Bool) : Race → Prop where
  | test (here : race.phase who = .called) :
      Stepped lines race who (race.advance who race.files
        (.tested (if race.files.path.isSome then .append else .write)))
  | open {mode : WriteMode} (here : race.phase who = .tested mode) :
      Stepped lines race who
        (race.advance who (race.files.openTmp mode).1 (.opened (race.files.openTmp mode).2))
  | copy {handle : Nat} (here : race.phase who = .opened handle) :
      Stepped lines race who (race.advance who (race.files.copyHistory handle) (.copied handle))
  | write {handle : Nat} (here : race.phase who = .copied handle) :
      Stepped lines race who
        (race.advance who (race.files.writeLine handle (lines who)) (.written handle))
  | replace {handle tmp : Nat} (here : race.phase who = .written handle)
      (there : race.files.tmp = some tmp) :
      Stepped lines race who
        (race.advance who { race.files with path := some tmp, tmp := none } .returned)
  | fail {handle : Nat} (here : race.phase who = .written handle)
      (missing : race.files.tmp = none) :
      Stepped lines race who (race.advance who race.files .raised)

theorem stepped_of_step (stepped : race.step lines who = some next) :
    Stepped lines race who next := by
  unfold Race.step at stepped
  split at stepped
  · rename_i here
    cases stepped
    exact .test here
  · rename_i mode here
    cases stepped
    exact .open here
  · rename_i handle here
    cases stepped
    exact .copy here
  · rename_i handle here
    cases stepped
    exact .write here
  · rename_i handle here
    cases there : race.files.tmp with
    | some tmp =>
        rw [Files.replaceTmp, there] at stepped
        cases stepped
        exact .replace here there
    | none =>
        rw [Files.replaceTmp, there] at stepped
        cases stepped
        exact .fail here there
  · cases stepped
  · cases stepped

@[simp] theorem write_tmp (files : Files) (handle : Nat) (text : List Char) :
    (files.write handle text).tmp = files.tmp := rfl

@[simp] theorem copyHistory_tmp (handle : Nat) (files : Files) :
    (files.copyHistory handle).tmp = files.tmp := by
  unfold Files.copyHistory
  split
  · split <;> rfl
  · rfl

@[simp] theorem writeLine_tmp (handle : Nat) (line : List Char) (files : Files) :
    (files.writeLine handle line).tmp = files.tmp := rfl

theorem openTmp_tmp (mode : WriteMode) (files : Files) :
    (files.openTmp mode).1.tmp = some (files.openTmp mode).2 := by
  unfold Files.openTmp
  split
  · cases mode <;> assumption
  · rfl

/-- One of the calls has to end in an error, or has. -/
def Clash (race : Race) : Prop :=
  ((∀ who, (race.phase who).holdsOpen) ∧ race.files.tmp ≠ none) ∨
    ∃ who, race.phase who = .raised ∨
      ((race.phase who).holdsOpen ∧ race.phase (!who) = .returned ∧ race.files.tmp = none)

/-- The `.tmp` file is there exactly while one call has it open. -/
def Tidy (race : Race) : Prop :=
  (∀ who, (race.phase who).holdsOpen → ¬ (race.phase (!who)).holdsOpen) ∧
    (race.files.tmp ≠ none ↔ ∃ who, (race.phase who).holdsOpen)

theorem forall_who_iff {p : Bool → Prop} (who : Bool) : (∀ other, p other) ↔ p who ∧ p (!who) := by
  cases who with
  | false => exact Bool.forall_bool
  | true => exact Bool.forall_bool.trans and_comm

theorem exists_who_iff {p : Bool → Prop} (who : Bool) : (∃ other, p other) ↔ p who ∨ p (!who) := by
  cases who with
  | false => exact Bool.exists_bool
  | true => exact Bool.exists_bool.trans or_comm

theorem Clash.step (clash : Clash race) (stepped : race.step lines who = some next) :
    Clash next := by
  rw [Clash, forall_who_iff who, exists_who_iff who, Bool.not_not] at clash
  rw [Clash, forall_who_iff who, exists_who_iff who, Bool.not_not]
  cases stepped_of_step stepped with
  | test here | «open» here =>
      simp only [here, Phase.holdsOpen, reduceCtorEq] at clash
      simp_all
  | copy here | write here =>
      simp only [here, Phase.holdsOpen, reduceCtorEq] at clash
      simp_all
  | replace here there =>
      simp only [here, Phase.holdsOpen, there, reduceCtorEq] at clash
      simp_all [or_comm]
  | fail here missing => simp

/-- A tidy race stays tidy, unless a call opens the file that the other one has open. -/
theorem Tidy.step (tidy : Tidy race) (stepped : race.step lines who = some next) :
    (OpensAlone race who → Tidy next) ∧ (¬ OpensAlone race who → Clash next) := by
  rw [Tidy, forall_who_iff who, exists_who_iff who, Bool.not_not] at tidy
  rw [Tidy, Clash, OpensAlone, forall_who_iff who, forall_who_iff who, exists_who_iff who,
    exists_who_iff who, Bool.not_not]
  cases stepped_of_step stepped with
  | test here => simp_all
  | @«open» mode here =>
      have opened := openTmp_tmp mode race.files
      simp_all
  | copy here | write here => simp_all
  | replace here there => simp_all
  | fail here missing => simp_all

/-- From a clash on, no run ends with both calls having returned. -/
theorem Clash.raised {final : Race} {schedule : List Bool} (clash : Clash race)
    (ran : run (Race.step lines) race schedule = some final)
    (complete : ∀ who, final.phase who = .returned ∨ final.phase who = .raised) :
    ∃ who, final.phase who = .raised := by
  have last : Clash final :=
    Transition.run_invariant (fun _ _ _ clash stepped => clash.step stepped) clash ran
  rcases last with ⟨both, _⟩ | ⟨who, raised | ⟨holds, _, _⟩⟩
  · have holds := both true
    rcases complete true with done | done
    · rw [done] at holds
      cases holds
    · exact ⟨true, done⟩
  · exact ⟨who, raised⟩
  · rcases complete who with done | done
    · rw [done] at holds
      cases holds
    · exact ⟨who, done⟩

theorem tidy_or_clash {final : Race} {schedule : List Bool} (tidy : Tidy race)
    (ran : run (Race.step lines) race schedule = some final) : Tidy final ∨ Clash final := by
  have keeps : ∀ race who next, Tidy race ∨ Clash race → Race.step lines race who = some next →
      Tidy next ∨ Clash next := by
    rintro race who next (tidy | clash) stepped
    · by_cases alone : OpensAlone race who
      · exact .inl ((tidy.step stepped).1 alone)
      · exact .inr ((tidy.step stepped).2 alone)
    · exact .inr (clash.step stepped)
  exact Transition.run_invariant keeps (.inl tidy) ran

/-- The file a call writes to, with what it holds when the history has some text. -/
def Phase.draft (text line : List Char) : Phase → Option (Nat × List Char)
  | .opened handle => some (handle, [])
  | .copied handle => some (handle, universalNewlines text)
  | .written handle => some (handle, universalNewlines text ++ line ++ ['\n'])
  | .called | .tested _ | .returned | .raised => none

/-- The history has a text, and a call that has the `.tmp` file open has it to itself, as a
file of its own with what a save leaves there. -/
structure Orderly (lines : Bool → List Char) (race : Race) (text : List Char) : Prop where
  history : ∃ inode < race.files.fresh, race.files.path = some inode ∧
    race.files.content inode = text
  closed : (∀ who, (race.phase who).draft text (lines who) = none) → race.files.tmp = none
  drafted : ∀ who handle draft, (race.phase who).draft text (lines who) = some (handle, draft) →
    handle < race.files.fresh ∧ race.files.tmp = some handle ∧ race.files.path ≠ some handle ∧
      race.files.content handle = draft ∧
      (race.phase (!who)).draft text (lines (!who)) = none
  unraised : ∀ who, race.phase who ≠ .raised

theorem orderly_start (content : List Char) :
    Orderly lines (Race.start content) content where
  history := ⟨0, Nat.zero_lt_one, rfl, by simp [Race.start]⟩
  closed _ := rfl
  drafted _ _ _ other := nomatch other
  unraised _ := nofun

theorem draft_eq_none_iff {text line : List Char} {phase : Phase} :
    phase.draft text line = none ↔ ¬ phase.holdsOpen := by
  cases phase <;> simp [Phase.draft]

variable {text : List Char}

/-- A step that changes neither the files nor what a call has open. -/
theorem Orderly.test (orderly : Orderly lines race text) (here : race.phase who = .called)
    (mode : WriteMode) : Orderly lines (race.advance who race.files (.tested mode)) text := by
  obtain ⟨history, closed, drafted, unraised⟩ := orderly
  refine ⟨history, ?_, ?_, ?_⟩
  · rw [forall_who_iff who] at closed ⊢
    simpa [here, Phase.draft] using closed
  · rw [forall_who_iff who] at drafted ⊢
    simpa [here, Phase.draft] using drafted
  · rw [forall_who_iff who] at unraised ⊢
    simpa using unraised.2

/-- A step of one call while the other has nothing open. -/
theorem Orderly.advance (orderly : Orderly lines race text) {files : Files} {phase : Phase}
    {text' : List Char}
    (history : ∃ inode < files.fresh, files.path = some inode ∧ files.content inode = text')
    (alone : ¬ (race.phase (!who)).holdsOpen)
    (closed : phase.draft text' (lines who) = none → files.tmp = none)
    (own : ∀ handle draft, phase.draft text' (lines who) = some (handle, draft) →
      handle < files.fresh ∧ files.tmp = some handle ∧ files.path ≠ some handle ∧
        files.content handle = draft)
    (fine : phase ≠ .raised) : Orderly lines (race.advance who files phase) text' := by
  have nothing : (race.phase (!who)).draft text' (lines (!who)) = none :=
    draft_eq_none_iff.mpr alone
  refine ⟨history, ?_, ?_, ?_⟩
  · intro none
    have here := none who
    rw [advance_phase_self] at here
    exact closed here
  · rw [forall_who_iff who]
    constructor
    · intro handle draft here
      rw [advance_phase_self] at here
      obtain ⟨young, tmp, apart, holds⟩ := own handle draft here
      refine ⟨young, tmp, apart, holds, ?_⟩
      rw [advance_phase_other]
      exact nothing
    · intro handle draft there
      rw [advance_phase_other, nothing] at there
      cases there
  · rw [forall_who_iff who]
    constructor
    · rw [advance_phase_self]
      exact fine
    · rw [advance_phase_other]
      exact orderly.unraised _

theorem Orderly.open (orderly : Orderly lines race text) {mode : WriteMode}
    (here : race.phase who = .tested mode) (alone : ¬ (race.phase (!who)).holdsOpen) :
    Orderly lines
      (race.advance who (race.files.openTmp mode).1
        (.opened (race.files.openTmp mode).2)) text := by
  have missing : race.files.tmp = none := by
    apply orderly.closed
    rw [forall_who_iff who, here]
    exact ⟨rfl, draft_eq_none_iff.mpr alone⟩
  obtain ⟨inode, old, path, holds⟩ := orderly.history
  have created : race.files.openTmp mode =
      ({ race.files.write race.files.fresh [] with
          fresh := race.files.fresh + 1, tmp := some race.files.fresh }, race.files.fresh) := by
    rw [Files.openTmp, missing]
  have untouched : (race.files.write race.files.fresh []).content inode = text :=
    (Function.update_of_ne (Nat.ne_of_lt old) _ _).trans holds
  have apart : race.files.path ≠ some race.files.fresh := by
    rw [path]
    intro same
    exact Nat.ne_of_lt old (Option.some.inj same)
  rw [created]
  refine orderly.advance ?_ alone ?_ ?_ ?_
  · exact ⟨inode, Nat.lt_succ_of_lt old, path, untouched⟩
  · intro none
    cases none
  · intro handle draft own
    cases own
    exact ⟨Nat.lt_succ_self _, rfl, apart, Function.update_self _ _ _⟩
  · intro raised
    cases raised

/-- Writing on into the file a call has open. -/
theorem Orderly.write (orderly : Orderly lines race text) {handle : Nat} {draft more : List Char}
    {later : Phase} (here : (race.phase who).draft text (lines who) = some (handle, draft))
    (after : later.draft text (lines who) = some (handle, more)) :
    Orderly lines (race.advance who (race.files.write handle more) later) text := by
  obtain ⟨inode, old, path, holds⟩ := orderly.history
  obtain ⟨young, tmp, apart, _, alone⟩ := orderly.drafted who handle draft here
  have differs : inode ≠ handle := by
    rintro rfl
    exact apart path
  have untouched : (race.files.write handle more).content inode = text :=
    (Function.update_of_ne differs _ _).trans holds
  refine orderly.advance ?_ (draft_eq_none_iff.mp alone) ?_ ?_ ?_
  · exact ⟨inode, old, path, untouched⟩
  · intro none
    rw [after] at none
    cases none
  · intro other text' own
    rw [after] at own
    cases own
    exact ⟨young, tmp, apart, Function.update_self _ _ _⟩
  · rintro rfl
    cases after

theorem Orderly.copy (orderly : Orderly lines race text) {handle : Nat}
    (here : race.phase who = .opened handle) :
    Orderly lines (race.advance who (race.files.copyHistory handle) (.copied handle)) text := by
  obtain ⟨inode, _, path, holds⟩ := orderly.history
  have draft : (race.phase who).draft text (lines who) = some (handle, []) := by
    rw [here]
    rfl
  have empty : race.files.content handle = [] :=
    (orderly.drafted who handle [] draft).2.2.2.1
  have copied : race.files.copyHistory handle =
      race.files.write handle (universalNewlines text) := by
    rw [Files.copyHistory, path]
    dsimp only
    rw [holds, empty, List.nil_append]
    split_ifs with blank
    · rfl
    · rw [not_not] at blank
      rw [blank, universalNewlines, ← empty, Files.write, Function.update_eq_self]
  rw [copied]
  exact orderly.write draft rfl

theorem Orderly.writeLine (orderly : Orderly lines race text) {handle : Nat}
    (here : race.phase who = .copied handle) :
    Orderly lines (race.advance who (race.files.writeLine handle (lines who)) (.written handle))
      text := by
  have draft : (race.phase who).draft text (lines who) =
      some (handle, universalNewlines text) := by
    rw [here]
    rfl
  have holds : race.files.content handle = universalNewlines text :=
    (orderly.drafted who handle _ draft).2.2.2.1
  rw [Files.writeLine, holds]
  exact orderly.write draft rfl

/-- The written file becomes the history. -/
theorem Orderly.replace (orderly : Orderly lines race text) {handle tmp : Nat}
    (here : race.phase who = .written handle) (there : race.files.tmp = some tmp) :
    Orderly lines (race.advance who { race.files with path := some tmp, tmp := none } .returned)
      (universalNewlines text ++ lines who ++ ['\n']) := by
  have draft : (race.phase who).draft text (lines who) =
      some (handle, universalNewlines text ++ lines who ++ ['\n']) := by
    rw [here]
    rfl
  obtain ⟨young, same, _, holds, alone⟩ := orderly.drafted who handle _ draft
  rw [there, Option.some.injEq] at same
  subst same
  refine orderly.advance ?_ (draft_eq_none_iff.mp alone) ?_ ?_ ?_
  · exact ⟨tmp, young, rfl, holds⟩
  · intro _
    rfl
  · intro other text' own
    cases own
  · intro raised
    cases raised

variable {N : Type} [NumText N]

/-- The line each of the calls writes. -/
def savedLines (record : Bool → EvaluationRecord N) (who : Bool) : List Char :=
  dumps (record who).toDict

/-- The history reads as the earlier records and those of the calls that returned, in the
order in which they did. -/
structure Appended (records : List (LoadedRecord N)) (record : Bool → EvaluationRecord N)
    (race : Race) (text : List Char) (order : List Bool) : Prop where
  orderly : Orderly (savedLines record) race text
  read : loadText text = .ok (records ++ order.map fun who => (record who).loaded)
  ended : ∀ c ∈ lastPiece text, isSpace c = true
  nodup : order.Nodup
  returned : ∀ who, race.phase who = .returned ↔ who ∈ order

variable {records : List (LoadedRecord N)} {record : Bool → EvaluationRecord N}
  {order : List Bool}

theorem lastPiece_terminated (front : List Char) (record : EvaluationRecord N) :
    lastPiece (universalNewlines front ++ dumps record.toDict ++ ['\n']) = [] := by
  obtain ⟨lines, last, _, after⟩ := Text.pieces_append_line (universalNewlines front)
    (dumps record.toDict) (fun c inside => (record_line record c inside).1)
  rw [lastPiece, List.append_assoc,
    Text.universalNewlines_read_append front _ (record_no_carriage record),
    ← List.append_assoc, after, ← List.singleton_append, ← List.append_assoc,
    List.getLastD_concat]

theorem Appended.keep (appended : Appended records record race text order) {files : Files}
    {phase : Phase} (orderly : Orderly (savedLines record) (race.advance who files phase) text)
    (before : race.phase who ≠ .returned) (after : phase ≠ .returned) :
    Appended records record (race.advance who files phase) text order := by
  refine ⟨orderly, appended.read, appended.ended, appended.nodup, ?_⟩
  have returned := appended.returned
  rw [forall_who_iff who] at returned ⊢
  rw [advance_phase_self, advance_phase_other]
  refine ⟨?_, returned.2⟩
  rw [← returned.1]
  exact ⟨fun same => absurd same after, fun same => absurd same before⟩

/-- Alone with the file, a call adds its record when it returns and nothing before. -/
theorem Appended.step (appended : Appended records record race text order)
    (alone : OpensAlone race who) (stepped : race.step (savedLines record) who = some next) :
    ∃ text order, Appended records record next text order := by
  have orderly := appended.orderly
  cases stepped_of_step stepped with
  | test here =>
      exact ⟨text, order, appended.keep (orderly.test here _) (by simp [here]) nofun⟩
  | «open» here =>
      exact ⟨text, order,
        appended.keep (orderly.open here (alone (here ▸ trivial))) (by simp [here]) nofun⟩
  | copy here =>
      exact ⟨text, order, appended.keep (orderly.copy here) (by simp [here]) nofun⟩
  | write here =>
      exact ⟨text, order, appended.keep (orderly.writeLine here) (by simp [here]) nofun⟩
  | replace here there =>
      refine ⟨_, order ++ [who], orderly.replace here there, ?_, ?_, ?_, ?_⟩
      · have readable : loadAll (Disk.holding text) =
            .ok (records ++ order.map fun who => (record who).loaded) := appended.read
        have saved := save_appends_of_blank readable (Or.inr rfl) (record who) appended.ended
        rw [Disk.holding, save_of_existing, Option.getD_none, List.nil_append] at saved
        rw [List.map_append, List.map_singleton, ← List.append_assoc]
        exact saved
      · rw [savedLines, lastPiece_terminated]
        simp
      · rw [List.nodup_append]
        refine ⟨appended.nodup, List.nodup_singleton _, ?_⟩
        rintro other inside last same rfl
        rw [List.mem_singleton] at same
        subst same
        have done := (appended.returned other).mpr inside
        rw [here] at done
        cases done
      · have returned := appended.returned
        rw [forall_who_iff who] at returned ⊢
        rw [advance_phase_self, advance_phase_other, returned.2]
        simp
  | @fail handle here missing =>
      have draft : (race.phase who).draft text (savedLines record who) =
          some (handle, universalNewlines text ++ savedLines record who ++ ['\n']) := by
        rw [here]
        rfl
      have there := (orderly.drafted who handle _ draft).2.1
      rw [missing] at there
      cases there

theorem both_of_nodup (nodup : order.Nodup) (both : ∀ who, who ∈ order) :
    ∃ who, order = [who, !who] := by
  match order, nodup, both with
  | [], _, both => cases both true
  | [who], _, both => have := both (!who); simp at this
  | [who, other], nodup, _ =>
      have differs : who ≠ other := by simpa using nodup
      exact ⟨who, by rw [Bool.eq_not_of_ne differs.symm]⟩
  | _ :: _ :: _ :: _, nodup, _ =>
      have bound := nodup.length_le_card
      simp at bound

/-- Whatever the order of the file operations, both calls return and add their records exactly
where neither opens the `.tmp` file while the other has it open, which is where the
`os.replace` of one comes before the `open` of the other. -/
theorem concurrent_saves_iff {content : List Char}
    (readable : loadAll (Disk.holding content) = .ok records)
    (terminated : ∀ c ∈ lastPiece content, isSpace c = true)
    (record : Bool → EvaluationRecord N) {schedule : List Bool} {final : Race}
    (ran : run (Race.step (savedLines record)) (Race.start content) schedule = some final)
    (complete : ∀ who, final.phase who = .returned ∨ final.phase who = .raised) :
    ((∀ who, final.phase who = .returned) ∧ ∃ who, loadAll final.files.disk =
        .ok (records ++ [(record who).loaded, (record (!who)).loaded])) ↔
      Meets (Race.step (savedLines record)) OpensAlone (Race.start content) schedule := by
  constructor
  · rintro ⟨returned, _⟩
    by_contra breaks
    obtain ⟨front, who, back, state, next, reached, clashes, stepped, rest⟩ :=
      Transition.exists_break ran breaks
    have tidy : Tidy (Race.start content) := by simp [Tidy, Race.start]
    have clash : Clash next := by
      rcases tidy_or_clash tidy reached with tidy | clash
      · exact (tidy.step stepped).2 clashes
      · exact clash.step stepped
    obtain ⟨other, raised⟩ := clash.raised rest complete
    rw [returned other] at raised
    cases raised
  · intro alone
    have start : Appended records record (Race.start content) content [] := by
      refine ⟨orderly_start content, ?_, terminated, List.nodup_nil, ?_⟩
      · rw [List.map_nil, List.append_nil]
        exact readable
      · simp [Race.start]
    have keeps : ∀ race who next, (∃ text order, Appended records record race text order) →
        OpensAlone race who → Race.step (savedLines record) race who = some next →
        ∃ text order, Appended records record next text order := by
      rintro race who next ⟨text, order, appended⟩ alone stepped
      exact appended.step alone stepped
    obtain ⟨text, order, last⟩ :=
      Transition.run_invariant_of_meets keeps ⟨content, [], start⟩ alone ran
    have returned : ∀ who, final.phase who = .returned := by
      intro who
      exact (complete who).resolve_right (last.orderly.unraised who)
    obtain ⟨who, rfl⟩ := both_of_nodup last.nodup fun who => (last.returned who).mp (returned who)
    obtain ⟨inode, _, path, holds⟩ := last.orderly.history
    refine ⟨returned, who, ?_⟩
    rw [loadAll, Files.disk, path, Option.map_some, holds]
    exact last.read

theorem loadAll_oneRecord :
    loadAll (Disk.holding (historyText [sampleRecord "a" 1])) =
      .ok ([(sampleRecord "a" 1).loaded] : List (LoadedRecord Int)) :=
  loadText_historyText [sampleRecord "a" 1]

theorem lastPiece_oneRecord :
    ∀ c ∈ lastPiece (historyText [sampleRecord "a" 1]), isSpace c = true := by
  have ended := lastPiece_terminated [] (sampleRecord "a" 1)
  rw [universalNewlines, List.nil_append] at ended
  rw [historyText, List.flatMap_singleton, ended]
  simp

def sampleSaves (who : Bool) : EvaluationRecord Int :=
  if who then sampleRecord "b" 2 else sampleRecord "c" 3

/-- Two calls on one history of a record, with these phases in the end. -/
def EndsIn (schedule : List Bool) (first second : Phase) (final : Race) : Prop :=
  run (Race.step (savedLines sampleSaves)) (Race.start (historyText [sampleRecord "a" 1]))
    schedule = some final ∧ final.phase true = first ∧ final.phase false = second

theorem exists_endsIn {schedule : List Bool} {first second : Phase}
    (ended : (run (Race.step (savedLines sampleSaves))
      (Race.start (historyText [sampleRecord "a" 1])) schedule).map
        (fun final => (final.phase true, final.phase false)) = some (first, second)) :
    ∃ final, EndsIn schedule first second final := by
  obtain ⟨final, ran, phases⟩ := Option.map_eq_some_iff.mp ended
  exact ⟨final, ran, congrArg Prod.fst phases, congrArg Prod.snd phases⟩

/-- The second call tests for the file before the first has replaced it, and opens it after. -/
theorem concurrent_saves_in_turn :
    ∃ final, EndsIn [true, false, true, true, true, true, false, false, false, false]
        .returned .returned final ∧
      ∃ who, loadAll final.files.disk = .ok ([(sampleRecord "a" 1).loaded] ++
        [(sampleSaves who).loaded, (sampleSaves (!who)).loaded]) := by
  obtain ⟨final, ran, first, second⟩ : ∃ final,
      EndsIn [true, false, true, true, true, true, false, false, false, false]
        .returned .returned final := exists_endsIn (by decide)
  refine ⟨final, ⟨ran, first, second⟩, ?_⟩
  have complete : ∀ who, final.phase who = .returned ∨ final.phase who = .raised :=
    Bool.forall_bool.mpr ⟨.inl second, .inl first⟩
  exact ((concurrent_saves_iff loadAll_oneRecord lastPiece_oneRecord sampleSaves ran
    complete).mpr (by decide)).2

/-- Both calls open one `.tmp` file, and the second `os.replace` finds none. -/
theorem concurrent_saves_clash :
    ¬ ∀ (content : List Char) (records : List (LoadedRecord Int))
      (record : Bool → EvaluationRecord Int) (schedule : List Bool) (final : Race),
      loadAll (Disk.holding content) = .ok records →
      (∀ c ∈ lastPiece content, isSpace c = true) →
      run (Race.step (savedLines record)) (Race.start content) schedule = some final →
      (∀ who, final.phase who = .returned ∨ final.phase who = .raised) →
      (∀ who, final.phase who = .returned) ∧ ∃ who, loadAll final.files.disk =
        .ok (records ++ [(record who).loaded, (record (!who)).loaded]) := by
  intro safe
  obtain ⟨final, ran, first, second⟩ : ∃ final,
      EndsIn [true, true, false, false, true, true, true, false, false, false]
        .returned .raised final := exists_endsIn (by decide)
  have both := safe _ _ sampleSaves _ final loadAll_oneRecord lastPiece_oneRecord ran
    (Bool.forall_bool.mpr ⟨.inr second, .inl first⟩)
  rw [both.1 false] at second
  cases second

end RagDrift.Storage
