import RagDrift.Json.RoundTrip

set_option autoImplicit false

/- The text of one document as a unit: it has no line break in it, and nothing but blanks
may stand in front of it. -/
namespace RagDrift.Json

variable {N : Type} [NumText N]

def isLineChar (c : Char) : Bool := c != '\n' && c != '\r'

theorem isLineChar_of_atom {c : Char} (atom : isAtomChar c = true) : isLineChar c = true := by
  simp only [isAtomChar, isBlank, Bool.and_eq_true, Bool.not_eq_true', Bool.or_eq_false_iff,
    beq_eq_false_iff_ne] at atom
  obtain ⟨⟨⟨_, newline⟩, carriage⟩, _⟩ := atom
  simp only [isLineChar, Bool.and_eq_true, bne_iff_ne, ne_eq]
  exact ⟨newline, carriage⟩

theorem hexDigit_line : ∀ digit < 16, isLineChar (hexDigit digit) = true := by
  decide

theorem unicodeEscape_line (unit : Nat) : ∀ c ∈ unicodeEscape unit, isLineChar c = true := by
  have below : ∀ value, value % 16 < 16 := fun value => Nat.mod_lt value (by decide)
  intro c inside
  simp only [unicodeEscape, List.mem_cons, List.not_mem_nil, or_false] at inside
  rcases inside with rfl | rfl | rfl | rfl | rfl | rfl
  · rfl
  · rfl
  all_goals exact hexDigit_line _ (below _)

theorem escapeChar_line (source : Char) : ∀ c ∈ escapeChar source, isLineChar c = true := by
  unfold escapeChar
  split
  · exact List.all_eq_true.mp rfl
  split
  · exact List.all_eq_true.mp rfl
  split
  · exact List.all_eq_true.mp rfl
  split
  · exact List.all_eq_true.mp rfl
  split
  · exact List.all_eq_true.mp rfl
  split
  · exact List.all_eq_true.mp rfl
  split
  · exact List.all_eq_true.mp rfl
  rename_i notNewline notCarriage _ _ _
  split
  · intro c inside
    rw [List.mem_singleton] at inside
    subst c
    simp only [isLineChar, Bool.and_eq_true, bne_iff_ne, ne_eq]
    exact ⟨notNewline, notCarriage⟩
  split
  · exact unicodeEscape_line _
  · intro c inside
    rcases List.mem_append.mp inside with front | back
    · exact unicodeEscape_line _ c front
    · exact unicodeEscape_line _ c back

theorem dumpString_line (text : String) : ∀ c ∈ dumpString text, isLineChar c = true := by
  intro c inside
  simp only [dumpString, List.cons_append, List.mem_cons, List.mem_append, List.mem_flatMap,
    List.not_mem_nil, or_false] at inside
  rcases inside with rfl | ⟨source, _, escaped⟩ | rfl
  · rfl
  · exact escapeChar_line source c escaped
  · rfl

mutual
theorem dumps_line (value : Json N) : ∀ c ∈ dumps value, isLineChar c = true := by
  match value with
  | .null => exact List.all_eq_true.mp rfl
  | .bool true => exact List.all_eq_true.mp rfl
  | .bool false => exact List.all_eq_true.mp rfl
  | .num number => exact fun c inside => isLineChar_of_atom (NumText.repr_atom number c inside)
  | .str text => exact dumpString_line text
  | .arr [] => exact List.all_eq_true.mp rfl
  | .arr (item :: items) =>
      intro c inside
      simp only [dumps, List.cons_append, List.append_assoc, List.mem_cons, List.mem_append,
        List.not_mem_nil, or_false] at inside
      rcases inside with rfl | front | back | rfl
      · rfl
      · exact dumps_line item c front
      · exact dumpsItems_line items c back
      · rfl
  | .obj [] => exact List.all_eq_true.mp rfl
  | .obj ((key, item) :: members) =>
      intro c inside
      simp only [dumps, List.cons_append, List.append_assoc, List.mem_cons, List.mem_append,
        List.not_mem_nil, or_false] at inside
      rcases inside with rfl | name | rfl | rfl | front | back | rfl
      · rfl
      · exact dumpString_line key c name
      · rfl
      · rfl
      · exact dumps_line item c front
      · exact dumpsMembers_line members c back
      · rfl

theorem dumpsItems_line (items : List (Json N)) : ∀ c ∈ dumpsItems items, isLineChar c = true := by
  match items with
  | [] => simp [dumpsItems]
  | item :: items =>
      intro c inside
      simp only [dumpsItems, List.cons_append, List.mem_cons, List.mem_append] at inside
      rcases inside with rfl | rfl | front | back
      · rfl
      · rfl
      · exact dumps_line item c front
      · exact dumpsItems_line items c back

theorem dumpsMembers_line (members : List (String × Json N)) :
    ∀ c ∈ dumpsMembers members, isLineChar c = true := by
  match members with
  | [] => simp [dumpsMembers]
  | (key, item) :: members =>
      intro c inside
      simp only [dumpsMembers, List.cons_append, List.append_assoc, List.mem_cons,
        List.mem_append] at inside
      rcases inside with rfl | rfl | name | rfl | rfl | front | back
      · rfl
      · rfl
      · exact dumpString_line key c name
      · rfl
      · rfl
      · exact dumps_line item c front
      · exact dumpsMembers_line members c back
end

theorem dumps_obj_ends (members : List (String × Json N)) :
    ∃ middle, dumps (.obj members) = '{' :: middle ++ ['}'] := by
  match members with
  | [] => exact ⟨[], rfl⟩
  | (key, value) :: rest =>
      exact ⟨dumpString key ++ ':' :: ' ' :: dumps value ++ dumpsMembers rest, by
        simp only [dumps, List.cons_append, List.append_assoc]⟩

namespace Reader

omit [NumText N] in
theorem stepAfter_brace (value : Json N) (stack : List (Frame N)) :
    stepAfter value stack '{' = none := by
  cases stack with
  | nil => rfl
  | cons frame rest => cases frame <;> rfl

/-- Only blanks lead back to the place where a document starts. -/
theorem step_to_start {reader : Reader N} {c : Char} {closable : Bool}
    (stepped : reader.step c = some ⟨.value closable, []⟩) :
    reader = ⟨.value closable, []⟩ ∧ isBlank c = true := by
  have notAfter : ∀ (value : Json N) (stack : List (Frame N)),
      stepAfter value stack c ≠ some ⟨.value closable, []⟩ := by
    intro value stack
    cases stack with
    | nil => simp only [stepAfter]; split <;> simp
    | cons frame rest => cases frame <;> simp only [stepAfter] <;> split_ifs <;> simp
  obtain ⟨mode, stack⟩ := reader
  cases mode with
  | value flag =>
      simp only [step, stepValue] at stepped
      split at stepped
      · rename_i blank
        simp only [Option.some.injEq, Reader.mk.injEq, Mode.value.injEq] at stepped
        obtain ⟨rfl, rfl⟩ := stepped
        exact ⟨rfl, blank⟩
      · split_ifs at stepped <;> try simp at stepped
        split at stepped <;> simp at stepped
  | key done flag =>
      simp only [step, stepKey] at stepped
      split_ifs at stepped <;> simp at stepped
  | colon done key =>
      simp only [step, stepColon] at stepped
      split_ifs at stepped <;> simp at stepped
  | literal slot part =>
      simp only [step, stepLiteral] at stepped
      split at stepped
      · split_ifs at stepped
        · cases slot <;> simp [closeString] at stepped
        · simp at stepped
        · simp at stepped
      · obtain ⟨next, _, equal⟩ := Option.map_eq_some_iff.mp stepped
        simp at equal
      · obtain ⟨next, _, equal⟩ := Option.map_eq_some_iff.mp stepped
        simp at equal
  | atom chars =>
      simp only [step] at stepped
      split at stepped
      · simp at stepped
      · rw [Option.bind_eq_some_iff] at stepped
        obtain ⟨value, _, stepped⟩ := stepped
        exact absurd stepped (notAfter value stack)
  | after value => exact absurd stepped (notAfter value stack)

theorem feed_to_start {reader : Reader N} {text : List Char} {closable : Bool}
    (fed : reader.feed text = some ⟨.value closable, []⟩) :
    ∀ c ∈ text, isBlank c = true := by
  have strengthened : reader = ⟨.value closable, []⟩ ∧ ∀ c ∈ text, isBlank c = true := by
    induction text generalizing reader with
    | nil => exact ⟨Option.some.inj fed, by simp⟩
    | cons c rest ih =>
        rw [feed_cons, Option.bind_eq_some_iff] at fed
        obtain ⟨next, stepped, fed⟩ := fed
        obtain ⟨rfl, blank⟩ := ih fed
        obtain ⟨same, first⟩ := step_to_start stepped
        refine ⟨same, ?_⟩
        intro d inside
        rcases List.mem_cons.mp inside with rfl | later
        · exact first
        · exact blank d later
  exact strengthened.2

/-- The first quote of a dictionary's text closes the string the reader is in, and what
comes next cannot follow a string. -/
theorem run_literal_brace (slot : Slot N) (part : Literal) (stack : List (Frame N))
    (first : Char) (tail : List Char) (plain : isAtomChar first = true) :
    run ⟨.literal slot part, stack⟩ ('{' :: '"' :: first :: tail) = none := by
  simp only [isAtomChar, Bool.and_eq_true, Bool.not_eq_true', isMark, Bool.or_eq_false_iff,
    beq_eq_false_iff_ne] at plain
  obtain ⟨notBlank, ⟨⟨⟨⟨⟨_, comma⟩, colon⟩, _⟩, square⟩, _⟩, curly⟩ := plain
  obtain ⟨chars, high, escape⟩ := part
  cases escape with
  | plain =>
      have closed : run ⟨.literal slot ⟨chars, high, .plain⟩, stack⟩ ('{' :: '"' :: first :: tail) =
          run (closeString slot (Literal.text (Literal.add ⟨chars, high, .plain⟩ '{')) stack)
            (first :: tail) := rfl
      rw [closed, run_cons]
      cases slot with
      | value =>
          have refused : step ⟨.after (.str (Literal.text (Literal.add ⟨chars, high, .plain⟩ '{'))),
              stack⟩ first = none := by
            cases stack with
            | nil => simp only [step, stepAfter, notBlank, Bool.false_eq_true, ↓reduceIte]
            | cons frame frames =>
                cases frame <;> simp only [step, stepAfter, notBlank, comma, square, curly,
                  Bool.false_eq_true, ↓reduceIte]
          rw [closeString, refused, Option.bind_none]
      | key done =>
          simp only [closeString, step, stepColon, notBlank, colon, Bool.false_eq_true,
            ↓reduceIte, Option.bind_none]
  | slash => rfl
  | hex count value => rfl

end Reader

/-- Behind anything but blanks the text of a dictionary is not read: either a bracket of the
front stays open, or the dictionary's first quote closes a string of the front. -/
theorem loads_glued (front : List Char) (solid : ∃ c ∈ front, isBlank c = false)
    (key : String) (value : Json N) (rest : List (String × Json N))
    (first : Char) (keyText : List Char) (written : dumpString key = '"' :: first :: keyText)
    (plain : isAtomChar first = true) :
    loads (front ++ dumps (.obj ((key, value) :: rest))) = (none : Option (Json N)) := by
  obtain ⟨tail, text⟩ : ∃ tail, dumps (Json.obj ((key, value) :: rest)) =
      '{' :: '"' :: first :: tail :=
    ⟨keyText ++ ':' :: ' ' :: dumps value ++ dumpsMembers rest ++ ['}'], by
      simp only [dumps, written, List.cons_append, List.append_assoc]⟩
  rw [loads, Reader.run_append]
  cases fed : (Reader.start : Reader N).feed front with
  | none => rfl
  | some reader =>
      obtain ⟨mode, stack⟩ := reader
      rw [Option.bind_some]
      cases mode with
      | value closable =>
          have read := Reader.run_dumps (.obj ((key, value) :: rest)) closable stack []
            (by intro c inside; cases inside)
          rw [List.append_nil] at read
          rw [read]
          cases stack with
          | nil =>
              obtain ⟨c, inside, notBlank⟩ := solid
              rw [Reader.feed_to_start fed c inside] at notBlank
              cases notBlank
          | cons frame frames => rfl
      | key done closable => rw [text]; rfl
      | colon done name => rw [text]; rfl
      | literal slot part => rw [text, Reader.run_literal_brace slot part stack first tail plain]
      | atom chars =>
          rw [text, Reader.run_cons]
          have refused : Reader.step ⟨.atom chars, stack⟩ '{' = none := by
            change (atomValue chars.reverse).bind
              (fun read => Reader.stepAfter read stack '{') = none
            simp only [Reader.stepAfter_brace, Option.bind_fun_none]
          rw [refused, Option.bind_none]
      | after read =>
          rw [text, Reader.run_cons]
          have refused : Reader.step ⟨.after read, stack⟩ '{' = none :=
            Reader.stepAfter_brace read stack
          rw [refused, Option.bind_none]

end RagDrift.Json
