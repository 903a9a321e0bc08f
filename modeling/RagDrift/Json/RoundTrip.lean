import RagDrift.Json.Text

set_option autoImplicit false

/- Reading back what was written. The reader's state makes the induction go through: at a
place for a value, the text of the value moves it past that value and leaves every bracket
that was open around it as it was. -/
namespace RagDrift.Json

variable {N : Type} [NumText N]

namespace Reader

theorem feed_cons (reader : Reader N) (c : Char) (rest : List Char) :
    reader.feed (c :: rest) = (reader.step c).bind fun next => next.feed rest := rfl

theorem feed_append (reader : Reader N) (front back : List Char) :
    reader.feed (front ++ back) = (reader.feed front).bind fun next => next.feed back := by
  induction front generalizing reader with
  | nil => rfl
  | cons c rest ih =>
      rw [List.cons_append, feed_cons, feed_cons]
      cases reader.step c with
      | none => rfl
      | some next => exact ih next

theorem run_append (reader : Reader N) (front back : List Char) :
    reader.run (front ++ back) = (reader.feed front).bind fun next => next.run back := by
  simp only [run, feed_append, Option.bind_assoc]

theorem run_append_of_feed {reader next : Reader N} {front : List Char}
    (fed : reader.feed front = some next) (back : List Char) :
    reader.run (front ++ back) = next.run back := by
  rw [run_append, fed, Option.bind_some]

theorem run_cons (reader : Reader N) (c : Char) (rest : List Char) :
    reader.run (c :: rest) = (reader.step c).bind fun next => next.run rest := by
  simp only [run, feed_cons, Option.bind_assoc]

theorem run_cons_of_step {reader next : Reader N} {c : Char}
    (stepped : reader.step c = some next) (rest : List Char) :
    reader.run (c :: rest) = next.run rest := by
  rw [run_cons, stepped, Option.bind_some]

end Reader

theorem hexValue_hexDigit : ∀ digit < 16, hexValue (hexDigit digit) = some digit := by
  decide

theorem Literal.hex_hexDigit (part : Literal) (count value digit : Nat) (small : digit < 16) :
    part.hex count value (hexDigit digit) =
      some (if count = 3 then part.addUnit (value * 16 + digit)
        else ⟨part.chars, part.high, .hex (count + 1) (value * 16 + digit)⟩) := by
  rw [Literal.hex, hexValue_hexDigit digit small, Option.map_some]

namespace Reader

theorem feed_unicodeEscape (slot : Slot N) (chars : List Char) (high : Option Nat)
    (stack : List (Frame N)) (unit : Nat) (small : unit < 65536) :
    feed ⟨.literal slot ⟨chars, high, .plain⟩, stack⟩ (unicodeEscape unit) =
      some ⟨.literal slot (Literal.addUnit ⟨chars, high, .plain⟩ unit), stack⟩ := by
  have upper : (unit / 4096 % 16 * 16 + unit / 256 % 16) * 16 + unit / 16 % 16 = unit / 16 := by
    omega
  have below : ∀ value, value % 16 < 16 := fun value => Nat.mod_lt value (by decide)
  simp only [unicodeEscape, feed, step, stepLiteral, Char.reduceEq, ↓reduceIte, Literal.slash,
    or_self, Option.map_some, Option.bind_some, Literal.hex_hexDigit _ _ _ _ (below _),
    Nat.zero_mul, Nat.zero_add, Nat.reduceAdd, Nat.reduceEqDiff, upper]
  rw [Nat.div_add_mod']
  rfl

theorem feed_escapeChar (slot : Slot N) (chars : List Char) (stack : List (Frame N)) (c : Char) :
    feed ⟨.literal slot ⟨chars, none, .plain⟩, stack⟩ (escapeChar c) =
      some ⟨.literal slot ⟨c :: chars, none, .plain⟩, stack⟩ := by
  have valid : c.toNat < 0xd800 ∨ 0xdfff < c.toNat ∧ c.toNat < 0x110000 := c.valid
  unfold escapeChar
  split
  · subst c; rfl
  split
  · subst c; rfl
  split
  · subst c; rfl
  split
  · subst c; rfl
  split
  · subst c; rfl
  split
  · subst c; rfl
  split
  · subst c; rfl
  rename_i notQuote notSlash _ _ _ _ _
  split
  · rename_i printable
    have visible : ¬ c.toNat < 32 := by omega
    simp only [feed, step, stepLiteral, notQuote, notSlash, visible, ↓reduceIte,
      Option.bind_some, Literal.add, flushHigh]
  split
  · -- one UTF-16 unit, which no Lean character makes a surrogate
    rename_i basic
    rw [feed_unicodeEscape slot chars none stack c.toNat basic]
    have notHigh : ¬ (0xd800 ≤ c.toNat ∧ c.toNat < 0xdc00) := by omega
    have notLow : ¬ (0xdc00 ≤ c.toNat ∧ c.toNat < 0xe000) := by omega
    simp only [Literal.addUnit, notHigh, notLow, ↓reduceIte, Literal.add, flushHigh,
      Char.ofNat_toNat]
  · rename_i supplementary
    have highLower : 0xd800 ≤ highSurrogate c.toNat := by unfold highSurrogate; omega
    have highUpper : highSurrogate c.toNat < 0xdc00 := by unfold highSurrogate; omega
    have lowLower : 0xdc00 ≤ lowSurrogate c.toNat := by unfold lowSurrogate; omega
    have lowUpper : lowSurrogate c.toNat < 0xe000 := by unfold lowSurrogate; omega
    have point : 0x10000 + (highSurrogate c.toNat - 0xd800) * 1024 +
        (lowSurrogate c.toNat - 0xdc00) = c.toNat := by
      unfold highSurrogate lowSurrogate
      omega
    have lowNotHigh : ¬ (0xd800 ≤ lowSurrogate c.toNat ∧ lowSurrogate c.toNat < 0xdc00) := by
      omega
    rw [feed_append, feed_unicodeEscape slot chars none stack _ (by omega), Option.bind_some]
    simp only [Literal.addUnit, highLower, highUpper, and_self, ↓reduceIte, flushHigh]
    rw [feed_unicodeEscape slot chars _ stack _ (by omega)]
    simp only [Literal.addUnit, lowNotHigh, lowLower, lowUpper, and_self, ↓reduceIte, point,
      Char.ofNat_toNat]

theorem feed_escapeText (slot : Slot N) (chars : List Char) (stack : List (Frame N))
    (text : List Char) :
    feed ⟨.literal slot ⟨chars, none, .plain⟩, stack⟩ (text.flatMap escapeChar) =
      some ⟨.literal slot ⟨text.reverse ++ chars, none, .plain⟩, stack⟩ := by
  induction text generalizing chars with
  | nil => rfl
  | cons c rest ih =>
      rw [List.flatMap_cons, feed_append, feed_escapeChar, Option.bind_some, ih,
        List.reverse_cons, List.append_assoc, List.singleton_append]

theorem run_literal (slot : Slot N) (text : String) (stack : List (Frame N)) (rest : List Char) :
    run ⟨.literal slot ⟨[], none, .plain⟩, stack⟩
        (text.toList.flatMap escapeChar ++ ['"'] ++ rest) =
      run (closeString slot text stack) rest := by
  rw [List.append_assoc, run_append_of_feed (feed_escapeText slot [] stack text.toList)]
  refine run_cons_of_step ?_ rest
  simp only [step, stepLiteral, ↓reduceIte, Literal.text, flushHigh, List.append_nil,
    List.reverse_reverse, String.ofList_toList]

theorem run_value_dumpString (closable : Bool) (text : String) (stack : List (Frame N))
    (rest : List Char) :
    run ⟨.value closable, stack⟩ (dumpString text ++ rest) =
      run ⟨.after (.str text), stack⟩ rest := by
  rw [dumpString, List.cons_append, List.cons_append]
  have opened : step ⟨.value closable, stack⟩ '"' =
      some ⟨.literal .value ⟨[], none, .plain⟩, stack⟩ := rfl
  rw [run_cons_of_step opened]
  exact run_literal .value text stack rest

theorem run_key_dumpString (done : List (String × Json N)) (closable : Bool) (key : String)
    (stack : List (Frame N)) (rest : List Char) :
    run ⟨.key done closable, stack⟩ (dumpString key ++ rest) =
      run ⟨.colon done key, stack⟩ rest := by
  rw [dumpString, List.cons_append, List.cons_append]
  have opened : step ⟨.key done closable, stack⟩ '"' =
      some ⟨.literal (.key done) ⟨[], none, .plain⟩, stack⟩ := rfl
  rw [run_cons_of_step opened]
  exact run_literal (.key done) key stack rest

/-- A number or keyword in front of such a text ends where the text starts. -/
def Delimited (text : List Char) : Prop := ∀ c ∈ text.head?, isAtomChar c = false

theorem feed_atom (chars more : List Char) (stack : List (Frame N))
    (atoms : ∀ c ∈ more, isAtomChar c = true) :
    feed ⟨.atom chars, stack⟩ more = some ⟨.atom (more.reverse ++ chars), stack⟩ := by
  induction more generalizing chars with
  | nil => rfl
  | cons c rest ih =>
      have first : isAtomChar c = true := atoms c List.mem_cons_self
      rw [feed_cons]
      simp only [step, first, ↓reduceIte, Option.bind_some]
      rw [ih (c :: chars) fun d inside => atoms d (List.mem_cons_of_mem c inside)]
      simp only [List.reverse_cons, List.append_assoc, List.singleton_append]

/-- At a delimiter an atom that names a value is as good as the value. -/
theorem run_atom (chars : List Char) (value : Json N) (stack : List (Frame N)) (rest : List Char)
    (named : atomValue chars.reverse = some value) (delimited : Delimited rest) :
    run ⟨.atom chars, stack⟩ rest = run ⟨.after value, stack⟩ rest := by
  cases rest with
  | nil =>
      cases stack with
      | nil => exact named
      | cons frame frames => rfl
  | cons c rest =>
      have stop : isAtomChar c = false := delimited c (by simp)
      rw [run_cons, run_cons]
      simp only [step, stop, Bool.false_eq_true, ↓reduceIte, named, Option.bind_some]

omit [NumText N] in
theorem stepValue_atom (closable : Bool) (stack : List (Frame N)) (c : Char)
    (atom : isAtomChar c = true) : stepValue closable stack c = some ⟨.atom [c], stack⟩ := by
  simp only [isAtomChar, Bool.and_eq_true, Bool.not_eq_true'] at atom
  obtain ⟨notBlank, notMark⟩ := atom
  have marks := notMark
  simp only [isMark, Bool.or_eq_false_iff, beq_eq_false_iff_ne] at marks
  obtain ⟨⟨⟨⟨⟨⟨quote, _⟩, _⟩, opens⟩, closes⟩, brace⟩, _⟩ := marks
  simp only [stepValue, notBlank, notMark, quote, opens, brace, closes, false_and,
    Bool.false_eq_true, ↓reduceIte]

theorem run_value_atom (closable : Bool) (chars : List Char) (value : Json N)
    (stack : List (Frame N)) (rest : List Char) (nonempty : chars ≠ [])
    (atoms : ∀ c ∈ chars, isAtomChar c = true) (named : atomValue chars = some value)
    (delimited : Delimited rest) :
    run ⟨.value closable, stack⟩ (chars ++ rest) = run ⟨.after value, stack⟩ rest := by
  cases chars with
  | nil => exact absurd rfl nonempty
  | cons c more =>
      have begun : step ⟨.value closable, stack⟩ c = some ⟨.atom [c], stack⟩ :=
        stepValue_atom closable stack c (atoms c List.mem_cons_self)
      rw [List.cons_append, run_cons_of_step begun]
      rw [run_append_of_feed
        (feed_atom [c] more stack fun d inside => atoms d (List.mem_cons_of_mem c inside))]
      apply run_atom _ _ _ _ _ delimited
      simpa only [List.reverse_append, List.reverse_reverse, List.reverse_singleton,
        List.singleton_append] using named

theorem atomValue_repr (number : N) :
    atomValue (NumText.repr number) = some (Json.num number) := by
  have keyword := NumText.repr_ne_keyword number
  simp only [List.mem_cons, List.not_mem_nil, or_false, not_or] at keyword
  obtain ⟨notNull, notTrue, notFalse⟩ := keyword
  simp only [atomValue, notNull, notTrue, notFalse, ↓reduceIte, NumText.parse_repr,
    Option.map_some]

theorem delimited_cons {c : Char} (rest : List Char) (stop : isAtomChar c = false) :
    Delimited (c :: rest) := by
  intro d inside
  rw [List.head?_cons, Option.mem_some_iff] at inside
  rw [← inside, stop]

theorem delimited_dumpsItems (items : List (Json N)) (rest : List Char) :
    Delimited (dumpsItems items ++ ']' :: rest) := by
  cases items <;> exact delimited_cons _ rfl

theorem delimited_dumpsMembers (members : List (String × Json N)) (rest : List Char) :
    Delimited (dumpsMembers members ++ '}' :: rest) := by
  cases members <;> exact delimited_cons _ rfl

theorem run_colon (done : List (String × Json N)) (key : String) (stack : List (Frame N))
    (rest : List Char) :
    run ⟨.colon done key, stack⟩ (':' :: ' ' :: rest) =
      run ⟨.value false, .obj done key :: stack⟩ rest := rfl

mutual
/-- Where a value is expected, its text moves the reader past what is read back of it. -/
theorem run_dumps (value : Json N) (closable : Bool)
    (stack : List (Frame N)) (rest : List Char) (delimited : Delimited rest) :
    run ⟨.value closable, stack⟩ (dumps value ++ rest) =
      run ⟨.after value.reread, stack⟩ rest := by
  match value with
  | .null =>
      exact run_value_atom closable nullText .null stack rest (by decide)
        (List.all_eq_true.mp rfl) rfl delimited
  | .bool true =>
      exact run_value_atom closable trueText (.bool true) stack rest (by decide)
        (List.all_eq_true.mp rfl) rfl delimited
  | .bool false =>
      exact run_value_atom closable falseText (.bool false) stack rest (by decide)
        (List.all_eq_true.mp rfl) rfl delimited
  | .num number =>
      exact run_value_atom closable (NumText.repr number) (.num number) stack rest
        (NumText.repr_ne_nil number) (NumText.repr_atom number) (atomValue_repr number) delimited
  | .str text => exact run_value_dumpString closable text stack rest
  | .arr [] => rfl
  | .arr (item :: items) =>
      have opened : run ⟨.value closable, stack⟩ (dumps (.arr (item :: items)) ++ rest) =
          run ⟨.value true, .arr [] :: stack⟩
            (dumps item ++ (dumpsItems items ++ ']' :: rest)) := by
        simp only [dumps, List.cons_append, List.append_assoc, List.nil_append]
        rfl
      rw [opened, run_dumps item true (.arr [] :: stack) _ (delimited_dumpsItems items rest),
        run_dumpsItems items [] item.reread stack rest delimited, List.nil_append]
      rfl
  | .obj [] => rfl
  | .obj ((key, item) :: members) =>
      have opened : run ⟨.value closable, stack⟩ (dumps (.obj ((key, item) :: members)) ++ rest) =
          run ⟨.key [] true, stack⟩ (dumpString key ++ ':' :: ' ' ::
            (dumps item ++ (dumpsMembers members ++ '}' :: rest))) := by
        simp only [dumps, List.cons_append, List.append_assoc, List.nil_append]
        rfl
      rw [opened, run_key_dumpString, run_colon, run_dumps item false _ _
        (delimited_dumpsMembers members rest),
        run_dumpsMembers members [] key item.reread stack rest delimited]
      rfl

theorem run_dumpsItems (items : List (Json N)) (done : List (Json N)) (last : Json N)
    (stack : List (Frame N)) (rest : List Char) (delimited : Delimited rest) :
    run ⟨.after last, .arr done :: stack⟩ (dumpsItems items ++ ']' :: rest) =
      run ⟨.after (.arr (done ++ last :: rereadItems items)), stack⟩ rest := by
  match items with
  | [] => rfl
  | item :: items =>
      have separated : run ⟨.after last, .arr done :: stack⟩
            (dumpsItems (item :: items) ++ ']' :: rest) =
          run ⟨.value false, .arr (done ++ [last]) :: stack⟩
            (dumps item ++ (dumpsItems items ++ ']' :: rest)) := by
        simp only [dumpsItems, List.cons_append, List.append_assoc]
        rfl
      rw [separated, run_dumps item false _ _ (delimited_dumpsItems items rest),
        run_dumpsItems items (done ++ [last]) item.reread stack rest delimited,
        List.append_assoc, List.singleton_append, rereadItems]

theorem run_dumpsMembers (members : List (String × Json N)) (done : List (String × Json N))
    (key : String) (last : Json N) (stack : List (Frame N)) (rest : List Char)
    (delimited : Delimited rest) :
    run ⟨.after last, .obj done key :: stack⟩ (dumpsMembers members ++ '}' :: rest) =
      run ⟨.after (.obj (rereadMembers (setMember key last done) members)), stack⟩ rest := by
  match members with
  | [] => rfl
  | (name, item) :: members =>
      have separated : run ⟨.after last, .obj done key :: stack⟩
            (dumpsMembers ((name, item) :: members) ++ '}' :: rest) =
          run ⟨.key (setMember key last done) false, stack⟩ (dumpString name ++ ':' :: ' ' ::
            (dumps item ++ (dumpsMembers members ++ '}' :: rest))) := by
        simp only [dumpsMembers, List.cons_append, List.append_assoc]
        rfl
      rw [separated, run_key_dumpString, run_colon,
        run_dumps item false _ _ (delimited_dumpsMembers members rest),
        run_dumpsMembers members (setMember key last done) name item.reread stack rest delimited,
        rereadMembers]
end

end Reader

theorem loads_dumps_reread (value : Json N) : loads (dumps value) = some value.reread := by
  have read := Reader.run_dumps value false [] [] (by intro c inside; cases inside)
  rw [List.append_nil] at read
  exact read

/-- `json.loads` undoes `json.dumps`. -/
theorem loads_dumps (value : Json N) (distinct : value.KeysDistinct) :
    loads (dumps value) = some value := by
  rw [loads_dumps_reread, reread_of_distinct value distinct]

end RagDrift.Json
