import Mathlib.Data.List.TakeWhile

set_option autoImplicit false

/- Text files the way Python's text mode reads them: every line break is one newline, a
file is the list of its lines, and `str.strip` removes blanks at both ends. -/
namespace RagDrift.Text

/-- Reading in text mode with `newline=None`. -/
def universalNewlines : List Char → List Char
  | [] => []
  | '\r' :: '\n' :: rest => '\n' :: universalNewlines rest
  | '\r' :: rest => '\n' :: universalNewlines rest
  | c :: rest => c :: universalNewlines rest

/-- The pieces between newlines. The last piece is the part behind the last newline, which
is empty for a file that ends with one. -/
def pieces : List Char → List (List Char)
  | [] => [[]]
  | c :: rest =>
      if c = '\n' then [] :: pieces rest
      else match pieces rest with
        | [] => [[c]]
        | first :: others => (c :: first) :: others

/-- The characters `str.isspace` accepts. -/
def isSpace (c : Char) : Bool :=
  (9 ≤ c.toNat && c.toNat ≤ 13) || (28 ≤ c.toNat && c.toNat ≤ 32) || c.toNat == 0x85 ||
    c.toNat == 0xa0 || c.toNat == 0x1680 || (0x2000 ≤ c.toNat && c.toNat ≤ 0x200a) ||
    c.toNat == 0x2028 || c.toNat == 0x2029 || c.toNat == 0x202f || c.toNat == 0x205f ||
    c.toNat == 0x3000

/-- `str.strip()`. -/
def strip (text : List Char) : List Char :=
  ((text.dropWhile isSpace).reverse.dropWhile isSpace).reverse

theorem universalNewlines_cons_ne {c : Char} (rest : List Char) (plain : c ≠ '\r') :
    universalNewlines (c :: rest) = c :: universalNewlines rest := by
  rw [universalNewlines] <;> simp_all

theorem universalNewlines_of_no_carriage (text : List Char) (plain : ∀ c ∈ text, c ≠ '\r') :
    universalNewlines text = text := by
  induction text with
  | nil => rfl
  | cons c rest ih =>
      rw [universalNewlines_cons_ne rest (plain c List.mem_cons_self),
        ih fun d inside => plain d (List.mem_cons_of_mem c inside)]

theorem universalNewlines_no_carriage (text : List Char) :
    ∀ c ∈ universalNewlines text, c ≠ '\r' := by
  fun_induction universalNewlines text with
  | case1 => simp
  | case2 rest ih =>
      intro c inside
      rcases List.mem_cons.mp inside with rfl | later
      · decide
      · exact ih c later
  | case3 rest _ ih =>
      intro c inside
      rcases List.mem_cons.mp inside with rfl | later
      · decide
      · exact ih c later
  | case4 c rest _ notCarriage ih =>
      intro d inside
      rcases List.mem_cons.mp inside with rfl | later
      · exact fun equal => notCarriage equal
      · exact ih d later

/-- What was read in text mode and written back reads the same, with anything free of line
breaks behind it. -/
theorem universalNewlines_read_append (text more : List Char) (plain : ∀ c ∈ more, c ≠ '\r') :
    universalNewlines (universalNewlines text ++ more) = universalNewlines text ++ more := by
  apply universalNewlines_of_no_carriage
  intro c inside
  rcases List.mem_append.mp inside with front | back
  · exact universalNewlines_no_carriage text c front
  · exact plain c back

theorem pieces_newline (rest : List Char) : pieces ('\n' :: rest) = [] :: pieces rest := by
  rw [pieces, if_pos rfl]

theorem pieces_cons {c : Char} {rest first : List Char} {others : List (List Char)}
    (plain : c ≠ '\n') (split : pieces rest = first :: others) :
    pieces (c :: rest) = (c :: first) :: others := by
  rw [pieces, if_neg plain, split]

theorem pieces_line (line : List Char) (plain : ∀ c ∈ line, c ≠ '\n') : pieces line = [line] := by
  induction line with
  | nil => rfl
  | cons c rest ih =>
      exact pieces_cons (plain c List.mem_cons_self)
        (ih fun d inside => plain d (List.mem_cons_of_mem c inside))

/-- A line behind a text extends the text's last piece, and the line's newline starts a new one. -/
theorem pieces_append_line (text line : List Char) (plain : ∀ c ∈ line, c ≠ '\n') :
    ∃ front last, pieces text = front ++ [last] ∧
      pieces (text ++ line ++ ['\n']) = front ++ [last ++ line, []] := by
  induction text with
  | nil =>
      refine ⟨[], [], rfl, ?_⟩
      induction line with
      | nil => rfl
      | cons c rest ih =>
          have tail := ih fun d inside => plain d (List.mem_cons_of_mem c inside)
          simp only [List.nil_append] at tail ⊢
          exact pieces_cons (plain c List.mem_cons_self) tail
  | cons c rest ih =>
      obtain ⟨front, last, before, after⟩ := ih
      by_cases newline : c = '\n'
      · subst c
        refine ⟨[] :: front, last, ?_, ?_⟩
        · rw [pieces_newline, before, List.cons_append]
        · rw [List.cons_append, List.cons_append, pieces_newline, after, List.cons_append]
      · cases front with
        | nil =>
            exact ⟨[], c :: last, pieces_cons newline before, pieces_cons newline after⟩
        | cons first others =>
            exact ⟨(c :: first) :: others, last, pieces_cons newline before,
              pieces_cons newline after⟩

/-- A file of terminated lines is read back as those lines and one empty piece. -/
theorem pieces_lines (lines : List (List Char)) (plain : ∀ line ∈ lines, ∀ c ∈ line, c ≠ '\n') :
    pieces (lines.flatMap fun line => line ++ ['\n']) = lines ++ [[]] := by
  induction lines with
  | nil => rfl
  | cons line rest ih =>
      have tail := ih fun other inside => plain other (List.mem_cons_of_mem line inside)
      have here := plain line List.mem_cons_self
      rw [List.flatMap_cons, List.cons_append, List.append_assoc, List.singleton_append]
      clear ih plain
      induction line with
      | nil => rw [List.nil_append, pieces_newline, tail]
      | cons c more ih =>
          rw [List.cons_append]
          exact pieces_cons (here c List.mem_cons_self)
            (ih fun d inside => here d (List.mem_cons_of_mem c inside))

theorem strip_eq_nil_iff (text : List Char) : strip text = [] ↔ ∀ c ∈ text, isSpace c = true := by
  rw [strip, List.reverse_eq_nil_iff]
  constructor
  · intro empty
    have all := List.dropWhile_eq_nil_iff.mp empty
    intro c inside
    by_cases blank : isSpace c = true
    · exact blank
    · rw [← List.takeWhile_append_dropWhile (p := isSpace) (l := text)] at inside
      rcases List.mem_append.mp inside with front | back
      · exact List.mem_takeWhile_imp front
      · exact all c (List.mem_reverse.mpr back)
  · intro all
    rw [List.dropWhile_eq_nil_iff.mpr all]
    rfl

/-- Text that starts and ends with a visible character keeps both ends; what is in front of it
only loses its own leading blanks. -/
theorem strip_append_solid (front body : List Char) (first last : Char) (middle : List Char)
    (shape : body = first :: middle ++ [last]) (firstSolid : isSpace first = false)
    (lastSolid : isSpace last = false) :
    strip (front ++ body) = front.dropWhile isSpace ++ body := by
  have kept : (front ++ body).dropWhile isSpace = front.dropWhile isSpace ++ body := by
    rw [List.dropWhile_append]
    split
    · rename_i empty
      rw [List.isEmpty_iff] at empty
      rw [empty, List.nil_append, shape, List.cons_append,
        List.dropWhile_cons_of_neg (by simp [firstSolid])]
    · rfl
  rw [strip, kept, shape, ← List.append_assoc, List.reverse_append, List.reverse_singleton,
    List.singleton_append, List.dropWhile_cons_of_neg (by simp [lastSolid]), List.reverse_cons,
    List.reverse_reverse]

theorem dropWhile_head_solid {text rest : List Char} {c : Char}
    (head : text.dropWhile isSpace = c :: rest) : isSpace c = false := by
  have nonempty : text.dropWhile isSpace ≠ [] := by simp [head]
  have solid := List.head_dropWhile_not isSpace nonempty
  simpa only [head, List.head_cons] using solid

end RagDrift.Text
