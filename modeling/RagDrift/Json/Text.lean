import RagDrift.Json.Value

set_option autoImplicit false

/- The text form of JSON values: `dumps` writes it as Python's `json.dumps` does with its
defaults, `loads` reads it one character at a time with the open brackets on a stack. -/
namespace RagDrift.Json

def isBlank (c : Char) : Bool := c == ' ' || c == '\t' || c == '\n' || c == '\r'

def isMark (c : Char) : Bool :=
  c == '"' || c == ',' || c == ':' || c == '[' || c == ']' || c == '{' || c == '}'

/-- Numbers and the three keywords are the maximal runs of such characters. -/
def isAtomChar (c : Char) : Bool := !isBlank c && !isMark c

def nullText : List Char := ['n', 'u', 'l', 'l']
def trueText : List Char := ['t', 'r', 'u', 'e']
def falseText : List Char := ['f', 'a', 'l', 's', 'e']

/-- How a type of numbers is written in JSON: reading back what was written gives the
number, and what was written cannot be taken for anything else. -/
class NumText (N : Type) where
  repr : N → List Char
  parse : List Char → Option N
  parse_repr : ∀ number, parse (repr number) = some number
  repr_ne_nil : ∀ number, repr number ≠ []
  repr_atom : ∀ number, ∀ c ∈ repr number, isAtomChar c = true
  repr_ne_keyword : ∀ number, repr number ∉ [nullText, trueText, falseText]

def hexDigit (value : Nat) : Char :=
  if value < 10 then Char.ofNat (48 + value) else Char.ofNat (87 + value)

/-- Python's format `\\u{0:04x}`. -/
def unicodeEscape (unit : Nat) : List Char :=
  ['\\', 'u', hexDigit (unit / 4096 % 16), hexDigit (unit / 256 % 16),
    hexDigit (unit / 16 % 16), hexDigit (unit % 16)]

def highSurrogate (point : Nat) : Nat := 0xd800 + (point - 0x10000) / 1024
def lowSurrogate (point : Nat) : Nat := 0xdc00 + (point - 0x10000) % 1024

/-- `ensure_ascii=True`: what is not printable ASCII is written as UTF-16 units. -/
def escapeChar (c : Char) : List Char :=
  if c = '"' then ['\\', '"']
  else if c = '\\' then ['\\', '\\']
  else if c = '\n' then ['\\', 'n']
  else if c = '\r' then ['\\', 'r']
  else if c = '\t' then ['\\', 't']
  else if c = '\x0c' then ['\\', 'f']
  else if c = '\x08' then ['\\', 'b']
  else if 32 ≤ c.toNat ∧ c.toNat ≤ 126 then [c]
  else if c.toNat < 0x10000 then unicodeEscape c.toNat
  else unicodeEscape (highSurrogate c.toNat) ++ unicodeEscape (lowSurrogate c.toNat)

def dumpString (text : String) : List Char :=
  '"' :: text.toList.flatMap escapeChar ++ ['"']

variable {N : Type}

section Dumps

variable [NumText N]

mutual
def dumps : Json N → List Char
  | .null => nullText
  | .bool true => trueText
  | .bool false => falseText
  | .num number => NumText.repr number
  | .str text => dumpString text
  | .arr [] => ['[', ']']
  | .arr (item :: rest) => '[' :: dumps item ++ dumpsItems rest ++ [']']
  | .obj [] => ['{', '}']
  | .obj ((key, value) :: rest) =>
      '{' :: dumpString key ++ ':' :: ' ' :: dumps value ++ dumpsMembers rest ++ ['}']

/-- The items after the first, each behind its separator. -/
def dumpsItems : List (Json N) → List Char
  | [] => []
  | item :: rest => ',' :: ' ' :: dumps item ++ dumpsItems rest

def dumpsMembers : List (String × Json N) → List Char
  | [] => []
  | (key, value) :: rest =>
      ',' :: ' ' :: dumpString key ++ ':' :: ' ' :: dumps value ++ dumpsMembers rest
end

end Dumps

def hexValue (c : Char) : Option Nat :=
  if 48 ≤ c.toNat ∧ c.toNat ≤ 57 then some (c.toNat - 48)
  else if 97 ≤ c.toNat ∧ c.toNat ≤ 102 then some (c.toNat - 87)
  else if 65 ≤ c.toNat ∧ c.toNat ≤ 70 then some (c.toNat - 55)
  else none

inductive Escape where
  | plain
  | slash
  | hex (count value : Nat)

/-- Inside a string literal: the characters so far, last first, and a high surrogate that
waits for its low half. -/
structure Literal where
  chars : List Char
  high : Option Nat
  escape : Escape

/-- A lone surrogate is a Python character but not a Lean one; U+FFFD stands for it. -/
def flushHigh (high : Option Nat) (chars : List Char) : List Char :=
  match high with
  | none => chars
  | some _ => Char.ofNat 0xfffd :: chars

def Literal.add (part : Literal) (c : Char) : Literal :=
  ⟨c :: flushHigh part.high part.chars, none, .plain⟩

def Literal.addUnit (part : Literal) (unit : Nat) : Literal :=
  if 0xd800 ≤ unit ∧ unit < 0xdc00 then
    ⟨flushHigh part.high part.chars, some unit, .plain⟩
  else if 0xdc00 ≤ unit ∧ unit < 0xe000 then
    match part.high with
    | none => ⟨Char.ofNat 0xfffd :: part.chars, none, .plain⟩
    | some high =>
        ⟨Char.ofNat (0x10000 + (high - 0xd800) * 1024 + (unit - 0xdc00)) :: part.chars,
          none, .plain⟩
  else part.add (Char.ofNat unit)

def Literal.text (part : Literal) : String :=
  String.ofList (flushHigh part.high part.chars).reverse

/-- What follows a backslash. -/
def Literal.slash (part : Literal) (c : Char) : Option Literal :=
  if c = '"' ∨ c = '\\' ∨ c = '/' then some (part.add c)
  else if c = 'n' then some (part.add '\n')
  else if c = 'r' then some (part.add '\r')
  else if c = 't' then some (part.add '\t')
  else if c = 'f' then some (part.add '\x0c')
  else if c = 'b' then some (part.add '\x08')
  else if c = 'u' then some ⟨part.chars, part.high, .hex 0 0⟩
  else none

def Literal.hex (part : Literal) (count value : Nat) (c : Char) : Option Literal :=
  (hexValue c).map fun digit =>
    if count = 3 then part.addUnit (value * 16 + digit)
    else ⟨part.chars, part.high, .hex (count + 1) (value * 16 + digit)⟩

/-- The string literal being read is a value, or the key of a member. -/
inductive Slot (N : Type) where
  | value
  | key (done : List (String × Json N))

inductive Frame (N : Type) where
  | arr (done : List (Json N))
  | obj (done : List (String × Json N)) (key : String)

inductive Mode (N : Type) where
  | value (closable : Bool)
  | key (done : List (String × Json N)) (closable : Bool)
  | colon (done : List (String × Json N)) (key : String)
  | literal (slot : Slot N) (part : Literal)
  | atom (chars : List Char)
  | after (value : Json N)

structure Reader (N : Type) where
  mode : Mode N
  stack : List (Frame N)

def Reader.start : Reader N := ⟨.value false, []⟩

def Reader.closeString (slot : Slot N) (text : String) (stack : List (Frame N)) : Reader N :=
  match slot with
  | .value => ⟨.after (.str text), stack⟩
  | .key done => ⟨.colon done text, stack⟩

def Reader.stepLiteral (slot : Slot N) (part : Literal) (stack : List (Frame N)) (c : Char) :
    Option (Reader N) :=
  match part.escape with
  | .plain =>
      if c = '"' then some (closeString slot part.text stack)
      else if c = '\\' then some ⟨.literal slot ⟨part.chars, part.high, .slash⟩, stack⟩
      else if c.toNat < 32 then none
      else some ⟨.literal slot (part.add c), stack⟩
  | .slash => (part.slash c).map fun next => ⟨.literal slot next, stack⟩
  | .hex count value => (part.hex count value c).map fun next => ⟨.literal slot next, stack⟩

def Reader.stepValue (closable : Bool) (stack : List (Frame N)) (c : Char) : Option (Reader N) :=
  if isBlank c then some ⟨.value closable, stack⟩
  else if c = '"' then some ⟨.literal .value ⟨[], none, .plain⟩, stack⟩
  else if c = '[' then some ⟨.value true, .arr [] :: stack⟩
  else if c = '{' then some ⟨.key [] true, stack⟩
  else if c = ']' ∧ closable then
    match stack with
    | .arr done :: rest => some ⟨.after (.arr done), rest⟩
    | _ => none
  else if isMark c then none
  else some ⟨.atom [c], stack⟩

def Reader.stepKey (done : List (String × Json N)) (closable : Bool) (stack : List (Frame N))
    (c : Char) : Option (Reader N) :=
  if isBlank c then some ⟨.key done closable, stack⟩
  else if c = '"' then some ⟨.literal (.key done) ⟨[], none, .plain⟩, stack⟩
  else if c = '}' ∧ closable then some ⟨.after (.obj done), stack⟩
  else none

def Reader.stepColon (done : List (String × Json N)) (key : String) (stack : List (Frame N))
    (c : Char) : Option (Reader N) :=
  if isBlank c then some ⟨.colon done key, stack⟩
  else if c = ':' then some ⟨.value false, .obj done key :: stack⟩
  else none

def Reader.stepAfter (value : Json N) (stack : List (Frame N)) (c : Char) : Option (Reader N) :=
  if isBlank c then some ⟨.after value, stack⟩
  else match stack with
    | [] => none
    | .arr done :: rest =>
        if c = ',' then some ⟨.value false, .arr (done ++ [value]) :: rest⟩
        else if c = ']' then some ⟨.after (.arr (done ++ [value])), rest⟩
        else none
    | .obj done key :: rest =>
        if c = ',' then some ⟨.key (setMember key value done) false, rest⟩
        else if c = '}' then some ⟨.after (.obj (setMember key value done)), rest⟩
        else none

section Loads

variable [NumText N]

def atomValue (chars : List Char) : Option (Json N) :=
  if chars = nullText then some .null
  else if chars = trueText then some (.bool true)
  else if chars = falseText then some (.bool false)
  else (NumText.parse chars).map .num

def Reader.step (reader : Reader N) (c : Char) : Option (Reader N) :=
  match reader.mode with
  | .value closable => stepValue closable reader.stack c
  | .key done closable => stepKey done closable reader.stack c
  | .colon done key => stepColon done key reader.stack c
  | .literal slot part => stepLiteral slot part reader.stack c
  | .atom chars =>
      if isAtomChar c then some ⟨.atom (c :: chars), reader.stack⟩
      else (atomValue chars.reverse).bind fun value => stepAfter value reader.stack c
  | .after value => stepAfter value reader.stack c

def Reader.feed : Reader N → List Char → Option (Reader N)
  | reader, [] => some reader
  | reader, c :: rest => (reader.step c).bind fun next => next.feed rest

/-- The end of the text is an end only outside every bracket and string. -/
def Reader.finish (reader : Reader N) : Option (Json N) :=
  match reader.mode, reader.stack with
  | .after value, [] => some value
  | .atom chars, [] => atomValue chars.reverse
  | _, _ => none

def Reader.run (reader : Reader N) (text : List Char) : Option (Json N) :=
  (reader.feed text).bind Reader.finish

/-- `json.loads`; `none` is the `JSONDecodeError`. -/
def loads (text : List Char) : Option (Json N) := Reader.start.run text

end Loads

end RagDrift.Json
