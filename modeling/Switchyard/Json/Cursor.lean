/-!
# A cursor over a JSON text

A reader of JSON moves a cursor over the text. A fault carries the line and the column, in bytes,
of the place where it was found: the place behind the last character read, or one byte further if
the fault is in the character that comes next.
-/

namespace Switchyard.Json

/-- Why a text is no JSON value. -/
inductive Fault where
  | endInList
  | endInObject
  | endInString
  | endInValue
  | expectedColon
  | expectedListCommaOrEnd
  | expectedObjectCommaOrEnd
  | expectedIdent
  | expectedValue
  | invalidEscape
  | invalidNumber
  | numberOutOfRange
  | controlCharacter
  | keyMustBeString
  | loneSurrogate
  | trailingComma
  | trailingCharacters
  | endOfHexEscape
  | tooDeep
  deriving Repr, DecidableEq

def Fault.text : Fault → String
  | .endInList => "EOF while parsing a list"
  | .endInObject => "EOF while parsing an object"
  | .endInString => "EOF while parsing a string"
  | .endInValue => "EOF while parsing a value"
  | .expectedColon => "expected `:`"
  | .expectedListCommaOrEnd => "expected `,` or `]`"
  | .expectedObjectCommaOrEnd => "expected `,` or `\x7d`"
  | .expectedIdent => "expected ident"
  | .expectedValue => "expected value"
  | .invalidEscape => "invalid escape"
  | .invalidNumber => "invalid number"
  | .numberOutOfRange => "number out of range"
  | .controlCharacter => "control character (\\u0000-\\u001F) found while parsing a string"
  | .keyMustBeString => "key must be a string"
  | .loneSurrogate => "lone leading surrogate in hex escape"
  | .trailingComma => "trailing comma"
  | .trailingCharacters => "trailing characters"
  | .endOfHexEscape => "unexpected end of hex escape"
  | .tooDeep => "recursion limit exceeded"

/-- A fault and its place. -/
structure Error where
  fault : Fault
  line : Nat
  column : Nat
  deriving Repr, DecidableEq

/-- The report for a reader. -/
def Error.message (e : Error) : String :=
  e.fault.text ++ " at line " ++ toString e.line ++ " column " ++ toString e.column

/-- The text that is still to be read, and the place of its first character. -/
structure Cursor where
  rest : List Char
  line : Nat
  column : Nat

namespace Cursor

def start (s : String) : Cursor := ⟨s.toList, 1, 0⟩

/-- The cursor behind the character `c`, which comes next, with `rest` behind it. -/
def past (cur : Cursor) (c : Char) (rest : List Char) : Cursor :=
  if c = '\n' then ⟨rest, cur.line + 1, 0⟩ else ⟨rest, cur.line, cur.column + c.utf8Size⟩

/-- The cursor behind the next character. -/
def next (cur : Cursor) : Cursor :=
  match cur.rest with
  | [] => cur
  | c :: rest => cur.past c rest

/-- A fault behind what was read. -/
def fail {α : Type} (cur : Cursor) (f : Fault) : Except Error α :=
  .error ⟨f, cur.line, cur.column⟩

/-- A fault in what comes next. -/
def failNext {α : Type} (cur : Cursor) (f : Fault) : Except Error α :=
  match cur.rest with
  | [] => .error ⟨f, cur.line, cur.column⟩
  | c :: _ =>
    if c = '\n' then .error ⟨f, cur.line + 1, 0⟩ else .error ⟨f, cur.line, cur.column + 1⟩

/-- The cursor behind characters that satisfy `p`. -/
def skipFrom (p : Char → Bool) (line column : Nat) : List Char → Cursor
  | [] => ⟨[], line, column⟩
  | c :: rest =>
    if p c then
      if c = '\n' then skipFrom p (line + 1) 0 rest
      else skipFrom p line (column + c.utf8Size) rest
    else ⟨c :: rest, line, column⟩

def skip (p : Char → Bool) (cur : Cursor) : Cursor :=
  skipFrom p cur.line cur.column cur.rest

/-- The blanks of JSON. -/
def isBlank (c : Char) : Bool :=
  c = ' ' || c = '\n' || c = '\t' || c = '\r'

def skipBlanks (cur : Cursor) : Cursor := cur.skip isBlank

/-- The next character, if any. -/
def peek? (cur : Cursor) : Option Char := cur.rest.head?

/-- The cursor behind `n` characters of one byte each, none of them a new line. -/
def along (cur : Cursor) (n : Nat) (rest : List Char) : Cursor :=
  ⟨rest, cur.line, cur.column + n⟩

/-- The cursor behind four bytes, which may be fewer characters. -/
def fourBytes (cur : Cursor) : Option (List Char × Cursor) :=
  go 4 cur []
where
  go : Nat → Cursor → List Char → Option (List Char × Cursor)
    | 0, cur, taken => some (taken.reverse, cur)
    | n + 1, cur, taken =>
      match cur.rest with
      | [] => none
      | c :: rest =>
        if c.utf8Size ≤ n + 1 then go (n + 1 - c.utf8Size) (cur.past c rest) (c :: taken)
        else some ((c :: taken).reverse, ⟨rest, cur.line, cur.column + n + 1⟩)
  termination_by n => n
  decreasing_by
    have := c.utf8Size_pos
    omega

end Cursor

end Switchyard.Json
