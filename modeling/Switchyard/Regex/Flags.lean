import Switchyard.Regex.Expr
import Switchyard.Text.Blank

/-!
# Flags of regular expressions

Flags such as `(?i)` decide what the characters behind them mean: whether case counts, whether
blanks count, which characters end a line, and whether sets hold Unicode or ASCII only. This module
says what each character and set means under given flags, and why a text may be no expression.
-/

namespace Switchyard.Regex

open Text (isBlank)

/-- Why a text is no regular expression. -/
inductive Fault where
  | unopenedGroup
  | unclosedGroup
  | unclosedClass
  | lookAround
  | badFlag
  | badGroupName
  | duplicateGroupName
  | nothingToRepeat
  | badCount
  | badEscape
  | badHex
  | unknownClass
  | badRange
  | badWordEdge
  | unicodeOff
  | notUtf8
  | tooDeep
  | tooBig
  deriving Repr, DecidableEq

/-- What the flags in force say. -/
structure Flags where
  caseless : Bool := false
  multiLine : Bool := false
  dotAll : Bool := false
  unicode : Bool := true
  crlf : Bool := false
  extended : Bool := false

/-! ### Blanks and comments -/

/-- The text behind blanks and comments. -/
def skipFiller : Bool → List Char → List Char
  | _, [] => []
  | true, c :: cs => skipFiller (c ≠ '\n') cs
  | false, c :: cs =>
    if isBlank c then skipFiller false cs
    else if c = '#' then skipFiller true cs
    else c :: cs

/-- The text behind what does not count. -/
def Flags.skip (f : Flags) (cs : List Char) : List Char :=
  if f.extended then skipFiller false cs else cs

/-- The next character that counts, given the text that starts with the current one. -/
def Flags.peek (f : Flags) : List Char → Option Char
  | [] => none
  | _ :: cs =>
    if f.extended then
      match cs.dropWhile isBlank with
      | '#' :: cs => (cs.dropWhile isBlank).head?
      | cs => cs.head?
    else cs.head?

/-! ### Sets and literals -/

/-- The set with the case variants of its members, if case does not count. -/
def Flags.fold (f : Flags) (s : CharSet) : CharSet :=
  if !f.caseless then s
  else if f.unicode then .variants s
  else
    let swap (n : Nat) : Nat :=
      let c := Char.ofNat n
      (if c.isUpper then c.toLower else c.toUpper).toNat
    .ranges (((List.range 128).filter fun n => s.holds n || s.holds (swap n)).map fun n => (n, n))

/-- The set as a class that may be negated. Without Unicode, a class must stay within ASCII. -/
def Flags.close (f : Flags) (negated : Bool) (s : CharSet) : Except Fault CharSet :=
  let s := f.fold s
  let s := if negated then .compl s else s
  if !f.unicode && !s.isAscii then .error .notUtf8 else .ok s

/-- The digits, blanks and word characters, in Unicode or in ASCII. -/
def Flags.perl (f : Flags) (c : Char) : CharSet :=
  match c with
  | 'd' => if f.unicode then .ranges Unicode.digits else .ranges [(0x30, 0x39)]
  | 's' => if f.unicode then .ranges Unicode.blanks else .ranges [(9, 13), (32, 32)]
  | _ =>
    if f.unicode then .ranges Unicode.wordCharacters
    else .ranges [(0x30, 0x39), (0x41, 0x5A), (0x5F, 0x5F), (0x61, 0x7A)]

/-- The expression for a literal. A byte beyond ASCII is no text. -/
def Flags.literal (f : Flags) (c : Char) (byte : Bool) : Except Fault Regex :=
  if !f.unicode && byte && 128 ≤ c.toNat then .error .notUtf8
  else if !f.unicode && 128 ≤ c.toNat then .ok (.chars (.single c))
  else .ok (.chars (f.fold (.single c)))

/-- Any character, or any that does not end a line. -/
def Flags.dot (f : Flags) : Except Fault Regex :=
  if !f.unicode then .error .notUtf8
  else if f.dotAll then .ok (.chars .all)
  else if f.crlf then .ok (.chars (.compl (.ranges [(10, 10), (13, 13)])))
  else .ok (.chars (.compl (.ranges [(10, 10)])))

/-- The start of the text, or of a line. -/
def Flags.caret (f : Flags) : Look :=
  if f.multiLine then .lineStart f.crlf else .start

/-- The end of the text, or of a line. -/
def Flags.dollar (f : Flags) : Look :=
  if f.multiLine then .lineStop f.crlf else .stop

end Switchyard.Regex
