import Switchyard.Number.Digit
import Switchyard.Regex.Flags

/-!
# Escapes in regular expressions

What stands behind a backslash: a character by itself or by its code, a set of characters, or an
assertion on the place where it stands.
-/

namespace Switchyard.Regex

open Number (hexDigit?)

/-! ### Characters by their codes -/

/-- The characters with a meaning of their own. -/
def isMeta (c : Char) : Bool :=
  "\\.+*?()|[]\x7b\x7d^$#&-~".toList.contains c

/-- May the character be escaped to stand for itself? -/
def isEscapable (c : Char) : Bool :=
  isMeta c || (c.toNat < 128 && !c.isAlphanum && c ≠ '<' && c ≠ '>')

/-- The character with this code. -/
def char? (n : Nat) : Except Fault Char :=
  if n.isValidChar then .ok (Char.ofNat n) else .error .badHex

/-- A fixed number of hexadecimal digits. -/
def readHexFixed (f : Flags) : Nat → Nat → List Char → Except Fault (Nat × List Char)
  | 0, acc, cs => .ok (acc, cs)
  | _ + 1, _, [] => .error .badHex
  | n + 1, acc, c :: cs =>
    match hexDigit? c with
    | some d => readHexFixed f n (acc * 16 + d) (f.skip cs)
    | none => .error .badHex

/-- The text up to a closing brace and the text behind the brace; what does not count is left
out. -/
def readBraced (f : Flags) : Nat → List Char → List Char → Except Fault (List Char × List Char)
  | 0, _, _ => .error .badEscape
  | fuel + 1, acc, cs =>
    match f.skip cs with
    | [] => .error .badEscape
    | '}' :: cs => .ok (acc.reverse, cs)
    | c :: cs => readBraced f fuel (c :: acc) cs

/-- A part of an expression that an escape or a plain character stands for. A literal knows
whether it was written as a byte. -/
inductive Atom where
  | literal (c : Char) (byte : Bool)
  | set (s : CharSet)
  | look (l : Look)

/-- The code behind `\x`, `\u` or `\U`: a fixed number of digits, or any number in braces. -/
def readHex (f : Flags) (digits : Nat) (cs : List Char) : Except Fault (Atom × List Char) :=
  match f.skip cs with
  | [] => .error .badHex
  | '{' :: cs => do
    let (ds, cs) ← readBraced f (cs.length + 1) [] cs
    let ns ← (ds.mapM hexDigit?).elim (.error .badHex) .ok
    if ns.isEmpty then .error .badHex
    else
      let c ← char? (ns.foldl (fun n d => min (n * 16 + d) 0x110000) 0)
      .ok (.literal c false, f.skip cs)
  | cs => do
    let (n, cs) ← readHexFixed f digits 0 cs
    let c ← char? n
    .ok (.literal c (digits == 2), cs)

/-! ### Escapes -/

/-- The parts of a name at the first `sep`. -/
def splitName (sep : List Char) : List Char → Option (List Char × List Char)
  | [] => none
  | c :: cs =>
    if sep.isPrefixOf (c :: cs) then some ([], (c :: cs).drop sep.length)
    else (splitName sep cs).map fun (a, b) => (c :: a, b)

/-- The class that is named in braces: by its own name, or with its property. -/
def namedClass (name : List Char) : Option (List (Nat × Nat)) :=
  match splitName ['!', '='] name <|> splitName [':'] name <|> splitName ['='] name with
  | some (property, value) => Unicode.classOf? (String.ofList property) (String.ofList value)
  | none => Unicode.class? (String.ofList name)

/-- The class behind `\p` or `\P`. -/
def readUnicodeClass (f : Flags) (negated : Bool) (cs : List Char) :
    Except Fault (Atom × List Char) := do
  let (name, cs) ←
    match f.skip cs with
    | [] => .error .badEscape
    | '{' :: cs => readBraced f (cs.length + 1) [] cs
    | '\\' :: _ => .error .unknownClass
    | c :: cs => .ok ([c], f.skip cs)
  if !f.unicode then .error .unicodeOff
  else
    match namedClass name with
    | none => .error .unknownClass
    | some rs => do
      let s ← f.close negated (.ranges rs)
      .ok (.set s, cs)

/-- The edge of a word, behind `\b`. Braces may name one side of it; other braces are left to be
read as a count. -/
def readWordEdge (f : Flags) (cs : List Char) : Except Fault (Atom × List Char) :=
  let ascii := !f.unicode
  let plain : Except Fault (Atom × List Char) := .ok (.look (.wordEdge ascii), cs)
  match cs with
  | '{' :: inner =>
    match f.skip inner with
    | [] => .error .badWordEdge
    | c :: _ =>
      if !(c.isAlpha || c = '-') then plain
      else do
        let (name, cs) ← readBraced f (inner.length + 1) [] inner
        match String.ofList name with
        | "start" => .ok (.look (.wordStart ascii), cs)
        | "end" => .ok (.look (.wordStop ascii), cs)
        | "start-half" => .ok (.look (.wordStartHalf ascii), cs)
        | "end-half" => .ok (.look (.wordStopHalf ascii), cs)
        | _ => .error .badWordEdge
  | _ => plain

/-- An escape, behind its backslash. -/
def readEscape (f : Flags) : List Char → Except Fault (Atom × List Char)
  | [] => .error .badEscape
  | c :: cs =>
    let ascii := !f.unicode
    let literal (n : Nat) : Except Fault (Atom × List Char) :=
      .ok (.literal (Char.ofNat n) false, cs)
    match c with
    | 'x' => readHex f 2 cs
    | 'u' => readHex f 4 cs
    | 'U' => readHex f 8 cs
    | 'p' => readUnicodeClass f false cs
    | 'P' => readUnicodeClass f true cs
    | 'd' => .ok (.set (f.perl 'd'), cs)
    | 's' => .ok (.set (f.perl 's'), cs)
    | 'w' => .ok (.set (f.perl 'w'), cs)
    | 'D' => (f.close true (f.perl 'd')).map (.set ·, cs)
    | 'S' => (f.close true (f.perl 's')).map (.set ·, cs)
    | 'W' => (f.close true (f.perl 'w')).map (.set ·, cs)
    | 'a' => literal 7
    | 'f' => literal 12
    | 't' => literal 9
    | 'n' => literal 10
    | 'r' => literal 13
    | 'v' => literal 11
    | 'A' => .ok (.look .start, cs)
    | 'z' => .ok (.look .stop, cs)
    | 'b' => readWordEdge f cs
    | 'B' => .ok (.look (.noWordEdge ascii), cs)
    | '<' => .ok (.look (.wordStart ascii), cs)
    | '>' => .ok (.look (.wordStop ascii), cs)
    | c => if isEscapable c then .ok (.literal c false, cs) else .error .badEscape

/-- The expression for an atom outside brackets. -/
def Flags.atom (f : Flags) : Atom → Except Fault Regex
  | .literal c byte => f.literal c byte
  | .set s => .ok (.chars s)
  | .look l => .ok (.look l)

end Switchyard.Regex
