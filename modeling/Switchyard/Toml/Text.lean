import Switchyard.Number.Digit
import Switchyard.Text.Split

/-!
# Texts and keys in TOML

Readers for what stands between the values of a document: blanks, comments, texts and keys. Every
reader takes what it needs from the start of a text and answers it with the rest, or answers
nothing if the text is not well formed there.
-/

namespace Switchyard.Toml

open Number (hexDigit?)

/-! ### Blanks, comments and ends of lines -/

def isBlank (c : Char) : Bool := c = ' ' || c = '\t'

/-- A character that is neither a control character nor the end of a line. -/
def isPrintable (c : Char) : Bool :=
  c = '\t' || (0x20 ≤ c.toNat && c.toNat ≠ 0x7F)

def skipBlanks (cs : List Char) : List Char := cs.dropWhile isBlank

/-- What follows the end of a line. -/
def takeNewline? : List Char → Option (List Char)
  | '\n' :: cs => some cs
  | '\r' :: '\n' :: cs => some cs
  | _ => none

/-- What follows a line of which only blanks and a comment are left. -/
def endLine? (cs : List Char) : Option (List Char) :=
  let cs :=
    match skipBlanks cs with
    | '#' :: cs => cs.dropWhile isPrintable
    | cs => cs
  if cs.isEmpty then some [] else takeNewline? cs

/-- What follows blanks, comments and ends of lines. -/
def skipFiller : List Char → List Char
  | [] => []
  | '#' :: cs => skipComment cs
  | '\r' :: '\n' :: cs => skipFiller cs
  | c :: cs => if isBlank c || c = '\n' then skipFiller cs else c :: cs
where
  /-- What follows a comment and the filler behind it. -/
  skipComment : List Char → List Char
    | [] => []
    | '\n' :: cs => skipFiller cs
    | '\r' :: '\n' :: cs => skipFiller cs
    | c :: cs => if isPrintable c then skipComment cs else c :: cs

/-! ### Texts -/

/-- A character by its code point of `n` hexadecimal digits. -/
def takeCodePoint? (acc : Nat) : Nat → List Char → Option (Char × List Char)
  | 0, cs => if acc.isValidChar then some (Char.ofNat acc, cs) else none
  | _ + 1, [] => none
  | n + 1, c :: cs => (hexDigit? c).bind fun d => takeCodePoint? (acc * 16 + d) n cs

/-- The character that stands behind a backslash. -/
def takeEscape? : List Char → Option (Char × List Char)
  | [] => none
  | c :: cs =>
    if c = 'b' then some (Char.ofNat 8, cs)
    else if c = 't' then some ('\t', cs)
    else if c = 'n' then some ('\n', cs)
    else if c = 'f' then some (Char.ofNat 12, cs)
    else if c = 'r' then some ('\r', cs)
    else if c = '"' then some ('"', cs)
    else if c = '\\' then some ('\\', cs)
    else if c = 'u' then takeCodePoint? 0 4 cs
    else if c = 'U' then takeCodePoint? 0 8 cs
    else none

/-- A text on one line, after its opening quote. -/
def takeBasic? (acc : List Char) : Nat → List Char → Option (String × List Char)
  | 0, _ => none
  | _ + 1, [] => none
  | fuel + 1, c :: cs =>
    if c = '"' then some (String.ofList acc.reverse, cs)
    else if c = '\\' then (takeEscape? cs).bind fun (c, cs) => takeBasic? (c :: acc) fuel cs
    else if isPrintable c then takeBasic? (c :: acc) fuel cs
    else none

/-- A text on one line without escapes, after its opening quote. -/
def takeLiteral? (cs : List Char) : Option (String × List Char) :=
  let body := cs.takeWhile fun c => isPrintable c && c ≠ '\''
  match cs.dropWhile fun c => isPrintable c && c ≠ '\'' with
  | '\'' :: rest => some (String.ofList body, rest)
  | _ => none

/-- A run of quotes in a text of several lines: three of them close it, up to two more in front of
these belong to it. The quotes that belong to the text, whether it is closed, and the rest. -/
def takeQuotes (quote : Char) (cs : List Char) : List Char × Bool × List Char :=
  let n := min 5 (cs.takeWhile (· = quote)).length
  if n < 3 then (cs.take n, false, cs.drop n) else (cs.take (n - 3), true, cs.drop n)

/-- What follows the blanks and ends of lines behind a backslash at the end of a line. -/
def skipFold? (cs : List Char) : Option (List Char) :=
  (takeNewline? (skipBlanks cs)).map go
where
  go : List Char → List Char
    | '\r' :: '\n' :: cs => go cs
    | c :: cs => if isBlank c || c = '\n' then go cs else c :: cs
    | [] => []

/-- A text of several lines, after its opening quotes; `escapes` tells whether a backslash has a
meaning in it. -/
def takeLong? (quote : Char) (escapes : Bool) (acc : List Char) :
    Nat → List Char → Option (String × List Char)
  | 0, _ => none
  | _ + 1, [] => none
  | fuel + 1, c :: cs =>
    if c = quote then
      match takeQuotes quote (c :: cs) with
      | (own, true, rest) => some (String.ofList (own.reverse ++ acc).reverse, rest)
      | (own, false, rest) => takeLong? quote escapes (own.reverse ++ acc) fuel rest
    else if c = '\\' && escapes then
      match skipFold? cs with
      | some rest => takeLong? quote escapes acc fuel rest
      | none =>
        (takeEscape? cs).bind fun (c, cs) => takeLong? quote escapes (c :: acc) fuel cs
    else if isPrintable c then takeLong? quote escapes (c :: acc) fuel cs
    else
      (takeNewline? (c :: cs)).bind fun cs => takeLong? quote escapes ('\n' :: acc) fuel cs

/-- The text without an end of line at its start. -/
def dropNewline (cs : List Char) : List Char :=
  (takeNewline? cs).getD cs

/-- A text of any kind. -/
def takeText? (cs : List Char) : Option (String × List Char) :=
  match cs with
  | '"' :: '"' :: '"' :: cs => takeLong? '"' true [] (cs.length + 1) (dropNewline cs)
  | '\'' :: '\'' :: '\'' :: cs => takeLong? '\'' false [] (cs.length + 1) (dropNewline cs)
  | '"' :: cs => takeBasic? [] (cs.length + 1) cs
  | '\'' :: cs => takeLiteral? cs
  | _ => none

/-! ### Keys -/

def isKeyChar (c : Char) : Bool := c.isAlphanum || c = '_' || c = '-'

/-- One part of a key: bare, or a text on one line. -/
def takeKeyPart? (cs : List Char) : Option (String × List Char) :=
  match cs with
  | '"' :: cs => takeBasic? [] (cs.length + 1) cs
  | '\'' :: cs => takeLiteral? cs
  | cs =>
    let bare := cs.takeWhile isKeyChar
    if bare.isEmpty then none else some (String.ofList bare, cs.dropWhile isKeyChar)

/-- A key: parts with points between them, and blanks around all of them. -/
def takeKey? : Nat → List Char → Option (List String × List Char)
  | 0, _ => none
  | fuel + 1, cs =>
    match takeKeyPart? (skipBlanks cs) with
    | none => none
    | some (part, rest) =>
      match skipBlanks rest with
      | '.' :: rest => (takeKey? fuel rest).map fun (parts, rest) => (part :: parts, rest)
      | rest => some ([part], rest)

end Switchyard.Toml
