import Switchyard.Json.Value

/-!
# Writing JSON

Two layouts: compact, and pretty with two blanks for each level. Text beyond ASCII stays as it
is; control characters are escaped.
-/

namespace Switchyard.Json

open Number (Binary64 hexDigit)

/-- A character inside a quoted text. -/
def escape (c : Char) : List Char :=
  if c = '"' then ['\\', '"']
  else if c = '\\' then ['\\', '\\']
  else if c.toNat = 8 then ['\\', 'b']
  else if c.toNat = 12 then ['\\', 'f']
  else if c = '\n' then ['\\', 'n']
  else if c = '\r' then ['\\', 'r']
  else if c = '\t' then ['\\', 't']
  else if c.toNat < 32 then
    ['\\', 'u', '0', '0', hexDigit (c.toNat / 16), hexDigit (c.toNat % 16)]
  else [c]

/-- The text in quotes. -/
def quote (s : String) : String :=
  String.ofList ('"' :: s.toList.flatMap escape ++ ['"'])

/-- A floating-point number: positional from `1e-5` up to below `1e16`, a whole number with `.0`,
otherwise one digit before the point and an exponent with its sign. Of two equally near decimals
the one with an even last digit is written. -/
def writeReal : Binary64 → String
  | .finite s m e =>
    let sign := if s then "-" else ""
    if m = 0 then sign ++ "0.0"
    else
      let (n, k) := Binary64.shortest .toEven m e
      let ds := (toString n).toList
      let top := (ds.length : Int) + k - 1
      if -5 ≤ top && top ≤ 15 then
        let text := Binary64.positionalDigits n k
        sign ++ (if 0 ≤ k then text ++ ".0" else text)
      else
        let mantissa :=
          match ds with
          | [] => []
          | [d] => [d]
          | d :: rest => d :: '.' :: rest
        sign ++ String.ofList mantissa ++ (if top < 0 then "e-" else "e+") ++ toString top.natAbs
  | _ => "null"

/-- The texts with `sep` between neighbours. -/
def separated (sep : String) : List String → String
  | [] => ""
  | s :: ss => ss.foldl (fun acc t => acc ++ sep ++ t) s

mutual

/-- The compact layout. -/
def compact : Json → String
  | .null => "null"
  | .bool b => if b then "true" else "false"
  | .int n => toString n
  | .real x => writeReal x
  | .str s => quote s
  | .arr items => "[" ++ separated "," (compactItems items) ++ "]"
  | .obj fields => "\x7b" ++ separated "," (compactFields fields) ++ "\x7d"

def compactItems : List Json → List String
  | [] => []
  | j :: js => compact j :: compactItems js

def compactFields : List (String × Json) → List String
  | [] => []
  | (n, j) :: fields => (quote n ++ ":" ++ compact j) :: compactFields fields

end

/-- A new line, indented for a level. -/
def newline (level : Nat) : String :=
  String.ofList ('\n' :: List.replicate (2 * level) ' ')

/-- Lines between brackets, or the bare brackets if there are none. -/
def bracketed (opening closing : String) (level : Nat) (lines : List String) : String :=
  if lines.isEmpty then opening ++ closing
  else
    opening ++ newline (level + 1) ++ separated ("," ++ newline (level + 1)) lines
      ++ newline level ++ closing

mutual

/-- The pretty layout of a value that stands at a level. -/
def prettyAt (level : Nat) : Json → String
  | .null => "null"
  | .bool b => if b then "true" else "false"
  | .int n => toString n
  | .real x => writeReal x
  | .str s => quote s
  | .arr items => bracketed "[" "]" level (prettyItems (level + 1) items)
  | .obj fields => bracketed "\x7b" "\x7d" level (prettyFields (level + 1) fields)

def prettyItems (level : Nat) : List Json → List String
  | [] => []
  | j :: js => prettyAt level j :: prettyItems level js

def prettyFields (level : Nat) : List (String × Json) → List String
  | [] => []
  | (n, j) :: fields => (quote n ++ ": " ++ prettyAt level j) :: prettyFields level fields

end

/-- The pretty layout. -/
def pretty (j : Json) : String :=
  prettyAt 0 j

end Switchyard.Json
