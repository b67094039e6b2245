import Switchyard.Toml.Document
import Switchyard.Toml.Number
import Switchyard.Toml.Text

/-!
# Reading TOML

A reader for version 1.0 of the format: values, and the lines of a document, which are put into
their section as they are read.
-/

namespace Switchyard.Toml

/-- The nesting of values, and the number of keys in a dotted key, stay below this. -/
def depthLimit : Nat := 80

/-! ### Values -/

/-- A value that holds no other values. -/
def takeAtom? (cs : List Char) : Option (Toml × List Char) :=
  match cs with
  | [] => none
  | c :: _ =>
    if c = '"' || c = '\'' then (takeText? cs).map fun (s, rest) => (.text s, rest)
    else if c = 't' then (Text.dropStem? "true".toList cs).map fun rest => (.bool true, rest)
    else if c = 'f' then (Text.dropStem? "false".toList cs).map fun rest => (.bool false, rest)
    else
      match takeMoment? cs with
      | some r => some r
      | none => takeNumber? cs

mutual

/-- A value within which `depth` more levels are allowed. -/
def takeValue? (depth : Nat) (cs : List Char) : Nat → Option (Toml × List Char)
  | 0 => none
  | fuel + 1 =>
    match cs with
    | '[' :: cs =>
      if depth = 0 then none else takeItems? (depth - 1) [] (skipFiller cs) fuel
    | '{' :: cs =>
      if depth = 0 then none
      else
        match skipBlanks cs with
        | '}' :: rest => some (.table [], rest)
        | cs => takePairs? (depth - 1) [] cs fuel
    | cs => takeAtom? cs
termination_by structural fuel => fuel

/-- The items of an array up to its closing bracket. -/
def takeItems? (depth : Nat) (acc : List Toml) (cs : List Char) : Nat → Option (Toml × List Char)
  | 0 => none
  | fuel + 1 =>
    match cs with
    | ']' :: rest => some (.array acc.reverse, rest)
    | cs =>
      match takeValue? depth cs fuel with
      | none => none
      | some (v, rest) =>
        match skipFiller rest with
        | ',' :: rest => takeItems? depth (v :: acc) (skipFiller rest) fuel
        | ']' :: rest => some (.array (v :: acc).reverse, rest)
        | _ => none
termination_by structural fuel => fuel

/-- The keys and values of a table that is written as a value, up to its closing brace. -/
def takePairs? (depth : Nat) (acc : List (List String × Toml)) (cs : List Char) :
    Nat → Option (Toml × List Char)
  | 0 => none
  | fuel + 1 =>
    match takeKey? (depthLimit - 1) cs with
    | some (path, '=' :: rest) =>
      match takeValue? depth (skipBlanks rest) fuel with
      | none => none
      | some (v, rest) =>
        match skipBlanks rest with
        | ',' :: rest => takePairs? depth ((path, v) :: acc) rest fuel
        | '}' :: rest => (inlineTable? ((path, v) :: acc).reverse).map fun t => (t, rest)
        | _ => none
    | _ => none
termination_by structural fuel => fuel

end

/-! ### Documents -/

/-- What has been read of a document: all of it, and the path of the last header. -/
structure Progress where
  root : Section := .new false false
  current : List String := []

/-- A header after its opening brackets. -/
def takeHeader? (closing : List Char) (cs : List Char) : Option (List String × List Char) :=
  (takeKey? (depthLimit - 1) cs).bind fun (path, rest) =>
    (Text.dropStem? closing rest).bind fun rest => (endLine? rest).map fun rest => (path, rest)

/-- A key with its value. -/
def takePair (p : Progress) (cs : List Char) : Option (Progress × List Char) :=
  match takeKey? (depthLimit - 1) cs with
  | some (path, '=' :: rest) =>
    (takeValue? (depthLimit - 1) (skipBlanks rest) (rest.length + 1)).bind fun (v, rest) =>
      (endLine? rest).bind fun rest =>
        (p.root.assignUnder p.current path v).map fun root => ({ p with root }, rest)
  | _ => none

/-- One line, or several if a value goes on over them. -/
def takeExpression? (p : Progress) (cs : List Char) : Option (Progress × List Char) :=
  match skipBlanks cs with
  | '[' :: '[' :: cs =>
    (takeHeader? [']', ']'] cs).bind fun (path, rest) =>
      (p.root.arrayHeader path).map fun root => (⟨root, path⟩, rest)
  | '[' :: cs =>
    (takeHeader? [']'] cs).bind fun (path, rest) =>
      (p.root.header path).map fun root => (⟨root, path⟩, rest)
  | cs =>
    match endLine? cs with
    | some rest => some (p, rest)
    | none => takePair p cs

/-- All lines of a document. -/
def takeLines? (p : Progress) : Nat → List Char → Option Progress
  | 0, _ => none
  | _ + 1, [] => some p
  | fuel + 1, cs => (takeExpression? p cs).bind fun (p, rest) => takeLines? p fuel rest

/-- The document that a text writes; a mark of the byte order at its start is skipped. -/
def read? (text : String) : Option Toml :=
  let cs :=
    match text.toList with
    | c :: cs => if c.toNat = 0xFEFF then cs else c :: cs
    | [] => []
  (takeLines? {} (cs.length + 1) cs).map fun p => p.root.toToml

end Switchyard.Toml
