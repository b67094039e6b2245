import Switchyard.Association
import Switchyard.Toml.Value

/-!
# Building a TOML document

A document is built section by section. A table is written only once: by its header, or by dotted
keys, or as a value. A table that a longer path has called for may still get its own header, and
one that dotted keys made may get more dotted keys, but no header.
-/

namespace Switchyard.Toml

mutual

/-- A table under construction. `implied` tells that a longer path has called for it, `dotted`
that this path was a dotted key. -/
inductive Section where
  | mk (implied dotted : Bool) (entries : List (String × Entry))

/-- What stands at a key. -/
inductive Entry where
  | value (v : Toml)
  | single (s : Section)
  /-- an array of tables, of which the last one is being written -/
  | several (before : List Section) (last : Section)

end

namespace Section

def implied : Section → Bool
  | mk i _ _ => i

def dotted : Section → Bool
  | mk _ d _ => d

def entries : Section → List (String × Entry)
  | mk _ _ es => es

/-- The table that nothing is written in. -/
def new (implied dotted : Bool) : Section := mk implied dotted []

def entryAt? (s : Section) (key : String) : Option Entry :=
  s.entries.lookup key

/-- The table with an entry in the place of its key, or behind all others. -/
def withEntry (s : Section) (key : String) (e : Entry) : Section :=
  mk s.implied s.dotted (Association.put key e s.entries)

/-- A change of the table at a path, where `dotted` tells that the path is part of a dotted key.
Tables that are missing on the way are called for; of an array of tables the last one counts. -/
def change (dotted : Bool) (f : Section → Option Section) : List String → Section → Option Section
  | [], s => f s
  | key :: path, s =>
    match s.entryAt? key with
    | none =>
      (change dotted f path (new true dotted)).map fun t => s.withEntry key (.single t)
    | some (.value _) => none
    | some (.several before last) =>
      (change dotted f path last).map fun t => s.withEntry key (.several before t)
    | some (.single t) =>
      if dotted && !t.implied then none
      else (change dotted f path t).map fun t => s.withEntry key (.single t)

/-- A value at a key that follows a dotted path. A table of which the path is empty takes it only
if no dotted key has made the table, any other one only if a dotted key has. -/
def putValue (pathIsEmpty : Bool) (key : String) (v : Toml) (s : Section) : Option Section :=
  if s.dotted == pathIsEmpty then none
  else
    match s.entryAt? key with
    | some _ => none
    | none => some (s.withEntry key (.value v))

/-- The table of a header, at the last key of its path. -/
def openTable (key : String) (s : Section) : Option Section :=
  match s.entryAt? key with
  | none => some (s.withEntry key (.single (new false false)))
  | some (.single t) =>
    if t.implied && !t.dotted then some (s.withEntry key (.single (mk false false t.entries)))
    else none
  | some _ => none

/-- One more table of an array, at the last key of the path of its header. -/
def openArrayTable (key : String) (s : Section) : Option Section :=
  match s.entryAt? key with
  | none => some (s.withEntry key (.several [] (new false false)))
  | some (.several before last) =>
    some (s.withEntry key (.several (before ++ [last]) (new false false)))
  | some _ => none

/-- A path cut before its last key. -/
def splitLast : List String → Option (List String × String)
  | [] => none
  | [key] => some ([], key)
  | k :: path => (splitLast path).map fun (front, key) => (k :: front, key)

/-- The header of a table. -/
def header (path : List String) (s : Section) : Option Section :=
  (splitLast path).bind fun (front, key) => s.change false (openTable key) front

/-- The header of a table in an array. -/
def arrayHeader (path : List String) (s : Section) : Option Section :=
  (splitLast path).bind fun (front, key) => s.change false (openArrayTable key) front

/-- A value at a dotted key. -/
def assign (path : List String) (v : Toml) (s : Section) : Option Section :=
  (splitLast path).bind fun (front, key) => s.change true (putValue front.isEmpty key v) front

/-- A value at a dotted key within the table of the last header. -/
def assignUnder (current path : List String) (v : Toml) (s : Section) : Option Section :=
  s.change false (assign path v) current

end Section

mutual

/-- The table as a value. -/
def Section.toToml : Section → Toml
  | .mk _ _ entries => .table (Section.fieldsOf entries)

def Section.fieldsOf : List (String × Entry) → List (String × Toml)
  | [] => []
  | (k, e) :: rest => (k, Entry.toToml e) :: Section.fieldsOf rest

def Entry.toToml : Entry → Toml
  | .value v => v
  | .single s => Section.toToml s
  | .several before last => .array (Section.arrayOf before ++ [Section.toToml last])

def Section.arrayOf : List Section → List Toml
  | [] => []
  | s :: rest => Section.toToml s :: Section.arrayOf rest

end

/-- A table that is written as a value, of its keys and values. -/
def inlineTable? (pairs : List (List String × Toml)) : Option Toml :=
  (pairs.foldlM (fun s (path, v) => Section.assign path v s) (Section.new false false)).map
    Section.toToml

end Switchyard.Toml
