import Switchyard.Regex.Escape

/-!
# Bracketed classes

A class in brackets joins characters, ranges, escapes and inner classes. The operators `&&`, `--`
and `~~` between them apply from left to right, and a caret at the start negates the whole.
-/

namespace Switchyard.Regex

/-- The ASCII classes by their names. -/
def asciiClass? (name : String) : Option CharSet :=
  match name with
  | "alnum" => some (.ranges [(0x30, 0x39), (0x41, 0x5A), (0x61, 0x7A)])
  | "alpha" => some (.ranges [(0x41, 0x5A), (0x61, 0x7A)])
  | "ascii" => some (.ranges [(0, 0x7F)])
  | "blank" => some (.ranges [(9, 9), (32, 32)])
  | "cntrl" => some (.ranges [(0, 31), (127, 127)])
  | "digit" => some (.ranges [(0x30, 0x39)])
  | "graph" => some (.ranges [(33, 126)])
  | "lower" => some (.ranges [(0x61, 0x7A)])
  | "print" => some (.ranges [(32, 126)])
  | "punct" => some (.ranges [(33, 47), (58, 64), (91, 96), (123, 126)])
  | "space" => some (.ranges [(9, 13), (32, 32)])
  | "upper" => some (.ranges [(0x41, 0x5A)])
  | "word" => some (.ranges [(0x30, 0x39), (0x41, 0x5A), (0x5F, 0x5F), (0x61, 0x7A)])
  | "xdigit" => some (.ranges [(0x30, 0x39), (0x41, 0x46), (0x61, 0x66)])
  | _ => none

/-- An ASCII class such as `[:alpha:]`, behind its opening bracket: whether it is negated, its
set, and the text behind it. -/
def asciiClassAt? : List Char → Option (Bool × CharSet × List Char)
  | ':' :: cs =>
    let (negated, cs) :=
      match cs with
      | '^' :: cs => (true, cs)
      | cs => (false, cs)
    match cs.dropWhile (· ≠ ':') with
    | ':' :: ']' :: rest =>
      (asciiClass? (String.ofList (cs.takeWhile (· ≠ ':')))).map (negated, ·, rest)
    | _ => none
  | _ => none

/-- The operators on sets. -/
inductive SetOp where
  | inter
  | diff
  | symmDiff

def SetOp.apply : SetOp → CharSet → CharSet → CharSet
  | .inter, a, b => .inter a b
  | .diff, a, b => .diff a b
  | .symmDiff, a, b => .symmDiff a b

/-- A class that is open: what is joined so far, the operator with its left operand if one was
read, whether the class is negated, and how deep its parts nest. -/
structure ClassFrame where
  items : CharSet := .empty
  pending : Option (SetOp × CharSet) := none
  negated : Bool
  depth : Nat := 0

/-- One more member of the class. -/
def ClassFrame.add (fr : ClassFrame) (s : CharSet) : ClassFrame :=
  { fr with items := .union fr.items s }

/-- The value of an open class so far: the operators apply from left to right. -/
def ClassFrame.value (f : Flags) (fr : ClassFrame) : CharSet :=
  match fr.pending with
  | none => fr.items
  | some (op, left) => op.apply (f.fold left) (f.fold fr.items)

/-- The class behind an opening bracket: a caret negates it, and hyphens or a bracket at its
start stand for themselves. -/
def openClass (f : Flags) (cs : List Char) : Except Fault (ClassFrame × List Char) :=
  let hyphens : Nat → ClassFrame → List Char → ClassFrame × Bool × List Char :=
    fun fuel fr cs => go fuel fr false cs
  match f.skip cs with
  | [] => .error .unclosedClass
  | c :: cs' =>
    let negated := c = '^'
    let cs := if negated then f.skip cs' else c :: cs'
    let (fr, anyHyphen, cs) := hyphens (cs.length + 1) { negated := negated } cs
    match cs with
    | [] => .error .unclosedClass
    | ']' :: cs =>
      if anyHyphen then .ok (fr, ']' :: cs)
      else
        match f.skip cs with
        | [] => .error .unclosedClass
        | cs => .ok (fr.add (.single ']'), cs)
    | cs => .ok (fr, cs)
where
  go : Nat → ClassFrame → Bool → List Char → ClassFrame × Bool × List Char
    | 0, fr, any, cs => (fr, any, cs)
    | fuel + 1, fr, any, cs =>
      match cs with
      | '-' :: cs => go fuel (fr.add (.single '-')) true (f.skip cs)
      | cs => (fr, any, cs)

/-- An item of a class: a literal or the set of an escape. -/
def readClassItem (f : Flags) : List Char → Except Fault (Atom × List Char)
  | [] => .error .unclosedClass
  | '\\' :: cs => readEscape f cs
  | c :: cs => .ok (.literal c false, cs)

/-- The code of a literal that ends a range. -/
def rangeEnd (f : Flags) : Atom → Except Fault Nat
  | .literal c byte =>
    if !f.unicode && 128 ≤ c.toNat then .error (if byte then .notUtf8 else .unicodeOff)
    else .ok c.toNat
  | _ => .error .badRange

/-- An item, or a range between two literals. -/
def readClassRange (f : Flags) (cs : List Char) : Except Fault (CharSet × List Char) := do
  let (first, cs) ← readClassItem f cs
  let single : Except Fault (CharSet × List Char) :=
    match first with
    | .look _ => .error .badEscape
    | .set s => .ok (s, f.skip cs)
    | a => (rangeEnd f a).map fun n => (.ranges [(n, n)], f.skip cs)
  match f.skip cs with
  | [] => .error .unclosedClass
  | '-' :: cs =>
    match f.peek ('-' :: cs) with
    | some ']' => single
    | some '-' => single
    | _ => do
      match f.skip cs with
      | [] => .error .unclosedClass
      | cs =>
        let (last, cs) ← readClassItem f cs
        let lo ← rangeEnd f first
        let hi ← rangeEnd f last
        if lo ≤ hi then .ok (.ranges [(lo, hi)], cs) else .error .badRange
  | _ => single

/-- A class up to its closing bracket: its set and how deep its parts nest. `frames` are the
classes that are open around the current one. -/
def readClass (f : Flags) : Nat → ClassFrame → List ClassFrame → List Char →
    Except Fault (CharSet × Nat × List Char)
  | 0, _, _, _ => .error .unclosedClass
  | fuel + 1, fr, frames, cs =>
    let operator (op : SetOp) (cs : List Char) : Except Fault (CharSet × Nat × List Char) :=
      readClass f fuel
        { fr with
          items := .empty, pending := some (op, fr.value f), depth := fr.depth + 1 }
        frames cs
    match f.skip cs with
    | [] => .error .unclosedClass
    | '[' :: cs =>
      match asciiClassAt? cs with
      | some (negated, s, cs) => do
        let s ← f.close negated s
        readClass f fuel (fr.add s) frames cs
      | none => do
        let (inner, cs) ← openClass f cs
        readClass f fuel inner (fr :: frames) cs
    | ']' :: cs => do
      let s ← f.close fr.negated (fr.value f)
      match frames with
      | [] => .ok (s, fr.depth + 1, cs)
      | outer :: frames =>
        readClass f fuel { outer.add s with depth := max outer.depth (fr.depth + 1) } frames cs
    | '&' :: '&' :: cs => operator .inter cs
    | '-' :: '-' :: cs => operator .diff cs
    | '~' :: '~' :: cs => operator .symmDiff cs
    | cs => do
      let (s, cs) ← readClassRange f cs
      readClass f fuel (fr.add s) frames cs

end Switchyard.Regex
