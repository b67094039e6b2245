import Switchyard.Regex.Bracket
import Switchyard.Text.Blank

/-!
# Reading regular expressions

An expression is read from left to right with a stack of the groups that are open. Flags hold up
to the end of their group and decide at once what the characters behind them mean; with the flag
`x`, blanks and comments between the parts do not count.

## Main results

* `Regex.parse`: the expression that a text writes.
-/

namespace Switchyard.Regex

open Text (isBlank)

/-- A part of an expression that was read. `depth` is the number of levels that nest in it, and
`repeatable` says whether a repetition may follow. -/
structure Piece where
  expr : Regex
  depth : Nat := 0
  repeatable : Bool := true

/-- What surrounds an open group: the parts before it, the branches before those, and the flags
that hold again behind the group. -/
structure Frame where
  pieces : List Piece
  branches : List Piece
  flags : Flags

/-- The state of the reader. Lists hold the last part first. -/
structure State where
  rest : List Char
  flags : Flags := {}
  names : List String := []
  frames : List Frame := []
  pieces : List Piece := []
  branches : List Piece := []

/-- Levels may nest this deep. -/
def depthLimit : Nat := 250

/-- The greatest weight of an expression. Since weights only approximate the sizes of compiled
expressions, the two disagree near the limit: `.{1,90000}` is within it, and compiles to more. -/
def weightLimit : Nat := 10485760

/-! ### Groups -/

/-- The pieces of a branch as one piece. -/
def branch : List Piece → Piece
  | [] => { expr := .empty }
  | [p] => p
  | ps =>
    { expr := seqAll (ps.reverse.map (·.expr))
      depth := 1 + (ps.map (·.depth)).foldl max 0 }

/-- The branches that were read as one piece. -/
def State.content (st : State) : Piece :=
  match st.branches with
  | [] => branch st.pieces
  | bs =>
    let all := branch st.pieces :: bs
    { expr := altAll (all.reverse.map (·.expr))
      depth := 1 + (all.map (·.depth)).foldl max 0 }

/-- One more part of the current branch. -/
def State.add (st : State) (p : Piece) (rest : List Char) : State :=
  { st with pieces := p :: st.pieces, rest := rest }

/-- May the character start a group's name, or stand in it? -/
def isNameChar (first : Bool) (c : Char) : Bool :=
  c = '_' || Unicode.inRanges Unicode.alphabetic c.toNat
    || (!first
      && (c = '.' || c = '[' || c = ']' || Unicode.inRanges Unicode.numeric c.toNat))

/-- The name of a group up to its closing angle bracket. -/
def readName (names : List String) (cs : List Char) : Except Fault (String × List Char) :=
  match cs.dropWhile (· ≠ '>') with
  | [] => .error .badGroupName
  | _ :: rest =>
    match cs.takeWhile (· ≠ '>') with
    | [] => .error .badGroupName
    | c :: name =>
      if isNameChar true c && name.all (isNameChar false) then
        let s := String.ofList (c :: name)
        if names.contains s then .error .duplicateGroupName else .ok (s, rest)
      else .error .badGroupName

/-- The flags with one of them set or cleared. -/
def Flags.set? (f : Flags) (c : Char) (on : Bool) : Option Flags :=
  match c with
  | 'i' => some { f with caseless := on }
  | 'm' => some { f with multiLine := on }
  | 's' => some { f with dotAll := on }
  | 'U' => some f
  | 'u' => some { f with unicode := on }
  | 'R' => some { f with crlf := on }
  | 'x' => some { f with extended := on }
  | _ => none

/-- The flags of a group up to a colon or its closing parenthesis, which is returned. `seen` holds
the characters read, the last one first. -/
def readFlags (f : Flags) (seen : List Char) : List Char → Except Fault (Flags × Bool × List Char)
  | [] => .error .badFlag
  | c :: cs =>
    if c = ':' then
      if seen.head? = some '-' then .error .badFlag else .ok (f, true, cs)
    else if c = ')' then
      if seen.head? = some '-' then .error .badFlag
      else if seen.isEmpty then .error .nothingToRepeat
      else .ok (f, false, cs)
    else if seen.contains c then .error .badFlag
    else if c = '-' then readFlags f (c :: seen) cs
    else
      match f.set? c (!seen.contains '-') with
      | some f => readFlags f (c :: seen) cs
      | none => .error .badFlag

/-- A group is opened, behind its parenthesis. -/
def State.openGroup (st : State) (cs : List Char) : Except Fault State :=
  let enter (flags : Flags) (names : List String) (cs : List Char) : State :=
    { rest := cs, flags := flags, names := names, pieces := [], branches := []
      frames := ⟨st.pieces, st.branches, st.flags⟩ :: st.frames }
  match st.flags.skip cs with
  | '?' :: '=' :: _ => .error .lookAround
  | '?' :: '!' :: _ => .error .lookAround
  | '?' :: '<' :: '=' :: _ => .error .lookAround
  | '?' :: '<' :: '!' :: _ => .error .lookAround
  | '?' :: 'P' :: '<' :: cs => do
    let (name, cs) ← readName st.names cs
    .ok (enter st.flags (name :: st.names) cs)
  | '?' :: '<' :: cs => do
    let (name, cs) ← readName st.names cs
    .ok (enter st.flags (name :: st.names) cs)
  | '?' :: cs => do
    let (flags, opens, cs) ← readFlags st.flags [] cs
    if opens then .ok (enter flags st.names cs)
    else .ok { st.add { expr := .empty, repeatable := false } cs with flags := flags }
  | cs => .ok (enter st.flags st.names cs)

/-- The innermost group is closed. -/
def State.closeGroup (st : State) (cs : List Char) : Except Fault State :=
  match st.frames with
  | [] => .error .unopenedGroup
  | fr :: frames =>
    let inner := st.content
    .ok
      { st with
        rest := cs, flags := fr.flags, frames := frames, branches := fr.branches
        pieces := { expr := inner.expr, depth := inner.depth + 1 } :: fr.pieces }

/-! ### Repetitions -/

/-- The last part is repeated; a question mark right behind only changes the order of the
search. -/
def State.repeatLast (st : State) (least : Nat) (most : Option Nat) (cs : List Char) :
    Except Fault State :=
  match st.pieces with
  | [] => .error .nothingToRepeat
  | p :: ps =>
    if p.repeatable then
      let cs :=
        match cs with
        | '?' :: cs => cs
        | cs => cs
      let piece : Piece := { expr := .rep p.expr least most, depth := p.depth + 1 }
      .ok { st with rest := cs, pieces := piece :: ps }
    else .error .nothingToRepeat

/-- Counts stay below this. -/
def countLimit : Nat := 0x100000000

/-- The decimal digits of a count with blanks around them: the number, if there are digits. -/
def readCount (f : Flags) (cs : List Char) : Except Fault (Option Nat × List Char) :=
  digits (cs.length + 1) none (cs.dropWhile isBlank)
where
  digits : Nat → Option Nat → List Char → Except Fault (Option Nat × List Char)
    | 0, acc, cs => .ok (acc, cs)
    | fuel + 1, acc, cs =>
      match cs with
      | [] => .ok (acc, [])
      | c :: rest =>
        if c.isDigit then
          let n := acc.getD 0 * 10 + (c.toNat - '0'.toNat)
          if n < countLimit then digits fuel (some n) (f.skip rest) else .error .badCount
        else .ok (acc, f.skip ((c :: rest).dropWhile isBlank))

/-- A count in braces, behind the opening one. -/
def State.readCounted (st : State) (cs : List Char) : Except Fault State := do
  if st.pieces.head?.any (·.repeatable) then
    let f := st.flags
    let (least, cs) ← readCount f (f.skip cs)
    match cs with
    | ',' :: cs =>
      match f.skip cs with
      | '}' :: cs =>
        match least with
        | some n => st.repeatLast n none (f.skip cs)
        | none => .error .badCount
      | cs =>
        let (most, cs) ← readCount f cs
        match least, most, cs with
        | some n, some m, '}' :: cs =>
          if n ≤ m then st.repeatLast n (some m) (f.skip cs) else .error .badCount
        | _, _, _ => .error .badCount
    | '}' :: cs =>
      match least with
      | some n => st.repeatLast n (some n) (f.skip cs)
      | none => .error .badCount
    | _ => .error .badCount
  else .error .nothingToRepeat

/-! ### The whole text -/

/-- One step of the reader; `c` comes next and `cs` behind it. -/
def State.step (st : State) (c : Char) (cs : List Char) : Except Fault State :=
  let f := st.flags
  let plain (e : Regex) : State := st.add { expr := e } cs
  match c with
  | '(' => st.openGroup cs
  | ')' => st.closeGroup cs
  | '|' => .ok { st with rest := cs, branches := branch st.pieces :: st.branches, pieces := [] }
  | '[' => do
    let (fr, cs) ← openClass f cs
    let (s, depth, cs) ← readClass f (cs.length + 1) fr [] cs
    .ok (st.add { expr := .chars s, depth := depth } cs)
  | '?' => st.repeatLast 0 (some 1) cs
  | '*' => st.repeatLast 0 none cs
  | '+' => st.repeatLast 1 none cs
  | '{' => st.readCounted cs
  | '\\' => do
    let (a, cs) ← readEscape f cs
    let e ← f.atom a
    .ok (st.add { expr := e } cs)
  | '.' => f.dot.map plain
  | '^' => .ok (plain (.look f.caret))
  | '$' => .ok (plain (.look f.dollar))
  | c => (f.literal c false).map plain

/-- The reader runs to the end of the text. Every step takes a character at least. -/
def run : Nat → State → Except Fault State
  | 0, st => .ok st
  | fuel + 1, st =>
    match st.flags.skip st.rest with
    | [] => .ok { st with rest := [] }
    | c :: cs =>
      match st.step c cs with
      | .ok st => run fuel st
      | .error e => .error e

/-- The expression that a text writes. -/
def parse (text : String) : Except Fault Regex := do
  let cs := text.toList
  let st ← run (cs.length + 1) { rest := cs }
  match st.frames with
  | [] =>
    let whole := st.content
    if whole.depth > depthLimit then .error .tooDeep
    else if whole.expr.weight > weightLimit then .error .tooBig
    else .ok whole.expr
  | _ => .error .unclosedGroup

end Switchyard.Regex
