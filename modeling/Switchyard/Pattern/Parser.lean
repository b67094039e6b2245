import Switchyard.Pattern.Segment

/-!
# Reading a route pattern

A pattern is cut at the slashes outside braces, and each token is read as a segment:

* `name`: a literal
* a name in braces, with an optional colon and constraint : a variable
* `*`, `*name`, or a name in braces before a star : a wildcard, which has to be the last segment

Empty tokens are left out, but a slash at the end makes a last, empty literal. All readers work on
lists of characters; of several faults the first one from the left is reported, and faults of a
single segment come before those of the whole pattern.

## Main results

* `joinTokens_of_tokensFrom?`: cutting a pattern into tokens loses nothing.
-/

namespace Switchyard.Pattern

/-- Why a text is no pattern. -/
inductive Fault where
  | wildcardNotLast (name : String)
  | duplicateParameter (name : String)
  | unbalancedBraces
  /-- a variable shares its segment with other text -/
  | partialSegment (segment : String)
  | emptyName
  | invalidRegex (name : String)
  deriving Repr, DecidableEq

/-- A text that is no pattern, and why. -/
structure Error where
  pattern : String
  fault : Fault
  deriving Repr, DecidableEq

/-- The report for a reader. What is wrong within a regular expression is not told. -/
def Error.message (e : Error) : String :=
  match e.fault with
  | .wildcardNotLast name =>
    "wildcard `" ++ name ++ "` must be the last segment in `" ++ e.pattern ++ "`"
  | .duplicateParameter name =>
    "parameter `" ++ name ++ "` declared twice in `" ++ e.pattern ++ "`"
  | .unbalancedBraces => "unbalanced braces in `" ++ e.pattern ++ "`"
  | .partialSegment segment =>
    "parameter must span a whole segment in `" ++ e.pattern ++ "`, found `" ++ segment ++ "`"
  | .emptyName => "empty parameter name in `" ++ e.pattern ++ "`"
  | .invalidRegex name =>
    "invalid constraint for `" ++ name ++ "` in `" ++ e.pattern ++ "`: <regex>"

/-! ### Tokens -/

/-- One more character at the start of the first token. -/
def prependChar (c : Char) : List (List Char) → List (List Char)
  | [] => [[c]]
  | t :: ts => (c :: t) :: ts

/-- The tokens of a text between the slashes outside braces, where `depth` braces are open at its
start; nothing if the braces are not balanced. -/
def tokensFrom? : Nat → List Char → Option (List (List Char))
  | depth, [] => if depth = 0 then some [[]] else none
  | depth, c :: cs =>
    if c = '{' then (tokensFrom? (depth + 1) cs).map (prependChar c)
    else if c = '}' then
      match depth with
      | 0 => none
      | depth + 1 => (tokensFrom? depth cs).map (prependChar c)
    else if c = '/' ∧ depth = 0 then (tokensFrom? 0 cs).map ([] :: ·)
    else (tokensFrom? depth cs).map (prependChar c)

/-- The tokens of a pattern. -/
def tokens? (cs : List Char) : Option (List (List Char)) :=
  tokensFrom? 0 cs

/-- The text inside a brace that closes, `depth` braces being open, and the text behind it. -/
def splitBrace? : Nat → List Char → Option (List Char × List Char)
  | _, [] => none
  | depth, c :: cs =>
    if c = '}' ∧ depth ≤ 1 then some ([], cs)
    else
      let depth := if c = '{' then depth + 1 else if c = '}' then depth - 1 else depth
      (splitBrace? depth cs).map fun (inner, rest) => (c :: inner, rest)

/-! ### Segments -/

/-- A character that a literal must not hold. -/
def isBrace (c : Char) : Bool :=
  c = '{' || c = '}'

/-- A variable in braces: `inner` stands inside them and `rest` behind. -/
def variableSegment (token inner rest : List Char) : Except Fault Segment :=
  if rest ≠ [] ∧ rest ≠ ['*'] then .error (.partialSegment (String.ofList token))
  else
    let (name, expression) :=
      match Text.splitFirst ':' inner with
      | some (name, expression) => (name, some (String.ofList expression))
      | none => (inner, none)
    if name = [] then .error .emptyName
    else
      let name := String.ofList name
      match expression with
      | none => .ok (if rest = [] then .parameter name else .wildcard name)
      | some expression =>
        if rest ≠ [] then .error (.partialSegment (String.ofList token))
        else
          match Constraint.ofText? expression with
          | some constraint => .ok (.regex name constraint)
          | none => .error (.invalidRegex name)

/-- The segment that a token writes. -/
def segmentOfToken (token : List Char) : Except Fault Segment :=
  match token with
  | ['*'] => .ok (.wildcard Segment.unnamed)
  | '*' :: name =>
    if name.any fun c => isBrace c || c = '*' then .error (.partialSegment (String.ofList token))
    else .ok (.wildcard (String.ofList name))
  | '{' :: cs =>
    match splitBrace? 1 cs with
    | some (inner, rest) => variableSegment token inner rest
    | none => .error (.partialSegment (String.ofList token))
  | _ =>
    if token.any isBrace then .error (.partialSegment (String.ofList token))
    else .ok (.literal (String.ofList token))

/-- The segments that tokens write, or the fault of the first token that has one. -/
def segmentsOfTokens : List (List Char) → Except Fault (List Segment)
  | [] => .ok []
  | t :: ts =>
    match segmentOfToken t with
    | .error e => .error e
    | .ok s => (segmentsOfTokens ts).map (s :: ·)

/-! ### The whole pattern -/

/-- The first fault of segments in their order, where the variables `seen` are declared before. -/
def faultAmong? (seen : List String) : List Segment → Option Fault
  | [] => none
  | .literal _ :: rest => faultAmong? seen rest
  | .wildcard name :: rest =>
    if rest ≠ [] then some (.wildcardNotLast name)
    else if seen.contains name then some (.duplicateParameter name)
    else none
  | .parameter name :: rest =>
    if seen.contains name then some (.duplicateParameter name)
    else faultAmong? (name :: seen) rest
  | .regex name _ :: rest =>
    if seen.contains name then some (.duplicateParameter name)
    else faultAmong? (name :: seen) rest

/-- The last, empty segment that a slash at the end makes. -/
def withTrailing (cs : List Char) (segments : List Segment) : List Segment :=
  if segments ≠ [] ∧ cs.getLast? = some '/' then segments ++ [.literal ""] else segments

/-- The segments of a pattern, or its first fault. -/
def readSegments (cs : List Char) : Except Fault (List Segment) :=
  match tokens? cs with
  | none => .error .unbalancedBraces
  | some tokens =>
    match segmentsOfTokens (tokens.filter (· ≠ [])) with
    | .error e => .error e
    | .ok segments =>
      match faultAmong? [] (withTrailing cs segments) with
      | some e => .error e
      | none => .ok (withTrailing cs segments)

/-- The pattern that a text writes. -/
def parse (text : String) : Except Error Pattern :=
  match readSegments text.toList with
  | .ok segments => .ok ⟨segments⟩
  | .error fault => .error ⟨text, fault⟩

/-! ### Lemmas -/

theorem joinPieces_prependChar (c : Char) {ts : List (List Char)} (h : ts ≠ []) :
    Text.joinPieces '/' (prependChar c ts) = c :: Text.joinPieces '/' ts := by
  match ts with
  | [] => exact absurd rfl h
  | [_] => rfl
  | _ :: _ :: _ => rfl

theorem prependChar_ne_nil (c : Char) (ts : List (List Char)) : prependChar c ts ≠ [] := by
  cases ts <;> simp [prependChar]

theorem tokensFrom?_ne_nil {depth : Nat} {cs : List Char} {ts : List (List Char)}
    (h : tokensFrom? depth cs = some ts) : ts ≠ [] := by
  cases cs with
  | nil => simp [tokensFrom?] at h; simp [← h.2]
  | cons c cs =>
    unfold tokensFrom? at h
    split at h
    · obtain ⟨u, -, rfl⟩ := Option.map_eq_some_iff.1 h; exact prependChar_ne_nil c u
    · split at h
      · split at h
        · cases h
        · obtain ⟨u, -, rfl⟩ := Option.map_eq_some_iff.1 h; exact prependChar_ne_nil c u
      · split at h
        · obtain ⟨u, -, rfl⟩ := Option.map_eq_some_iff.1 h; simp
        · obtain ⟨u, -, rfl⟩ := Option.map_eq_some_iff.1 h; exact prependChar_ne_nil c u

/-- The tokens with slashes between them are the text that was cut. -/
theorem joinTokens_of_tokensFrom? {depth : Nat} {cs : List Char} {ts : List (List Char)}
    (h : tokensFrom? depth cs = some ts) : Text.joinPieces '/' ts = cs := by
  induction cs generalizing depth ts with
  | nil => simp [tokensFrom?] at h; simp [← h.2, Text.joinPieces]
  | cons c cs ih =>
    have step {d : Nat} {u : List (List Char)} (hu : tokensFrom? d cs = some u) :
        Text.joinPieces '/' (prependChar c u) = c :: cs := by
      rw [joinPieces_prependChar c (tokensFrom?_ne_nil hu), ih hu]
    unfold tokensFrom? at h
    split at h
    · obtain ⟨u, hu, rfl⟩ := Option.map_eq_some_iff.1 h; exact step hu
    · split at h
      · split at h
        · cases h
        · obtain ⟨u, hu, rfl⟩ := Option.map_eq_some_iff.1 h; exact step hu
      · split at h
        · next hc =>
          obtain ⟨u, hu, rfl⟩ := Option.map_eq_some_iff.1 h
          cases u with
          | nil => exact absurd rfl (tokensFrom?_ne_nil hu)
          | cons t ts => simp [Text.joinPieces, ← ih hu, hc.1]
        · obtain ⟨u, hu, rfl⟩ := Option.map_eq_some_iff.1 h; exact step hu

end Switchyard.Pattern
