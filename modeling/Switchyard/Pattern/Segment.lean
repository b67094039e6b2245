import Switchyard.Pattern.Constraint
import Switchyard.Text.Split

/-!
# Segments of a route pattern

A route pattern is a list of segments. A variable spans a whole segment; a wildcard takes all that
is left of a path.
-/

namespace Switchyard

/-- A segment of a pattern. -/
inductive Segment where
  | literal (text : String)
  | parameter (name : String)
  | regex (name : String) (constraint : Constraint)
  | wildcard (name : String)
  deriving DecidableEq

namespace Segment

/-- The name of a wildcard that is written without one. -/
def unnamed : String := "*"

/-- The name of the variable that the segment binds. -/
def boundName? : Segment → Option String
  | literal _ => none
  | parameter name => some name
  | regex name _ => some name
  | wildcard name => some name

/-- How a segment leads on in a path, whatever its variable is called. -/
inductive Step where
  /-- through this very text -/
  | literal (text : String)
  /-- through any one segment that meets the constraint, if there is one -/
  | slot (constraint : Option Constraint)
  /-- to the end of the path -/
  | rest
  deriving DecidableEq

/-- How the segment leads on in a path. -/
def step : Segment → Step
  | literal text => .literal text
  | parameter _ => .slot none
  | regex _ constraint => .slot (some constraint)
  | wildcard _ => .rest

/-- The segment as it is written in a pattern. -/
def text : Segment → String
  | literal text => text
  | parameter name => "\x7b" ++ name ++ "\x7d"
  | regex name constraint => "\x7b" ++ name ++ ":" ++ constraint.source ++ "\x7d"
  | wildcard name => if name = unnamed then "*" else "*" ++ name

end Segment

/-- A compiled route pattern. -/
structure Pattern where
  segments : List Segment := []
  deriving DecidableEq

namespace Pattern

instance : Inhabited Pattern := ⟨{}⟩

/-- The names of the variables, in the order in which they are declared. -/
def variableNames (p : Pattern) : List String :=
  p.segments.filterMap Segment.boundName?

/-- Has the pattern no variables? -/
def isStatic (p : Pattern) : Bool :=
  p.variableNames.isEmpty

/-- The pattern in writing: a slash before each segment, or a single slash. -/
def text (p : Pattern) : String :=
  if p.segments.isEmpty then "/"
  else p.segments.foldl (fun acc s => acc ++ "/" ++ s.text) ""

end Pattern

end Switchyard
