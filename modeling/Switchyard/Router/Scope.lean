import Switchyard.Pattern.Path
import Switchyard.Pipeline.Filter
import Switchyard.Pipeline.Renderer

/-!
# Nested scopes

While routes are declared, scopes are opened and closed around them. A route gets the prefixes,
filters and renderers of all scopes that are open where it is declared, the outermost first. There
is always one scope that cannot be closed.
-/

namespace Switchyard

/-- What one scope contributes to the routes in it. -/
structure ScopeFrame (σ : Type) where
  stem : String := ""
  detach : Bool := false
  filters : List (Filter σ) := []
  renderers : List (Renderer σ) := []

/-- The open scopes, the innermost first, and the scope around them. -/
structure ScopeStack (σ : Type) where
  inner : List (ScopeFrame σ) := []
  root : ScopeFrame σ := {}

/-- What all open scopes contribute to a route, with the pattern of the route. -/
structure Linearized (σ : Type) where
  pattern : String
  filters : List (Filter σ)
  renderers : List (Renderer σ)
  detach : Bool

namespace ScopeStack

variable {σ : Type}

/-- The number of open scopes. -/
def depth (s : ScopeStack σ) : Nat :=
  s.inner.length

/-- All frames, the outermost first. -/
def frames (s : ScopeStack σ) : List (ScopeFrame σ) :=
  s.root :: s.inner.reverse

/-- One more scope. -/
def push (s : ScopeStack σ) (stem : String) (detach : Bool) : ScopeStack σ :=
  { s with inner := { stem, detach } :: s.inner }

/-- The innermost scope, and the others; nothing if no scope is open. -/
def pop? (s : ScopeStack σ) : Option (ScopeFrame σ × ScopeStack σ) :=
  match s.inner with
  | [] => none
  | frame :: inner => some (frame, { s with inner })

/-- A change of the innermost frame. -/
def modifyTop (s : ScopeStack σ) (f : ScopeFrame σ → ScopeFrame σ) : ScopeStack σ :=
  match s.inner with
  | [] => { s with root := f s.root }
  | frame :: inner => { s with inner := f frame :: inner }

def addFilter (s : ScopeStack σ) (filter : Filter σ) : ScopeStack σ :=
  s.modifyTop fun frame => { frame with filters := frame.filters ++ [filter] }

def addRenderer (s : ScopeStack σ) (renderer : Renderer σ) : ScopeStack σ :=
  s.modifyTop fun frame => { frame with renderers := frame.renderers ++ [renderer] }

/-- What all open scopes contribute to a route with this pattern. -/
def linearize (s : ScopeStack σ) (pattern : String) : Linearized σ where
  pattern := nestUnder (s.frames.foldl (fun stem frame => nestUnder stem frame.stem) "") pattern
  filters := s.frames.flatMap (·.filters)
  renderers := s.frames.flatMap (·.renderers)
  detach := s.frames.any (·.detach)

end ScopeStack

end Switchyard
