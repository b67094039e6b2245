import Switchyard.Pattern.Parser
import Switchyard.Router.Dispatch
import Switchyard.Router.Scope

/-!
# Blueprints of routers

Routes, scopes, filters and error rules are declared in a blueprint, and `Blueprint.build` makes a
router of it. Declaring never fails: all faults are collected, and the router is built only if
there are none.
-/

namespace Switchyard

open Web (MediaType RouteMethod Status)

/-- What is wrong with a blueprint. -/
inductive BuildFault where
  | pattern (method : RouteMethod) (error : Pattern.Error)
  | duplicate (method : RouteMethod) (pattern : String)
  | conflictingConstraint (method : RouteMethod) (pattern : String) (slot : SlotConflict)
  | invalidMediaType (pattern : String) (declared : String)
  | unclosedScope (depth : Nat)
  | scopeUnderflow
  deriving DecidableEq

namespace BuildFault

/-- The report for a reader. -/
def message : BuildFault → String
  | .pattern method e => method.text ++ " " ++ e.pattern ++ ": " ++ e.message
  | .duplicate method path => method.text ++ " " ++ path ++ ": route already registered"
  | .conflictingConstraint method path slot =>
    method.text ++ " " ++ path ++ ": constraint `" ++ slot.incomingText
      ++ "` conflicts with `" ++ slot.existingText ++ "` at the same position"
  | .invalidMediaType path declared => path ++ ": " ++ MediaType.invalidMessage declared
  | .unclosedScope depth => toString depth ++ " scope(s) still open at build time"
  | .scopeUnderflow => "close_scope called without a matching open_scope"

/-- The report on all faults together. -/
def summary (faults : List BuildFault) : String :=
  "Router build failed: " ++ ", ".intercalate (faults.map message)

end BuildFault

/-- What may be said of a route beside its method, pattern and handler. -/
structure RouteOptions where
  name : Option String := none
  produces : List String := []
  consumes : List String := []
  detach : Bool := false

/-- A route as it was declared, with what the open scopes contribute. -/
structure Declaration (σ : Type) where
  method : RouteMethod
  placed : Linearized σ
  handler : Handler σ
  options : RouteOptions

/-- All that was declared for a router. -/
structure Blueprint (σ : Type) where
  settings : RouterSettings := {}
  scopes : ScopeStack σ := {}
  declarations : List (Declaration σ) := []
  faults : List BuildFault := []
  classifier : Classifier := {}

namespace Declaration

variable {σ : Type}

/-- The media types that texts name, and the texts that name none. -/
def mediaTypes : List String → List MediaType × List String
  | [] => ([], [])
  | text :: rest =>
    let (types, invalid) := mediaTypes rest
    match MediaType.ofText? text with
    | some m => (m :: types, invalid)
    | none => (types, text :: invalid)

/-- The route with a number, or all that is wrong with its declaration: first the pattern, then
the media types in their order. -/
def compile (d : Declaration σ) (id : Nat) : Except (List BuildFault) (Route (Pipeline σ)) :=
  let source := d.placed.pattern
  let (produces, notProduced) := mediaTypes d.options.produces
  let (consumes, notConsumed) := mediaTypes d.options.consumes
  let faults := (notProduced ++ notConsumed).map (BuildFault.invalidMediaType source)
  match Pattern.parse source with
  | .error e => .error (.pattern d.method e :: faults)
  | .ok pattern =>
    if faults ≠ [] then .error faults
    else
      let detached := d.options.detach || d.placed.detach
      .ok
        { id, method := d.method, pattern, source, name := d.options.name, produces, consumes,
          detached
          pipeline := .compose d.handler d.placed.filters d.placed.renderers detached }

end Declaration

namespace Blueprint

variable {σ : Type}

/-- A route declared within all open scopes. -/
def route (b : Blueprint σ) (method : RouteMethod) (pattern : String) (handler : Handler σ)
    (options : RouteOptions := {}) : Blueprint σ :=
  { b with
    declarations :=
      b.declarations ++ [{ method, placed := b.scopes.linearize pattern, handler, options }] }

def openScope (b : Blueprint σ) (stem : String) (detach : Bool) : Blueprint σ :=
  { b with scopes := b.scopes.push stem detach }

/-- The innermost scope closed; it is a fault if none is open. -/
def closeScope (b : Blueprint σ) : Blueprint σ :=
  match b.scopes.pop? with
  | some (_, scopes) => { b with scopes }
  | none => { b with faults := b.faults ++ [.scopeUnderflow] }

def filter (b : Blueprint σ) (f : Filter σ) : Blueprint σ :=
  { b with scopes := b.scopes.addFilter f }

def renderer (b : Blueprint σ) (r : Renderer σ) : Blueprint σ :=
  { b with scopes := b.scopes.addRenderer r }

/-- What `declare` says, within a scope with a prefix. -/
def under (b : Blueprint σ) (stem : String) (declare : Blueprint σ → Blueprint σ) :
    Blueprint σ :=
  (declare (b.openScope stem false)).closeScope

/-- What `declare` says, its filters and renderers staying within it. -/
def group (b : Blueprint σ) (declare : Blueprint σ → Blueprint σ) : Blueprint σ :=
  b.under "" declare

/-- What `declare` says, its routes being detached. -/
def detach (b : Blueprint σ) (declare : Blueprint σ → Blueprint σ) : Blueprint σ :=
  (declare (b.openScope "" true)).closeScope

/-- What `declare` says, its routes running on another executor. -/
def offload (b : Blueprint σ) (executor : Executor) (declare : Blueprint σ → Blueprint σ) :
    Blueprint σ :=
  (declare ((b.openScope "" false).filter (.before (.offload executor)))).closeScope

def errorKind (b : Blueprint σ) (k : CauseKind) (s : Status) : Blueprint σ :=
  { b with classifier := b.classifier.register k s }

def errorRule (b : Blueprint σ) (accepts : Failure → Bool) (s : Status) : Blueprint σ :=
  { b with classifier := b.classifier.registerRule accepts s }

/-- A refusal as a fault of the blueprint. -/
def refusalFault (route : RouteInfo) : Refusal → BuildFault
  | .duplicate => .duplicate route.method route.source
  | .conflict slot => .conflictingConstraint route.method route.source slot

/-- The table with the declared routes, numbered from `id`, and all that is wrong with them. A
route with faults is left out. -/
def register (id : Nat) (table : RouteTable (Pipeline σ)) :
    List (Declaration σ) → RouteTable (Pipeline σ) × List BuildFault
  | [] => (table, [])
  | d :: rest =>
    let (table, faults) :=
      match d.compile id with
      | .error faults => (table, faults)
      | .ok route =>
        let (table, refusal) := table.insert route
        (table, refusal.toList.map (refusalFault route.toRouteInfo))
    let (table, more) := register (id + 1) table rest
    (table, faults ++ more)

/-- The scopes that were opened and not closed again, as a fault. -/
def scopeFaults (b : Blueprint σ) : List BuildFault :=
  if b.scopes.depth = 0 then [] else [.unclosedScope b.scopes.depth]

/-- The router, or all that is wrong with the blueprint. -/
def build (b : Blueprint σ) : Except (List BuildFault) (Router σ) :=
  let (table, faults) := register 0 { policy := b.settings.duplicateRoutes } b.declarations
  match b.faults ++ b.scopeFaults ++ faults with
  | [] => .ok { table, classifier := b.classifier, settings := b.settings }
  | faults => .error faults

/-- The full pattern of each declared route. -/
def declaredPatterns (b : Blueprint σ) : List String :=
  b.declarations.map (·.placed.pattern)

end Blueprint

end Switchyard
