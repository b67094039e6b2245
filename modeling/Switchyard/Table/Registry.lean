import Switchyard.Pattern.Path
import Switchyard.Table.Bindings
import Switchyard.Table.Route
import Switchyard.Table.Trie

/-!
# The route table

A route table keeps all routes in the order in which they came, and a trie for each method. A
request that no trie of its method resolves is told apart into one that another method would
resolve, and one that none would.
-/

namespace Switchyard

open Web (Method RouteMethod)

/-- What happens to a second route for one method and one shape of pattern. -/
inductive DuplicatePolicy where
  /-- it takes the place of the first -/
  | replace
  /-- it is refused -/
  | reject
  deriving Repr, DecidableEq, Inhabited

/-- Why a route is refused. -/
inductive Refusal where
  | duplicate
  | conflict (slot : SlotConflict)
  deriving DecidableEq

/-- What a method and a path lead to. -/
inductive Resolution (ρ : Type) where
  | found (route : Route ρ) (bindings : Bindings)
  /-- the path is known, but only under these methods -/
  | methodNotAllowed (allowed : List Method)
  | notFound

/-- Routes, and a trie for each method. -/
structure RouteTable (ρ : Type) where
  policy : DuplicatePolicy
  routes : List (Route ρ) := []
  tries : List (Method × Trie (Route ρ)) := []

namespace RouteTable

variable {ρ : Type}

/-- The trie of a method. -/
def trie (t : RouteTable ρ) (m : Method) : Trie (Route ρ) :=
  (t.tries.lookup m).getD .empty

/-- The table with a trie in the place of that of its method. -/
def withTrie (t : RouteTable ρ) (m : Method) (trie : Trie (Route ρ)) : RouteTable ρ :=
  { t with tries := Association.put m trie t.tries }

/-- Does one of the methods already have a route at the pattern? -/
def isTaken (t : RouteTable ρ) (methods : List Method) (pattern : Pattern) : Bool :=
  methods.any fun m => ((t.trie m).valueAt? pattern.segments).isSome

/-- The route put into the trie of one method after the other. At a conflict, the tries before it
keep the route. -/
def insertUnder (t : RouteTable ρ) (route : Route ρ) :
    List Method → RouteTable ρ × Option Refusal
  | [] => (t, none)
  | m :: ms =>
    match (t.trie m).insert route route.pattern.segments with
    | (trie, .ok _) => (t.withTrie m trie).insertUnder route ms
    | (trie, .error c) => (t.withTrie m trie, some (.conflict c))

/-- One more route, unless it is refused. -/
def insert (t : RouteTable ρ) (route : Route ρ) : RouteTable ρ × Option Refusal :=
  if t.policy = .reject ∧ t.isTaken route.method.expand route.pattern then (t, some .duplicate)
  else
    match t.insertUnder route route.method.expand with
    | (t, some refusal) => (t, some refusal)
    | (t, none) => ({ t with routes := t.routes ++ [route] }, none)

/-- The methods under which a path is known, in their order. -/
def allowed (t : RouteTable ρ) (path : String) : List Method :=
  Method.sort ((t.tries.filter fun (_, trie) => (trie.find (splitPath path)).isSome).map (·.1))

/-- What a method and a path lead to. -/
def resolve (t : RouteTable ρ) (m : Method) (path : String) : Resolution ρ :=
  match (t.trie m).find (splitPath path) with
  | some (route, values) => .found route (.zip route.pattern.variableNames values)
  | none =>
    match t.allowed path with
    | [] => .notFound
    | allowed => .methodNotAllowed allowed

/-- What is declared about the routes, in the order in which they came. -/
def infos (t : RouteTable ρ) : List RouteInfo :=
  t.routes.map (·.toRouteInfo)

end RouteTable

end Switchyard
