import Switchyard.Pattern.Segment
import Switchyard.Web.MediaType
import Switchyard.Web.Method

/-!
# Routes

What is declared about a route, apart from what it does.
-/

namespace Switchyard

open Web (MediaType RouteMethod)

/-- What is declared about a route. -/
structure RouteInfo where
  /-- the place of the route among all that were declared -/
  id : Nat
  method : RouteMethod
  pattern : Pattern
  /-- the pattern as it was declared, with its prefixes -/
  source : String
  name : Option String := none
  produces : List MediaType := []
  consumes : List MediaType := []
  detached : Bool := false
  deriving DecidableEq, Inhabited

/-- A route with what it does, of type `ρ`. -/
structure Route (ρ : Type) extends RouteInfo where
  pipeline : ρ

/-- The number of a route in writing. -/
def RouteInfo.idText (r : RouteInfo) : String :=
  "#" ++ toString r.id

/-- The routes as a table: the methods padded to one width, the patterns and the names. -/
def routeTableText (routes : List RouteInfo) : String :=
  let width := (routes.map fun r => r.method.text.length).foldl max 0
  let line (r : RouteInfo) : String :=
    let padding := String.ofList (List.replicate (width - r.method.text.length) ' ')
    let name := match r.name with
      | some name => "  (" ++ name ++ ")"
      | none => ""
    r.method.text ++ padding ++ "  " ++ r.source ++ name
  "\n".intercalate (routes.map line)

end Switchyard
