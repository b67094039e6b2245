import Switchyard.Router.Blueprint
import Switchyard.Settings.Validation
import Switchyard.Text.Replace

/-!
# Routes with fixed answers

A static route answers with the status, the content type and the body of its settings. In the body
the name of a path variable in braces is replaced by its value, one variable after the other.
-/

namespace Switchyard

open Web (RouteMethod Status)

/-- The name of a path variable in braces. -/
def placeholder (name : String) : List Char :=
  '{' :: name.toList ++ ['}']

/-- A body with the values of the path variables in place. -/
def fillIn (body : String) (bindings : Bindings) : String :=
  String.ofList (bindings.pairs.foldl
    (fun body (name, value) => Text.replaceAll (placeholder name) value.toList body) body.toList)

/-- The handler of a static route. -/
def stub {σ : Type} (status : Status) (contentType : Option String) (body : String) :
    Attempt σ Value := do
  let filled ← Attempt.read fun ctx => .ok (fillIn body ctx.bindings)
  Attempt.edit fun ctx => .ok (ctx.setStatus status)
  if let some contentType := contentType then
    Attempt.edit fun ctx => ctx.setContentType contentType
  return .text filled

/-- The static routes from a place on, declared in a blueprint, or the first fault. -/
def Blueprint.mountFrom {σ : Type} (b : Blueprint σ) (index : Nat) :
    List StaticRoute → Except SettingFault (Blueprint σ)
  | [] => .ok b
  | r :: rest =>
    match RouteMethod.ofText? r.method, Status.ofCode? r.status with
    | none, _ => .error (.routeMethod index r.method)
    | some _, none => .error (.routeStatus index r.status)
    | some method, some status =>
      (b.route method r.path (stub status r.contentType r.body) { name := r.name }).mountFrom
        (index + 1) rest

/-- The static routes declared in a blueprint, and how many they are, or the first fault. -/
def Blueprint.mount {σ : Type} (b : Blueprint σ) (routes : List StaticRoute) :
    Except SettingFault (Blueprint σ × Nat) :=
  (b.mountFrom 0 routes).map fun b => (b, routes.length)

end Switchyard
