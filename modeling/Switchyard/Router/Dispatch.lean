import Switchyard.Pipeline.Composition
import Switchyard.Router.Classifier
import Switchyard.Table.Registry

/-!
# Dispatching a request

A router resolves a request to a route, checks the declared media types, and runs the pipeline of
the route. What becomes of the request is a `Dispatch`; no outcome but a completed one has written
a response.

## Main results

* `Router.run_negotiate`: the check of the media types on a context, exit by exit.
* `Router.dispatch_of_found`: a request that a route answers is checked, and then its pipeline runs.
-/

namespace Switchyard

open Web (MediaType Method Status)

/-- How a router behaves. -/
structure RouterSettings where
  duplicateRoutes : DuplicatePolicy := .replace
  /-- requests for an icon that no route answers have an outcome of their own -/
  faviconFallback : Bool := true
  /-- are the declared media types checked? -/
  enforceMediaTypes : Bool := true
  deriving DecidableEq

/-- Routes with their pipelines, and how failures are classified. -/
structure Router (σ : Type) where
  table : RouteTable (Pipeline σ)
  classifier : Classifier
  settings : RouterSettings

/-- What becomes of a request. -/
inductive Dispatch (σ : Type) where
  /-- the response stands in the context -/
  | completed
  /-- the outcome will be that of a task -/
  | detached (task : Job σ)
  | failed (status : Status) (failure : Failure)
  | methodNotAllowed (allowed : List Method)
  /-- no route answers a request for an icon -/
  | favicon
  | notFound
  /-- the media types do not fit -/
  | rejected (status : Status)

/-- What becomes of a detached route. -/
inductive Completion where
  | completed (context : Context)
  | failed (status : Status) (failure : Failure) (context : Option Context)

/-- A request that was dispatched: what becomes of it, and what it left. -/
structure Dispatched (σ : Type) where
  ending : Ending (Dispatch σ)
  context : Context
  world : σ
  /-- the tasks that were left, whether anyone waits for them or not -/
  launched : List (Job σ) := []

/-- The status of an outcome, unless the context decides on it. -/
def Dispatch.status? {σ : Type} : Dispatch σ → Option Status
  | .completed => none
  | .detached _ => none
  | .failed s _ => some s
  | .methodNotAllowed _ => some .methodNotAllowed
  | .favicon => some .notFound
  | .notFound => some .notFound
  | .rejected s => some s

namespace Router

variable {σ : Type}

/-- Does the content type of a request fit the types that the route takes? A request without a
readable content type fits. -/
def takesContent (consumes : List MediaType) (ctx : Context) : Bool :=
  consumes.isEmpty ||
    match ctx.header? "content-type" with
    | none => true
    | some raw =>
      match MediaType.ofText? raw with
      | none => false
      | some m => consumes.any fun c => c.accepts m

/-- The first type that the route offers and the request accepts; the first one offered, if the
request names none. -/
def chosenType? (produces : List MediaType) (ctx : Context) : Option MediaType :=
  match ((ctx.header? "accept").map MediaType.ofList).getD [] with
  | [] => produces.head?
  | accepted => produces.find? fun p => accepted.any fun a => a.accepts p

/-- The check of the media types on the context of a request: it is refused with a status, or it
gets the content type that was chosen. A refusal leaves what was written before it. -/
def negotiate (route : RouteInfo) : ExceptT Status (StateM Context) Unit := do
  let ctx ← get
  if !takesContent route.consumes ctx then throw .unsupportedMediaType
  else if route.produces.isEmpty then pure ()
  else
    match chosenType? route.produces ctx with
    | none => throw .notAcceptable
    | some m =>
      if m.isWildcard then pure ()
      else
        match ctx.setDefaultContentType m.text with
        | .ok ctx => set ctx
        | .error _ => pure ()

/-- The same where a router checks media types, and nothing where it does not. -/
def negotiated (r : Router σ) (route : RouteInfo) (ctx : Context) : Except Status Unit × Context :=
  if r.settings.enforceMediaTypes then (negotiate route).run ctx else (.ok (), ctx)

/-- Is the request one for an icon? -/
def isFavicon (path : String) : Bool :=
  (Text.dropStem? "/favicon.ico".toList.reverse path.toList.reverse).isSome

/-- What becomes of a request that no route answers. -/
def missed (r : Router σ) (path : String) : Dispatch σ :=
  if r.settings.faviconFallback && isFavicon path then .favicon else .notFound

/-- How a pipeline ended as what becomes of the request. A panic is caught. -/
def concluded (r : Router σ) (pending : Option (Job σ)) (ending : Ending Outcome) :
    Ending (Dispatch σ) :=
  match ending.caught with
  | .stalled => .stalled
  | .panicked p => .panicked p
  | .done (.error failure) => .done (.failed (r.classifier.classify failure) failure)
  | .done (.ok _) =>
    match pending with
    | some task => .done (.detached task)
    | none => .done .completed

/-- The pipeline of a route run on a context. -/
def runRoute (r : Router σ) (here : Option Executor) (route : Route (Pipeline σ))
    (ctx : Context) (w : σ) : Dispatched σ :=
  let (ending, flow) := route.pipeline.run here { context := ctx, world := w }
  { ending := r.concluded flow.pending ending
    context := flow.context
    world := flow.world
    launched := flow.launched }

/-- The request of a context dispatched, on the executor `here`. -/
def dispatch (r : Router σ) (here : Option Executor) (ctx : Context) (w : σ) : Dispatched σ :=
  match r.table.resolve ctx.request.method ctx.request.path with
  | .methodNotAllowed allowed =>
    { ending := .done (.methodNotAllowed allowed), context := ctx, world := w }
  | .notFound => { ending := .done (r.missed ctx.request.path), context := ctx, world := w }
  | .found route bindings =>
    match r.negotiated route.toRouteInfo ctx with
    | (.error status, ctx) => { ending := .done (.rejected status), context := ctx, world := w }
    | (.ok (), ctx) => r.runRoute here route (ctx.bind route.toRouteInfo bindings) w

/-- The task of a detached route brought to its end, and its failure classified. -/
def await (r : Router σ) (task : Job σ) (w : σ) : Ending Completion × σ :=
  match task.finish w with
  | (.stalled, w) => (.stalled, w)
  | (.panicked p, w) => (.panicked p, w)
  | (.done none, w) =>
    (.done (.failed .internalServerError
      (Cause.plain "detached task ended without reporting") none), w)
  | (.done (some ⟨ctx, .ok _⟩), w) => (.done (.completed ctx), w)
  | (.done (some ⟨ctx, .error failure⟩), w) =>
    (.done (.failed (r.classifier.classify failure) failure (some ctx)), w)

/-! ### Lemmas -/

/-- The check of the media types on a context: every exit with what it leaves. -/
theorem run_negotiate (route : RouteInfo) (ctx : Context) :
    (negotiate route).run ctx =
      if takesContent route.consumes ctx = false then (.error .unsupportedMediaType, ctx)
      else if route.produces = [] then (.ok (), ctx)
      else
        match chosenType? route.produces ctx with
        | none => (.error .notAcceptable, ctx)
        | some m =>
          if m.isWildcard then (.ok (), ctx)
          else (.ok (), (ctx.setDefaultContentType m.text).toOption.getD ctx) := by
  have hget (f : Context → ExceptT Status (StateM Context) Unit) :
      (get >>= f : ExceptT Status (StateM Context) Unit).run ctx = (f ctx).run ctx := rfl
  rw [negotiate, hget]
  simp only [Bool.not_eq_true', List.isEmpty_iff]
  split
  · rfl
  · split
    · rfl
    · split
      · rfl
      · next m _ =>
        split
        · rfl
        · cases ctx.setDefaultContentType m.text <;> rfl

/-- A route that declares no media types accepts every request and changes nothing. -/
theorem negotiated_nil (r : Router σ) {route : RouteInfo} (hconsumes : route.consumes = [])
    (hproduces : route.produces = []) (ctx : Context) :
    r.negotiated route ctx = (.ok (), ctx) := by
  rw [negotiated]
  split
  · rw [run_negotiate, takesContent, hconsumes, hproduces]
    rfl
  · rfl

/-- A request that a route answers is negotiated, and then the pipeline of the route runs. -/
theorem dispatch_of_found {r : Router σ} {ctx : Context} {route : Route (Pipeline σ)}
    {b : Bindings} (h : r.table.resolve ctx.request.method ctx.request.path = .found route b)
    (here : Option Executor) (w : σ) :
    r.dispatch here ctx w =
      match r.negotiated route.toRouteInfo ctx with
      | (.error status, ctx) => { ending := .done (.rejected status), context := ctx, world := w }
      | (.ok (), ctx) => r.runRoute here route (ctx.bind route.toRouteInfo b) w := by
  rw [dispatch, h]

end Router

end Switchyard
