import Switchyard.Router.Dispatch

/-!
# Dismissed Requests

A request can be sent away before any code of a route runs: the path is not known for its method, or
not at all, or the media types do not fit. Between these exits and the pipeline a dispatch writes
twice, a content type into the response and the route with its bindings into the context, so it has
to be shown that every exit is taken in front of both.

The decision is a function of its own here (`Router.dismissal?`), of the settings, the context and
what is declared about the route that was found. It does not get to see what the route does, and
this is the sense in which no code has run: a dispatch ends in a dismissal exactly if this function
says so, whatever the pipelines of the router are.

## Main results

* `Router.run_negotiate_of_refused`: the check of the media types refuses before it writes.
* `Router.exists_admitted`: a request that is not dismissed finds a route whose media types fit.
* `Router.ending_eq_outcome_iff`: a dispatch ends in a dismissal exactly if one is decided on.
* `Router.dispatch_dismissed`: what becomes of a request that no route answers, and that a dismissal
  touches nothing.
-/

namespace Switchyard

open Web (Method Status)

variable {ρ σ : Type}

/-- How a request is sent away. -/
inductive Dismissal where
  | methodNotAllowed (allowed : List Method)
  | favicon
  | notFound
  | rejected (status : Status)
  deriving DecidableEq

/-- A dismissal as what becomes of the request. -/
def Dismissal.outcome : Dismissal → Dispatch σ
  | .methodNotAllowed allowed => .methodNotAllowed allowed
  | .favicon => .favicon
  | .notFound => .notFound
  | .rejected status => .rejected status

theorem Dismissal.outcome_injective : Function.Injective (outcome (σ := σ)) := by
  intro d d' h
  cases d <;> cases d' <;> cases h <;> rfl

/-- What a method and a path lead to, apart from what the route does. -/
def Resolution.declared : Resolution ρ → Resolution Unit
  | .found route bindings => .found { route with pipeline := () } bindings
  | .methodNotAllowed allowed => .methodNotAllowed allowed
  | .notFound => .notFound

namespace Router

/-- Exactly the paths that end like that of an icon are such paths. -/
theorem isFavicon_iff {path : String} :
    isFavicon path = true ↔ "/favicon.ico".toList <:+ path.toList := by
  rw [isFavicon, Text.isSome_dropStem?_iff, List.reverse_prefix]

/-- How a request is sent away, if it is. -/
def dismissal? (settings : RouterSettings) (ctx : Context) : Resolution Unit → Option Dismissal
  | .methodNotAllowed allowed => some (.methodNotAllowed allowed)
  | .notFound =>
    some (if settings.faviconFallback && isFavicon ctx.request.path then .favicon else .notFound)
  | .found route _ =>
    if settings.enforceMediaTypes then
      match (negotiate route.toRouteInfo).run ctx with
      | (.error status, _) => some (.rejected status)
      | (.ok (), _) => none
    else none

/-- The dismissal of a request by a router. -/
def dismisses (r : Router σ) (ctx : Context) : Option Dismissal :=
  dismissal? r.settings ctx (r.table.resolve ctx.request.method ctx.request.path).declared

/-- **Every rejecting exit of the check of the media types is taken before it writes.** -/
theorem run_negotiate_of_refused {route : RouteInfo} {ctx : Context} {status : Status} :
    ((negotiate route).run ctx).1 = .error status →
      (negotiate route).run ctx = (.error status, ctx) := by
  rw [run_negotiate]
  split
  · -- the content is not taken
    intro h
    cases h
    rfl
  · split
    · exact fun h => by cases h
    · split
      · -- nothing on offer is accepted
        intro h
        cases h
        rfl
      · split <;> exact fun h => by cases h

theorem negotiated_of_refused {r : Router σ} {route : RouteInfo} {ctx : Context} {status : Status}
    (h : (r.negotiated route ctx).1 = .error status) :
    r.negotiated route ctx = (.error status, ctx) := by
  rw [negotiated] at h ⊢
  split at h
  · next henforce =>
    rw [if_pos henforce]
    exact run_negotiate_of_refused h
  · cases h

/-- A method that is not allowed is dismissed with the methods that are. -/
theorem dismisses_of_methodNotAllowed {r : Router σ} {ctx : Context} {allowed : List Method}
    (h : r.table.resolve ctx.request.method ctx.request.path = .methodNotAllowed allowed) :
    r.dismisses ctx = some (.methodNotAllowed allowed) := by
  rw [dismisses, h]
  rfl

/-- A path that is not known is dismissed as that of an icon or as not found. -/
theorem dismisses_of_notFound {r : Router σ} {ctx : Context}
    (h : r.table.resolve ctx.request.method ctx.request.path = .notFound) :
    r.dismisses ctx =
      some (if r.settings.faviconFallback && isFavicon ctx.request.path then .favicon
        else .notFound) := by
  rw [dismisses, h]
  rfl

/-- A route that is found dismisses exactly what its media types do not fit. -/
theorem dismisses_of_found {r : Router σ} {ctx : Context} {route : Route (Pipeline σ)}
    {b : Bindings} (h : r.table.resolve ctx.request.method ctx.request.path = .found route b)
    {d : Dismissal} :
    r.dismisses ctx = some d ↔
      ∃ status, (r.negotiated route.toRouteInfo ctx).1 = .error status ∧ d = .rejected status := by
  rw [dismisses, h, Resolution.declared, dismissal?, negotiated]
  by_cases henforce : r.settings.enforceMediaTypes = true
  · rw [if_pos henforce, if_pos henforce]
    cases hresult : (negotiate route.toRouteInfo).run ctx with
    | mk result left =>
        cases result with
        | error status => simp [eq_comm]
        | ok u => simp
  · rw [if_neg henforce, if_neg henforce]
    simp

/-- A request that is not dismissed finds a route whose media types fit. -/
theorem exists_admitted {r : Router σ} {ctx : Context} (h : r.dismisses ctx = none) :
    ∃ route b admitted, r.table.resolve ctx.request.method ctx.request.path = .found route b ∧
      r.negotiated route.toRouteInfo ctx = (.ok (), admitted) := by
  cases hresolve : r.table.resolve ctx.request.method ctx.request.path with
  | methodNotAllowed allowed => cases (dismisses_of_methodNotAllowed hresolve).symm.trans h
  | notFound => cases (dismisses_of_notFound hresolve).symm.trans h
  | found route b =>
      cases hresult : r.negotiated route.toRouteInfo ctx with
      | mk result admitted =>
          cases result with
          | ok u => exact ⟨route, b, admitted, rfl, hresult⟩
          | error status =>
              have hrefused := (dismisses_of_found hresolve).2
                ⟨status, congrArg Prod.fst hresult, rfl⟩
              cases hrefused.symm.trans h

/-- What a pipeline comes to is no dismissal. -/
theorem concluded_ne_outcome (r : Router σ) (pending : Option (Job σ)) (ending : Ending Outcome)
    (d : Dismissal) : r.concluded pending ending ≠ .done d.outcome := by
  intro h
  rw [concluded.eq_def] at h
  split at h
  · cases h
  · cases d <;> cases h
  · cases d <;> cases h
  · split at h <;> cases d <;> cases h

theorem missed_eq_outcome (r : Router σ) (path : String) :
    r.missed path =
      (if r.settings.faviconFallback && isFavicon path then Dismissal.favicon
        else Dismissal.notFound).outcome := by
  rw [missed]
  split <;> rfl

/-- A request that is dismissed is answered with the dismissal, and nothing else happens. -/
theorem dispatch_of_dismisses {r : Router σ} {ctx : Context} {d : Dismissal}
    (h : r.dismisses ctx = some d) (here : Option Executor) (w : σ) :
    r.dispatch here ctx w = { ending := .done d.outcome, context := ctx, world := w } := by
  cases hresolve : r.table.resolve ctx.request.method ctx.request.path with
  | methodNotAllowed allowed =>
      obtain rfl := Option.some.inj ((dismisses_of_methodNotAllowed hresolve).symm.trans h)
      rw [dispatch, hresolve]
      rfl
  | notFound =>
      obtain rfl := Option.some.inj ((dismisses_of_notFound hresolve).symm.trans h)
      rw [dispatch, hresolve, ← missed_eq_outcome]
  | found route b =>
      obtain ⟨status, hrefused, rfl⟩ := (dismisses_of_found hresolve).1 h
      rw [dispatch_of_found hresolve, negotiated_of_refused hrefused]
      rfl

/-- A request that is not dismissed comes to no dismissal: the pipeline of a route runs. -/
theorem ending_ne_outcome {r : Router σ} {ctx : Context} (h : r.dismisses ctx = none)
    (here : Option Executor) (w : σ) (d : Dismissal) :
    (r.dispatch here ctx w).ending ≠ .done d.outcome := by
  obtain ⟨route, b, admitted, hfound, hadmitted⟩ := exists_admitted h
  rw [dispatch_of_found hfound, hadmitted]
  exact r.concluded_ne_outcome _ _ d

/-- **A dispatch ends in a dismissal exactly if one is decided on.** -/
theorem ending_eq_outcome_iff {r : Router σ} {here : Option Executor} {ctx : Context} {w : σ}
    {d : Dismissal} :
    (r.dispatch here ctx w).ending = .done d.outcome ↔ r.dismisses ctx = some d := by
  cases h : r.dismisses ctx with
  | none => exact iff_of_false (ending_ne_outcome h here w d) (by simp)
  | some d' =>
      rw [dispatch_of_dismisses h, Ending.done.injEq, Option.some.injEq,
        Dismissal.outcome_injective.eq_iff]

/-- A method is refused exactly if the table refuses it. -/
theorem dismisses_methodNotAllowed_iff {r : Router σ} {ctx : Context} {allowed : List Method} :
    r.dismisses ctx = some (.methodNotAllowed allowed) ↔
      r.table.resolve ctx.request.method ctx.request.path = .methodNotAllowed allowed := by
  cases hresolve : r.table.resolve ctx.request.method ctx.request.path with
  | methodNotAllowed allowed' => simp [dismisses_of_methodNotAllowed hresolve]
  | notFound =>
      rw [dismisses_of_notFound hresolve]
      split <;> simp
  | found route b => simp [dismisses_of_found hresolve]

/-- A request is for an icon exactly if the table knows no route for it, the settings know icons,
and the path is that of one. -/
theorem dismisses_favicon_iff {r : Router σ} {ctx : Context} :
    r.dismisses ctx = some .favicon ↔
      r.table.resolve ctx.request.method ctx.request.path = .notFound ∧
        r.settings.faviconFallback = true ∧ isFavicon ctx.request.path = true := by
  cases hresolve : r.table.resolve ctx.request.method ctx.request.path with
  | methodNotAllowed allowed => simp [dismisses_of_methodNotAllowed hresolve]
  | notFound => simp [dismisses_of_notFound hresolve]
  | found route b => simp [dismisses_of_found hresolve]

/-- Nothing is found for a request exactly if the table knows no route for it, and it is not for an
icon. -/
theorem dismisses_notFound_iff {r : Router σ} {ctx : Context} :
    r.dismisses ctx = some .notFound ↔
      r.table.resolve ctx.request.method ctx.request.path = .notFound ∧
        ¬(r.settings.faviconFallback = true ∧ isFavicon ctx.request.path = true) := by
  cases hresolve : r.table.resolve ctx.request.method ctx.request.path with
  | methodNotAllowed allowed => simp [dismisses_of_methodNotAllowed hresolve]
  | notFound => simp [dismisses_of_notFound hresolve]
  | found route b => simp [dismisses_of_found hresolve]

/-- **A request that no route answers comes to what the table says, and a dismissal touches
nothing.** A method is refused exactly if the table refuses it, and the same methods are named. A
request is for an icon or for nothing exactly if the table knows no route for its path; which of
the two depends on the settings and on the end of the path. A request that is dismissed leaves the
context and the world as they were, and no code has run: every router with the same settings whose
table says the same about the request dismisses it as well, whatever its routes do. -/
theorem dispatch_dismissed (r : Router σ) (here : Option Executor) (ctx : Context) (w : σ) :
    (∀ allowed, (r.dispatch here ctx w).ending = .done (.methodNotAllowed allowed) ↔
      r.table.resolve ctx.request.method ctx.request.path = .methodNotAllowed allowed) ∧
    ((r.dispatch here ctx w).ending = .done .favicon ↔
      r.table.resolve ctx.request.method ctx.request.path = .notFound ∧
        r.settings.faviconFallback = true ∧
        "/favicon.ico".toList <:+ ctx.request.path.toList) ∧
    ((r.dispatch here ctx w).ending = .done .notFound ↔
      r.table.resolve ctx.request.method ctx.request.path = .notFound ∧
        ¬(r.settings.faviconFallback = true ∧
          "/favicon.ico".toList <:+ ctx.request.path.toList)) ∧
    ∀ d : Dismissal, (r.dispatch here ctx w).ending = .done d.outcome →
      r.dispatch here ctx w = { ending := .done d.outcome, context := ctx, world := w } ∧
      ∀ {τ : Type} (r' : Router τ), r'.settings = r.settings →
        (r'.table.resolve ctx.request.method ctx.request.path).declared =
          (r.table.resolve ctx.request.method ctx.request.path).declared →
        ∀ (there : Option Executor) (w' : τ), r'.dispatch there ctx w' =
          { ending := .done d.outcome, context := ctx, world := w' } := by
  rw [← isFavicon_iff, ← dismisses_favicon_iff, ← dismisses_notFound_iff]
  refine ⟨fun allowed => ?_, ending_eq_outcome_iff (d := .favicon),
    ending_eq_outcome_iff (d := .notFound), fun d h => ?_⟩
  · rw [← dismisses_methodNotAllowed_iff]
    exact ending_eq_outcome_iff (d := .methodNotAllowed allowed)
  · have hdismisses := ending_eq_outcome_iff.1 h
    refine ⟨dispatch_of_dismisses hdismisses here w, fun r' hsettings hdeclared there w' => ?_⟩
    refine dispatch_of_dismisses ?_ there w'
    rw [dismisses, hsettings, hdeclared]
    exact hdismisses

/-- The router of one route. -/
def sole (route : Route (Pipeline σ)) : Router σ :=
  { table := (({ policy := .replace } : RouteTable (Pipeline σ)).insert route).1
    classifier := {}
    settings := {} }

/-- A route that offers tables, and runs a handler. -/
def tabulating (handler : Handler σ) : Route (Pipeline σ) :=
  { id := 0, method := .only .get, pattern := ⟨[.literal "report"]⟩, source := "/report"
    produces := [⟨"text", "csv"⟩], pipeline := .compose handler [] [] false }

/-- A handler that writes down that it runs, and returns nothing. -/
def noticed : Handler (List String) :=
  ExceptT.mk fun ctx w => ⟨.done (.ok .empty), ctx, w ++ ["handler"]⟩

/-- A request for a picture, with a response that was sent already. -/
def depicted : Context :=
  { request :=
      { method := .get, path := "/report", headers := ⟨[(.accept, .ofReadable "image/png")]⟩ }
    response := { status := .notFound, body := "gone".toUTF8, committed := true } }

/-- The request is rejected, and so it is by a router whose route panics in a world of its own. -/
theorem dispatch_dismissed_depicted :
    (sole (tabulating noticed)).dispatch none depicted ["up"] =
        { ending := .done (.rejected .notAcceptable), context := depicted, world := ["up"] } ∧
      (sole (tabulating (ExceptT.mk (Action.panic (.text "bug"))))).dispatch (some .running)
          depicted () =
        { ending := .done (.rejected .notAcceptable), context := depicted, world := () } := by
  obtain ⟨-, -, -, hframe⟩ := dispatch_dismissed (sole (tabulating noticed)) none depicted ["up"]
  have hdismisses : (sole (tabulating noticed)).dismisses depicted =
      some (.rejected .notAcceptable) := by decide +kernel
  obtain ⟨hdispatch, hother⟩ := hframe _ (ending_eq_outcome_iff.2 hdismisses)
  exact ⟨hdispatch,
    hother (sole (tabulating (ExceptT.mk (Action.panic (.text "bug"))))) rfl (by rfl) _ ()⟩

end Router

end Switchyard
