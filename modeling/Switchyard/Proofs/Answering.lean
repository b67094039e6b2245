import Switchyard.Proofs.Binding
import Switchyard.Proofs.HeaderText
import Switchyard.Proofs.Mounting
import Switchyard.Proofs.Rendering

/-!
# What Static Routes Answer

The check of the settings reads the content type of a static route as a media type, and the handler
of the route writes it into a header. What can be read is more than what can be written: blanks
around a media type are trimmed, line breaks among them, and what stands behind a semicolon is
dropped. This module compares the two. A static route that was checked answers every request that
leads to it with its status, its content type and its body, if no control character but the tab is
in its content type; if one is, around the media type, the route fails every time, as if the server
were at fault.

## Main results

* `Flow.perform_stub_of_ok`, `Flow.perform_stub_of_error`: what the handler of a static route does.
* `Pipeline.exists_run_of_text`, `Pipeline.run_of_error`: what becomes of a handler alone.
* `Blueprint.exists_static_of_resolve`: what a router of static routes finds.
* `Blueprint.dispatch_static`: when the static routes of checked settings answer as they say.
-/

namespace Switchyard

open Web (HeaderName HeaderValue IsSendable MediaType Method RouteMethod Status)

variable {σ : Type}

/-! ### The handler -/

/-- The context with a content type in place, if there is one. -/
def Context.withContentType (ctx : Context) : Option HeaderValue → Context
  | none => ctx
  | some value => ctx.putHeader .contentType value

theorem Context.status_withContentType (ctx : Context) (written : Option HeaderValue) :
    (ctx.withContentType written).response.status = ctx.response.status := by
  cases written <;> rfl

theorem Context.isCommitted_withContentType (ctx : Context) (written : Option HeaderValue) :
    (ctx.withContentType written).isCommitted = ctx.isCommitted := by
  cases written <;> rfl

theorem Context.get?_withContentType (ctx : Context) (value : HeaderValue) :
    (ctx.withContentType (some value)).response.headers.get? .contentType = some value :=
  Web.Headers.get?_insert_self _ _ _

namespace Flow

/-- A handler with a content type sets the status and then the content type. -/
theorem perform_stub_some (status : Status) (text body : String) (flow : Flow σ) :
    flow.perform (stub status (some text) body).run =
      ({ flow with context := flow.context.setStatus status } : Flow σ).perform
        (Attempt.edit (fun ctx => ctx.setContentType text) >>= fun _ =>
          pure (.text (fillIn body flow.context.bindings)) : Attempt σ Value).run := rfl

/-- A handler whose content type can be written, if it has one, sets it behind the status. -/
theorem perform_stub_of_ok {contentType : Option String} {written : Option HeaderValue}
    (h : contentType.map HeaderValue.ofText? = written.map some) (status : Status) (body : String)
    (flow : Flow σ) :
    flow.perform (stub status contentType body).run =
      (.done (.ok (.text (fillIn body flow.context.bindings))),
        { flow with context := (flow.context.setStatus status).withContentType written }) := by
  cases contentType with
  | none =>
      obtain rfl : written = none := Option.map_eq_none_iff.1 h.symm
      rfl
  | some text =>
      obtain ⟨value, rfl, hvalue⟩ := Option.map_eq_some_iff.1 h.symm
      have hset : (flow.context.setStatus status).setContentType text =
          .ok ((flow.context.setStatus status).putHeader .contentType value) := by
        rw [Context.setContentType, ← hvalue]
      rw [perform_stub_some, perform_andThen _ (perform_edit_of_ok hset)]
      rfl

/-- A handler whose content type cannot be written fails behind the status. -/
theorem perform_stub_of_error {text : String} (h : HeaderValue.ofText? text = none)
    (status : Status) (body : String) (flow : Flow σ) :
    flow.perform (stub status (some text) body).run =
      (.done (.error Cause.invalidHeaderValue),
        { flow with context := flow.context.setStatus status }) := by
  have hset : (flow.context.setStatus status).setContentType text =
      .error Cause.invalidHeaderValue := by
    rw [Context.setContentType, h]
  rw [perform_stub_some, perform_andThen_of_error _ (perform_edit_of_error hset)]

end Flow

/-! ### A pipeline of a handler alone -/

/-- The response is committed with a text, unless it was committed before: the status stays, and so
does a content type that was chosen. -/
structure Context.Sends (text : String) (ctx ctx' : Context) : Prop where
  committed : ctx'.isCommitted = true
  status : ctx'.response.status = ctx.response.status
  contentType : ∀ value, ctx.response.headers.get? .contentType = some value →
    ctx'.response.headers.get? .contentType = some value
  body : ctx.isCommitted = false → ctx'.response.body = text.toUTF8

/-- A text in plain is sent as it is. -/
theorem Context.sends_sentPlain (ctx : Context) (text : String) :
    ctx.Sends text (ctx.sentPlain (.text text)) where
  committed := rfl
  status := status_labelled _
  contentType _ h := label?_sentPlain h (.text text)
  body _ := rfl

/-- **A handler alone that answers a text** has it sent. -/
theorem Pipeline.exists_run_of_text {p : Pipeline σ} (hbefores : p.befores = [])
    (hafters : p.afters = []) (hrenderers : p.renderers = []) (hdetached : p.detached = false)
    {flow flow₁ : Flow σ} {text : String}
    (h : flow.perform p.handler.run = (.done (.ok (.text text)), flow₁)) (here : Option Executor) :
    ∃ ctx', p.run here flow = (.done (.ok (.text text)), { flow₁ with context := ctx' }) ∧
      flow₁.context.Sends text ctx' := by
  have hpasses : Passes p.afters.reverse (.ok (.text text)) flow₁ (.ok (.text text)) flow₁ := by
    rw [hafters]
    exact .done _ _
  rw [run, hbefores, runFrom, hdetached]
  -- a handler may run on a context that was committed before; then nothing is rendered
  cases hcommitted : flow₁.context.isCommitted with
  | true =>
      refine ⟨flow₁.context, perform_inner_eq_done_iff.2
        ⟨_, _, _, _, .returned h, hpasses, .committed _ hcommitted⟩, hcommitted, rfl,
        fun _ => id, fun hfree => ?_⟩
      cases hcommitted.symm.trans hfree
  | false =>
      refine ⟨_, perform_inner_eq_done_iff.2
        ⟨_, _, _, _, .returned h, hpasses, .written hcommitted ?_⟩, Context.sends_sentPlain _ text⟩
      rw [hrenderers]
      exact Renderer.perform_render_library hcommitted [] (.text text)

/-- A handler alone that fails fails the pipeline, and leaves its own context. -/
theorem Pipeline.run_of_error {p : Pipeline σ} (hbefores : p.befores = [])
    (hafters : p.afters = []) (hdetached : p.detached = false) {flow flow₁ : Flow σ}
    {failure : Failure} (h : flow.perform p.handler.run = (.done (.error failure), flow₁))
    (here : Option Executor) : p.run here flow = (.done (.error failure), flow₁) := by
  have hpasses : Passes p.afters.reverse (.error failure) flow₁ (.error failure) flow₁ := by
    rw [hafters]
    exact .done _ _
  rw [run, hbefores, runFrom, hdetached]
  exact perform_inner_eq_done_iff.2
    ⟨_, _, _, _, .returned h, hpasses, .failed failure flow₁⟩

/-! ### A static route -/

/-- The request is answered as the static route says: with its status, its content type if it has
one, and its body with the values of the path variables. -/
structure StaticRoute.Answers (r : StaticRoute) (bindings : Bindings) (ctx : Context)
    (d : Dispatched σ) : Prop where
  completed : d.ending = .done .completed
  committed : d.context.isCommitted = true
  status : d.context.response.status.code = r.status
  contentType : ∀ text, r.contentType = some text →
    ∃ value, d.context.response.headers.get? .contentType = some value ∧
      value.bytes = text.toUTF8.toList
  /-- the body is sent unless one was sent before the request was dispatched -/
  body : ctx.isCommitted = false → d.context.response.body = (fillIn r.body bindings).toUTF8

/-- The request fails as if the server were at fault, and nothing is sent. -/
structure Dispatched.FailsToAnswer (d : Dispatched σ) (ctx : Context) : Prop where
  failed : d.ending = .done (.failed .internalServerError Cause.invalidHeaderValue)
  committed : d.context.isCommitted = ctx.isCommitted

namespace Router

/-- A request that leads to a static route is not negotiated. -/
theorem negotiated_of_declares {router : Router σ} {scopes : ScopeStack σ} {r : StaticRoute}
    {d : Declaration σ} (hdeclares : r.Declares scopes d) {id : Nat} {route : Route (Pipeline σ)}
    (hmakes : d.Makes id route) (ctx : Context) :
    router.negotiated route.toRouteInfo ctx = (.ok (), ctx) := by
  have hproduces : route.produces = [] := by
    have htypes := hmakes.produces
    rw [hdeclares.options] at htypes
    exact List.map_eq_nil_iff.1 htypes.symm
  have hconsumes : route.consumes = [] := by
    have htypes := hmakes.consumes
    rw [hdeclares.options] at htypes
    exact List.map_eq_nil_iff.1 htypes.symm
  exact negotiated_nil router hconsumes hproduces ctx

/-- The pipeline of a static route is its handler alone. -/
theorem pipeline_of_declares {r : StaticRoute} {d : Declaration σ} (hdeclares : r.Declares {} d)
    {id : Nat} {route : Route (Pipeline σ)} (hmakes : d.Makes id route) :
    route.pipeline = { handler := d.handler } := by
  rw [hmakes.pipeline, hdeclares.placed, hdeclares.options]
  rfl

section

variable {router : Router σ} {r : StaticRoute} {d : Declaration σ} {id : Nat}
  {route : Route (Pipeline σ)} {ctx : Context} {bindings : Bindings}

/-- A static route whose content type can be written, if it has one, answers. -/
theorem answers_of_declares (hdeclares : r.Declares {} d) (hmakes : d.Makes id route)
    (hfound : router.table.resolve ctx.request.method ctx.request.path = .found route bindings)
    {written : Option HeaderValue}
    (hwritten : r.contentType.map HeaderValue.ofText? = written.map some)
    (here : Option Executor) (w : σ) : r.Answers bindings ctx (router.dispatch here ctx w) := by
  obtain ⟨status, hstatus, hhandler⟩ := hdeclares.handler
  have hpipeline := pipeline_of_declares hdeclares hmakes
  have hrun := Flow.perform_stub_of_ok hwritten status r.body
    ({ context := ctx.bind route.toRouteInfo bindings, world := w } : Flow σ)
  rw [← hhandler] at hrun
  obtain ⟨ctx', hended, hsends⟩ :=
    Pipeline.exists_run_of_text (p := { handler := d.handler }) rfl rfl rfl rfl hrun here
  rw [dispatch_of_found hfound, negotiated_of_declares hdeclares hmakes]
  dsimp only
  rw [runRoute, hpipeline, hended]
  refine ⟨rfl, hsends.committed, ?_, fun text htext => ?_, fun hfree => ?_⟩
  · dsimp only
    rw [hsends.status, Context.status_withContentType]
    exact Status.code_of_ofCode? hstatus
  · rw [htext] at hwritten
    obtain ⟨value, rfl, hvalue⟩ := Option.map_eq_some_iff.1 hwritten.symm
    exact ⟨value, hsends.contentType value (Context.get?_withContentType _ value),
      (HeaderValue.ofText?_eq_some_iff.1 hvalue.symm).2⟩
  · refine hsends.body ?_
    rw [Context.isCommitted_withContentType]
    exact hfree

/-- A static route whose content type cannot be written fails to answer. -/
theorem failsToAnswer_of_declares (hclassifier : router.classifier = {})
    (hdeclares : r.Declares {} d) (hmakes : d.Makes id route)
    (hfound : router.table.resolve ctx.request.method ctx.request.path = .found route bindings)
    {text : String} (htext : r.contentType = some text)
    (hunwritten : HeaderValue.ofText? text = none) (here : Option Executor) (w : σ) :
    (router.dispatch here ctx w).FailsToAnswer ctx := by
  obtain ⟨status, -, hhandler⟩ := hdeclares.handler
  have hpipeline := pipeline_of_declares hdeclares hmakes
  have hrun := Flow.perform_stub_of_error hunwritten status r.body
    ({ context := ctx.bind route.toRouteInfo bindings, world := w } : Flow σ)
  rw [← htext, ← hhandler] at hrun
  have hended := Pipeline.run_of_error (p := { handler := d.handler }) rfl rfl rfl hrun here
  rw [dispatch_of_found hfound, negotiated_of_declares hdeclares hmakes]
  dsimp only
  rw [runRoute, hpipeline, hended]
  refine ⟨?_, rfl⟩
  dsimp only
  rw [concluded, hclassifier]
  rfl

end

end Router

/-! ### Settings that were checked -/

/-- Each route that was checked has a content type that names a media type, if it has one. -/
theorem Settings.exists_mediaType {s : Settings} (haccepted : s.faults = []) {r : StaticRoute}
    (hr : r ∈ s.routes) {text : String} (htext : r.contentType = some text) :
    ∃ m, MediaType.ofText? text = some m := by
  have hroutes : StaticRoute.faultsFrom 0 s.routes = [] := (List.append_eq_nil_iff.1 haccepted).2
  obtain ⟨index, hfaults⟩ := StaticRoute.exists_faults_eq_nil hroutes hr
  rw [StaticRoute.faults_eq] at hfaults
  have hnone : r.contentTypeFault? index = none :=
    Option.toList_eq_nil_iff.1 (List.append_eq_nil_iff.1 hfaults).2
  rw [StaticRoute.contentTypeFault?, htext, Option.bind_some] at hnone
  cases hread : MediaType.ofText? text with
  | some m => exact ⟨m, rfl⟩
  | none =>
      rw [hread] at hnone
      cases hnone

namespace Blueprint

/-- What a router of static routes finds is what the static route at its number says. -/
theorem exists_static_of_resolve {settings : RouterSettings} {routes : List StaticRoute}
    {b : Blueprint σ} {mounted : Nat} {router : Router σ} {m : Method} {path : String}
    {route : Route (Pipeline σ)} {bindings : Bindings}
    (hmount : ({ settings } : Blueprint σ).mount routes = .ok (b, mounted))
    (hbuild : b.build = .ok router)
    (hfound : router.table.resolve m path = .found route bindings) :
    ∃ r d, routes[route.id]? = some r ∧ r.Declares {} d ∧ d.Makes route.id route ∧
      router.classifier = {} := by
  rcases mount_cases (σ := σ) settings { routes } with ⟨fault, -, herror⟩ | ⟨-, ds, hds, hok⟩
  · cases herror.symm.trans hmount
  · obtain ⟨rfl, -⟩ := Prod.mk.inj (Except.ok.inj (hok.symm.trans hmount))
    obtain ⟨d, hd, hmakes⟩ := exists_makes_of_resolve hbuild hfound
    obtain ⟨r, hr, hdeclares⟩ := exists_declares hds hd
    refine ⟨r, d, hr, hdeclares, hmakes, ?_⟩
    rw [(build_eq_ok_iff.1 hbuild).2]

/-- **When checked static routes answer as they say.** Settings in which the check finds nothing are
mounted on a fresh blueprint. If a router is built of it, each request for which it finds a route
leads to the static route at the number of that route. The request is answered with its status,
content type and body exactly if the content type has no characters that cannot be sent. If it has
one, every request fails as if the server were at fault, though the check read a media type: the
character stands around it, where the check trims blanks and drops parameters. -/
theorem dispatch_static (settings : RouterSettings) {s : Settings} (haccepted : s.faults = []) :
    ∃ b : Blueprint σ, ({ settings } : Blueprint σ).mount s.routes = .ok (b, s.routes.length) ∧
      ∀ router, b.build = .ok router → ∀ (here : Option Executor) (ctx : Context) (w : σ)
        (route : Route (Pipeline σ)) (bindings : Bindings),
        router.table.resolve ctx.request.method ctx.request.path = .found route bindings →
          ∃ r, s.routes[route.id]? = some r ∧
            (r.Answers bindings ctx (router.dispatch here ctx w) ↔
              ∀ text, r.contentType = some text → ∀ c ∈ text.toList, IsSendable c) ∧
            ∀ text, r.contentType = some text → ¬(∀ c ∈ text.toList, IsSendable c) →
              (router.dispatch here ctx w).FailsToAnswer ctx ∧
                ∃ m front named back, MediaType.ofText? text = some m ∧
                  text.toList = front ++ named ++ back ∧
                  named.map Char.toLower = m.text.toList ∧ ∃ c ∈ front ++ back, ¬IsSendable c := by
  rcases mount_cases (σ := σ) settings s with ⟨fault, hfind, -⟩ | ⟨-, ds, -, hmount⟩
  · rw [haccepted] at hfind
    cases hfind
  refine ⟨_, hmount, fun router hbuild here ctx w route bindings hfound => ?_⟩
  obtain ⟨r, d, hr, hdeclares, hmakes, hclassifier⟩ :=
    exists_static_of_resolve hmount hbuild hfound
  have hfails (text : String) (htext : r.contentType = some text)
      (hunsendable : ¬∀ c ∈ text.toList, IsSendable c) :
      (router.dispatch here ctx w).FailsToAnswer ctx := by
    have hunwritten : HeaderValue.ofText? text = none :=
      Option.eq_none_iff_forall_ne_some.2 fun value hvalue =>
        hunsendable (HeaderValue.ofText?_eq_some_iff.1 hvalue).1
    exact Router.failsToAnswer_of_declares hclassifier hdeclares hmakes hfound htext hunwritten
      here w
  refine ⟨r, hr, ⟨fun hanswers text htext => ?_, fun hsendable => ?_⟩,
    fun text htext hunsendable => ⟨hfails text htext hunsendable, ?_⟩⟩
  · -- a request that fails is not completed
    by_contra hunsendable
    have hended := (hfails text htext hunsendable).failed
    cases hanswers.completed.symm.trans hended
  · obtain ⟨written, hwritten⟩ : ∃ written : Option HeaderValue,
        r.contentType.map HeaderValue.ofText? = written.map some := by
      cases htext : r.contentType with
      | none => exact ⟨none, rfl⟩
      | some text =>
          have hvalue : HeaderValue.ofText? text = some ⟨text.toUTF8.toList⟩ :=
            HeaderValue.ofText?_eq_some_iff.2 ⟨hsendable text htext, rfl⟩
          exact ⟨some _, congrArg some hvalue⟩
    exact Router.answers_of_declares hdeclares hmakes hfound hwritten here w
  · obtain ⟨m, hm⟩ := s.exists_mediaType haccepted (List.mem_of_getElem? hr) htext
    obtain ⟨front, named, back, hparts, hnamed, hiff⟩ := MediaType.exists_around hm
    rw [hiff] at hunsendable
    push Not at hunsendable
    exact ⟨m, front, named, back, hm, hparts, hnamed, hunsendable⟩

/-- Does the router of some static routes, if there is one, find a route? -/
def finds (routes : List StaticRoute) (m : Method) (path : String) : Bool :=
  match ({} : Blueprint Unit).mount routes with
  | .error _ => false
  | .ok (b, _) =>
    match b.build with
    | .error _ => false
    | .ok router => ((router.table.trie m).find (splitPath path)).isSome

theorem exists_of_finds (routes : List StaticRoute) (m : Method) (path : String)
    (h : finds routes m path = true) :
    ∃ b router route bindings,
      ({} : Blueprint Unit).mount routes = .ok (b, routes.length) ∧ b.build = .ok router ∧
      router.table.resolve m path = .found route bindings := by
  rw [finds] at h
  rcases mount_cases (σ := Unit) {} { routes } with ⟨fault, -, herror⟩ | ⟨-, ds, -, hmount⟩
  · rw [herror] at h
    cases h
  · rw [hmount] at h
    dsimp only at h
    split at h
    · cases h
    · next router hbuild =>
      obtain ⟨⟨route, values⟩, hfind⟩ := Option.isSome_iff_exists.1 h
      exact ⟨_, router, route, _, hmount, hbuild,
        RouteTable.resolve_eq_found_iff.2 ⟨values, hfind, rfl⟩⟩

/-- A route with a content type that can be sent, parameters and all. -/
def greeting : StaticRoute :=
  { path := "/hello/\x7bname\x7d", status := 201, contentType := some "text/html; charset=utf-8"
    body := "hello \x7bname\x7d" }

/-- The greeting is answered with its own status, content type and body. -/
theorem dispatch_static_greeting :
    ∃ b router route bindings,
      ({} : Blueprint Unit).mount [greeting] = .ok (b, 1) ∧ b.build = .ok router ∧
      router.table.resolve .get "/hello/you" = .found route bindings ∧
      greeting.Answers bindings (.ofRequest { path := "/hello/you" })
        (router.dispatch none (.ofRequest { path := "/hello/you" }) ()) := by
  obtain ⟨b, router, route, bindings, hmount, hbuild, hfound⟩ :=
    exists_of_finds [greeting] .get "/hello/you" (by decide +kernel)
  have haccepted : ({ routes := [greeting] } : Settings).faults = [] := by decide +kernel
  obtain ⟨b', hmount', hdispatch⟩ := dispatch_static (σ := Unit) {} haccepted
  obtain ⟨rfl, -⟩ := Prod.mk.inj (Except.ok.inj (hmount.symm.trans hmount'))
  obtain ⟨r, hr, hanswers, -⟩ :=
    hdispatch router hbuild none (.ofRequest { path := "/hello/you" }) () route bindings hfound
  obtain rfl : r = greeting := List.mem_singleton.1 (List.mem_of_getElem? hr)
  refine ⟨b, router, route, bindings, hmount, hbuild, hfound, hanswers.2 fun text htext => ?_⟩
  obtain rfl := Option.some.inj htext
  simp [IsSendable]

/-- A route with a line break behind its media type. -/
def broken : StaticRoute :=
  { path := "/x", contentType := some "text/html\n", body := "hi" }

/-- The check accepts the line break, the router is built, and then every request fails. -/
theorem dispatch_static_broken :
    ({ routes := [broken] } : Settings).faults = [] ∧
      ∃ b router route bindings,
        ({} : Blueprint Unit).mount [broken] = .ok (b, 1) ∧ b.build = .ok router ∧
        router.table.resolve .get "/x" = .found route bindings ∧
        (router.dispatch none (.ofRequest { path := "/x" }) ()).ending =
          .done (.failed .internalServerError Cause.invalidHeaderValue) := by
  obtain ⟨b, router, route, bindings, hmount, hbuild, hfound⟩ :=
    exists_of_finds [broken] .get "/x" (by decide +kernel)
  obtain ⟨r, d, hr, hdeclares, hmakes, hclassifier⟩ :=
    exists_static_of_resolve hmount hbuild hfound
  obtain rfl : r = broken := List.mem_singleton.1 (List.mem_of_getElem? hr)
  have hunwritten : HeaderValue.ofText? "text/html\n" = none := by decide +kernel
  have hfails : (router.dispatch none (.ofRequest { path := "/x" }) ()).FailsToAnswer
      (.ofRequest { path := "/x" }) :=
    Router.failsToAnswer_of_declares hclassifier hdeclares hmakes hfound rfl hunwritten none ()
  exact ⟨by decide +kernel, b, router, route, bindings, hmount, hbuild, hfound, hfails.failed⟩

end Blueprint

end Switchyard
