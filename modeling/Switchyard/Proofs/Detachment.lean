import Switchyard.Proofs.Nesting
import Switchyard.Proofs.Sequencing
import Switchyard.Router.Blueprint
import Switchyard.Service.Server

/-!
# Detached Routes

A detached route forks the context behind the checks in front and leaves its inner segment as a
task. A panic of the task is caught at its boundary, and a failure of it is classified where
the task is waited for; in place, the one is caught and the other classified by the router. This
module shows that both ways come to the same: the caller of a detached route gets a failure of
a check at once, as in place, and every other answer of the inner segment from the task.

The two ways run the same code on contexts that differ in one thing, the mark in the route that
tells whether the route is detached. Code that looks at this mark can behave as it likes
(`Router.dispatch_detached_told`), so the comparison is one for code that does not ask for it
(`Pipeline.Ignores`). Such code runs on two contexts that differ in the mark side by side
(`Action.Ignores`), and all that the library itself runs around it does as well.

A panic whose payload cannot be dropped gets out of the router in place, and is lost with the task
of a detached route. Such a request has no answer in place that the other could be compared with.

## Main results

* `Action.sequential_ignores`: what code does not look at, an inner segment made of it does not
  look at.
* `Pipeline.run_checks`: checks in front run one after the other, and then the inner segment or its
  detachment.
* `Declaration.compile_detach`: a declaration with and without the option to detach.
* `Router.dispatch_detached`: a detached route answers as it does in place.
* `Router.dispatch_detached_told`: one whose code asks for the mark does not.
-/

namespace Switchyard

variable {σ α β : Type}

/-! ### Code that does not look at its route -/

/-- The context with a change of what is declared about its route. -/
def Context.reroute (change : RouteInfo → RouteInfo) (ctx : Context) : Context :=
  { ctx with route := ctx.route.map change }

/-- The end of an action with such a change of its context. -/
def Reached.reroute (change : RouteInfo → RouteInfo) (reached : Reached σ α) : Reached σ α :=
  { reached with context := reached.context.reroute change }

namespace Action

variable {change : RouteInfo → RouteInfo}

/-- Does the action behave alike whether or not its route is changed, and leave the route alone? -/
def Ignores (change : RouteInfo → RouteInfo) (x : Action σ α) : Prop :=
  ∀ ctx w, x (ctx.reroute change) w = (x ctx w).reroute change

theorem Ignores.bind {x : Action σ α} {f : α → Action σ β} (hx : x.Ignores change)
    (hf : ∀ a, (f a).Ignores change) : (x >>= f).Ignores change := by
  intro ctx w
  rw [bind_run, bind_run, hx ctx w]
  cases hrun : x ctx w with
  | mk ending ctx' w' =>
      cases ending with
      | done a => exact hf a ctx' w'
      | panicked p => rfl
      | stalled => rfl

theorem Ignores.guarded {x : Action σ (Except Failure α)} (hx : x.Ignores change) :
    (Action.guarded x).Ignores change := by
  intro ctx w
  rw [Action.guarded, hx ctx w]
  rfl

/-- A change of the response. -/
theorem ignores_edit {f : Context → Except Failure Context}
    (h : ∀ ctx, f (ctx.reroute change) = (f ctx).map (Context.reroute change)) :
    (edit f : Action σ _).Ignores change := by
  intro ctx w
  rw [edit, edit, h ctx]
  cases f ctx <;> rfl

end Action

namespace Context

variable (change : RouteInfo → RouteInfo)

theorem send_reroute (body : ByteArray) (ctx : Context) :
    (ctx.reroute change).send body = (ctx.send body).map (reroute change) := by
  have hcommitted : (ctx.reroute change).isCommitted = ctx.isCommitted := rfl
  rw [send, send, hcommitted]
  split <;> rfl

theorem setContentType_reroute (value : String) (ctx : Context) :
    (ctx.reroute change).setContentType value =
      (ctx.setContentType value).map (reroute change) := by
  rw [setContentType, setContentType]
  split <;> rfl

theorem setDefaultContentType_reroute (value : String) (ctx : Context) :
    (ctx.reroute change).setDefaultContentType value =
      (ctx.setDefaultContentType value).map (reroute change) := by
  have hheaders : (ctx.reroute change).response = ctx.response := rfl
  rw [setDefaultContentType, setDefaultContentType, hheaders, setContentType_reroute]
  split <;> rfl

end Context

/-- The library does not look at the route between the code of a pipeline. -/
theorem Action.sequential_ignores (change : RouteInfo → RouteInfo) :
    Action.Sequential fun α (x : Action σ α) => x.Ignores change where
  pure _ _ _ := rfl
  bind := Action.Ignores.bind
  guarded := Action.Ignores.guarded
  isCommitted _ _ := rfl
  setDefaultContentType value :=
    Action.ignores_edit (Context.setDefaultContentType_reroute change value)
  send body := Action.ignores_edit (Context.send_reroute change body)

namespace Pipeline

/-- Does no code of the pipeline look at what a change of the route changes? The filters in
front are the checks. -/
structure Ignores (change : RouteInfo → RouteInfo) (checks : List (Attempt σ Unit))
    (p : Pipeline σ) : Prop where
  checks : ∀ c ∈ checks, Action.Ignores change c.run
  inside : p.Inside fun _ => Action.Ignores change

/-! ### Checks in front -/

/-- A check in front of the rest of a pipeline. -/
theorem runFrom_check (p : Pipeline σ) (here : Option Executor) (flow : Flow σ)
    (c : Attempt σ Unit) (rest : List (Before σ)) :
    p.runFrom here flow (Before.check c :: rest) =
      match flow.perform c.run with
      | (.done (.ok ()), flow) => p.runFrom here flow rest
      | (.done (.error f), flow) => (.done (.error f), flow)
      | (.panicked e, flow) => (.panicked e, flow)
      | (.stalled, flow) => (.stalled, flow) := by
  rw [Before.check, runFrom, Flow.perform, Flow.perform, Action.bind_run]
  cases hrun : c.run flow.context flow.world with
  | mk ending ctx w =>
      cases ending with
      | panicked e => rfl
      | stalled => rfl
      | done result =>
          cases result with
          | error f => rfl
          | ok u =>
              simp only [Action.pure_run, Entry.proceed]
              cases p.runFrom here { flow with context := ctx, world := w } rest with
              | mk ending flow => cases ending <;> rfl

/-- **Checks in front run one after the other.** The first one that fails, panics or stalls ends
the run; if all succeed, the rest of the pipeline runs on what they left. -/
theorem run_checks {p : Pipeline σ} {checks : List (Attempt σ Unit)}
    (h : p.befores = checks.map Before.check) (here : Option Executor) (flow : Flow σ) :
    p.run here flow =
      match flow.perform (checks.forM id).run with
      | (.done (.ok ()), flow) => p.runFrom here flow []
      | (.done (.error f), flow) => (.done (.error f), flow)
      | (.panicked e, flow) => (.panicked e, flow)
      | (.stalled, flow) => (.stalled, flow) := by
  rw [run, h]
  clear h
  induction checks generalizing flow with
  | nil => rfl
  | cons c cs ih =>
      have hcons : (List.forM (c :: cs) id : Attempt σ Unit).run =
          c.run >>= ExceptT.bindCont fun _ => cs.forM id := rfl
      rw [List.map_cons, runFrom_check, hcons, Flow.perform_bind_run]
      cases flow.perform c.run with
      | mk ending flow₁ =>
          cases ending with
          | panicked e => rfl
          | stalled => rfl
          | done result =>
              cases result with
              | error f => rfl
              | ok u => exact ih flow₁

end Pipeline

/-! ### A route in place and detached -/

/-- What is declared about a route, with the mark that it is detached. -/
def RouteInfo.detach (info : RouteInfo) : RouteInfo :=
  { info with detached := true }

/-- The route with its inner segment left as a task, and the mark that tells so. -/
def Route.detach (route : Route (Pipeline σ)) : Route (Pipeline σ) :=
  { route.toRouteInfo.detach with pipeline := { route.pipeline with detached := true } }

/-- **The option to detach a declared route** detaches it, with the mark. -/
theorem Declaration.compile_detach {d : Declaration σ} (h : d.placed.detach = false)
    (hoption : d.options.detach = false) (id : Nat) :
    compile { d with options := { d.options with detach := true } } id =
      (d.compile id).map Route.detach := by
  rw [compile, compile]
  cases Pattern.parse d.placed.pattern with
  | error e => rfl
  | ok pattern =>
      simp only [h, hoption]
      split <;> rfl

namespace Router

/-- A task on an executor that runs: a panic of its segment is a failure, and a failure is
classified by the router. If the panic cannot be caught, the task is lost. -/
theorem await_running (r : Router σ) {segment : Attempt σ Value} {ctx ctx' : Context} {w w' : σ}
    {ending : Ending Outcome} (hrun : segment.run ctx w = ⟨ending, ctx', w'⟩) :
    r.await { executor := .running, context := ctx, segment } w =
      match ending.caught with
      | .done (.ok _) => (.done (.completed ctx'), w')
      | .done (.error f) => (.done (.failed (r.classifier.classify f) f (some ctx')), w')
      | .panicked _ =>
        (.done (.failed .internalServerError
          (Cause.plain "detached task ended without reporting") none), w')
      | .stalled => (.stalled, w') := by
  have hguarded : Action.guarded segment ctx w = ⟨ending.caught, ctx', w'⟩ := by
    have hsegment : segment ctx w = ⟨ending, ctx', w'⟩ := hrun
    rw [Action.guarded, hsegment]
  rw [await, Job.finish]
  dsimp only
  rw [hguarded]
  cases ending.caught with
  | done outcome => cases outcome <;> rfl
  | panicked e => rfl
  | stalled => rfl

/-- A route in place behind checks: the checks, then the inner segment. -/
theorem runRoute_inline (r : Router σ) {route : Route (Pipeline σ)}
    {checks : List (Attempt σ Unit)} (hchecks : route.pipeline.befores = checks.map Before.check)
    (hinline : route.pipeline.detached = false) (here : Option Executor) (ctx : Context) (w : σ) :
    r.runRoute here route ctx w =
      match (checks.forM id).run ctx w with
      | ⟨.done (.ok ()), ctx, w⟩ =>
        { ending := r.concluded none (route.pipeline.inner.run ctx w).ending
          context := (route.pipeline.inner.run ctx w).context
          world := (route.pipeline.inner.run ctx w).world }
      | ⟨.done (.error f), ctx, w⟩ =>
        { ending := r.concluded none (.done (.error f)), context := ctx, world := w }
      | ⟨.panicked p, ctx, w⟩ =>
        { ending := r.concluded none (.panicked p), context := ctx, world := w }
      | ⟨.stalled, ctx, w⟩ =>
        { ending := r.concluded none .stalled, context := ctx, world := w } := by
  rw [runRoute, Pipeline.run_checks hchecks, Flow.perform]
  cases (checks.forM id).run ctx w with
  | mk ending ctx w =>
      cases ending with
      | panicked p => rfl
      | stalled => rfl
      | done result =>
          cases result with
          | error f => rfl
          | ok u =>
              simp only [Pipeline.runFrom, hinline]
              rfl

/-- A detached route behind checks: the checks, then a task with a fork of the context. -/
theorem runRoute_detached (r : Router σ) {route : Route (Pipeline σ)}
    {checks : List (Attempt σ Unit)} (hchecks : route.pipeline.befores = checks.map Before.check)
    (ctx : Context) (w : σ) :
    r.runRoute (some .running) route.detach ctx w =
      match (checks.forM id).run ctx w with
      | ⟨.done (.ok ()), ctx, w⟩ =>
        let task : Job σ :=
          { executor := .running, context := ctx, segment := route.pipeline.inner }
        { ending := .done (.detached task), context := ctx, world := w, launched := [task] }
      | ⟨.done (.error f), ctx, w⟩ =>
        { ending := r.concluded none (.done (.error f)), context := ctx, world := w }
      | ⟨.panicked p, ctx, w⟩ =>
        { ending := r.concluded none (.panicked p), context := ctx, world := w }
      | ⟨.stalled, ctx, w⟩ =>
        { ending := r.concluded none .stalled, context := ctx, world := w } := by
  have hbefores : route.detach.pipeline.befores = checks.map Before.check := hchecks
  rw [runRoute, Pipeline.run_checks hbefores, Flow.perform]
  cases (checks.forM id).run ctx w with
  | mk ending ctx w =>
      cases ending with
      | panicked p => rfl
      | stalled => rfl
      | done result => cases result <;> rfl

/-- A request that was answered in place, `d`, and the same request with its route detached,
`d'`, have one answer. -/
structure AnswersAlike (r : Router σ) (d : Dispatched σ) (r' : Router σ) (d' : Dispatched σ) :
    Prop where
  /-- the response of the task is that in place -/
  completed : d.ending = .done .completed →
    ∃ task ctx, d'.ending = .done (.detached task) ∧
      r'.await task d'.world = (.done (.completed ctx), d.world) ∧
      ctx.response = d.context.response
  /-- the failure is known at once, and nothing was left as a task, or it is that of the task -/
  failed : ∀ status failure, d.ending = .done (.failed status failure) →
    (d'.ending = .done (.failed status failure) ∧ d'.launched = []) ∨
      ∃ task ctx, d'.ending = .done (.detached task) ∧
        r'.await task d'.world = (.done (.failed status failure (some ctx)), d.world)
  /-- the server replies the same, and leaves the same world, unless a panic got out in place -/
  reply : (∀ e, d.ending ≠ .panicked e) → Server.conclude r' d' = Server.conclude r d

theorem concluded_congr {r r' : Router σ} (h : r'.classifier = r.classifier)
    (ending : Ending Outcome) : r'.concluded none ending = r.concluded none ending := by
  rw [concluded.eq_def, concluded.eq_def, h]

/-- A task that is left to the caller is the one that the pipeline left. -/
theorem pending_of_concluded {r : Router σ} {pending : Option (Job σ)} {ending : Ending Outcome}
    {task : Job σ} (h : r.concluded pending ending = .done (.detached task)) :
    pending = some task := by
  rw [concluded.eq_def] at h
  split at h
  · cases h
  · cases h
  · cases h
  · split at h
    · cases h
      rfl
    · cases h

theorem not_detached_of_concluded (r : Router σ) (ending : Ending Outcome) :
    ¬∃ task, r.concluded none ending = .done (.detached task) := by
  rintro ⟨task, h⟩
  cases pending_of_concluded h

/-- Requests that ended with a check have one answer. -/
theorem answersAlike_of_refused {r r' : Router σ} (hclassifier : r'.classifier = r.classifier)
    (ending : Ending Outcome) (h : ∀ value, ending ≠ .done (.ok value)) (ctx ctx' : Context)
    (w : σ) :
    AnswersAlike r { ending := r.concluded none ending, context := ctx, world := w } r'
      { ending := r'.concluded none ending, context := ctx', world := w } := by
  rw [concluded_congr hclassifier, concluded.eq_def]
  cases hcaught : ending.caught with
  | stalled => exact ⟨fun h => (by cases h), fun _ _ h => (by cases h), fun _ => rfl⟩
  | panicked p => exact ⟨fun h => (by cases h), fun _ _ h => (by cases h), fun _ => rfl⟩
  | done outcome =>
      cases outcome with
      | error f => exact ⟨fun h => (by cases h), fun _ _ h => .inl ⟨h, rfl⟩, fun _ => rfl⟩
      | ok value => exact absurd (Ending.caught_eq_ok_iff.1 hcaught) (h value)

/-- The server replies to a detached request what its task comes to. -/
theorem conclude_of_await {r : Router σ} {task : Job σ} {w w' : σ} {completion : Completion}
    {ctx : Context} {launched : List (Job σ)} (h : r.await task w = (.done completion, w')) :
    Server.conclude r
        { ending := .done (.detached task), context := ctx, world := w, launched } =
      (some (.ofCompletion completion), w') := by
  rw [Server.conclude]
  dsimp only
  rw [h]

/-- An inner segment in place and as a task, on contexts that differ in what it does not look at,
has one answer. -/
theorem answersAlike_of_segment {r r' : Router σ} (hclassifier : r'.classifier = r.classifier)
    {segment : Attempt σ Value} {change : RouteInfo → RouteInfo}
    (hcode : Action.Ignores change segment.run) (ctx : Context) (w : σ) (task : Job σ)
    (htask : task = { executor := .running, context := ctx.reroute change, segment }) :
    AnswersAlike r
      { ending := r.concluded none (segment.run ctx w).ending
        context := (segment.run ctx w).context
        world := (segment.run ctx w).world } r'
      { ending := .done (.detached task), context := ctx.reroute change, world := w,
        launched := [task] } := by
  cases hrun : segment.run ctx w with
  | mk ending ctx₁ w₁ =>
      have hsegment : segment.run (ctx.reroute change) w = ⟨ending, ctx₁.reroute change, w₁⟩ := by
        rw [hcode ctx w, hrun]
        rfl
      have hawait := await_running r' hsegment
      rw [hclassifier, ← htask] at hawait
      rw [concluded.eq_def]
      cases hcaught : ending.caught with
      | stalled =>
          rw [hcaught] at hawait
          refine ⟨fun h => (by cases h), fun _ _ h => (by cases h), fun _ => ?_⟩
          rw [Server.conclude]
          dsimp only
          rw [hawait]
          rfl
      | panicked p =>
          -- in place the panic gets out, and there is nothing to compare
          exact ⟨fun h => (by cases h), fun _ _ h => (by cases h), fun h => absurd rfl (h p)⟩
      | done outcome =>
          rw [hcaught] at hawait
          cases outcome with
          | error f =>
              refine ⟨fun h => (by cases h), fun status failure h => .inr ?_, fun _ => ?_⟩
              · cases h
                exact ⟨task, _, rfl, hawait⟩
              · exact conclude_of_await hawait
          | ok value =>
              refine ⟨fun _ => ⟨task, _, rfl, hawait, rfl⟩, fun _ _ h => ?_, fun _ => ?_⟩
              · cases h
              · exact conclude_of_await hawait

/-- **A detached route answers as it does in place**, on contexts that differ in what the code of
the route does not look at. A task is left exactly if all checks succeed, and then the caller keeps
the context as they left it. -/
theorem runRoute_detach {r r' : Router σ} (hclassifier : r'.classifier = r.classifier)
    {route : Route (Pipeline σ)} {checks : List (Attempt σ Unit)}
    (hchecks : route.pipeline.befores = checks.map Before.check)
    (hinline : route.pipeline.detached = false) {change : RouteInfo → RouteInfo}
    (hcode : route.pipeline.Ignores change checks) (here : Option Executor)
    (ctx : Context) (w : σ) {d d' : Dispatched σ} (hd : d = r.runRoute here route ctx w)
    (hd' : d' = r'.runRoute (some .running) route.detach (ctx.reroute change) w) :
    AnswersAlike r d r' d' ∧
      ((∃ task, d'.ending = .done (.detached task)) ↔
        (checks.forM id).run (ctx.reroute change) w =
          ⟨.done (.ok ()), d'.context, d'.world⟩) := by
  have hforM : Action.Ignores change (checks.forM id).run :=
    (Action.sequential_ignores change).forM hcode.checks
  rw [runRoute_inline r hchecks hinline] at hd
  rw [runRoute_detached r' hchecks, hforM ctx w] at hd'
  rw [hforM ctx w]
  cases hrun : (checks.forM id).run ctx w with
  | mk ending ctx₁ w₁ =>
      rw [hrun] at hd hd'
      cases ending with
      | panicked p =>
          rw [hd, hd']
          refine ⟨answersAlike_of_refused hclassifier (.panicked p) ?_ _ _ _, ?_⟩
          · exact fun value h => by cases h
          · exact iff_of_false (not_detached_of_concluded r' (.panicked p)) fun h => by cases h
      | stalled =>
          rw [hd, hd']
          refine ⟨answersAlike_of_refused hclassifier .stalled ?_ _ _ _, ?_⟩
          · exact fun value h => by cases h
          · exact iff_of_false (not_detached_of_concluded r' .stalled) fun h => by cases h
      | done result =>
          cases result with
          | error f =>
              rw [hd, hd']
              refine ⟨answersAlike_of_refused hclassifier (.done (.error f)) ?_ _ _ _, ?_⟩
              · exact fun value h => by cases h
              · refine iff_of_false (not_detached_of_concluded r' (.done (.error f))) ?_
                exact fun h => by cases h
          | ok u =>
              rw [hd, hd']
              have hinner := (Action.sequential_ignores change).inner hcode.inside
              exact ⟨answersAlike_of_segment hclassifier hinner ctx₁ w₁ _ rfl,
                iff_of_true ⟨_, rfl⟩ rfl⟩

/-- **A detached route answers as it does in place.** Two routers classify failures alike and have
the same settings; to a request the one finds a route behind checks, and the other the same route
detached. What the one completes, the other leaves as a task that completes with an equal
response. What fails in the one fails in the other in the same way, either at once, with no task
left, or as the end of the task. The server replies the same, unless a panic gets out in place. A
task is left exactly if the request is accepted and all checks succeed, and then the caller keeps
the context as they left it. None of the code of the route looks at the mark. -/
theorem dispatch_detached {r r' : Router σ} (hclassifier : r'.classifier = r.classifier)
    (hsettings : r'.settings = r.settings) {ctx : Context} {route : Route (Pipeline σ)}
    {b : Bindings} (hroute : r.table.resolve ctx.request.method ctx.request.path = .found route b)
    (hroute' : r'.table.resolve ctx.request.method ctx.request.path = .found route.detach b)
    {checks : List (Attempt σ Unit)} (hchecks : route.pipeline.befores = checks.map Before.check)
    (hinline : route.pipeline.detached = false)
    (hcode : route.pipeline.Ignores RouteInfo.detach checks)
    (here : Option Executor) (w : σ) {d d' : Dispatched σ} (hd : d = r.dispatch here ctx w)
    (hd' : d' = r'.dispatch (some .running) ctx w) :
    AnswersAlike r d r' d' ∧
      ((∃ task, d'.ending = .done (.detached task)) ↔
        ∃ admitted, r'.negotiated route.detach.toRouteInfo ctx = (.ok (), admitted) ∧
          (checks.forM id).run (admitted.bind route.detach.toRouteInfo b) w =
            ⟨.done (.ok ()), d'.context, d'.world⟩) := by
  have hnegotiated : r'.negotiated route.detach.toRouteInfo ctx =
      r.negotiated route.toRouteInfo ctx := by
    rw [negotiated, negotiated, hsettings]
    rfl
  rw [dispatch_of_found hroute] at hd
  rw [dispatch_of_found hroute', hnegotiated] at hd'
  rw [hnegotiated]
  cases hresult : r.negotiated route.toRouteInfo ctx with
  | mk result admitted =>
      rw [hresult] at hd hd'
      cases result with
      | error status =>
          rw [hd, hd']
          refine ⟨⟨fun h => ?_, fun _ _ h => ?_, fun _ => rfl⟩, iff_of_false ?_ ?_⟩
          · cases h
          · cases h
          · rintro ⟨task, ⟨⟩⟩
          · rintro ⟨admitted, ⟨⟩, -⟩
      | ok u =>
          -- the two contexts differ in the mark and in nothing else
          obtain ⟨halike, hiff⟩ :=
            runRoute_detach hclassifier hchecks hinline hcode here _ w hd hd'
          refine ⟨halike, hiff.trans ⟨fun h => ⟨admitted, rfl, h⟩, ?_⟩⟩
          rintro ⟨admitted', heq, h⟩
          cases heq
          exact h

/-- A check that sets the status. -/
def accepting : Attempt Unit Unit :=
  Attempt.edit fun ctx => .ok (ctx.setStatus { code := 202 })

/-- A filter that sends a body whatever the outcome is. -/
def recovering : After Unit := fun _ => do
  Attempt.edit fun ctx => ctx.send "recovered".toUTF8
  return .empty

/-- A route with a check in front of a handler that panics, and a filter that recovers. -/
def recovered : Route (Pipeline Unit) :=
  { id := 0, method := .only .post, pattern := ⟨[.literal "jobs"]⟩, source := "/jobs"
    pipeline :=
      { handler := ExceptT.mk (Action.panic (.text "bug"))
        befores := [Before.check accepting]
        afters := [recovering] } }

/-- The router of one route. -/
def ofRoute (route : Route (Pipeline Unit)) : Router Unit :=
  { table := (({ policy := .replace } : RouteTable (Pipeline Unit)).insert route).1
    classifier := {}
    settings := {} }

/-- The code of the route does not look at its mark. -/
theorem ignores_recovered (change : RouteInfo → RouteInfo) :
    recovered.pipeline.Ignores change [accepting] := by
  refine ⟨fun c hc => ?_, fun _ _ => rfl, fun a ha outcome => ?_, List.forall_mem_nil _⟩
  · obtain rfl := List.mem_singleton.1 hc
    exact Action.ignores_edit (f := fun ctx => .ok (ctx.setStatus { code := 202 })) fun _ => rfl
  · obtain rfl := List.mem_singleton.1 ha
    have hsequential := Action.sequential_ignores (σ := Unit) change
    exact hsequential.andThen (hsequential.send _) fun _ => hsequential.pure _

/-- A request that the route answers. -/
def posted : Context :=
  .ofRequest { method := .post, path := "/jobs" }

/-- The caller keeps the status that the check set, and nothing is sent to it. The task sends what
the filter made of the panic. -/
theorem dispatch_detached_recovered :
    ∃ d task ctx,
      (ofRoute recovered.detach).dispatch (some .running) posted () = d ∧
      d.ending = .done (.detached task) ∧ d.context.response.status.code = 202 ∧
      d.context.isCommitted = false ∧
      (ofRoute recovered.detach).await task d.world = (.done (.completed ctx), ()) ∧
      ctx.response.status.code = 202 ∧ ctx.response.body = "recovered".toUTF8 := by
  have hclassifier : (ofRoute recovered.detach).classifier =
      (ofRoute recovered).classifier := rfl
  have hroute : (ofRoute recovered).table.resolve posted.request.method posted.request.path =
      .found recovered {} := rfl
  have hroute' : (ofRoute recovered.detach).table.resolve posted.request.method
      posted.request.path = .found recovered.detach {} := rfl
  have hchecks : recovered.pipeline.befores = [accepting].map Before.check := rfl
  obtain ⟨halike, -⟩ := dispatch_detached hclassifier rfl hroute hroute' hchecks rfl
    (ignores_recovered _) (some .running) () rfl rfl
  obtain ⟨task, ctx, hending, hawait, hresponse⟩ := halike.completed rfl
  refine ⟨_, task, ctx, rfl, hending, ?_, ?_, hawait, ?_, ?_⟩
  · rfl
  · rfl
  · rw [hresponse]
    rfl
  · rw [hresponse]
    rfl

/-- A handler that asks for the mark, and sends what it is told. -/
def telling : Attempt Unit Value := do
  let detached ← Attempt.read fun ctx => .ok (ctx.route.any (·.detached))
  Attempt.edit fun ctx => ctx.send (if detached then "later" else "now").toUTF8
  return .empty

/-- The declaration of a route with this handler. -/
def toldDeclaration (detach : Bool) : Declaration Unit :=
  { method := .only .post
    placed := { pattern := "/jobs", filters := [], renderers := [], detach := false }
    handler := telling, options := { detach } }

/-- The route that it makes in place. -/
def told : Route (Pipeline Unit) :=
  { id := 0, method := .only .post, pattern := ⟨[.literal "jobs"]⟩, source := "/jobs"
    pipeline := .compose telling [] [] false }

/-- **A route whose code asks for the mark answers with another body when it is detached.** Without
any executor, a detached route does not answer at all. -/
theorem dispatch_detached_told :
    (toldDeclaration false).compile 0 = .ok told ∧
      (toldDeclaration true).compile 0 = .ok told.detach ∧
      ((ofRoute told).dispatch (some .running) posted ()).ending = .done .completed ∧
      ((ofRoute told).dispatch (some .running) posted ()).context.response.body = "now".toUTF8 ∧
      (∃ task ctx,
        ((ofRoute told.detach).dispatch (some .running) posted ()).ending = .done (.detached task) ∧
        (ofRoute told.detach).await task () = (.done (.completed ctx), ()) ∧
        ctx.response.body = "later".toUTF8) ∧
      "now".toUTF8 ≠ "later".toUTF8 ∧
      ((ofRoute told).dispatch none posted ()).ending = .done .completed ∧
      ((ofRoute told.detach).dispatch none posted ()).ending =
        .done (.failed .internalServerError Cause.noExecutor) := by
  have hcompile : (toldDeclaration false).compile 0 = .ok told := by
    have hpattern : Pattern.parse "/jobs" = .ok ⟨[.literal "jobs"]⟩ := rfl
    have hplaced : (toldDeclaration false).placed.pattern = "/jobs" := rfl
    rw [Declaration.compile, hplaced, hpattern]
    rfl
  have hdetached : (toldDeclaration true).compile 0 = .ok told.detach := by
    have hoption := Declaration.compile_detach (d := toldDeclaration false) rfl rfl 0
    rw [hcompile] at hoption
    exact hoption
  exact ⟨hcompile, hdetached, rfl, rfl, ⟨_, _, rfl, rfl, rfl⟩, by decide +kernel, rfl, rfl⟩

end Router

end Switchyard
