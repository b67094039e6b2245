import Switchyard.Proofs.Detachment
import Switchyard.Proofs.Dismissing
import Switchyard.Proofs.Unwinding

/-!
# Containment of Panics

A task whose code panics comes to an end like any other (`Router.await_ne_panicked`), and so does a
dispatch whose code panics, as far as what it panics with can be dropped
(`Router.dispatch_eq_panicked_iff`). So with code that ends or panics they do come to an end
(`Router.exists_dispatch`, `Router.exists_await`). What is left is to say as what a panic comes out.
`Pipeline.StopsPanics` says it of the boundaries within a pipeline, and `Router.StopsPanics` of the
router and of tasks.

Two kinds of code are not held up by the boundaries. A filter can look at how the rest ended, and
then it is left with a panic as well. And a payload can panic when it is dropped, which every
boundary does outside of its own guard.

## Main results

* `Pipeline.runFrom_ne_stalled`: a pipeline whose code ends or panics does not stall.
* `Pipeline.quiet_of_unwinds`: what gets out of a pipeline can be dropped if all that its code
  panics with can.
* `Router.dispatch_eq_panicked_iff`: which panics get out of a router.
* `Router.segment_of_dispatch`: a task is the inner segment of a detached route.
* `Router.panics_contained`: panics are contained, and are failures at the nearest boundary.
* `Router.panics_uncontained`: code that catches panics itself, or that panics with what cannot be
  dropped.
-/

namespace Switchyard

variable {σ α β : Type}

/-! ### Code that ends or panics -/

namespace Action

/-- Does the action end or panic, whatever it is run on? -/
def Settles (x : Action σ α) : Prop :=
  ∀ ctx w, (x ctx w).ending ≠ .stalled

theorem Ends.settles {x : Action σ α} (hx : x.Ends) : x.Settles := by
  intro ctx w hstalled
  obtain ⟨a, ha⟩ := hx ctx w
  cases ha.symm.trans hstalled

theorem Settles.bind {x : Action σ α} {f : α → Action σ β} (hx : x.Settles)
    (hf : ∀ a, (f a).Settles) : (x >>= f).Settles := by
  intro ctx w
  have hfirst := hx ctx w
  rw [bind_run]
  cases hrun : x ctx w with
  | mk ending ctx' w' =>
      rw [hrun] at hfirst
      cases ending with
      | done a => exact hf a ctx' w'
      | panicked p =>
          intro h
          cases h
      | stalled => exact absurd rfl hfirst

theorem Settles.guarded {x : Action σ (Except Failure α)} (hx : x.Settles) :
    (Action.guarded x).Settles := by
  intro ctx w h
  exact hx ctx w (Ending.caught_eq_stalled_iff.1 h)

/-- The library does not stall between the code of a pipeline. -/
theorem sequential_settles : Sequential fun α (x : Action σ α) => x.Settles where
  pure _ := (sequential_ends.pure _).settles
  bind := Settles.bind
  guarded := Settles.guarded
  isCommitted := sequential_ends.isCommitted.settles
  setDefaultContentType value := (sequential_ends.setDefaultContentType value).settles
  send body := (sequential_ends.send body).settles

/-- Can all be dropped that the action panics with? -/
def Calm (x : Action σ α) : Prop :=
  ∀ ctx w e, (x ctx w).ending = .panicked e → e.dropped? = none

theorem Ends.calm {x : Action σ α} (hx : x.Ends) : x.Calm := by
  intro ctx w e hpanicked
  obtain ⟨a, ha⟩ := hx ctx w
  cases ha.symm.trans hpanicked

theorem Calm.bind {x : Action σ α} {f : α → Action σ β} (hx : x.Calm) (hf : ∀ a, (f a).Calm) :
    (x >>= f).Calm := by
  intro ctx w e
  have hfirst := hx ctx w e
  rw [bind_run]
  cases hrun : x ctx w with
  | mk ending ctx' w' =>
      rw [hrun] at hfirst
      cases ending with
      | done a => exact hf a ctx' w' e
      | panicked p =>
          intro h
          cases h
          exact hfirst rfl
      | stalled =>
          intro h
          cases h

theorem Calm.guarded {x : Action σ (Except Failure α)} (hx : x.Calm) :
    (Action.guarded x).Calm := by
  intro ctx w next hpanicked
  obtain ⟨e, hpanic, hdropped⟩ := guarded_eq_panicked_iff.1 hpanicked
  cases (hx ctx w e hpanic).symm.trans hdropped

/-- The library does not panic between the code of a pipeline. -/
theorem sequential_calm : Sequential fun α (x : Action σ α) => x.Calm where
  pure _ := (sequential_ends.pure _).calm
  bind := Calm.bind
  guarded := Calm.guarded
  isCommitted := sequential_ends.isCommitted.calm
  setDefaultContentType value := (sequential_ends.setDefaultContentType value).calm
  send body := (sequential_ends.send body).calm

end Action

/-- Does a filter in front end or panic, on the way in and, unless the rest stalls, on the way
out? -/
def Before.Settles : Before σ → Prop
  | .around enter => Action.Settles enter ∧
      ∀ ctx w leave, (enter ctx w).ending = .done (.watch leave) →
        ∀ ending, ending ≠ .stalled → Action.Settles (leave ending).run
  | .offload _ => True

/-- Can all be dropped that a filter in front panics with, on the way in and, unless the rest panics
with what cannot, on the way out? -/
def Before.Calm : Before σ → Prop
  | .around enter => Action.Calm enter ∧
      ∀ ctx w leave, (enter ctx w).ending = .done (.watch leave) →
        ∀ ending, (∀ e, ending = .panicked e → e.dropped? = none) →
          Action.Calm (leave ending).run
  | .offload _ => True

namespace Pipeline

/-- Does all code of the pipeline end or panic? -/
structure Settles (p : Pipeline σ) : Prop where
  inside : p.Inside fun _ => Action.Settles
  befores : ∀ b ∈ p.befores, b.Settles

/-- Can all be dropped that the code of the pipeline panics with? -/
structure Calm (p : Pipeline σ) : Prop where
  inside : p.Inside fun _ => Action.Calm
  befores : ∀ b ∈ p.befores, b.Calm

/-- A pipeline whose code ends or panics does not stall. -/
theorem runFrom_ne_stalled {p : Pipeline σ} (hinside : p.Inside fun _ => Action.Settles)
    {befores : List (Before σ)} (hbefores : ∀ b ∈ befores, b.Settles) (here : Option Executor)
    (flow : Flow σ) : (p.runFrom here flow befores).1 ≠ .stalled := by
  induction befores generalizing here flow with
  | nil =>
      intro h
      rw [runFrom] at h
      split at h
      · cases here <;> cases h
      · exact Action.sequential_settles.inner hinside _ _ h
  | cons b rest ih =>
      intro h
      have hb := hbefores b List.mem_cons_self
      have hrest := ih fun c hc => hbefores c (List.mem_cons_of_mem b hc)
      cases b with
      | offload executor =>
          cases executor with
          | shutDown => cases h
          | running =>
              rw [runFrom] at h
              split at h
              · cases h
              · next hrun =>
                have hstalled := Ending.caught_eq_stalled_iff.1 h
                rw [← hstalled] at hrest
                exact hrest (some .running) flow (congrArg Prod.fst hrun)
      | around enter =>
          rw [runFrom] at h
          split at h
          · cases h
          · next hrun => exact hb.1 _ _ (congrArg Prod.fst hrun)
          · cases h
          · next leave flow₁ hrun =>
            exact hb.2 _ _ leave (congrArg Prod.fst hrun) _ (hrest here flow₁) _ _ h

/-- What gets out of a pipeline can be dropped if all that its code panics with can. -/
theorem quiet_of_unwinds {p : Pipeline σ} (hinside : p.Inside fun _ => Action.Calm)
    {here : Option Executor} {befores : List (Before σ)} {flow flow' : Flow σ} {e : Payload}
    (hbefores : ∀ b ∈ befores, b.Calm) (h : p.Unwinds here flow befores e flow') :
    e.dropped? = none := by
  induction h with
  | inner _ hinner =>
      have hpanic := perform_inner_eq_panicked_iff.2 hinner
      exact Action.sequential_calm.inner hinside _ _ _ (congrArg Prod.fst hpanic)
  | entering henter =>
      obtain ⟨hb, -⟩ := List.forall_mem_cons.1 hbefores
      exact hb.1 _ _ _ (congrArg Prod.fst henter)
  | leaving henter _ hending hleave =>
      obtain ⟨hb, -⟩ := List.forall_mem_cons.1 hbefores
      exact hb.2 _ _ _ (congrArg Prod.fst henter) _ (fun e h => absurd h (hending e)) _ _ _
        (congrArg Prod.fst hleave)
  | through henter _ hleave ih =>
      obtain ⟨hb, hrest⟩ := List.forall_mem_cons.1 hbefores
      refine hb.2 _ _ _ (congrArg Prod.fst henter) _ (fun e h => ?_) _ _ _
        (congrArg Prod.fst hleave)
      cases h
      exact ih hrest
  | dropping _ hdropped ih =>
      obtain ⟨-, hrest⟩ := List.forall_mem_cons.1 hbefores
      cases (ih hrest).symm.trans hdropped

/-- A task that a pipeline leaves is its inner segment. -/
theorem segment_of_pending {p : Pipeline σ} {here : Option Executor} {befores : List (Before σ)}
    {flow : Flow σ} {task : Job σ} (h : (p.runFrom here flow befores).2.pending = some task) :
    flow.pending = some task ∨ p.detached = true ∧ task.segment = p.inner := by
  induction befores generalizing here flow with
  | nil =>
      rw [runFrom] at h
      split at h
      · next hdetached =>
        cases here with
        | none => exact .inl h
        | some executor =>
            cases h
            exact .inr ⟨hdetached, rfl⟩
      · exact .inl h
  | cons b rest ih =>
      cases b with
      | offload executor =>
          cases executor with
          | shutDown => cases h
          | running =>
              rw [runFrom] at h
              split at h
              · next hrun =>
                have hmoved : (p.runFrom (some .running) flow rest).2.pending = some task := by
                  rw [hrun]
                  exact h
                exact ih hmoved
              · cases h
      | around enter =>
          have hkept {flow₁ : Flow σ} {ending : Ending (Entry σ)}
              (hrun : flow.perform enter = (ending, flow₁)) : flow₁.pending = flow.pending := by
            obtain rfl := congrArg Prod.snd hrun
            rfl
          rw [runFrom] at h
          split at h
          · next hrun => exact .inl ((hkept hrun).symm.trans h)
          · next hrun => exact .inl ((hkept hrun).symm.trans h)
          · next hrun => exact .inl ((hkept hrun).symm.trans h)
          · next leave flow₁ hrun =>
            have hrest : (p.runFrom here flow₁ rest).2.pending = some task := h
            rw [← hkept hrun]
            exact ih hrest

/-- What becomes of panics in a pipeline. -/
structure StopsPanics (p : Pipeline σ) : Prop where
  /-- a panic of the handler is a failure, and the inner segment goes on with it -/
  handler : ∀ {flow flow₁ : Flow σ} {e : Payload},
    flow.perform p.handler.run = (.panicked e, flow₁) → e.dropped? = none →
      flow.perform p.inner.run = flow₁.perform
        { p with handler := Attempt.fail (Cause.panicked e.message) }.inner.run
  /-- the inner segment comes to its end exactly if all filters on the outcome do, which are given
  what the handler left, and then the rendering -/
  ends : ∀ {flow flow' : Flow σ} {outcome : Outcome},
    flow.perform p.inner.run = (.done outcome, flow') ↔
      ∃ outcome₁ flow₁ outcome₂ flow₂, Handled p.handler flow outcome₁ flow₁ ∧
        Passes p.afters.reverse outcome₁ flow₁ outcome₂ flow₂ ∧
          Rendered p.renderers outcome₂ flow₂ outcome flow'
  /-- any other panic of the inner segment ends it, on the flow that the panic left -/
  inner : ∀ {flow flow' : Flow σ} {e : Payload},
    flow.perform p.inner.run = (.panicked e, flow') ↔ p.InnerUnwinds flow e flow'
  /-- a panic ends everything around it up to the next filter that offloads, or that looks at it -/
  befores : ∀ {here : Option Executor} {befores : List (Before σ)} {flow flow' : Flow σ}
    {e : Payload},
    p.runFrom here flow befores = (.panicked e, flow') ↔ p.Unwinds here flow befores e flow'
  /-- a filter that lets panics pass does not run behind one -/
  passing : ∀ {here : Option Executor} {enter : Action σ (Entry σ)} {leave : After σ}
    {rest : List (Before σ)} {flow flow₁ flow₂ : Flow σ} {e : Payload},
    flow.perform enter = (.done (.proceed leave), flow₁) → p.Unwinds here flow₁ rest e flow₂ →
      p.runFrom here flow (.around enter :: rest) = (.panicked e, flow₂)
  /-- a filter that looks at panics is left with the panic, and goes on as it likes -/
  watching : ∀ {here : Option Executor} {enter : Action σ (Entry σ)}
    {leave : Ending Outcome → Attempt σ Value} {rest : List (Before σ)}
    {flow flow₁ flow₂ : Flow σ} {e : Payload},
    flow.perform enter = (.done (.watch leave), flow₁) → p.Unwinds here flow₁ rest e flow₂ →
      p.runFrom here flow (.around enter :: rest) = flow₂.perform (leave (.panicked e)).run
  /-- filters around one that offloads see the panic as a failure -/
  offload : ∀ {outer : List (Filter σ)} {rest : List (Before σ)} {exits : List (After σ)}
    {e : Payload} {outcome : Outcome} {flow flow₁ flow₂ flow' : Flow σ},
    Entered outer flow exits none flow₁ → p.Unwinds (some .running) flow₁ rest e flow₂ →
      e.dropped? = none →
        Passes exits (.error (Cause.panicked e.message)) flow₂.lost outcome flow' →
          ∀ here, p.runFrom here flow (beforesOf outer ++ .offload .running :: rest) =
            (.done outcome, flow')

theorem stopsPanics (p : Pipeline σ) : p.StopsPanics where
  handler := perform_inner_of_panicked
  ends := perform_inner_eq_done_iff
  inner := perform_inner_eq_panicked_iff
  befores := runFrom_eq_panicked_iff
  passing := runFrom_proceed_of_unwinds
  watching := runFrom_watch_of_unwinds
  offload hentered hunwinds hquiet hexits :=
    runFrom_of_entered hentered (runFrom_offload_of_unwinds hunwinds hquiet) hexits

end Pipeline

/-! ### The router -/

namespace Job

theorem finish_ne_panicked (task : Job σ) (w : σ) (e : Payload) :
    (task.finish w).1 ≠ .panicked e := by
  rcases task with ⟨- | -, ctx, segment⟩
  · intro h
    rw [finish] at h
    dsimp only at h
    split at h <;> cases h
  · intro h
    cases h

theorem finish_ne_stalled {task : Job σ} (hsegment : Action.Settles task.segment.run) (w : σ) :
    (task.finish w).1 ≠ .stalled := by
  rcases task with ⟨- | -, ctx, segment⟩
  · have hguarded := hsegment.guarded ctx w
    intro h
    rw [finish] at h
    dsimp only at h
    split at h
    · cases h
    · cases h
    · next hrun => exact hguarded (congrArg Reached.ending hrun)
  · intro h
    cases h

end Job

namespace Router

/-- A router panics with what comes of dropping what a panic of the pipeline carries. -/
theorem concluded_eq_panicked_iff {r : Router σ} {pending : Option (Job σ)}
    {ending : Ending Outcome} {next : Payload} :
    r.concluded pending ending = .panicked next ↔
      ∃ e, ending = .panicked e ∧ e.dropped? = some next := by
  rw [← Ending.caught_eq_panicked_iff, concluded.eq_def]
  cases ending.caught with
  | stalled => simp
  | panicked e => simp
  | done outcome =>
      cases outcome with
      | error failure => simp
      | ok value => cases pending <;> simp

theorem concluded_ne_stalled (r : Router σ) (pending : Option (Job σ)) {ending : Ending Outcome}
    (hending : ending ≠ .stalled) : r.concluded pending ending ≠ .stalled := by
  intro h
  rw [concluded.eq_def] at h
  split at h
  · next hcaught => exact hending (Ending.caught_eq_stalled_iff.1 hcaught)
  · cases h
  · cases h
  · split at h <;> cases h

/-- A dispatch to a route concludes the run of its pipeline. -/
theorem dispatch_of_run {r : Router σ} {here : Option Executor} {ctx admitted : Context} {w : σ}
    {route : Route (Pipeline σ)} {b : Bindings} {ending : Ending Outcome} {flow : Flow σ}
    (hfound : r.table.resolve ctx.request.method ctx.request.path = .found route b)
    (hadmitted : r.negotiated route.toRouteInfo ctx = (.ok (), admitted))
    (hrun : route.pipeline.run here { context := admitted.bind route.toRouteInfo b, world := w } =
      (ending, flow)) :
    r.dispatch here ctx w =
      { ending := r.concluded flow.pending ending
        context := flow.context, world := flow.world, launched := flow.launched } := by
  rw [dispatch_of_found hfound, hadmitted]
  dsimp only
  rw [runRoute, hrun]

/-- **Which panics get out of a dispatch**: those that come of dropping what a panic carries that
nothing caught before. -/
theorem dispatch_eq_panicked_iff {r : Router σ} {here : Option Executor} {ctx : Context} {w : σ}
    {next : Payload} :
    (r.dispatch here ctx w).ending = .panicked next ↔
      ∃ route b admitted e flow,
        r.table.resolve ctx.request.method ctx.request.path = .found route b ∧
          r.negotiated route.toRouteInfo ctx = (.ok (), admitted) ∧
            route.pipeline.Unwinds here
              { context := admitted.bind route.toRouteInfo b, world := w }
              route.pipeline.befores e flow ∧
            e.dropped? = some next := by
  constructor
  · intro h
    cases hdismisses : r.dismisses ctx with
    | some d =>
        rw [dispatch_of_dismisses hdismisses] at h
        cases h
    | none =>
        obtain ⟨route, b, admitted, hfound, hadmitted⟩ := exists_admitted hdismisses
        rw [dispatch_of_found hfound, hadmitted] at h
        obtain ⟨e, hpanic, hdropped⟩ := concluded_eq_panicked_iff.1 h
        exact ⟨route, b, admitted, e, _, hfound, hadmitted,
          Pipeline.runFrom_eq_panicked_iff.1 (Prod.ext hpanic rfl), hdropped⟩
  · rintro ⟨route, b, admitted, e, flow, hfound, hadmitted, hunwinds, hdropped⟩
    rw [dispatch_of_run hfound hadmitted (Pipeline.runFrom_eq_panicked_iff.2 hunwinds)]
    exact concluded_eq_panicked_iff.2 ⟨e, rfl, hdropped⟩

/-- No panic gets out of a dispatch to a route whose code panics with what can be dropped. -/
theorem dispatch_ne_panicked {r : Router σ} {ctx : Context}
    (hcalm : ∀ route b, r.table.resolve ctx.request.method ctx.request.path = .found route b →
      route.pipeline.Calm) (here : Option Executor) (w : σ) (e : Payload) :
    (r.dispatch here ctx w).ending ≠ .panicked e := by
  intro h
  obtain ⟨route, b, admitted, e₁, flow, hfound, -, hunwinds, hdropped⟩ :=
    dispatch_eq_panicked_iff.1 h
  have hcode := hcalm route b hfound
  cases (Pipeline.quiet_of_unwinds hcode.inside hcode.befores hunwinds).symm.trans hdropped

/-- No panic gets out of a task that is waited for. -/
theorem await_ne_panicked (r : Router σ) (task : Job σ) (w : σ) (e : Payload) :
    (r.await task w).1 ≠ .panicked e := by
  intro h
  rw [await] at h
  split at h
  · cases h
  · next p _ hrun => exact task.finish_ne_panicked w p (congrArg Prod.fst hrun)
  · cases h
  · cases h
  · cases h

/-- A task whose segment ends or panics comes to its end. -/
theorem exists_await {task : Job σ} (hsegment : Action.Settles task.segment.run) (r : Router σ)
    (w : σ) : ∃ completion w', r.await task w = (.done completion, w') := by
  have hpanicked := r.await_ne_panicked task w
  cases hawait : r.await task w with
  | mk ending w' =>
      rw [hawait] at hpanicked
      cases ending with
      | done completion => exact ⟨completion, w', rfl⟩
      | panicked e => exact absurd rfl (hpanicked e)
      | stalled =>
          rw [await] at hawait
          split at hawait
          · next hrun => exact absurd (congrArg Prod.fst hrun) (Job.finish_ne_stalled hsegment w)
          · cases hawait
          · cases hawait
          · cases hawait
          · cases hawait

/-- A request whose route, if there is one, has code that ends or panics is answered, as far as what
it panics with can be dropped. -/
theorem exists_dispatch {r : Router σ} {ctx : Context}
    (hcode : ∀ route b, r.table.resolve ctx.request.method ctx.request.path = .found route b →
      route.pipeline.Settles ∧ route.pipeline.Calm) (here : Option Executor) (w : σ) :
    ∃ d, (r.dispatch here ctx w).ending = .done d := by
  have hpanicked := dispatch_ne_panicked (fun route b h => (hcode route b h).2) here w
  cases hdispatch : (r.dispatch here ctx w).ending with
  | done d => exact ⟨d, rfl⟩
  | panicked e => exact absurd hdispatch (hpanicked e)
  | stalled =>
      cases hdismisses : r.dismisses ctx with
      | some d =>
          rw [dispatch_of_dismisses hdismisses] at hdispatch
          cases hdispatch
      | none =>
          obtain ⟨route, b, admitted, hfound, hadmitted⟩ := exists_admitted hdismisses
          obtain ⟨hinside, hbefores⟩ := (hcode route b hfound).1
          rw [dispatch_of_found hfound, hadmitted] at hdispatch
          refine absurd hdispatch (concluded_ne_stalled r _ ?_)
          exact Pipeline.runFrom_ne_stalled hinside hbefores here _

/-- A task that is left to the caller is the inner segment of the route that was found. -/
theorem segment_of_dispatch {r : Router σ} {here : Option Executor} {ctx : Context} {w : σ}
    {task : Job σ} (h : (r.dispatch here ctx w).ending = .done (.detached task)) :
    ∃ route b, r.table.resolve ctx.request.method ctx.request.path = .found route b ∧
      route.pipeline.detached = true ∧ task.segment = route.pipeline.inner := by
  cases hdismisses : r.dismisses ctx with
  | some d =>
      rw [dispatch_of_dismisses hdismisses] at h
      cases d <;> cases h
  | none =>
      obtain ⟨route, b, admitted, hfound, hadmitted⟩ := exists_admitted hdismisses
      rw [dispatch_of_found hfound, hadmitted] at h
      rcases Pipeline.segment_of_pending (pending_of_concluded h) with hnone | htask
      · cases hnone
      · exact ⟨route, b, hfound, htask⟩

/-- What becomes of panics behind a router. -/
structure StopsPanics (r : Router σ) : Prop where
  /-- a panic gets out of a dispatch exactly if it comes of dropping what another one carries, that
  nothing caught before -/
  escapes : ∀ {here : Option Executor} {ctx : Context} {w : σ} {next : Payload},
    (r.dispatch here ctx w).ending = .panicked next ↔
      ∃ route b admitted e flow,
        r.table.resolve ctx.request.method ctx.request.path = .found route b ∧
          r.negotiated route.toRouteInfo ctx = (.ok (), admitted) ∧
            route.pipeline.Unwinds here
              { context := admitted.bind route.toRouteInfo b, world := w }
              route.pipeline.befores e flow ∧
            e.dropped? = some next
  /-- so none does where code panics with what can be dropped, whatever else it does -/
  dispatch : ∀ {ctx : Context},
    (∀ route b, r.table.resolve ctx.request.method ctx.request.path = .found route b →
      route.pipeline.Calm) →
        ∀ (here : Option Executor) (w : σ) (e : Payload),
          (r.dispatch here ctx w).ending ≠ .panicked e
  /-- no panic at all gets out of a task -/
  await : ∀ (task : Job σ) (w : σ) (e : Payload), (r.await task w).1 ≠ .panicked e
  /-- where code ends, or panics with what can be dropped, a request is answered -/
  answers : ∀ {ctx : Context},
    (∀ route b, r.table.resolve ctx.request.method ctx.request.path = .found route b →
      route.pipeline.Settles ∧ route.pipeline.Calm) →
        ∀ (here : Option Executor) (w : σ), ∃ d, (r.dispatch here ctx w).ending = .done d
  /-- and where it ends or panics in any way, a task of it comes to its end -/
  waits : ∀ {here : Option Executor} {ctx : Context} {w : σ} {task : Job σ},
    (∀ route b, r.table.resolve ctx.request.method ctx.request.path = .found route b →
      route.pipeline.Settles) →
        (r.dispatch here ctx w).ending = .done (.detached task) →
          ∀ w', ∃ completion w'', r.await task w' = (.done completion, w'')
  /-- a panic that nothing caught before is a failure with the text of the panic, on the flow that
  it left, and its status is that of the classifier -/
  boundary : ∀ {here : Option Executor} {ctx admitted : Context} {w : σ}
    {route : Route (Pipeline σ)} {b : Bindings} {e : Payload} {flow : Flow σ},
    r.table.resolve ctx.request.method ctx.request.path = .found route b →
      r.negotiated route.toRouteInfo ctx = (.ok (), admitted) →
        route.pipeline.Unwinds here { context := admitted.bind route.toRouteInfo b, world := w }
          route.pipeline.befores e flow → e.dropped? = none →
            r.dispatch here ctx w =
              { ending := .done (.failed (r.classifier.classify (Cause.panicked e.message))
                  (Cause.panicked e.message))
                context := flow.context, world := flow.world, launched := flow.launched }
  /-- and so is a failure, of a panic or not, that no code recovered -/
  unrecovered : ∀ {here : Option Executor} {ctx admitted : Context} {w : σ}
    {route : Route (Pipeline σ)} {b : Bindings} {failure : Failure} {flow : Flow σ},
    r.table.resolve ctx.request.method ctx.request.path = .found route b →
      r.negotiated route.toRouteInfo ctx = (.ok (), admitted) →
        route.pipeline.run here { context := admitted.bind route.toRouteInfo b, world := w } =
            (.done (.error failure), flow) →
          r.dispatch here ctx w =
            { ending := .done (.failed (r.classifier.classify failure) failure)
              context := flow.context, world := flow.world, launched := flow.launched }
  /-- a task is the inner segment of its route -/
  task : ∀ {here : Option Executor} {ctx : Context} {w : σ} {task : Job σ},
    (r.dispatch here ctx w).ending = .done (.detached task) →
      ∃ route b, r.table.resolve ctx.request.method ctx.request.path = .found route b ∧
        route.pipeline.detached = true ∧ task.segment = route.pipeline.inner
  /-- a panic of a task is a failure of it, with the context that the panic left -/
  taskBoundary : ∀ {p : Pipeline σ} {task : Job σ} {w : σ} {e : Payload} {flow : Flow σ},
    task.executor = .running → task.segment = p.inner →
      p.InnerUnwinds { context := task.context, world := w } e flow → e.dropped? = none →
        r.await task w =
          (.done (.failed (r.classifier.classify (Cause.panicked e.message))
            (Cause.panicked e.message) (some flow.context)), flow.world)
  /-- one that cannot be dropped takes the task and its context with it -/
  taskLost : ∀ {p : Pipeline σ} {task : Job σ} {w : σ} {e next : Payload} {flow : Flow σ},
    task.executor = .running → task.segment = p.inner →
      p.InnerUnwinds { context := task.context, world := w } e flow → e.dropped? = some next →
        r.await task w =
          (.done (.failed .internalServerError
            (Cause.plain "detached task ended without reporting") none), flow.world)
  /-- a failure of a task, of a panic of the handler or not, that no code recovered -/
  taskUnrecovered : ∀ {p : Pipeline σ} {task : Job σ} {w : σ} {failure : Failure}
    {flow : Flow σ},
    task.executor = .running → task.segment = p.inner →
      ({ context := task.context, world := w } : Flow σ).perform p.inner.run =
          (.done (.error failure), flow) →
        r.await task w =
          (.done (.failed (r.classifier.classify failure) failure (some flow.context)), flow.world)

/-- A task whose segment panics, waited for. -/
theorem await_of_innerUnwinds (r : Router σ) {p : Pipeline σ} {task : Job σ} {w : σ} {e : Payload}
    {flow : Flow σ} (hexecutor : task.executor = .running) (hsegment : task.segment = p.inner)
    (h : p.InnerUnwinds { context := task.context, world := w } e flow) :
    r.await task w =
      match e.dropped? with
      | none =>
        (.done (.failed (r.classifier.classify (Cause.panicked e.message))
          (Cause.panicked e.message) (some flow.context)), flow.world)
      | some _ =>
        (.done (.failed .internalServerError
          (Cause.plain "detached task ended without reporting") none), flow.world) := by
  obtain ⟨executor, ctx, segment⟩ := task
  obtain rfl : executor = .running := hexecutor
  obtain rfl : segment = p.inner := hsegment
  rw [await_running r (Flow.run_of_perform (Pipeline.perform_inner_eq_panicked_iff.2 h))]
  cases hdropped : e.dropped? with
  | none => rw [Ending.caught_of_quiet hdropped]
  | some next => rw [Ending.caught_of_dropped hdropped]

/-- A router stops panics. -/
theorem stopsPanics (r : Router σ) : r.StopsPanics where
  escapes := dispatch_eq_panicked_iff
  dispatch := dispatch_ne_panicked
  await := r.await_ne_panicked
  answers := exists_dispatch
  waits := by
    intro here ctx w task hcode hdetached
    obtain ⟨route, b, hfound, -, hsegment⟩ := segment_of_dispatch hdetached
    refine exists_await ?_ r
    rw [hsegment]
    exact Action.sequential_settles.inner (hcode route b hfound).inside
  boundary hfound hadmitted hunwinds hquiet := by
    rw [dispatch_of_run hfound hadmitted (Pipeline.runFrom_eq_panicked_iff.2 hunwinds),
      concluded.eq_def, Ending.caught_of_quiet hquiet]
  unrecovered hfound hadmitted hrun := dispatch_of_run hfound hadmitted hrun
  task := segment_of_dispatch
  taskBoundary hexecutor hsegment hunwinds hquiet := by
    rw [await_of_innerUnwinds r hexecutor hsegment hunwinds, hquiet]
  taskLost hexecutor hsegment hunwinds hdropped := by
    rw [await_of_innerUnwinds r hexecutor hsegment hunwinds, hdropped]
  taskUnrecovered := by
    rintro p ⟨executor, ctx, segment⟩ w failure flow rfl rfl hrun
    exact await_running r (Flow.run_of_perform hrun)

/-- **Panics are contained, and surface at the nearest boundary.** In every pipeline a panic of the
handler is a failure that goes through all filters on the outcome, each on what the one before it
left. Any other panic ends everything between the code that panicked and the nearest boundary,
which is a filter that offloads, a task, the router, or a filter that looks at panics itself; at the
first three it is a failure, with the text of the panic. This is so as far as what is panicked with
can be dropped. If it cannot, the panic that comes of dropping it goes on to the next boundary, and
out of the router in the end, or the task is lost. No panic gets out of a task, and what nobody
recovers is a failure with the status of the classifier. -/
theorem panics_contained (r : Router σ) :
    (∀ text, (Payload.text text).message = text) ∧
      (∀ e : Payload, (∀ text, e ≠ .text text) → e.message = "non-string panic payload") ∧
      (∀ p : Pipeline σ, p.StopsPanics) ∧ r.StopsPanics := by
  refine ⟨fun _ => rfl, fun e hnontext => ?_, Pipeline.stopsPanics, r.stopsPanics⟩
  cases e with
  | text s => exact absurd rfl (hnontext s)
  | nontext => rfl
  | unruly next => rfl

/-- A filter on the outcome that panics. -/
def crashing (e : Payload) : After (List String) :=
  fun _ => ExceptT.mk (Action.panic e)

/-- A route with these filters. -/
def filtered (handler : Handler (List String)) (filters : List (Filter (List String))) :
    Route (Pipeline (List String)) :=
  { id := 0, method := .only .post, pattern := ⟨[.literal "jobs"]⟩, source := "/jobs"
    pipeline := .compose handler filters [] false }

/-- The router of one route with these filters. -/
def ofFiltered (handler : Handler (List String)) (filters : List (Filter (List String))) :
    Router (List String) :=
  { table := (({ policy := .replace } : RouteTable (Pipeline (List String))).insert
      (filtered handler filters)).1
    classifier := {}
    settings := {} }

/-- A handler without a value. -/
def idle : Handler (List String) :=
  ExceptT.mk (pure (.ok .empty))

/-- A filter that panics on another executor, between two filters that recover, and a filter on
each side of the boundary. -/
def crashed : List (Filter (List String)) :=
  [Pipeline.noting "outer", .before (.offload .running), Pipeline.noting "inner",
    Pipeline.recovering "first", .after (crashing .nontext), Pipeline.recovering "last"]

/-- The filter that was to recover first does not run behind the one that panics, nor is the inner
filter left. The outer one is left, with the failure, which nobody recovers. -/
theorem panics_contained_crashed :
    ((ofFiltered idle crashed).dispatch none posted []).ending =
        .done (.failed .internalServerError (Cause.panicked "non-string panic payload")) ∧
      ((ofFiltered idle crashed).dispatch none posted []).world =
        ["enter outer", "enter inner", "last", "leave outer"] := by
  obtain ⟨-, hmessage, hpipelines, hrouter⟩ := panics_contained (ofFiltered idle crashed)
  have hfound : (ofFiltered idle crashed).table.resolve posted.request.method
      posted.request.path = .found (filtered idle crashed) {} := rfl
  have hadmitted : (ofFiltered idle crashed).negotiated (filtered idle crashed).toRouteInfo posted =
      (.ok (), posted) := rfl
  have hsplit : (filtered idle crashed).pipeline.afters.reverse =
      [_] ++ crashing .nontext :: [_] := rfl
  have hpanic (ctx : Context) (w : List String) : (filtered idle crashed).pipeline.InnerUnwinds
      { context := ctx, world := w } .nontext { context := ctx, world := w ++ ["last"] } :=
    .after hsplit (.returned rfl) (.next rfl (.done _ _)) rfl
  have houter : Entered [Pipeline.noting "outer"]
      { context := posted.bind (filtered idle crashed).toRouteInfo {}, world := [] } [_] none
      { context := posted.bind (filtered idle crashed).toRouteInfo {}
        world := ["enter " ++ "outer"] } :=
    .proceeded rfl (.done _)
  have hunwinds : (filtered idle crashed).pipeline.Unwinds (some .running)
      { context := posted.bind (filtered idle crashed).toRouteInfo {}
        world := ["enter " ++ "outer"] }
      (Pipeline.beforesOf [Pipeline.noting "inner"]) .nontext
      { context := posted.bind (filtered idle crashed).toRouteInfo {}
        world := ["enter " ++ "outer"] ++ ["enter " ++ "inner"] ++ ["last"] } :=
    .through rfl (.inner rfl (hpanic _ _)) rfl
  have hrun := (hpipelines (filtered idle crashed).pipeline).offload houter hunwinds rfl
    (.next rfl (.done _ _)) none
  rw [hmessage .nontext fun _ h => by cases h] at hrun
  rw [hrouter.unrecovered hfound hadmitted hrun]
  exact ⟨rfl, by decide +kernel⟩

/-- A filter that looks at panics, and answers in their place. -/
def catching : Filter (List String) :=
  .before <| .around <| pure <| .watch fun _ => ExceptT.mk fun ctx w =>
    ⟨.done (.ok .empty), ctx, w ++ ["leave catching"]⟩

/-- A filter on the outcome that writes down what it is given, and makes a success of it. -/
def hearing (name : String) : Filter (List String) :=
  .after fun outcome => ExceptT.mk fun ctx w =>
    ⟨.done (.ok .empty), ctx,
      w ++ [name ++ match outcome with | .ok _ => " ok" | .error _ => " failure"]⟩

/-- **Code that catches panics itself, or that panics with what cannot be dropped, is not held up.**
A filter that catches the panic of another one runs on, and the request is completed. A panic whose
payload panics when it is dropped gets out of the router. And a panic of the handler that one filter
on the outcome recovers is none to the next. -/
theorem panics_uncontained :
    (((ofFiltered idle [catching, .after (crashing .nontext)]).dispatch none posted []).ending =
        .done .completed ∧
      ((ofFiltered idle [catching, .after (crashing .nontext)]).dispatch none posted []).world =
        ["leave catching"]) ∧
    ((ofFiltered idle [.after (crashing (.unruly .nontext))]).dispatch none posted []).ending =
        .panicked .nontext ∧
    ((ofFiltered (ExceptT.mk (Action.panic .nontext)) [hearing "first", hearing "last"]).dispatch
        none posted []).world = ["last failure", "first ok"] := by
  refine ⟨⟨rfl, rfl⟩, rfl, ?_⟩
  decide +kernel

end Router

end Switchyard
