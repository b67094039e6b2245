import Switchyard.Proofs.Nesting

/-!
# Panics

Code outside the library may panic anywhere: in the handler, in a filter on its way in or out, in a
filter on the outcome, in a renderer. A panic of the handler is a failure at once. Any other panic
runs up to the nearest boundary, which is a filter that offloads, a task, or the router; and what is
between the code that panics and the boundary is not run, but for filters that look at panics.

Where a panic becomes a failure, what it carries is dropped, and if this panics in its turn, the
second panic takes the way of the first.

`InnerUnwinds` and `Unwinds` say where a panic can come from, with one clause for each place. In
all of them the flow that is left is the one that the panicking code left, so nothing else ran
behind it. A clause leads through a filter that offloads only for what cannot be dropped.

## Main results

* `Pipeline.perform_inner_of_panicked`: a panic of the handler is a failure.
* `Pipeline.perform_inner_eq_done_iff`, `Pipeline.perform_inner_eq_panicked_iff`: how the inner
  segment ends, whatever its code does.
* `Pipeline.runFrom_eq_panicked_iff`: how a panic gets out of the filters in front.
* `Pipeline.runFrom_proceed_of_unwinds`: a filter that lets panics pass does not run behind one.
* `Pipeline.runFrom_of_entered`: filters around a boundary see the failure.
-/

namespace Switchyard

variable {σ α β : Type}

/-! ### Code in sequence -/

namespace Flow

variable {flow flow' : Flow σ}

theorem perform_bind_eq_done_iff {x : Action σ α} {f : α → Action σ β} {b : β} :
    flow.perform (x >>= f) = (.done b, flow') ↔
      ∃ a flow₁, flow.perform x = (.done a, flow₁) ∧ flow₁.perform (f a) = (.done b, flow') := by
  rw [perform_bind_run]
  cases flow.perform x with
  | mk ending flow₁ =>
      cases ending with
      | done a =>
          constructor
          · exact fun h => ⟨a, flow₁, rfl, h⟩
          · rintro ⟨a', flow₂, heq, h⟩
            cases heq
            exact h
      | panicked e => simp
      | stalled => simp

/-- Code in sequence panics in one of its parts. -/
theorem perform_bind_eq_panicked_iff {x : Action σ α} {f : α → Action σ β} {e : Payload} :
    flow.perform (x >>= f) = (.panicked e, flow') ↔
      flow.perform x = (.panicked e, flow') ∨
        ∃ a flow₁, flow.perform x = (.done a, flow₁) ∧
          flow₁.perform (f a) = (.panicked e, flow') := by
  rw [perform_bind_run]
  cases flow.perform x with
  | mk ending flow₁ =>
      cases ending with
      | done a =>
          constructor
          · exact fun h => .inr ⟨a, flow₁, rfl, h⟩
          · rintro (heq | ⟨a', flow₂, heq, h⟩)
            · cases heq
            · cases heq
              exact h
      | panicked e => simp
      | stalled => simp

/-- A second attempt panics only if the first one succeeded. -/
theorem perform_andThen_eq_panicked_iff {x : Attempt σ α} {f : α → Attempt σ β} {e : Payload} :
    flow.perform (x >>= f).run = (.panicked e, flow') ↔
      flow.perform x.run = (.panicked e, flow') ∨
        ∃ a flow₁, flow.perform x.run = (.done (.ok a), flow₁) ∧
          flow₁.perform (f a).run = (.panicked e, flow') := by
  refine perform_bind_eq_panicked_iff.trans (or_congr_right ⟨?_, ?_⟩)
  · rintro ⟨result, flow₁, hx, hf⟩
    cases result with
    | ok a => exact ⟨a, flow₁, hx, hf⟩
    | error failure => cases hf
  · rintro ⟨a, flow₁, hx, hf⟩
    exact ⟨.ok a, flow₁, hx, hf⟩

/-- Code that runs on a flow runs on its context and its world. -/
theorem run_of_perform {x : Action σ α} {ctx : Context} {w : σ} {ending : Ending α}
    (h : ({ context := ctx, world := w } : Flow σ).perform x = (ending, flow)) :
    x ctx w = ⟨ending, flow.context, flow.world⟩ := by
  obtain ⟨rfl, rfl⟩ := Prod.mk.inj h
  rfl

/-- Guarded code panics with what comes of dropping what a panic of the code carries. -/
theorem perform_guarded_eq_panicked_iff {x : Action σ (Except Failure α)} {next : Payload} :
    flow.perform (Action.guarded x) = (.panicked next, flow') ↔
      ∃ e, flow.perform x = (.panicked e, flow') ∧ e.dropped? = some next := by
  rw [perform_guarded, Prod.mk.injEq, Ending.caught_eq_panicked_iff]
  constructor
  · rintro ⟨⟨e, hpanic, hdropped⟩, rfl⟩
    exact ⟨e, Prod.ext hpanic rfl, hdropped⟩
  · rintro ⟨e, hpanic, hdropped⟩
    rw [hpanic]
    exact ⟨⟨e, rfl, hdropped⟩, rfl⟩

end Flow

/-! ### The inner segment -/

/-- Renderers that were asked for a value one after the other, and declined it. -/
inductive Declined (value : Value) : List (Renderer σ) → Flow σ → Flow σ → Prop
  | done (flow : Flow σ) : Declined value [] flow flow
  | next {r : Renderer σ} {rest : List (Renderer σ)} {flow flow₁ flow' : Flow σ} :
      flow.perform (r value).run = (.done (.ok false), flow₁) →
        Declined value rest flow₁ flow' → Declined value (r :: rest) flow flow'

namespace Pipeline

/-- A panic of the inner segment that is not caught in it. -/
inductive InnerUnwinds (p : Pipeline σ) (flow : Flow σ) (e : Payload) (flow' : Flow σ) : Prop
  /-- the handler panicked, and what it panicked with did so again when it was dropped; no filter on
  the outcome ran -/
  | handler {e₁ : Payload} :
      flow.perform p.handler.run = (.panicked e₁, flow') → e₁.dropped? = some e →
        InnerUnwinds p flow e flow'
  /-- a filter on the outcome panicked, and those behind it did not run, nor was anything
  rendered -/
  | after {passed rest : List (After σ)} {a : After σ} {outcome₁ outcome₂ : Outcome}
      {flow₁ flow₂ : Flow σ} :
      p.afters.reverse = passed ++ a :: rest → Handled p.handler flow outcome₁ flow₁ →
        Passes passed outcome₁ flow₁ outcome₂ flow₂ →
          flow₂.perform (a outcome₂).run = (.panicked e, flow') → InnerUnwinds p flow e flow'
  /-- a renderer panicked, and those behind it were not asked -/
  | renderer {asked rest : List (Renderer σ)} {r : Renderer σ} {outcome₁ : Outcome}
      {value : Value} {flow₁ flow₂ flow₃ : Flow σ} :
      p.renderers.reverse = asked ++ r :: rest → Handled p.handler flow outcome₁ flow₁ →
        Passes p.afters.reverse outcome₁ flow₁ (.ok value) flow₂ →
          flow₂.context.isCommitted = false → Declined value asked flow₂ flow₃ →
            flow₃.perform (r value).run = (.panicked e, flow') → InnerUnwinds p flow e flow'

variable {p : Pipeline σ} {flow flow' : Flow σ} {e : Payload}

/-- What is rendered of an outcome. -/
def renderOutcome (p : Pipeline σ) : Outcome → Action σ Outcome
  | .ok value => (p.renderUnlessCommitted value).run
  | .error failure => pure (.error failure)

theorem run_inner (p : Pipeline σ) :
    p.inner.run = Action.guarded p.handler.run >>= fun outcome =>
      (applyAfters p.afters.reverse outcome).run >>= p.renderOutcome := rfl

/-- A guarded handler ends if the handler ends or panics. -/
theorem perform_guarded_eq_done_iff {handler : Handler σ} {outcome : Outcome} :
    flow.perform (Action.guarded handler.run) = (.done outcome, flow') ↔
      Handled handler flow outcome flow' := by
  rw [Flow.perform_guarded]
  constructor
  · intro h
    cases hrun : flow.perform handler.run with
    | mk ending flow₁ =>
        rw [hrun] at h
        cases ending with
        | done result =>
            cases h
            exact .returned hrun
        | stalled => cases h
        | panicked e =>
            obtain ⟨hcaught, rfl⟩ := Prod.mk.inj h
            cases hdropped : e.dropped? with
            | none =>
                rw [Ending.caught_of_quiet hdropped] at hcaught
                cases hcaught
                exact .panicked hrun hdropped
            | some next =>
                rw [Ending.caught_of_dropped hdropped] at hcaught
                cases hcaught
  · intro h
    cases h with
    | returned h =>
        rw [h]
        rfl
    | panicked h hquiet => rw [h, Ending.caught_of_quiet hquiet]

/-- Filters on the outcome end if all of them do. -/
theorem perform_applyAfters_eq_done_iff {as : List (After σ)} {outcome outcome' : Outcome} :
    flow.perform (applyAfters as outcome).run = (.done outcome', flow') ↔
      Passes as outcome flow outcome' flow' := by
  induction as generalizing outcome flow with
  | nil =>
      constructor
      · intro h
        cases h
        exact .done _ _
      · intro h
        cases h
        rfl
  | cons a as ih =>
      refine Flow.perform_bind_eq_done_iff.trans ⟨?_, ?_⟩
      · rintro ⟨outcome₁, flow₁, hfirst, hrest⟩
        exact .next hfirst (ih.1 hrest)
      · intro h
        cases h with
        | next hfirst hrest => exact ⟨_, _, hfirst, ih.2 hrest⟩

/-- Filters on the outcome panic in one of them, on what those before it left. -/
theorem perform_applyAfters_eq_panicked_iff {as : List (After σ)} {outcome : Outcome} :
    flow.perform (applyAfters as outcome).run = (.panicked e, flow') ↔
      ∃ passed a rest outcome₁ flow₁, as = passed ++ a :: rest ∧
        Passes passed outcome flow outcome₁ flow₁ ∧
          flow₁.perform (a outcome₁).run = (.panicked e, flow') := by
  induction as generalizing outcome flow with
  | nil =>
      constructor
      · intro h
        cases h
      · rintro ⟨passed, a, rest, -, -, h, -⟩
        simp at h
  | cons b as ih =>
      refine Flow.perform_bind_eq_panicked_iff.trans ⟨?_, ?_⟩
      · rintro (hpanic | ⟨outcome₁, flow₁, hfirst, hrest⟩)
        · exact ⟨[], b, as, outcome, flow, rfl, .done _ _, hpanic⟩
        · obtain ⟨passed, a, rest, outcome₂, flow₂, rfl, hpasses, hpanic⟩ := ih.1 hrest
          exact ⟨b :: passed, a, rest, outcome₂, flow₂, rfl, .next hfirst hpasses, hpanic⟩
      · rintro ⟨passed, a, rest, outcome₂, flow₂, heq, hpasses, hpanic⟩
        cases hpasses with
        | done =>
            obtain ⟨rfl, rfl⟩ := List.cons.inj heq
            exact .inl hpanic
        | next hfirst hrest =>
            obtain ⟨rfl, rfl⟩ := List.cons.inj heq
            exact .inr ⟨_, _, hfirst, ih.2 ⟨_, a, rest, outcome₂, flow₂, rfl, hrest, hpanic⟩⟩

/-- Rendering panics in one of the renderers, after those before it declined. -/
theorem perform_firstOf_eq_panicked_iff {rs : List (Renderer σ)} {value : Value} :
    flow.perform (Renderer.firstOf rs value).run = (.panicked e, flow') ↔
      ∃ asked r rest flow₁, rs = asked ++ r :: rest ∧ Declined value asked flow flow₁ ∧
        flow₁.perform (r value).run = (.panicked e, flow') := by
  induction rs generalizing flow with
  | nil =>
      constructor
      · intro h
        have hnone : ∀ r ∈ ([] : List (Renderer σ)), ∀ value, Action.Ends (r value).run :=
          List.forall_mem_nil _
        have hends : Action.Ends (Renderer.firstOf [] value : Attempt σ Unit).run :=
          Action.sequential_ends.render hnone value
        obtain ⟨a, ha⟩ := hends flow.context flow.world
        cases ha.symm.trans (congrArg Prod.fst h)
      · rintro ⟨asked, r, rest, flow₁, h, -⟩
        simp at h
  | cons b rs ih =>
      refine Flow.perform_andThen_eq_panicked_iff.trans ⟨?_, ?_⟩
      · rintro (hpanic | ⟨accepted, flow₁, hfirst, hrest⟩)
        · exact ⟨[], b, rs, flow, rfl, .done _, hpanic⟩
        · cases accepted with
          | true => cases hrest
          | false =>
              obtain ⟨asked, r, rest, flow₂, rfl, hdeclined, hpanic⟩ := ih.1 hrest
              exact ⟨b :: asked, r, rest, flow₂, rfl, .next hfirst hdeclined, hpanic⟩
      · rintro ⟨asked, r, rest, flow₂, heq, hdeclined, hpanic⟩
        cases hdeclined with
        | done =>
            obtain ⟨rfl, rfl⟩ := List.cons.inj heq
            exact .inl hpanic
        | next hfirst hrest =>
            obtain ⟨rfl, rfl⟩ := List.cons.inj heq
            exact .inr ⟨false, _, hfirst, ih.2 ⟨_, r, rest, flow₂, rfl, hrest, hpanic⟩⟩

/-- A value is rendered exactly if the response is not committed. -/
theorem perform_renderUnlessCommitted_run (p : Pipeline σ) (value : Value) (flow : Flow σ) :
    flow.perform (p.renderUnlessCommitted value).run =
      if flow.context.isCommitted then (.done (.ok value), flow)
      else flow.perform (Renderer.render p.renderers value >>= fun _ => pure value).run := by
  have hread : flow.perform (Attempt.read fun ctx => .ok ctx.isCommitted).run =
      (.done (.ok flow.context.isCommitted), flow) := rfl
  rw [renderUnlessCommitted, Flow.perform_andThen _ hread]
  cases flow.context.isCommitted <;> rfl

/-- Rendering ends by the rules of `Rendered`. -/
theorem perform_renderOutcome_eq_done_iff {outcome outcome' : Outcome} :
    flow.perform (p.renderOutcome outcome) = (.done outcome', flow') ↔
      Rendered p.renderers outcome flow outcome' flow' := by
  cases outcome with
  | error failure =>
      constructor
      · intro h
        cases h
        exact .failed failure flow
      · intro h
        cases h
        rfl
  | ok value =>
      rw [renderOutcome, perform_renderUnlessCommitted_run]
      cases hc : flow.context.isCommitted with
      | true =>
          constructor
          · intro h
            cases h
            exact .committed value hc
          · intro h
            cases h with
            | committed _ _ => rfl
            | written hc' _ => cases hc.symm.trans hc'
            | unwritten hc' _ => cases hc.symm.trans hc'
      | false =>
          refine Flow.perform_bind_eq_done_iff.trans ⟨?_, ?_⟩
          · rintro ⟨result, flow₁, hrender, hrest⟩
            cases result with
            | ok u =>
                cases hrest
                exact .written hc hrender
            | error failure =>
                cases hrest
                exact .unwritten hc hrender
          · intro h
            cases h with
            | committed _ hc' => cases hc.symm.trans hc'
            | written _ hrender => exact ⟨_, _, hrender, rfl⟩
            | unwritten _ hrender => exact ⟨_, _, hrender, rfl⟩

/-- Rendering panics in a renderer, on a value and a response that is not committed. -/
theorem perform_renderOutcome_eq_panicked_iff {outcome : Outcome} :
    flow.perform (p.renderOutcome outcome) = (.panicked e, flow') ↔
      ∃ value asked r rest flow₁, outcome = .ok value ∧ flow.context.isCommitted = false ∧
        p.renderers.reverse = asked ++ r :: rest ∧ Declined value asked flow flow₁ ∧
          flow₁.perform (r value).run = (.panicked e, flow') := by
  cases outcome with
  | error failure =>
      constructor
      · intro h
        cases h
      · rintro ⟨value, asked, r, rest, flow₁, h, -⟩
        cases h
  | ok value =>
      rw [renderOutcome, perform_renderUnlessCommitted_run]
      cases hc : flow.context.isCommitted with
      | true =>
          constructor
          · intro h
            cases h
          · rintro ⟨value', asked, r, rest, flow₁, -, h, -⟩
            cases h
      | false =>
          refine Flow.perform_andThen_eq_panicked_iff.trans ⟨?_, ?_⟩
          · rintro (hpanic | ⟨u, flow₁, -, h⟩)
            · obtain ⟨asked, r, rest, flow₁, heq, hdeclined, hpanic⟩ :=
                perform_firstOf_eq_panicked_iff.1 hpanic
              exact ⟨value, asked, r, rest, flow₁, rfl, rfl, heq, hdeclined, hpanic⟩
            · cases h
          · rintro ⟨value', asked, r, rest, flow₁, heq, -, hsplit, hdeclined, hpanic⟩
            cases heq
            exact .inl (perform_firstOf_eq_panicked_iff.2
              ⟨asked, r, rest, flow₁, hsplit, hdeclined, hpanic⟩)

/-- **A panic of the handler is a failure**: the inner segment goes on, from the flow that the panic
left, as with a handler that fails so. -/
theorem perform_inner_of_panicked (h : flow.perform p.handler.run = (.panicked e, flow'))
    (hquiet : e.dropped? = none) :
    flow.perform p.inner.run = flow'.perform
      { p with handler := Attempt.fail (Cause.panicked e.message) }.inner.run := by
  have hguarded : flow.perform (Action.guarded p.handler.run) =
      (.done (.error (Cause.panicked e.message)), flow') := by
    rw [Flow.perform_guarded, h, Ending.caught_of_quiet hquiet]
  have hfailed : flow'.perform
      (Action.guarded (Attempt.fail (Cause.panicked e.message) : Handler σ).run) =
        (.done (.error (Cause.panicked e.message)), flow') := rfl
  rw [run_inner, run_inner, Flow.perform_bind _ hguarded, Flow.perform_bind _ hfailed]
  rfl

/-- **How the inner segment ends**, if it does: the handler returned or panicked, all filters on the
outcome ran, the one declared last first, and a value was rendered. -/
theorem perform_inner_eq_done_iff {outcome : Outcome} :
    flow.perform p.inner.run = (.done outcome, flow') ↔
      ∃ outcome₁ flow₁ outcome₂ flow₂, Handled p.handler flow outcome₁ flow₁ ∧
        Passes p.afters.reverse outcome₁ flow₁ outcome₂ flow₂ ∧
          Rendered p.renderers outcome₂ flow₂ outcome flow' := by
  rw [run_inner]
  constructor
  · intro h
    obtain ⟨outcome₁, flow₁, hguarded, hrest⟩ := Flow.perform_bind_eq_done_iff.1 h
    obtain ⟨outcome₂, flow₂, happlied, hrendered⟩ := Flow.perform_bind_eq_done_iff.1 hrest
    exact ⟨outcome₁, flow₁, outcome₂, flow₂, perform_guarded_eq_done_iff.1 hguarded,
      perform_applyAfters_eq_done_iff.1 happlied, perform_renderOutcome_eq_done_iff.1 hrendered⟩
  · rintro ⟨outcome₁, flow₁, outcome₂, flow₂, hhandled, hpasses, hrendered⟩
    rw [Flow.perform_bind _ (perform_guarded_eq_done_iff.2 hhandled),
      Flow.perform_bind _ (perform_applyAfters_eq_done_iff.2 hpasses)]
    exact perform_renderOutcome_eq_done_iff.2 hrendered

/-- **How the inner segment panics**: with a filter on the outcome or a renderer, on what the code
before it left; and with its handler only if the panic cannot be caught. -/
theorem perform_inner_eq_panicked_iff :
    flow.perform p.inner.run = (.panicked e, flow') ↔ p.InnerUnwinds flow e flow' := by
  rw [run_inner]
  constructor
  · intro h
    rcases Flow.perform_bind_eq_panicked_iff.1 h with h | ⟨outcome₁, flow₁, hguarded, h⟩
    · obtain ⟨e₁, hpanic, hdropped⟩ := Flow.perform_guarded_eq_panicked_iff.1 h
      exact .handler hpanic hdropped
    have hhandled := perform_guarded_eq_done_iff.1 hguarded
    rcases Flow.perform_bind_eq_panicked_iff.1 h with h | ⟨outcome₂, flow₂, happlied, h⟩
    · obtain ⟨passed, a, rest, outcome₂, flow₂, hsplit, hpasses, hpanic⟩ :=
        perform_applyAfters_eq_panicked_iff.1 h
      exact .after hsplit hhandled hpasses hpanic
    · obtain ⟨value, asked, r, rest, flow₃, rfl, hc, hsplit, hdeclined, hpanic⟩ :=
        perform_renderOutcome_eq_panicked_iff.1 h
      exact .renderer hsplit hhandled (perform_applyAfters_eq_done_iff.1 happlied) hc hdeclined
        hpanic
  · intro h
    cases h with
    | handler hpanic hdropped =>
        exact Flow.perform_bind_eq_panicked_iff.2
          (.inl (Flow.perform_guarded_eq_panicked_iff.2 ⟨_, hpanic, hdropped⟩))
    | after hsplit hhandled hpasses hpanic =>
        rw [Flow.perform_bind _ (perform_guarded_eq_done_iff.2 hhandled)]
        exact Flow.perform_bind_eq_panicked_iff.2 (.inl (perform_applyAfters_eq_panicked_iff.2
          ⟨_, _, _, _, _, hsplit, hpasses, hpanic⟩))
    | renderer hsplit hhandled hpasses hc hdeclined hpanic =>
        rw [Flow.perform_bind _ (perform_guarded_eq_done_iff.2 hhandled),
          Flow.perform_bind _ (perform_applyAfters_eq_done_iff.2 hpasses)]
        exact perform_renderOutcome_eq_panicked_iff.2
          ⟨_, _, _, _, _, rfl, hc, hsplit, hdeclined, hpanic⟩

/-! ### The filters in front -/

/-- A panic of the filters in front and the inner segment that nothing further down caught. -/
inductive Unwinds (p : Pipeline σ) :
    Option Executor → Flow σ → List (Before σ) → Payload → Flow σ → Prop
  /-- the inner segment ran in place, and panicked -/
  | inner {here : Option Executor} {flow flow' : Flow σ} {e : Payload} :
      p.detached = false → p.InnerUnwinds flow e flow' → Unwinds p here flow [] e flow'
  /-- a filter panicked on the way in, and the rest did not run -/
  | entering {here : Option Executor} {enter : Action σ (Entry σ)} {rest : List (Before σ)}
      {flow flow' : Flow σ} {e : Payload} :
      flow.perform enter = (.panicked e, flow') →
        Unwinds p here flow (.around enter :: rest) e flow'
  /-- a filter panicked on the way out, on the outcome of the rest or because it had none -/
  | leaving {here : Option Executor} {enter : Action σ (Entry σ)}
      {leave : Ending Outcome → Attempt σ Value} {rest : List (Before σ)}
      {ending : Ending Outcome} {flow flow₁ flow₂ flow' : Flow σ} {e : Payload} :
      flow.perform enter = (.done (.watch leave), flow₁) →
        p.runFrom here flow₁ rest = (ending, flow₂) → (∀ e₁, ending ≠ .panicked e₁) →
          flow₂.perform (leave ending).run = (.panicked e, flow') →
            Unwinds p here flow (.around enter :: rest) e flow'
  /-- the rest panicked, and so did the filter that was left with the panic -/
  | through {here : Option Executor} {enter : Action σ (Entry σ)}
      {leave : Ending Outcome → Attempt σ Value} {rest : List (Before σ)}
      {flow flow₁ flow₂ flow' : Flow σ} {e₁ e : Payload} :
      flow.perform enter = (.done (.watch leave), flow₁) → Unwinds p here flow₁ rest e₁ flow₂ →
        flow₂.perform (leave (.panicked e₁)).run = (.panicked e, flow') →
          Unwinds p here flow (.around enter :: rest) e flow'
  /-- the rest panicked on another executor, and again when what it panicked with was dropped -/
  | dropping {here : Option Executor} {rest : List (Before σ)} {flow flow' : Flow σ}
      {e₁ e : Payload} :
      Unwinds p (some .running) flow rest e₁ flow' → e₁.dropped? = some e →
        Unwinds p here flow (.offload .running :: rest) e flow'.lost

variable {here : Option Executor} {enter : Action σ (Entry σ)}
  {leave : Ending Outcome → Attempt σ Value} {rest : List (Before σ)} {flow₁ flow₂ : Flow σ}

/-- A filter that was entered is left with how the rest ended. -/
theorem runFrom_around {ending : Ending Outcome}
    (henter : flow.perform enter = (.done (.watch leave), flow₁))
    (hrest : p.runFrom here flow₁ rest = (ending, flow₂)) :
    p.runFrom here flow (.around enter :: rest) = flow₂.perform (leave ending).run := by
  rw [runFrom, henter]
  dsimp only
  rw [hrest]
  rfl

/-- An executor that the rest panicked on makes a failure of the panic, and the context is lost. -/
theorem runFrom_offload_of_panicked
    (hrest : p.runFrom (some .running) flow rest = (.panicked e, flow₁)) :
    p.runFrom here flow (.offload .running :: rest) =
      ((Ending.panicked e).caught, flow₁.lost) := by
  rw [runFrom, hrest]

/-- A panic that gets out of a filter came from its own code or from the rest. -/
theorem unwinds_around
    (hrest : ∀ {flow₁ flow₂ : Flow σ} {e₁ : Payload},
      p.runFrom here flow₁ rest = (.panicked e₁, flow₂) → p.Unwinds here flow₁ rest e₁ flow₂)
    (h : p.runFrom here flow (.around enter :: rest) = (.panicked e, flow')) :
    p.Unwinds here flow (.around enter :: rest) e flow' := by
  rw [runFrom] at h
  split at h
  · next henter =>
    cases h
    exact .entering henter
  · cases h
  · cases h
  · next leave flow₁ henter =>
    cases hinside : p.runFrom here flow₁ rest with
    | mk ending flow₂ =>
        rw [hinside] at h
        cases ending with
        | panicked e₁ => exact .through henter (hrest hinside) h
        | done outcome => exact .leaving henter hinside (fun _ heq => by cases heq) h
        | stalled => exact .leaving henter hinside (fun _ heq => by cases heq) h

/-- A panic that gets out of another executor came from the rest, and cannot be dropped. -/
theorem unwinds_offload
    (hrest : ∀ {flow₁ : Flow σ} {e₁ : Payload},
      p.runFrom (some .running) flow rest = (.panicked e₁, flow₁) →
        p.Unwinds (some .running) flow rest e₁ flow₁)
    (h : p.runFrom here flow (.offload .running :: rest) = (.panicked e, flow')) :
    p.Unwinds here flow (.offload .running :: rest) e flow' := by
  cases hinside : p.runFrom (some .running) flow rest with
  | mk ending flow₁ =>
      rw [runFrom, hinside] at h
      cases ending with
      | done outcome => cases h
      | stalled => cases h
      | panicked e₁ =>
          obtain ⟨hcaught, rfl⟩ := Prod.mk.inj h
          obtain ⟨e₂, heq, hdropped⟩ := Ending.caught_eq_panicked_iff.1 hcaught
          cases heq
          exact .dropping (hrest hinside) hdropped

/-- **How a panic gets out of the filters in front**: from the inner segment or one of the filters,
and past the filters around that, up to the next one that offloads; or further, if it cannot be
dropped there. -/
theorem runFrom_eq_panicked_iff {befores : List (Before σ)} :
    p.runFrom here flow befores = (.panicked e, flow') ↔ p.Unwinds here flow befores e flow' := by
  constructor
  · intro h
    induction befores generalizing here flow e flow' with
    | nil =>
        rw [runFrom] at h
        cases hdetached : p.detached with
        | true =>
            rw [hdetached] at h
            cases here <;> cases h
        | false =>
            rw [hdetached] at h
            exact .inner hdetached (perform_inner_eq_panicked_iff.1 h)
    | cons b rest ih =>
        cases b with
        | around enter => exact unwinds_around ih h
        | offload executor =>
            cases executor with
            | shutDown => cases h
            | running => exact unwinds_offload ih h
  · intro h
    induction h with
    | inner hdetached hinner =>
        rw [runFrom, hdetached]
        exact perform_inner_eq_panicked_iff.2 hinner
    | entering henter => rw [runFrom, henter]
    | leaving henter hrest _ hleave => exact (runFrom_around henter hrest).trans hleave
    | through henter _ hleave ih => exact (runFrom_around henter ih).trans hleave
    | dropping _ hdropped ih =>
        rw [runFrom_offload_of_panicked ih, Ending.caught_of_dropped hdropped]

/-- **A filter that lets panics pass does not run behind one.** -/
theorem runFrom_proceed_of_unwinds {leave : After σ}
    (henter : flow.perform enter = (.done (.proceed leave), flow₁))
    (h : p.Unwinds here flow₁ rest e flow₂) :
    p.runFrom here flow (.around enter :: rest) = (.panicked e, flow₂) :=
  runFrom_around henter (runFrom_eq_panicked_iff.2 h)

/-- A filter that looks at panics goes on with the panic as it likes. -/
theorem runFrom_watch_of_unwinds (henter : flow.perform enter = (.done (.watch leave), flow₁))
    (h : p.Unwinds here flow₁ rest e flow₂) :
    p.runFrom here flow (.around enter :: rest) = flow₂.perform (leave (.panicked e)).run :=
  runFrom_around henter (runFrom_eq_panicked_iff.2 h)

/-- A filter that offloads makes a failure of a panic, and the context is lost. -/
theorem runFrom_offload_of_unwinds (h : p.Unwinds (some .running) flow rest e flow')
    (hquiet : e.dropped? = none) (here : Option Executor) :
    p.runFrom here flow (.offload .running :: rest) =
      (.done (.error (Cause.panicked e.message)), flow'.lost) := by
  rw [runFrom_offload_of_panicked (runFrom_eq_panicked_iff.2 h), Ending.caught_of_quiet hquiet]

/-- **Filters around the rest see its outcome**, on their ways out. -/
theorem runFrom_of_entered {outer : List (Filter σ)} {inside : List (Before σ)}
    {exits : List (After σ)} {outcome outcome' : Outcome}
    (hentered : Entered outer flow exits none flow₁)
    (hinside : ∀ here, p.runFrom here flow₁ inside = (.done outcome, flow₂))
    (hexits : Passes exits outcome flow₂ outcome' flow') (here : Option Executor) :
    p.runFrom here flow (beforesOf outer ++ inside) = (.done outcome', flow') := by
  -- all filters were entered, so none of them answered
  generalize hanswer : (none : Option Outcome) = answer at hentered
  induction hentered generalizing outcome' flow' here with
  | done flow =>
      cases hexits
      exact hinside here
  | skipped _ ih => exact ih hinside hexits here hanswer
  | answered _ => cases hanswer
  | cancelled _ _ => cases hanswer
  | @moved rest flow _ _ _ _ ih =>
      have hrest := ih hinside hexits (some .running) hanswer
      have hmoved : p.runFrom here flow (.offload .running :: (beforesOf rest ++ inside)) =
          (.done outcome', flow') := by
        rw [runFrom, hrest]
      exact hmoved
  | proceeded henter _ ih =>
      obtain ⟨outcome₁, flow₃, hrest, hlast⟩ := hexits.of_append
      cases hlast with
      | next hleave hdone =>
          cases hdone
          exact (runFrom_around henter (ih hinside hrest here hanswer)).trans hleave

end Pipeline

end Switchyard
