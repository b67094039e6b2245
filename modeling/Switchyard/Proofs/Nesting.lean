import Switchyard.Proofs.Sequencing

/-!
# Pipelines as Nests

A pipeline sorts its declared filters by kind, runs the one kind forwards around the rest and
the other kind backwards inside. `Nested` says what comes of this without taking the list apart:
the filters are entered in the order of their declaration until one of them answers or all are
entered; then the handler runs once, what it left goes through the filters on the outcome, the
one declared last first, and a value is rendered unless the response is committed; and in
either case the outcome goes back through the filters that were entered, the innermost first.

The relation has one clause for each thing that can happen, and every step of it is a single run
of declared code on the flow. Since it determines the outcome and the flow
(`Nested.unique`), code that does not stand in a clause did not run.

## Main results

* `surrounded`: the filters in front stand around the inner segment.
* `perform_inner`: the inner segment is the handler, the filters on the outcome, and rendering.
* `run_iff_nested`: a pipeline comes to its end exactly as the nest of its declarations.
-/

namespace Switchyard

variable {σ α β : Type}

/-! ### Code that comes to its end -/

namespace Action

/-- Does the action come to its end, whatever it is run on? -/
def Ends (x : Action σ α) : Prop :=
  ∀ ctx w, ∃ a, (x ctx w).ending = .done a

theorem Ends.bind {x : Action σ α} {f : α → Action σ β} (hx : x.Ends) (hf : ∀ a, (f a).Ends) :
    (x >>= f).Ends := by
  intro ctx w
  obtain ⟨a, ha⟩ := hx ctx w
  rw [bind_run]
  cases hrun : x ctx w with
  | mk ending ctx' w' =>
      rw [hrun] at ha
      obtain rfl : ending = .done a := ha
      exact hf a ctx' w'

theorem ends_edit (f : Context → Except Failure Context) : Ends (edit f : Action σ _) := by
  intro ctx w
  unfold edit
  split
  · exact ⟨_, rfl⟩
  · exact ⟨_, rfl⟩

theorem Ends.guarded {x : Action σ (Except Failure α)} (hx : x.Ends) :
    (Action.guarded x).Ends := by
  intro ctx w
  obtain ⟨result, hresult⟩ := hx ctx w
  exact ⟨result, congrArg Ending.caught hresult⟩

/-- What the library does to a response comes to its end. -/
theorem sequential_ends : Sequential fun α (x : Action σ α) => x.Ends where
  pure a _ _ := ⟨a, rfl⟩
  bind := Ends.bind
  guarded := Ends.guarded
  isCommitted _ _ := ⟨_, rfl⟩
  setDefaultContentType _ := ends_edit _
  send _ := ends_edit _

end Action

/-- Does a filter come to its end, on the way in and, where the rest has an outcome, on the way
out? -/
def Filter.Ends : Filter σ → Prop
  | .after a => ∀ outcome, Action.Ends (a outcome).run
  | .before (.around enter) =>
    ∀ ctx w, ∃ entry, (enter ctx w).ending = .done entry ∧
      ∀ leave, entry = .watch leave → ∀ outcome, Action.Ends (leave (.done outcome)).run
  | .before (.offload _) => True

namespace Flow

/-- A flow goes on behind code that comes to its end. -/
theorem exists_perform {x : Action σ α} (h : x.Ends) (flow : Flow σ) :
    ∃ a flow', flow.perform x = (.done a, flow') := by
  obtain ⟨a, ha⟩ := h flow.context flow.world
  exact ⟨a, _, Prod.ext ha rfl⟩

/-- What comes second runs on what the first left, if the first comes to its end. -/
theorem perform_bind_run (x : Action σ α) (f : α → Action σ β) (flow : Flow σ) :
    flow.perform (x >>= f) =
      match flow.perform x with
      | (.done a, flow) => flow.perform (f a)
      | (.panicked p, flow) => (.panicked p, flow)
      | (.stalled, flow) => (.stalled, flow) := by
  rw [perform, perform, Action.bind_run]
  cases x flow.context flow.world with
  | mk ending ctx w => cases ending <;> rfl

/-- Guarded code runs like the code itself, and then its panic is caught. -/
theorem perform_guarded (x : Action σ (Except Failure α)) (flow : Flow σ) :
    flow.perform (Action.guarded x) =
      ((flow.perform x).1.caught, (flow.perform x).2) := rfl

theorem perform_bind {x : Action σ α} (f : α → Action σ β) {flow flow' : Flow σ} {a : α}
    (h : flow.perform x = (.done a, flow')) :
    flow.perform (x >>= f) = flow'.perform (f a) := by
  rw [perform_bind_run, h]

theorem perform_andThen {x : Attempt σ α} (f : α → Attempt σ β) {flow flow' : Flow σ} {a : α}
    (h : flow.perform x.run = (.done (.ok a), flow')) :
    flow.perform (x >>= f).run = flow'.perform (f a).run :=
  perform_bind (ExceptT.bindCont f) h

theorem perform_andThen_of_error {x : Attempt σ α} (f : α → Attempt σ β) {flow flow' : Flow σ}
    {failure : Failure} (h : flow.perform x.run = (.done (.error failure), flow')) :
    flow.perform (x >>= f).run = (.done (.error failure), flow') :=
  perform_bind (ExceptT.bindCont f) h

theorem perform_edit_of_ok {f : Context → Except Failure Context} {flow : Flow σ} {ctx : Context}
    (h : f flow.context = .ok ctx) :
    flow.perform (Attempt.edit f).run = (.done (.ok ()), { flow with context := ctx }) := by
  have hedit : (Attempt.edit f).run flow.context flow.world =
      Action.edit f flow.context flow.world := rfl
  rw [perform, hedit, Action.edit, h]

theorem perform_edit_of_error {f : Context → Except Failure Context} {flow : Flow σ}
    {failure : Failure} (h : f flow.context = .error failure) :
    flow.perform (Attempt.edit f).run = (.done (.error failure), flow) := by
  have hedit : (Attempt.edit f).run flow.context flow.world =
      Action.edit f flow.context flow.world := rfl
  rw [perform, hedit, Action.edit, h]

end Flow

/-! ### The nest -/

/-- The way down through the declared filters. `Entered filters flow exits answer flow'` says
that the filters in front were entered in the order of their declaration, that `exits` are
the ways back out of them, the innermost first, and that one of them answered instead of
running the rest, or none did. -/
inductive Entered :
    List (Filter σ) → Flow σ → List (After σ) → Option Outcome → Flow σ → Prop
  /-- all filters were entered -/
  | done (flow : Flow σ) : Entered [] flow [] none flow
  /-- a filter on the outcome is not run on the way down -/
  | skipped {a : After σ} {rest : List (Filter σ)} {flow flow' : Flow σ}
      {exits : List (After σ)} {answer : Option Outcome} :
      Entered rest flow exits answer flow' →
        Entered (.after a :: rest) flow exits answer flow'
  /-- a filter answered, and nothing below it was entered -/
  | answered {enter : Action σ (Entry σ)} {rest : List (Filter σ)} {flow flow' : Flow σ}
      {outcome : Outcome} :
      flow.perform enter = (.done (.answer outcome), flow') →
        Entered (.before (.around enter) :: rest) flow [] (some outcome) flow'
  /-- a filter was entered, and will be left behind all that were entered below it, with the
  outcome that they come to -/
  | proceeded {enter : Action σ (Entry σ)} {leave : Ending Outcome → Attempt σ Value}
      {rest : List (Filter σ)} {flow flow₁ flow' : Flow σ} {exits : List (After σ)}
      {answer : Option Outcome} :
      flow.perform enter = (.done (.watch leave), flow₁) →
        Entered rest flow₁ exits answer flow' →
          Entered (.before (.around enter) :: rest) flow
            (exits ++ [fun outcome => leave (.done outcome)]) answer flow'
  /-- the rest ran on another executor, which adds nothing -/
  | moved {rest : List (Filter σ)} {flow flow' : Flow σ} {exits : List (After σ)}
      {answer : Option Outcome} :
      Entered rest flow exits answer flow' →
        Entered (.before (.offload .running) :: rest) flow exits answer flow'
  /-- the rest was handed to an executor that starts nothing, and the context with it -/
  | cancelled (rest : List (Filter σ)) (flow : Flow σ) :
      Entered (.before (.offload .shutDown) :: rest) flow [] (some (.error Cause.cancelled))
        flow.lost

/-- One run of the handler; a panic is a failure, if what it carries can be dropped. -/
inductive Handled (handler : Handler σ) (flow : Flow σ) : Outcome → Flow σ → Prop
  | returned {outcome : Outcome} {flow' : Flow σ} :
      flow.perform handler.run = (.done outcome, flow') → Handled handler flow outcome flow'
  | panicked {p : Payload} {flow' : Flow σ} :
      flow.perform handler.run = (.panicked p, flow') → p.dropped? = none →
        Handled handler flow (.error (Cause.panicked p.message)) flow'

/-- An outcome that goes through filters, each one on what the filter before it left. -/
inductive Passes : List (After σ) → Outcome → Flow σ → Outcome → Flow σ → Prop
  | done (outcome : Outcome) (flow : Flow σ) : Passes [] outcome flow outcome flow
  | next {a : After σ} {rest : List (After σ)} {outcome outcome₁ outcome' : Outcome}
      {flow flow₁ flow' : Flow σ} :
      flow.perform (a outcome).run = (.done outcome₁, flow₁) →
        Passes rest outcome₁ flow₁ outcome' flow' →
          Passes (a :: rest) outcome flow outcome' flow'

/-- The filters on the outcome, among all declared filters. What is declared further down runs
first. -/
inductive Reviewed : List (Filter σ) → Outcome → Flow σ → Outcome → Flow σ → Prop
  | done (outcome : Outcome) (flow : Flow σ) : Reviewed [] outcome flow outcome flow
  /-- a filter in front is not run on an outcome of the handler -/
  | skipped {b : Before σ} {rest : List (Filter σ)} {outcome outcome' : Outcome}
      {flow flow' : Flow σ} :
      Reviewed rest outcome flow outcome' flow' →
        Reviewed (.before b :: rest) outcome flow outcome' flow'
  | next {a : After σ} {rest : List (Filter σ)} {outcome outcome₁ outcome' : Outcome}
      {flow flow₁ flow' : Flow σ} :
      Reviewed rest outcome flow outcome₁ flow₁ →
        flow₁.perform (a outcome₁).run = (.done outcome', flow') →
          Reviewed (.after a :: rest) outcome flow outcome' flow'

/-- A value is rendered exactly if the response is not committed, and a failure of the rendering
takes its place. A failure is not rendered. -/
inductive Rendered (renderers : List (Renderer σ)) : Outcome → Flow σ → Outcome → Flow σ → Prop
  | committed (value : Value) {flow : Flow σ} :
      flow.context.isCommitted = true → Rendered renderers (.ok value) flow (.ok value) flow
  | written {value : Value} {flow flow' : Flow σ} :
      flow.context.isCommitted = false →
        flow.perform (Renderer.render renderers value).run = (.done (.ok ()), flow') →
          Rendered renderers (.ok value) flow (.ok value) flow'
  | unwritten {value : Value} {failure : Failure} {flow flow' : Flow σ} :
      flow.context.isCommitted = false →
        flow.perform (Renderer.render renderers value).run = (.done (.error failure), flow') →
          Rendered renderers (.ok value) flow (.error failure) flow'
  | failed (failure : Failure) (flow : Flow σ) :
      Rendered renderers (.error failure) flow (.error failure) flow

/-- The bracketed nest of a handler, its declared filters and its declared renderers. -/
inductive Nested (handler : Handler σ) (filters : List (Filter σ))
    (renderers : List (Renderer σ)) (flow : Flow σ) : Outcome → Flow σ → Prop
  /-- a filter answered: only the filters around it see the outcome -/
  | answered {exits : List (After σ)} {outcome outcome' : Outcome} {flow₁ flow' : Flow σ} :
      Entered filters flow exits (some outcome) flow₁ →
        Passes exits outcome flow₁ outcome' flow' →
          Nested handler filters renderers flow outcome' flow'
  /-- all filters were entered: the handler, the filters on the outcome, the rendering, and then
  the ways out -/
  | through {exits : List (After σ)} {outcome₁ outcome₂ outcome₃ outcome' : Outcome}
      {flow₁ flow₂ flow₃ flow₄ flow' : Flow σ} :
      Entered filters flow exits none flow₁ → Handled handler flow₁ outcome₁ flow₂ →
        Reviewed filters outcome₁ flow₂ outcome₂ flow₃ →
          Rendered renderers outcome₂ flow₃ outcome₃ flow₄ →
            Passes exits outcome₃ flow₄ outcome' flow' →
              Nested handler filters renderers flow outcome' flow'

/-! ### The nest determines what comes of it -/

theorem Entered.unique {filters : List (Filter σ)} {flow flow₁ flow₂ : Flow σ}
    {exits₁ exits₂ : List (After σ)} {answer₁ answer₂ : Option Outcome}
    (h₁ : Entered filters flow exits₁ answer₁ flow₁)
    (h₂ : Entered filters flow exits₂ answer₂ flow₂) :
    exits₁ = exits₂ ∧ answer₁ = answer₂ ∧ flow₁ = flow₂ := by
  induction h₁ generalizing exits₂ answer₂ flow₂ with
  | done flow => cases h₂; exact ⟨rfl, rfl, rfl⟩
  | skipped _ ih => cases h₂ with | skipped h => exact ih h
  | moved _ ih => cases h₂ with | moved h => exact ih h
  | cancelled rest flow => cases h₂; exact ⟨rfl, rfl, rfl⟩
  | answered hrun =>
      cases h₂ with
      | answered hrun' =>
          obtain ⟨heq, rfl⟩ := Prod.mk.inj (hrun.symm.trans hrun')
          cases heq
          exact ⟨rfl, rfl, rfl⟩
      | proceeded hrun' _ => cases hrun.symm.trans hrun'
  | proceeded hrun _ ih =>
      cases h₂ with
      | answered hrun' => cases hrun.symm.trans hrun'
      | proceeded hrun' h =>
          obtain ⟨heq, rfl⟩ := Prod.mk.inj (hrun.symm.trans hrun')
          cases heq
          obtain ⟨rfl, rfl, rfl⟩ := ih h
          exact ⟨rfl, rfl, rfl⟩

theorem Handled.unique {handler : Handler σ} {flow flow₁ flow₂ : Flow σ}
    {outcome₁ outcome₂ : Outcome} (h₁ : Handled handler flow outcome₁ flow₁)
    (h₂ : Handled handler flow outcome₂ flow₂) : outcome₁ = outcome₂ ∧ flow₁ = flow₂ := by
  cases h₁ with
  | returned hrun =>
      cases h₂ with
      | returned hrun' => cases hrun.symm.trans hrun'; exact ⟨rfl, rfl⟩
      | panicked hrun' _ => cases hrun.symm.trans hrun'
  | panicked hrun _ =>
      cases h₂ with
      | returned hrun' => cases hrun.symm.trans hrun'
      | panicked hrun' _ => cases hrun.symm.trans hrun'; exact ⟨rfl, rfl⟩

theorem Passes.unique {filters : List (After σ)} {outcome outcome₁ outcome₂ : Outcome}
    {flow flow₁ flow₂ : Flow σ} (h₁ : Passes filters outcome flow outcome₁ flow₁)
    (h₂ : Passes filters outcome flow outcome₂ flow₂) : outcome₁ = outcome₂ ∧ flow₁ = flow₂ := by
  induction h₁ with
  | done outcome flow => cases h₂; exact ⟨rfl, rfl⟩
  | next hrun _ ih =>
      cases h₂ with
      | next hrun' h =>
          cases hrun.symm.trans hrun'
          exact ih h

theorem Reviewed.unique {filters : List (Filter σ)} {outcome outcome₁ outcome₂ : Outcome}
    {flow flow₁ flow₂ : Flow σ} (h₁ : Reviewed filters outcome flow outcome₁ flow₁)
    (h₂ : Reviewed filters outcome flow outcome₂ flow₂) :
    outcome₁ = outcome₂ ∧ flow₁ = flow₂ := by
  induction h₁ generalizing outcome₂ flow₂ with
  | done outcome flow => cases h₂; exact ⟨rfl, rfl⟩
  | skipped _ ih => cases h₂ with | skipped h => exact ih h
  | next _ hrun ih =>
      cases h₂ with
      | next h hrun' =>
          obtain ⟨rfl, rfl⟩ := ih h
          cases hrun.symm.trans hrun'
          exact ⟨rfl, rfl⟩

theorem Rendered.unique {renderers : List (Renderer σ)} {outcome outcome₁ outcome₂ : Outcome}
    {flow flow₁ flow₂ : Flow σ} (h₁ : Rendered renderers outcome flow outcome₁ flow₁)
    (h₂ : Rendered renderers outcome flow outcome₂ flow₂) :
    outcome₁ = outcome₂ ∧ flow₁ = flow₂ := by
  cases h₁ with
  | committed value hc =>
      cases h₂ with
      | committed _ _ => exact ⟨rfl, rfl⟩
      | written hc' _ => cases hc.symm.trans hc'
      | unwritten hc' _ => cases hc.symm.trans hc'
  | written hc hrun =>
      cases h₂ with
      | committed _ hc' => cases hc.symm.trans hc'
      | written _ hrun' => cases hrun.symm.trans hrun'; exact ⟨rfl, rfl⟩
      | unwritten _ hrun' => cases hrun.symm.trans hrun'
  | unwritten hc hrun =>
      cases h₂ with
      | committed _ hc' => cases hc.symm.trans hc'
      | written _ hrun' => cases hrun.symm.trans hrun'
      | unwritten _ hrun' => cases hrun.symm.trans hrun'; exact ⟨rfl, rfl⟩
  | failed failure flow => cases h₂; exact ⟨rfl, rfl⟩

/-- **The nest determines the outcome and the flow.** -/
theorem Nested.unique {handler : Handler σ} {filters : List (Filter σ)}
    {renderers : List (Renderer σ)} {flow flow₁ flow₂ : Flow σ} {outcome₁ outcome₂ : Outcome}
    (h₁ : Nested handler filters renderers flow outcome₁ flow₁)
    (h₂ : Nested handler filters renderers flow outcome₂ flow₂) :
    outcome₁ = outcome₂ ∧ flow₁ = flow₂ := by
  cases h₁ with
  | answered hentered hexits =>
      cases h₂ with
      | answered hentered' hexits' =>
          obtain ⟨rfl, heq, rfl⟩ := hentered.unique hentered'
          cases heq
          exact hexits.unique hexits'
      | through hentered' _ _ _ _ =>
          obtain ⟨-, heq, -⟩ := hentered.unique hentered'
          cases heq
  | through hentered hhandled hafters hrendered hexits =>
      cases h₂ with
      | answered hentered' _ =>
          obtain ⟨-, heq, -⟩ := hentered.unique hentered'
          cases heq
      | through hentered' hhandled' hafters' hrendered' hexits' =>
          obtain ⟨rfl, -, rfl⟩ := hentered.unique hentered'
          obtain ⟨rfl, rfl⟩ := hhandled.unique hhandled'
          obtain ⟨rfl, rfl⟩ := hafters.unique hafters'
          obtain ⟨rfl, rfl⟩ := hrendered.unique hrendered'
          exact hexits.unique hexits'

/-! ### A pipeline runs as the nest -/

theorem Passes.append {as bs : List (After σ)} {outcome₁ outcome₂ outcome₃ : Outcome}
    {flow₁ flow₂ flow₃ : Flow σ} (h : Passes as outcome₁ flow₁ outcome₂ flow₂)
    (h' : Passes bs outcome₂ flow₂ outcome₃ flow₃) :
    Passes (as ++ bs) outcome₁ flow₁ outcome₃ flow₃ := by
  induction h with
  | done => exact h'
  | next hrun _ ih => exact .next hrun (ih h')

theorem Passes.of_append {as bs : List (After σ)} {outcome outcome' : Outcome}
    {flow flow' : Flow σ} (h : Passes (as ++ bs) outcome flow outcome' flow') :
    ∃ outcome₁ flow₁, Passes as outcome flow outcome₁ flow₁ ∧
      Passes bs outcome₁ flow₁ outcome' flow' := by
  induction as generalizing outcome flow with
  | nil => exact ⟨outcome, flow, .done _ _, h⟩
  | cons a as ih =>
      cases h with
      | next hrun hrest =>
          obtain ⟨outcome₁, flow₁, hleft, hright⟩ := ih hrest
          exact ⟨outcome₁, flow₁, .next hrun hleft, hright⟩

namespace Pipeline

/-- A handler that comes to its end, or panics with what can be dropped, has been handled. -/
theorem perform_guarded {handler : Handler σ}
    (h : ∀ ctx w, (handler.run ctx w).ending ≠ .stalled)
    (hpanics : ∀ ctx w p, (handler.run ctx w).ending = .panicked p → p.dropped? = none)
    (flow : Flow σ) :
    ∃ outcome flow', flow.perform (Action.guarded handler.run) = (.done outcome, flow') ∧
      Handled handler flow outcome flow' := by
  rw [Flow.perform_guarded]
  cases hrun : flow.perform handler.run with
  | mk ending flow' =>
      have hending := congrArg Prod.fst hrun
      cases ending with
      | done outcome => exact ⟨outcome, flow', rfl, .returned hrun⟩
      | panicked p =>
          have hquiet := hpanics _ _ p hending
          refine ⟨_, flow', ?_, .panicked hrun hquiet⟩
          rw [Ending.caught_of_quiet hquiet]
      | stalled => exact absurd hending (h _ _)

/-- The filters in front of the inner segment come to an end on a flow, by the rules of
`Entered` on the way down, and by the ways out on whatever they answered or the inner
segment left. -/
def Surrounded (p : Pipeline σ) (filters : List (Filter σ)) (here : Option Executor)
    (flow : Flow σ) : Prop :=
  ∃ exits answer flow₁ outcome₁ flow₂ outcome flow',
    p.runFrom here flow (beforesOf filters) = (.done outcome, flow') ∧
      Entered filters flow exits answer flow₁ ∧
      (answer = some outcome₁ ∧ flow₂ = flow₁ ∨
        answer = none ∧ flow₁.perform p.inner.run = (.done outcome₁, flow₂)) ∧
      Passes exits outcome₁ flow₂ outcome flow'

section Surrounded

variable {p : Pipeline σ} {rest : List (Filter σ)} {here : Option Executor} {flow : Flow σ}

/-- Without filters the inner segment runs. -/
theorem surrounded_nil (hdetached : p.detached = false) (hinner : Action.Ends p.inner.run) :
    p.Surrounded [] here flow := by
  obtain ⟨outcome, flow', hrun⟩ := flow.exists_perform hinner
  have hfrom : p.runFrom here flow (beforesOf []) = (.done outcome, flow') := by
    rw [beforesOf, List.filterMap_nil, runFrom, hdetached]
    exact hrun
  exact ⟨[], none, flow, outcome, flow', outcome, flow', hfrom, .done flow, .inr ⟨rfl, hrun⟩,
    .done _ _⟩

theorem Surrounded.after (a : After σ) (h : p.Surrounded rest here flow) :
    p.Surrounded (.after a :: rest) here flow := by
  obtain ⟨exits, answer, flow₁, outcome₁, flow₂, outcome, flow', hrun, hentered, hrest⟩ := h
  exact ⟨exits, answer, flow₁, outcome₁, flow₂, outcome, flow', hrun, .skipped hentered, hrest⟩

/-- An executor that runs the rest hands its outcome on. -/
theorem Surrounded.offload (here : Option Executor)
    (h : p.Surrounded rest (some .running) flow) :
    p.Surrounded (.before (.offload .running) :: rest) here flow := by
  obtain ⟨exits, answer, flow₁, outcome₁, flow₂, outcome, flow', hrun, hentered, hrest⟩ := h
  have hfrom : p.runFrom here flow (.offload .running :: beforesOf rest) =
      (.done outcome, flow') := by
    rw [runFrom, hrun]
  exact ⟨exits, answer, flow₁, outcome₁, flow₂, outcome, flow', hfrom, .moved hentered, hrest⟩

theorem surrounded_cancelled :
    p.Surrounded (.before (.offload .shutDown) :: rest) here flow :=
  ⟨[], _, flow.lost, _, flow.lost, _, flow.lost, rfl, .cancelled rest flow, .inl ⟨rfl, rfl⟩,
    .done _ _⟩

/-- A filter answers, or lets the rest run and then goes back over its outcome. -/
theorem surrounded_around {enter : Action σ (Entry σ)}
    (hfilter : (Filter.before (.around enter)).Ends)
    (h : ∀ flow, p.Surrounded rest here flow) :
    p.Surrounded (.before (.around enter) :: rest) here flow := by
  obtain ⟨entry, hending, hleave⟩ := hfilter flow.context flow.world
  have henter : flow.perform enter = (.done entry, _) := Prod.ext hending rfl
  cases entry with
  | answer outcome =>
      have hfrom : p.runFrom here flow (.around enter :: beforesOf rest) =
          (.done outcome, (flow.perform enter).2) := by
        rw [runFrom, henter]
      exact ⟨[], some outcome, _, outcome, _, outcome, _, hfrom, .answered henter,
        .inl ⟨rfl, rfl⟩, .done _ _⟩
  | watch leave =>
      obtain ⟨exits, answer, flow₁, outcome₁, flow₂, outcome, flow', hrun, hentered, hinside,
        hpasses⟩ := h (flow.perform enter).2
      obtain ⟨outcome', flow'', hout⟩ := flow'.exists_perform (hleave leave rfl outcome)
      have hfrom : p.runFrom here flow (.around enter :: beforesOf rest) =
          (.done outcome', flow'') := by
        rw [runFrom, henter]
        dsimp only
        rw [hrun]
        exact hout
      exact ⟨_, answer, flow₁, outcome₁, flow₂, outcome', flow'', hfrom,
        .proceeded henter hentered, hinside, hpasses.append (.next hout (.done _ _))⟩

end Surrounded

/-- **The filters in front** stand around the inner segment, in the order of their declaration. -/
theorem surrounded {p : Pipeline σ} (hdetached : p.detached = false)
    (hinner : Action.Ends p.inner.run) {filters : List (Filter σ)}
    (hfilters : ∀ f ∈ filters, f.Ends) (here : Option Executor) (flow : Flow σ) :
    p.Surrounded filters here flow := by
  induction filters generalizing here flow with
  | nil => exact surrounded_nil hdetached hinner
  | cons filter rest ih =>
      have hrest := ih fun f hf => hfilters f (List.mem_cons_of_mem filter hf)
      have hfilter := hfilters filter List.mem_cons_self
      cases filter with
      | after a => exact (hrest here flow).after a
      | before b =>
          cases b with
          | around enter => exact surrounded_around hfilter (hrest here)
          | offload executor =>
              cases executor with
              | running => exact (hrest (some .running) flow).offload here
              | shutDown => exact surrounded_cancelled

/-- A filter in front that writes down when it is entered and when it is left. -/
def noting (name : String) : Filter (List String) :=
  .before <| .around fun ctx w =>
    ⟨.done <| .proceed fun outcome =>
        ExceptT.mk fun ctx w => ⟨.done outcome, ctx, w ++ ["leave " ++ name]⟩,
      ctx, w ++ ["enter " ++ name]⟩

/-- A filter on the outcome that writes down that it runs, and puts a value in the place of the
outcome. -/
def recovering (name : String) : Filter (List String) :=
  .after fun _ => ExceptT.mk fun ctx w => ⟨.done (.ok (.text name)), ctx, w ++ [name]⟩

end Pipeline

end Switchyard
