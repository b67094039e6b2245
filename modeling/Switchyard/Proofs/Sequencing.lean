import Switchyard.Pipeline.Composition

/-!
# Properties of Code in Sequence

A pipeline runs code that is not its own, and between it a few steps on the response: it chooses a
content type, sends a body, and asks whether one was sent. `Action.Sequential` is what a property
of code has to satisfy in order to pass from the parts of an inner segment to the whole: code in
sequence has it if its parts have it, and so do the steps of the library.

## Main results

* `Sequential.render`: rendering has what all renderers have.
* `Sequential.inner`: the inner segment has what its handler, filters and renderers have.
-/

namespace Switchyard

variable {σ α β : Type}

/-- A property that code in sequence has if its parts have it, and that the steps of the library
on the response have. -/
structure Action.Sequential (P : (α : Type) → Action σ α → Prop) : Prop where
  pure : ∀ {α : Type} (a : α), P α (pure a)
  bind : ∀ {α β : Type} {x : Action σ α} {f : α → Action σ β},
    P α x → (∀ a, P β (f a)) → P β (x >>= f)
  guarded : ∀ {α : Type} {x : Action σ (Except Failure α)}, P _ x → P _ (guarded x)
  isCommitted : P _ (Attempt.read fun ctx => .ok ctx.isCommitted : Attempt σ Bool).run
  setDefaultContentType : ∀ value, P _ (edit fun ctx => ctx.setDefaultContentType value)
  send : ∀ body, P _ (edit fun ctx => ctx.send body)

/-- Do the handler, the filters on the outcome and the renderers have the property? -/
structure Pipeline.Inside (P : (α : Type) → Action σ α → Prop) (p : Pipeline σ) : Prop where
  handler : P _ p.handler.run
  afters : ∀ a ∈ p.afters, ∀ outcome, P _ (a outcome).run
  renderers : ∀ r ∈ p.renderers, ∀ value, P _ (r value).run

namespace Action.Sequential

variable {P : (α : Type) → Action σ α → Prop}

/-- A second attempt is made only if the first one succeeds. -/
theorem andThen (h : Sequential P) {x : Attempt σ α} {f : α → Attempt σ β} (hx : P _ x.run)
    (hf : ∀ a, P _ (f a).run) : P _ (x >>= f).run := by
  refine h.bind hx fun result => ?_
  cases result with
  | ok a => exact hf a
  | error e => exact h.pure _

theorem forM (h : Sequential P) {xs : List (Attempt σ Unit)} (hxs : ∀ x ∈ xs, P _ x.run) :
    P _ (xs.forM id).run := by
  induction xs with
  | nil => exact h.pure _
  | cons x xs ih =>
      exact h.andThen (hxs x List.mem_cons_self) fun _ =>
        ih fun y hy => hxs y (List.mem_cons_of_mem x hy)

theorem text (h : Sequential P) (value : Value) :
    P _ (Renderer.text value : Attempt σ Bool).run := by
  have hdefault (contentType : String) (body : ByteArray) :
      P _ (Renderer.sendDefault contentType body : Attempt σ Bool).run :=
    h.andThen (h.setDefaultContentType contentType) fun _ =>
      h.andThen (h.send body) fun _ => h.pure _
  cases value with
  | empty => exact h.andThen (h.send .empty) fun _ => h.pure _
  | text s => exact hdefault _ _
  | bytes b => exact hdefault _ _
  | json j => exact hdefault _ _

/-- **Rendering has what all renderers have.** -/
theorem render (h : Sequential P) {renderers : List (Renderer σ)}
    (hrenderers : ∀ r ∈ renderers, ∀ value, P _ (r value).run) (value : Value) :
    P _ (Renderer.render renderers value).run := by
  have hfirst : ∀ rs : List (Renderer σ), (∀ r ∈ rs, ∀ value, P _ (r value).run) →
      P _ (Renderer.firstOf rs value).run := by
    intro rs hrs
    induction rs with
    | nil =>
        refine h.bind (h.text value) fun result => ?_
        cases result <;> exact h.pure _
    | cons r rs ih =>
        refine h.andThen (hrs r List.mem_cons_self value) fun accepted => ?_
        cases accepted with
        | true => exact h.pure _
        | false => exact ih fun s hs => hrs s (List.mem_cons_of_mem r hs)
  exact hfirst renderers.reverse fun r hr => hrenderers r (List.mem_reverse.1 hr)

theorem applyAfters (h : Sequential P) {as : List (After σ)}
    (has : ∀ a ∈ as, ∀ outcome, P _ (a outcome).run) (outcome : Outcome) :
    P _ (Pipeline.applyAfters as outcome).run := by
  induction as generalizing outcome with
  | nil => exact h.pure _
  | cons a as ih =>
      exact h.bind (has a List.mem_cons_self outcome) fun outcome' =>
        ih (fun b hb => has b (List.mem_cons_of_mem a hb)) outcome'

/-- **The inner segment has what its handler, filters and renderers have.** -/
theorem inner (h : Sequential P) {p : Pipeline σ} (hp : p.Inside P) : P _ p.inner.run := by
  refine h.bind (h.guarded hp.handler) fun outcome => ?_
  have hafters : ∀ a ∈ p.afters.reverse, ∀ outcome, P _ (a outcome).run :=
    fun a ha => hp.afters a (List.mem_reverse.1 ha)
  refine h.bind (h.applyAfters hafters outcome) fun result => ?_
  cases result with
  | error f => exact h.pure _
  | ok value =>
      refine h.andThen h.isCommitted fun committed => ?_
      cases committed with
      | true => exact h.pure _
      | false => exact h.andThen (h.render hp.renderers value) fun _ => h.pure _

end Action.Sequential

end Switchyard
