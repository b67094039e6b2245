import Switchyard.Proofs.HeaderText
import Switchyard.Proofs.Unwinding

/-!
# Rendering a Value

The value of a handler is shown to one renderer after the other, the one declared last first, until
one of them accepts it; if none does, it is written in plain. All of them act on one context, and a
response can be sent only once. So a renderer that sends a body and then declines would make every
renderer behind it fail, and one that accepts without sending would leave the request unanswered.

Renderers of the library do neither (`Renderer.perform_library`), and of others it has to be
assumed (`Renderer.Commits`). Then no context is committed before a renderer accepts, and what is
behind that one does not run. `Renderer.Renders` has one clause for each end that this can come to,
and in none of them is it the library that fails.

## Main results

* `Renderer.perform_library`, `Renderer.perform_render_library`: what the renderers of the library
  do to a response, one and several of them.
* `Renderer.perform_render_of_declined`: renderers declared before the one that accepts do not run.
* `Renderer.perform_render_iff`: rendering comes to an end exactly by the rules of `Renders`.
* `Pipeline.inner_commits`: an inner segment that succeeds has committed its response.
-/

namespace Switchyard

open Web (HeaderValue IsSendable)

variable {σ : Type}

/-! ### Writing a response -/

/-- The content type of the response. -/
def Context.label? (ctx : Context) : Option HeaderValue :=
  ctx.response.headers.get? .contentType

/-- The response committed with a body. -/
def Context.sent (ctx : Context) (body : ByteArray) : Context :=
  { ctx with response := { ctx.response with body, committed := true } }

/-- The content type put in place unless there is one. -/
def Context.labelled (ctx : Context) (label : HeaderValue) : Context :=
  if ctx.response.headers.contains .contentType then ctx else ctx.putHeader .contentType label

/-- The content type of a value in plain, if it has one. -/
def Value.plainType? : Value → Option String
  | .empty => none
  | .text _ => some "text/plain; charset=utf-8"
  | .bytes _ => some "application/octet-stream"
  | .json _ => some "application/json"

/-- A value in plain: text and bytes as they are, JSON in the compact layout. -/
def Value.plainBody : Value → ByteArray
  | .empty => .empty
  | .text s => s.toUTF8
  | .bytes b => b
  | .json j => j.compact.toUTF8

/-- The response committed with a value in plain. -/
def Context.sentPlain (ctx : Context) (value : Value) : Context :=
  (value.plainType?.elim ctx fun type => ctx.labelled (.ofReadable type)).sent value.plainBody

/-- A second attempt is not made if the first one does not end. -/
theorem Flow.perform_andThen_of_stalled {α β : Type} {x : Attempt σ α} (f : α → Attempt σ β)
    {flow flow' : Flow σ} (h : flow.perform x.run = (.stalled, flow')) :
    flow.perform (x >>= f).run = (.stalled, flow') := by
  have hbind := Flow.perform_bind_run x.run (ExceptT.bindCont f) flow
  rw [h] at hbind
  exact hbind

namespace Context

variable {ctx : Context}

theorem isCommitted_labelled (label : HeaderValue) :
    (ctx.labelled label).isCommitted = ctx.isCommitted := by
  rw [labelled]
  split <;> rfl

theorem status_labelled (label : HeaderValue) :
    (ctx.labelled label).response.status = ctx.response.status := by
  rw [labelled]
  split <;> rfl

theorem contains_of_label? {v : HeaderValue} (h : ctx.label? = some v) :
    ctx.response.headers.contains .contentType = true :=
  Option.isSome_of_eq_some h

/-- A content type that is there stays. -/
theorem label?_labelled {v : HeaderValue} (h : ctx.label? = some v) (label : HeaderValue) :
    (ctx.labelled label).label? = some v := by
  rw [labelled, if_pos (contains_of_label? h)]
  exact h

/-- A value in plain is sent with the content type that is there. -/
theorem label?_sentPlain {v : HeaderValue} (h : ctx.label? = some v) (value : Value) :
    (ctx.sentPlain value).label? = some v := by
  cases value with
  | empty => exact h
  | text s => exact label?_labelled h _
  | bytes b => exact label?_labelled h _
  | json j => exact label?_labelled h _

theorem send_of_free (hfree : ctx.isCommitted = false) (body : ByteArray) :
    ctx.send body = .ok (ctx.sent body) :=
  send_eq_ok_iff.2 ⟨hfree, rfl⟩

theorem setContentType_of_sendable (ctx : Context) {type : String}
    (h : ∀ c ∈ type.toList, IsSendable c) :
    ctx.setContentType type = .ok (ctx.putHeader .contentType (.ofReadable type)) := by
  have hvalue : HeaderValue.ofText? type = some (.ofReadable type) :=
    HeaderValue.ofText?_eq_some_iff.2 ⟨h, rfl⟩
  rw [setContentType, hvalue]

theorem setDefaultContentType_of_sendable (ctx : Context) {type : String}
    (h : ∀ c ∈ type.toList, IsSendable c) :
    ctx.setDefaultContentType type = .ok (ctx.labelled (.ofReadable type)) := by
  rw [setDefaultContentType, setContentType_of_sendable ctx h, labelled]
  split <;> rfl

end Context

namespace Renderer

/-! ### The renderers of the library -/

/-- The renderers that the library has: plain text, and JSON in one of two layouts. -/
inductive Library where
  | text
  | json (pretty : Bool)
  deriving DecidableEq

namespace Library

/-- The layout of JSON. -/
def layout : Bool → Json → String
  | true => Json.pretty
  | false => Json.compact

def renderer : Library → Renderer σ
  | text => Renderer.text
  | json true => jsonPretty
  | json false => Renderer.json

/-- JSON is all that the renderers of JSON accept. -/
def accepts : Library → Value → Bool
  | text, _ => true
  | json _, .json _ => true
  | json _, _ => false

/-- The context behind a renderer that was shown a value. -/
def written (ctx : Context) : Library → Value → Context
  | text, value => ctx.sentPlain value
  | json pretty, .json j =>
    (ctx.putHeader .contentType (.ofReadable "application/json")).sent (layout pretty j).toUTF8
  | json _, _ => ctx

/-- The context behind several renderers that were shown a value, in the order in which they are
asked. -/
def rendered (ctx : Context) (asked : List Library) (value : Value) : Context :=
  (asked.find? (·.accepts value)).elim (ctx.sentPlain value) (·.written ctx value)

theorem renderer_json (pretty : Bool) :
    (json pretty).renderer = (jsonWith (layout pretty) : Renderer σ) := by
  cases pretty <;> rfl

end Library

section

variable {flow : Flow σ}

/-- A body is sent with its content type unless one is chosen already. -/
theorem perform_sendDefault (hfree : flow.context.isCommitted = false) {type : String}
    (htype : ∀ c ∈ type.toList, IsSendable c) (body : ByteArray) :
    flow.perform (sendDefault type body : Attempt σ Bool).run =
      (.done (.ok true),
        { flow with context := (flow.context.labelled (.ofReadable type)).sent body }) := by
  have hset := flow.context.setDefaultContentType_of_sendable htype
  have hsend := Context.send_of_free
    ((Context.isCommitted_labelled (.ofReadable type)).trans hfree) body
  rw [sendDefault, Flow.perform_andThen _ (Flow.perform_edit_of_ok hset),
    Flow.perform_andThen _ (Flow.perform_edit_of_ok hsend)]
  rfl

/-- Every value is written in plain. -/
theorem perform_text (hfree : flow.context.isCommitted = false) (value : Value) :
    flow.perform (text value : Attempt σ Bool).run =
      (.done (.ok true), { flow with context := flow.context.sentPlain value }) := by
  cases value with
  | empty =>
      have hsend := Context.send_of_free hfree .empty
      rw [text, Flow.perform_andThen _ (Flow.perform_edit_of_ok hsend)]
      rfl
  | text s => exact perform_sendDefault hfree (by simp [IsSendable]) _
  | bytes b => exact perform_sendDefault hfree (by simp [IsSendable]) _
  | json j => exact perform_sendDefault hfree (by simp [IsSendable]) _

/-- JSON is written with its content type, whatever was chosen before. -/
theorem perform_jsonWith (hfree : flow.context.isCommitted = false) (write : Json → String)
    (j : Json) :
    flow.perform (jsonWith write (.json j) : Attempt σ Bool).run =
      (.done (.ok true), { flow with
        context := (flow.context.putHeader .contentType (.ofReadable "application/json")).sent
          (write j).toUTF8 }) := by
  have hsendable : ∀ c ∈ "application/json".toList, IsSendable c := by simp [IsSendable]
  have hset := flow.context.setContentType_of_sendable hsendable
  have hstill : (flow.context.putHeader .contentType
      (.ofReadable "application/json")).isCommitted = false := hfree
  have hsend := Context.send_of_free hstill (write j).toUTF8
  rw [jsonWith, Flow.perform_andThen _ (Flow.perform_edit_of_ok hset),
    Flow.perform_andThen _ (Flow.perform_edit_of_ok hsend)]
  rfl

/-- **A renderer of the library does not fail**: it writes a value that it accepts. -/
theorem perform_library (hfree : flow.context.isCommitted = false) (l : Library) (value : Value) :
    flow.perform (l.renderer value : Attempt σ Bool).run =
      (.done (.ok (l.accepts value)), { flow with context := l.written flow.context value }) := by
  cases l with
  | text => exact perform_text hfree value
  | json pretty =>
      rw [Library.renderer_json]
      cases value with
      | json j => exact perform_jsonWith hfree (Library.layout pretty) j
      | empty => rfl
      | text s => rfl
      | bytes b => rfl

/-- A value that a renderer of the library declines leaves the flow, committed or not. -/
theorem perform_library_of_declined {l : Library} {value : Value} (h : l.accepts value = false)
    (flow : Flow σ) :
    flow.perform (l.renderer value : Attempt σ Bool).run = (.done (.ok false), flow) := by
  cases l with
  | text => cases h
  | json pretty =>
      rw [Library.renderer_json]
      cases value with
      | json j => cases h
      | empty => rfl
      | text s => rfl
      | bytes b => rfl

end

/-! ### Committing exactly what is accepted -/

/-- Does the renderer, on a response that is not committed, commit it if it accepts the value, and
not commit it if it declines? If it fails, it may do either. -/
def Commits (r : Renderer σ) : Prop :=
  ∀ (value : Value) (accepted : Bool) (flow flow' : Flow σ), flow.context.isCommitted = false →
    flow.perform (r value).run = (.done (.ok accepted), flow') →
      flow'.context.isCommitted = accepted

/-- Is the renderer one of the library? -/
def IsLibrary (r : Renderer σ) : Prop :=
  ∃ l : Library, r = l.renderer

theorem Library.isCommitted_written {ctx : Context} (hfree : ctx.isCommitted = false) (l : Library)
    (value : Value) : (l.written ctx value).isCommitted = l.accepts value := by
  cases l with
  | text => rfl
  | json pretty =>
      cases value with
      | json j => rfl
      | empty => exact hfree
      | text s => exact hfree
      | bytes b => exact hfree

/-- The renderers of the library commit exactly what they accept. -/
theorem IsLibrary.commits {r : Renderer σ} (h : r.IsLibrary) : r.Commits := by
  obtain ⟨l, rfl⟩ := h
  intro value accepted flow flow' hfree hrun
  rw [perform_library hfree] at hrun
  cases hrun
  exact l.isCommitted_written hfree value

/-- The renderers of the library come to an end, and do not fail. -/
theorem IsLibrary.exists_accepted {r : Renderer σ} (h : r.IsLibrary) (value : Value)
    {flow : Flow σ} (hfree : flow.context.isCommitted = false) :
    ∃ accepted flow', flow.perform (r value).run = (.done (.ok accepted), flow') := by
  obtain ⟨l, rfl⟩ := h
  exact ⟨_, _, perform_library hfree l value⟩

/-- Renderers that declined have committed nothing. -/
theorem isCommitted_of_declined {value : Value} {asked : List (Renderer σ)} {flow flow' : Flow σ}
    (h : Declined value asked flow flow') (hcommits : ∀ r ∈ asked, r.Commits)
    (hfree : flow.context.isCommitted = false) : flow'.context.isCommitted = false := by
  induction h with
  | done => exact hfree
  | @next r rest flow flow₁ flow' hrun _ ih =>
      obtain ⟨hr, hrest⟩ := List.forall_mem_cons.1 hcommits
      exact ih hrest (hr value false flow flow₁ hfree hrun)

/-! ### One renderer after the other -/

/-- What the rendering comes to with a renderer that does not decline. -/
def settled : Ending (Except Failure Bool) → Ending (Except Failure Unit)
  | .done (.ok _) => .done (.ok ())
  | .done (.error failure) => .done (.error failure)
  | .panicked e => .panicked e
  | .stalled => .stalled

section

variable {value : Value} {flow flow₁ flow' : Flow σ}

/-- Renderers that declined hand what they left to the next. -/
theorem perform_firstOf_of_declined {asked : List (Renderer σ)}
    (h : Declined value asked flow flow₁) (rest : List (Renderer σ)) :
    flow.perform (firstOf (asked ++ rest) value).run =
      flow₁.perform (firstOf rest value).run := by
  induction h with
  | done => rfl
  | next hrun _ ih => exact (Flow.perform_andThen _ hrun).trans ih

/-- A renderer that does not decline settles what becomes of the value. -/
theorem perform_firstOf_cons {r : Renderer σ} {ending : Ending (Except Failure Bool)}
    (hrun : flow.perform (r value).run = (ending, flow')) (hending : ending ≠ .done (.ok false))
    (rest : List (Renderer σ)) :
    flow.perform (firstOf (r :: rest) value).run = (settled ending, flow') := by
  have hbind : flow.perform (firstOf (r :: rest) value).run =
      flow.perform (r value >>= fun accepted =>
        if accepted then return () else firstOf rest value).run := rfl
  cases ending with
  | done result =>
      cases result with
      | error failure => rw [hbind, Flow.perform_andThen_of_error _ hrun, settled]
      | ok accepted =>
          obtain rfl : accepted = true := by simpa using hending
          rw [hbind, Flow.perform_andThen _ hrun]
          rfl
  | panicked e =>
      rw [hbind]
      exact Flow.perform_andThen_eq_panicked_iff.2 (.inl hrun)
  | stalled => exact Flow.perform_andThen_of_stalled _ hrun

/-- **A renderer that does not decline, when all declared behind it did, settles what becomes of the
value**, and those declared before it do not run, whatever they are. -/
theorem perform_render_of_declined {later : List (Renderer σ)} {r : Renderer σ}
    {ending : Ending (Except Failure Bool)} (hlater : Declined value later.reverse flow flow₁)
    (hrun : flow₁.perform (r value).run = (ending, flow')) (hending : ending ≠ .done (.ok false))
    (earlier : List (Renderer σ)) :
    flow.perform (render (earlier ++ r :: later) value).run = (settled ending, flow') := by
  have hreverse : (earlier ++ r :: later).reverse = later.reverse ++ r :: earlier.reverse := by simp
  rw [render, hreverse, perform_firstOf_of_declined hlater, perform_firstOf_cons hrun hending]

/-- A value that all renderers decline is written in plain. -/
theorem perform_render_of_all_declined {declared : List (Renderer σ)}
    (h : Declined value declared.reverse flow flow₁) (hfree : flow₁.context.isCommitted = false) :
    flow.perform (render declared value).run =
      (.done (.ok ()), { flow₁ with context := flow₁.context.sentPlain value }) := by
  have hfirst := perform_firstOf_of_declined h []
  rw [List.append_nil] at hfirst
  rw [render, hfirst]
  exact Flow.perform_bind _ (perform_text hfree value)

/-- Of the renderers of the library the first one that accepts a value writes it. -/
theorem perform_firstOf_library (hfree : flow.context.isCommitted = false) (asked : List Library)
    (value : Value) :
    flow.perform (firstOf (asked.map Library.renderer) value).run =
      (.done (.ok ()), { flow with context := Library.rendered flow.context asked value }) := by
  induction asked with
  | nil => exact Flow.perform_bind _ (perform_text hfree value)
  | cons l rest ih =>
      rw [List.map_cons, Library.rendered, List.find?_cons]
      cases haccepts : l.accepts value with
      | false => exact (Flow.perform_andThen _ (perform_library_of_declined haccepts flow)).trans ih
      | true =>
          have hrun := perform_library hfree l value
          rw [haccepts] at hrun
          exact perform_firstOf_cons hrun (by simp) _

/-- **Renderers of the library write every value**: the one declared last of those that accept it,
or it is written in plain. -/
theorem perform_render_library (hfree : flow.context.isCommitted = false)
    (declared : List Library) (value : Value) :
    flow.perform (render (declared.map Library.renderer) value).run = (.done (.ok ()),
      { flow with context := Library.rendered flow.context declared.reverse value }) := by
  rw [render, ← List.map_reverse, perform_firstOf_library hfree]

/-- All renderers decline a value, or a first one does not. -/
theorem exists_declined (value : Value) (rs : List (Renderer σ)) (flow : Flow σ) :
    (∃ flow₁, Declined value rs flow flow₁) ∨
      ∃ asked r rest flow₁ ending flow', rs = asked ++ r :: rest ∧
        Declined value asked flow flow₁ ∧ flow₁.perform (r value).run = (ending, flow') ∧
          ending ≠ .done (.ok false) := by
  induction rs generalizing flow with
  | nil => exact .inl ⟨flow, .done flow⟩
  | cons r rs ih =>
      cases hrun : flow.perform (r value).run with
      | mk ending flow₁ =>
          by_cases hending : ending = .done (.ok false)
          · subst hending
            rcases ih flow₁ with ⟨flow', hall⟩ | ⟨asked, r', rest, flow₂, ending, flow', rfl,
              hasked, hrun', hending⟩
            · exact .inl ⟨flow', .next hrun hall⟩
            · exact .inr ⟨r :: asked, r', rest, flow₂, ending, flow', rfl, .next hrun hasked,
                hrun', hending⟩
          · exact .inr ⟨[], r, rs, flow, ending, flow₁, rfl, .done flow, hrun, hending⟩

end

/-- What becomes of a value and of a response that is not committed. In each clause all renderers
that are declared behind the one that decides have declined and committed nothing. -/
inductive Renders (declared : List (Renderer σ)) (value : Value) (flow : Flow σ) :
    Ending (Except Failure Unit) → Flow σ → Prop
  /-- a renderer accepted the value, and committed the response -/
  | accepted {earlier later : List (Renderer σ)} {r : Renderer σ} {flow₁ flow' : Flow σ} :
      declared = earlier ++ r :: later → Declined value later.reverse flow flow₁ →
        flow₁.context.isCommitted = false →
          flow₁.perform (r value).run = (.done (.ok true), flow') →
            flow'.context.isCommitted = true → Renders declared value flow (.done (.ok ())) flow'
  /-- all renderers declined, and the value was written in plain -/
  | plain {flow₁ : Flow σ} :
      Declined value declared.reverse flow flow₁ → flow₁.context.isCommitted = false →
        Renders declared value flow (.done (.ok ()))
          { flow₁ with context := flow₁.context.sentPlain value }
  /-- a renderer that is none of the library failed, panicked or did not end -/
  | broke {earlier later : List (Renderer σ)} {r : Renderer σ} {flow₁ flow' : Flow σ}
      {ending : Ending (Except Failure Bool)} :
      declared = earlier ++ r :: later → Declined value later.reverse flow flow₁ →
        flow₁.context.isCommitted = false → ¬r.IsLibrary →
          flow₁.perform (r value).run = (ending, flow') →
            (∀ accepted, ending ≠ .done (.ok accepted)) →
              Renders declared value flow (settled ending) flow'

/-- A value that is rendered has committed the response. -/
theorem Renders.isCommitted {declared : List (Renderer σ)} {value : Value} {flow flow' : Flow σ}
    (h : Renders declared value flow (.done (.ok ())) flow') :
    flow'.context.isCommitted = true := by
  generalize hended : (.done (.ok ()) : Ending (Except Failure Unit)) = ended at h
  cases h with
  | accepted _ _ _ _ hcommitted => exact hcommitted
  | plain _ _ => rfl
  | @broke _ _ _ _ _ ending _ _ _ _ _ hending =>
      cases ending with
      | done result =>
          cases result with
          | ok accepted => exact absurd rfl (hending accepted)
          | error failure => cases hended
      | panicked e => cases hended
      | stalled => cases hended

section

variable {declared : List (Renderer σ)} (hdeclared : ∀ r ∈ declared, r.IsLibrary ∨ r.Commits)

include hdeclared

/-- **Rendering comes to an end exactly by the rules of `Renders`**, if all renderers are of the
library or commit what they accept. -/
theorem perform_render_iff {value : Value} {flow flow' : Flow σ}
    {ended : Ending (Except Failure Unit)} (hfree : flow.context.isCommitted = false) :
    flow.perform (render declared value).run = (ended, flow') ↔
      Renders declared value flow ended flow' := by
  have hcommits : ∀ r ∈ declared, r.Commits := fun r hr => (hdeclared r hr).elim
    IsLibrary.commits id
  constructor
  · intro h
    rcases exists_declined value declared.reverse flow with ⟨flow₁, hall⟩ |
      ⟨asked, r, rest, flow₁, ending, flow₂, hsplit, hasked, hrun, hending⟩
    · have hfree₁ := isCommitted_of_declined hall
        (fun r hr => hcommits r (List.mem_reverse.1 hr)) hfree
      cases (perform_render_of_all_declined hall hfree₁).symm.trans h
      exact .plain hall hfree₁
    · have hmem : ∀ s ∈ asked ++ r :: rest, s ∈ declared :=
        fun s hs => List.mem_reverse.1 (hsplit ▸ hs)
      have hfree₁ := isCommitted_of_declined hasked
        (fun s hs => hcommits s (hmem s (List.mem_append_left _ hs))) hfree
      have hr := hcommits r (hmem r List.mem_append_cons_self)
      have hdeclared' : declared = rest.reverse ++ r :: asked.reverse := by
        rw [← List.reverse_reverse declared, hsplit]
        simp
      rw [← List.reverse_reverse asked] at hasked
      cases (hdeclared' ▸ perform_render_of_declined hasked hrun hending _).symm.trans h
      by_cases haccepted : ending = .done (.ok true)
      · subst haccepted
        exact .accepted hdeclared' hasked hfree₁ hrun (hr value true flow₁ _ hfree₁ hrun)
      · have hbroke : ∀ accepted, ending ≠ .done (.ok accepted) := by
          rintro (_ | _)
          · exact hending
          · exact haccepted
        refine .broke hdeclared' hasked hfree₁ (fun hlibrary => ?_) hrun hbroke
        obtain ⟨accepted, _, hrun'⟩ := hlibrary.exists_accepted value hfree₁
        exact hbroke accepted (congrArg Prod.fst (hrun.symm.trans hrun'))
  · intro h
    cases h with
    | accepted hsplit hlater _ hrun _ =>
        rw [hsplit, perform_render_of_declined hlater hrun (by simp)]
        rfl
    | plain hall hfree₁ => exact perform_render_of_all_declined hall hfree₁
    | broke hsplit hlater _ _ hrun hending =>
        rw [hsplit, perform_render_of_declined hlater hrun (hending false)]

end

end Renderer

/-! ### The inner segment -/

namespace Pipeline

open Renderer (IsLibrary Library Renders)

variable {p : Pipeline σ} {flow flow' : Flow σ}

/-- An inner segment that succeeds has committed the response, or found it committed. -/
theorem renders_of_inner (hrenderers : ∀ r ∈ p.renderers, r.IsLibrary ∨ r.Commits) {value : Value}
    (h : flow.perform p.inner.run = (.done (.ok value), flow')) :
    flow'.context.isCommitted = true ∧
      ∃ outcome flow₁ flow₂, Handled p.handler flow outcome flow₁ ∧
        Passes p.afters.reverse outcome flow₁ (.ok value) flow₂ ∧
        (flow₂.context.isCommitted = true ∧ flow' = flow₂ ∨
          flow₂.context.isCommitted = false ∧
            Renders p.renderers value flow₂ (.done (.ok ())) flow') := by
  obtain ⟨outcome, flow₁, outcome₂, flow₂, hhandled, hpasses, hrendered⟩ :=
    perform_inner_eq_done_iff.1 h
  cases hrendered with
  | committed _ hcommitted =>
      exact ⟨hcommitted, outcome, flow₁, _, hhandled, hpasses, .inl ⟨hcommitted, rfl⟩⟩
  | written hfree hrun =>
      have hrenders := (Renderer.perform_render_iff hrenderers hfree).1 hrun
      exact ⟨hrenders.isCommitted, outcome, flow₁, flow₂, hhandled, hpasses,
        .inr ⟨hfree, hrenders⟩⟩

/-- An inner segment that fails has the failure of its code, or of a renderer on a response that was
not committed. -/
theorem renders_of_inner_error (hrenderers : ∀ r ∈ p.renderers, r.IsLibrary ∨ r.Commits)
    {failure : Failure} (h : flow.perform p.inner.run = (.done (.error failure), flow')) :
    ∃ outcome flow₁, Handled p.handler flow outcome flow₁ ∧
      (Passes p.afters.reverse outcome flow₁ (.error failure) flow' ∨
        ∃ value flow₂, Passes p.afters.reverse outcome flow₁ (.ok value) flow₂ ∧
          flow₂.context.isCommitted = false ∧
            Renders p.renderers value flow₂ (.done (.error failure)) flow') := by
  obtain ⟨outcome, flow₁, outcome₂, flow₂, hhandled, hpasses, hrendered⟩ :=
    perform_inner_eq_done_iff.1 h
  refine ⟨outcome, flow₁, hhandled, ?_⟩
  cases hrendered with
  | failed _ _ => exact .inl hpasses
  | unwritten hfree hrun =>
      exact .inr ⟨_, flow₂, hpasses, hfree, (Renderer.perform_render_iff hrenderers hfree).1 hrun⟩

/-- How a pipeline renders, and that an inner segment that succeeds has committed its response. -/
structure CommitsInner (p : Pipeline σ) : Prop where
  /-- on a response that is not committed, rendering comes to an end by the rules of `Renders` -/
  renders : ∀ {value : Value} {flow flow' : Flow σ} {ended : Ending (Except Failure Unit)},
    flow.context.isCommitted = false →
      (flow.perform (Renderer.render p.renderers value).run = (ended, flow') ↔
        Renders p.renderers value flow ended flow')
  /-- and if it succeeds, it commits -/
  rendered : ∀ {value : Value} {flow flow' : Flow σ},
    Renders p.renderers value flow (.done (.ok ())) flow' → flow'.context.isCommitted = true
  /-- renderers that decline leave the response uncommitted -/
  declined : ∀ {value : Value} {asked : List (Renderer σ)} {flow flow₁ : Flow σ},
    asked ⊆ p.renderers → flow.context.isCommitted = false → Declined value asked flow flow₁ →
      flow₁.context.isCommitted = false
  /-- renderers declared before the one that accepts do not run -/
  accepted : ∀ {value : Value} {earlier later : List (Renderer σ)} {r : Renderer σ}
    {flow flow₁ flow' : Flow σ}, Declined value later.reverse flow flow₁ →
      flow₁.perform (r value).run = (.done (.ok true), flow') →
        flow.perform (Renderer.render (earlier ++ r :: later) value).run = (.done (.ok ()), flow')
  /-- a renderer of the library does not fail -/
  library : ∀ (l : Library) (value : Value) (flow : Flow σ), flow.context.isCommitted = false →
    flow.perform (l.renderer value).run =
      (.done (.ok (l.accepts value)), { flow with context := l.written flow.context value })
  /-- and leaves what it declines -/
  libraryDeclined : ∀ (l : Library) (value : Value) (flow : Flow σ), l.accepts value = false →
    flow.perform (l.renderer value).run = (.done (.ok false), flow)
  /-- an inner segment that succeeds has committed its response -/
  committed : ∀ {value : Value} {flow flow' : Flow σ},
    flow.perform p.inner.run = (.done (.ok value), flow') → flow'.context.isCommitted = true
  /-- which is the one that its code had sent, untouched, or one with its value rendered -/
  response : ∀ {value : Value} {flow flow' : Flow σ},
    flow.perform p.inner.run = (.done (.ok value), flow') →
      ∃ outcome flow₁ flow₂, Handled p.handler flow outcome flow₁ ∧
        Passes p.afters.reverse outcome flow₁ (.ok value) flow₂ ∧
        (flow₂.context.isCommitted = true ∧ flow' = flow₂ ∨
          flow₂.context.isCommitted = false ∧
            Renders p.renderers value flow₂ (.done (.ok ())) flow')
  /-- where it fails, the failure is that of its code or of a renderer that is none of the library,
  before anything was sent -/
  failed : ∀ {failure : Failure} {flow flow' : Flow σ},
    flow.perform p.inner.run = (.done (.error failure), flow') →
      ∃ outcome flow₁, Handled p.handler flow outcome flow₁ ∧
        (Passes p.afters.reverse outcome flow₁ (.error failure) flow' ∨
          ∃ value flow₂, Passes p.afters.reverse outcome flow₁ (.ok value) flow₂ ∧
            flow₂.context.isCommitted = false ∧
              Renders p.renderers value flow₂ (.done (.error failure)) flow')

/-- **An inner segment that succeeds has committed its response**, if each renderer is of the
library or commits exactly what it accepts. The renderer declared last of those that accept the
value commits, or the value is written in plain, or one that is none of the library breaks off. -/
theorem inner_commits (hrenderers : ∀ r ∈ p.renderers, r.IsLibrary ∨ r.Commits) :
    p.CommitsInner where
  renders := Renderer.perform_render_iff hrenderers
  rendered := Renders.isCommitted
  declined := by
    intro value asked flow flow₁ hasked hfree hdeclined
    have hcommits : ∀ r ∈ asked, r.Commits :=
      fun r hr => (hrenderers r (hasked hr)).elim IsLibrary.commits id
    exact Renderer.isCommitted_of_declined hdeclined hcommits hfree
  accepted hlater hrun := Renderer.perform_render_of_declined hlater hrun (by simp) _
  library l value _ hfree := Renderer.perform_library hfree l value
  libraryDeclined _ _ flow hdeclines := Renderer.perform_library_of_declined hdeclines flow
  committed h := (renders_of_inner hrenderers h).1
  response h := (renders_of_inner hrenderers h).2
  failed := renders_of_inner_error hrenderers

/-- A renderer that writes down that it was asked, and sends its tag or declines. -/
def tagging (tag : String) (accepts : Bool) : Renderer (List String) := fun _ => do
  ExceptT.lift (Action.modifyWorld (· ++ [tag]))
  if accepts then Attempt.edit fun ctx => ctx.send tag.toUTF8
  return accepts

theorem perform_tagging {flow : Flow (List String)} (hfree : flow.context.isCommitted = false)
    (tag : String) (accepts : Bool) (value : Value) :
    flow.perform (tagging tag accepts value).run =
      (.done (.ok accepts), { flow with
        context := if accepts then flow.context.sent tag.toUTF8 else flow.context
        world := flow.world ++ [tag] }) := by
  cases accepts with
  | false => rfl
  | true =>
      have hsend := Context.send_of_free hfree tag.toUTF8
      have hlift : flow.perform (ExceptT.lift (Action.modifyWorld (· ++ [tag])) :
          Attempt (List String) Unit).run =
            (.done (.ok ()), { flow with world := flow.world ++ [tag] }) := rfl
      exact (Flow.perform_andThen _ hlift).trans
        (Flow.perform_andThen _ (Flow.perform_edit_of_ok hsend))

theorem commits_tagging (tag : String) (accepts : Bool) : (tagging tag accepts).Commits := by
  intro value accepted flow flow' hfree hrun
  rw [perform_tagging hfree] at hrun
  cases hrun
  cases accepts with
  | false => exact hfree
  | true => rfl

/-- A handler that returns a text, with two renderers that would send their tags, and behind them
two that decline the text. -/
def tagged : Pipeline (List String) :=
  { handler := ExceptT.mk (pure (.ok (.text "hi")))
    renderers := [tagging "first" true, tagging "second" true, Renderer.json,
      tagging "third" false] }

/-- Of two renderers that accept the text the one declared last sends its tag, and the other one is
not asked. -/
theorem inner_commits_tagged :
    ∃ flow', ({ context := {}, world := [] } : Flow (List String)).perform tagged.inner.run =
        (.done (.ok (.text "hi")), flow') ∧
      flow'.context.isCommitted = true ∧ flow'.context.response.body = "second".toUTF8 ∧
      flow'.world = ["third", "second"] := by
  have hrenderers : ∀ r ∈ tagged.renderers, r.IsLibrary ∨ r.Commits := by
    have htagging (tag : String) (accepts : Bool) := commits_tagging tag accepts
    have hjson : (Renderer.json : Renderer (List String)).IsLibrary := ⟨.json false, rfl⟩
    simp [tagged, htagging, hjson]
  have hcommits := inner_commits hrenderers
  have hrun : ({ context := {}, world := [] } : Flow (List String)).perform tagged.inner.run =
      (.done (.ok (.text "hi")),
        { context := ({} : Context).sent "second".toUTF8, world := ["third", "second"] }) := rfl
  exact ⟨_, hrun, hcommits.committed hrun, rfl, rfl⟩

end Pipeline

end Switchyard
