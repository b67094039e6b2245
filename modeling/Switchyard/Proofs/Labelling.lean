import Switchyard.Proofs.Binding
import Switchyard.Proofs.Negotiating
import Switchyard.Proofs.Offloading
import Switchyard.Proofs.Rendering
import Switchyard.Proofs.Respelling

/-!
# The Content Type that Is Sent

A router that checks media types puts the type that it chose into the response, and only then runs
the pipeline of the route. If the code of the route leaves content types alone, there are two things
between this choice and the end of the pipeline that may still change it.

One is the rendering. Plain text has a content type for want of a better one, and keeps the one that
is there; it does so for JSON as well. A renderer of JSON puts its own type in place, whatever
was chosen (`Pipeline.Overrides`). The other is a context that is lost on another executor
(`Pipeline.Loses`): the response goes with it, and the next one starts without a content type.

So the type that was chosen is sent exactly if no context is lost, and no renderer of JSON writes,
unless JSON is what was chosen.

## Main results

* `Renderer.Library.label?_rendered`: what the renderers of the library leave of a content type.
* `Pipeline.label?_inner`: what an inner segment leaves of it.
* `Pipeline.label?_run`: what a whole pipeline leaves of it.
* `Blueprint.dispatch_labels`: exactly when the type that was chosen is sent.
* `Blueprint.dispatch_mislabels`: a request that gets a type that it does not accept.
-/

namespace Switchyard

open Web (HeaderValue MediaType)

variable {σ α : Type}

/-- The media type of JSON. -/
def Web.MediaType.json : MediaType := ⟨"application", "json"⟩

/-- The content type of JSON. -/
def jsonLabel : HeaderValue := .ofReadable MediaType.json.text

/-! ### Steps of the library -/

namespace Context

variable {ctx ctx' : Context} {v : HeaderValue}

theorem label?_setDefaultContentType {value : String}
    (hset : ctx.setDefaultContentType value = .ok ctx') (h : ctx.label? = some v) :
    ctx'.label? = some v := by
  rw [setDefaultContentType, if_pos (contains_of_label? h)] at hset
  exact Except.ok.inj hset ▸ h

theorem label?_send {body : ByteArray} (hsend : ctx.send body = .ok ctx')
    (h : ctx.label? = some v) : ctx'.label? = some v := by
  obtain ⟨-, rfl⟩ := send_eq_ok_iff.1 hsend
  exact h

theorem label?_putHeader (ctx : Context) (v : HeaderValue) :
    (ctx.putHeader .contentType v).label? = some v :=
  Web.Headers.get?_insert_self _ _ _

end Context

namespace Renderer.Library

/-- All renderers accept JSON. -/
theorem accepts_json (l : Library) (j : Json) : l.accepts (.json j) = true := by
  cases l <;> rfl

/-- Of several renderers that are shown JSON the first one writes it. -/
theorem find?_accepts_json (asked : List Library) (j : Json) :
    asked.find? (·.accepts (.json j)) = asked.head? := by
  cases asked with
  | nil => rfl
  | cons l rest => simp only [List.find?_cons, accepts_json, List.head?_cons]

/-- JSON that a renderer of JSON writes has the content type of JSON. -/
theorem label?_rendered_json {declared : List Library} {pretty : Bool}
    (h : declared.getLast? = some (json pretty)) (ctx : Context) (j : Json) :
    (rendered ctx declared.reverse (.json j)).label? = some jsonLabel := by
  rw [rendered, find?_accepts_json, List.head?_reverse, h]
  exact ctx.label?_putHeader jsonLabel

/-- **What is written otherwise has the content type that is there.** -/
theorem label?_rendered {declared : List Library} {value : Value}
    (h : ∀ j pretty, value = .json j → declared.getLast? ≠ some (json pretty)) {ctx : Context}
    {v : HeaderValue} (hctx : ctx.label? = some v) :
    (rendered ctx declared.reverse value).label? = some v := by
  rw [rendered]
  cases hfind : declared.reverse.find? (·.accepts value) with
  | none => exact Context.label?_sentPlain hctx value
  | some l =>
      have haccepts := List.find?_some (p := fun l : Library => l.accepts value) hfind
      cases l with
      | text => exact Context.label?_sentPlain hctx value
      | json pretty =>
          cases value with
          | json j =>
              rw [find?_accepts_json, List.head?_reverse] at hfind
              exact absurd hfind (h j pretty rfl)
          | empty => cases haccepts
          | text s => cases haccepts
          | bytes b => cases haccepts

end Renderer.Library

/-! ### Code that leaves the content type alone -/

/-- Does the action leave the content type as it is, be there one or not? Neither does it take the
response out then. -/
def Action.KeepsLabel (x : Action σ α) : Prop :=
  ∀ label, x.Keeps fun ctx => ctx.label? = label

/-- Does a filter in front leave the content type as it is, on the way in and on the way out? -/
def Before.KeepsLabel (f : Before σ) : Prop :=
  ∀ label, f.Keeps fun ctx => ctx.label? = label

/-- The library leaves a content type between the code of a pipeline. -/
theorem Action.sequential_keeps_label (v : HeaderValue) :
    Action.Sequential fun α (x : Action σ α) => x.Keeps fun ctx => ctx.label? = some v :=
  Action.sequential_keeps Context.label?_setDefaultContentType Context.label?_send

namespace Pipeline

open Renderer (Library)

/-- Does the code of the pipeline leave the content type as it is? The renderers are not asked. -/
structure KeepsLabel (p : Pipeline σ) : Prop where
  handler : Action.KeepsLabel p.handler.run
  afters : ∀ a ∈ p.afters, ∀ outcome, Action.KeepsLabel (a outcome).run
  befores : ∀ f ∈ p.befores, f.KeepsLabel

/-- A renderer of JSON writes the value of the inner segment: it is declared last, and the code
leaves a JSON value and a response that is not committed. -/
structure Overrides (p : Pipeline σ) (declared : List Library) (flow : Flow σ) : Prop where
  declared : ∃ pretty, declared.getLast? = some (.json pretty)
  rendered : ∃ outcome j flow₁ flow₂, Handled p.handler flow outcome flow₁ ∧
    Passes p.afters.reverse outcome flow₁ (.ok (.json j)) flow₂ ∧
      flow₂.context.isCommitted = false

/-- The inner segment runs, and a renderer of JSON writes its value. -/
def Relabels (p : Pipeline σ) (declared : List Library) (flow : Flow σ) : Prop :=
  ∃ flow₁, p.Reaches flow p.befores flow₁ ∧ p.Overrides declared flow₁

section

variable {p : Pipeline σ} {declared : List Library}
  (hdeclared : p.renderers = declared.map Library.renderer)

include hdeclared

/-- A response that is not committed gets what the renderers of the library make of the value. -/
theorem perform_renderUnlessCommitted_library {flow : Flow σ}
    (hfree : flow.context.isCommitted = false) (value : Value) :
    flow.perform (p.renderUnlessCommitted value).run = (.done (.ok value),
      { flow with context := Library.rendered flow.context declared.reverse value }) := by
  have hrender := Renderer.perform_render_library hfree declared value
  rw [perform_renderUnlessCommitted_run, hfree, hdeclared,
    if_neg Bool.false_ne_true, Flow.perform_andThen _ hrender]
  rfl

/-- Where a renderer of JSON writes, the content type is that of JSON. -/
theorem label?_inner_of_overrides {flow : Flow σ} (h : p.Overrides declared flow) :
    (flow.perform p.inner.run).2.context.label? = some jsonLabel := by
  obtain ⟨⟨pretty, hlast⟩, outcome, j, flow₁, flow₂, hhandled, hpasses, hfree⟩ := h
  have hrun : flow.perform p.inner.run = flow₂.perform (p.renderUnlessCommitted (.json j)).run :=
    (Flow.perform_bind _ (perform_guarded_eq_done_iff.2 hhandled)).trans
      (Flow.perform_bind _ (perform_applyAfters_eq_done_iff.2 hpasses))
  rw [hrun, perform_renderUnlessCommitted_library hdeclared hfree]
  exact Library.label?_rendered_json hlast flow₂.context j

/-- **An inner segment leaves a content type** unless a renderer of JSON writes. -/
theorem label?_inner (hhandler : Action.KeepsLabel p.handler.run)
    (hafters : ∀ a ∈ p.afters, ∀ outcome, Action.KeepsLabel (a outcome).run) {flow : Flow σ}
    (h : ¬p.Overrides declared flow) {v : HeaderValue} (hflow : flow.context.label? = some v) :
    (flow.perform p.inner.run).2.context.label? = some v := by
  have hkeeps := Action.sequential_keeps_label (σ := σ) v
  rw [run_inner]
  refine Flow.keeps_bind (hkeeps.guarded (hhandler (some v))) hflow
    fun outcome flow₁ hhandled hflow₁ => ?_
  refine Flow.keeps_bind (hkeeps.applyAfters
    (fun a ha outcome => hafters a (List.mem_reverse.1 ha) outcome (some v)) outcome) hflow₁
    fun outcome₂ flow₂ hpasses hflow₂ => ?_
  cases outcome₂ with
  | error failure => exact hflow₂
  | ok value =>
      rw [renderOutcome]
      cases hcommitted : flow₂.context.isCommitted with
      | true =>
          rw [perform_renderUnlessCommitted_run, hcommitted]
          exact hflow₂
      | false =>
          rw [perform_renderUnlessCommitted_library hdeclared hcommitted]
          refine Library.label?_rendered (fun j pretty hvalue hlast => h ?_) hflow₂
          subst hvalue
          exact ⟨⟨pretty, hlast⟩, outcome, j, flow₁, flow₂,
            perform_guarded_eq_done_iff.1 hhandled, perform_applyAfters_eq_done_iff.1 hpasses,
            hcommitted⟩

end

section

variable {p : Pipeline σ} (hcode : p.KeepsLabel) {here : Option Executor} {flow : Flow σ}

include hcode

/-- Behind a pipeline that loses a context there is no content type. -/
theorem label?_run_of_loses (h : p.Loses here flow p.befores) :
    (p.run here flow).2.context.label? = none :=
  keeps_runFrom_of_loses (fun f hf => hcode.befores f hf none) rfl h

variable {declared : List Library} (hdeclared : p.renderers = declared.map Library.renderer)

include hdeclared

/-- If a renderer of JSON writes, the content type is that of JSON. -/
theorem label?_run_of_relabels (hkept : ¬p.Loses here flow p.befores)
    (h : p.Relabels declared flow) : (p.run here flow).2.context.label? = some jsonLabel := by
  obtain ⟨flow₁, hreach, hoverrides⟩ := h
  exact keeps_runFrom_of_reaches hreach (fun f hf => hcode.befores f hf (some jsonLabel)) hkept
    (label?_inner_of_overrides hdeclared hoverrides)

/-- **A pipeline leaves a content type** unless it loses the context or a renderer of JSON
writes. -/
theorem label?_run (hkept : ¬p.Loses here flow p.befores) (h : ¬p.Relabels declared flow)
    {v : HeaderValue} (hflow : flow.context.label? = some v) :
    (p.run here flow).2.context.label? = some v := by
  refine keeps_runFrom (fun f hf => hcode.befores f hf (some v)) (fun flow₁ hreach => ?_) hkept
    hflow
  exact label?_inner hdeclared hcode.handler hcode.afters fun hoverrides =>
    h ⟨flow₁, hreach, hoverrides⟩

end

end Pipeline

/-! ### Requests that a type is chosen for -/

namespace Router

/-- A router that checks media types finds a route for the request, and chooses a type for the
response that does not stand for several. -/
structure Chooses (r : Router σ) (ctx : Context) (route : Route (Pipeline σ)) (b : Bindings)
    (m : MediaType) : Prop where
  enforces : r.settings.enforceMediaTypes = true
  found : r.table.resolve ctx.request.method ctx.request.path = .found route b
  chosen : chosenType? route.produces ctx = some m
  isWildcard : m.isWildcard = false

/-- The flow that the pipeline of a route starts with when a type is chosen. -/
def chosenFlow (ctx : Context) (route : Route (Pipeline σ)) (b : Bindings) (m : MediaType)
    (w : σ) : Flow σ :=
  { context := (ctx.preset m).bind route.toRouteInfo b, world := w }

/-- A chosen type is one of those that the route offers. -/
theorem mem_of_chosenType? {produces : List MediaType} {ctx : Context} {m : MediaType}
    (h : chosenType? produces ctx = some m) : m ∈ produces := by
  rw [chosenType?] at h
  split at h
  · exact List.mem_of_head? h
  · exact List.mem_of_find?_eq_some h

section

variable {r : Router σ} {ctx : Context} {route : Route (Pipeline σ)} {b : Bindings} {m : MediaType}
  (hchooses : r.Chooses ctx route b m)

include hchooses

/-- If the route takes the content of the request, its pipeline runs with the chosen type. -/
theorem Chooses.dispatch_of_takes (htakes : takesContent route.consumes ctx = true)
    (here : Option Executor) (w : σ) :
    r.dispatch here ctx w =
      r.runRoute here route ((ctx.preset m).bind route.toRouteInfo b) w := by
  have hproduces : route.produces ≠ [] := List.ne_nil_of_mem (mem_of_chosenType? hchooses.chosen)
  rw [dispatch_of_found hchooses.found, negotiated_of_takes hchooses.enforces htakes hproduces,
    hchooses.chosen, Option.elim_some]

/-- A request that is completed has a content that the route takes. -/
theorem Chooses.takes_of_completed {here : Option Executor} {w : σ}
    (h : (r.dispatch here ctx w).ending = .done .completed) :
    takesContent route.consumes ctx = true := by
  cases htakes : takesContent route.consumes ctx with
  | true => rfl
  | false =>
      have hrejected : (r.dispatch here ctx w).ending =
          .done (.rejected .unsupportedMediaType) :=
        (ending_eq_rejected_iff hchooses.found).2
          ((negotiated_unsupported_iff hchooses.enforces).2 htakes)
      cases hrejected.symm.trans h

end

end Router

namespace Blueprint

open Renderer (Library)
open Router (Chooses chosenFlow)

/-- A type that a built router chooses reads back from its text. -/
theorem ofText?_chosen {b : Blueprint σ} {r : Router σ} (hbuild : b.build = .ok r) {ctx : Context}
    {route : Route (Pipeline σ)} {bindings : Bindings} {m : MediaType}
    (hchooses : r.Chooses ctx route bindings m) : MediaType.ofText? m.text = some m := by
  obtain ⟨d, -, hmakes⟩ := exists_makes_of_resolve hbuild hchooses.found
  have hmem := List.mem_map_of_mem (f := some) (Router.mem_of_chosenType? hchooses.chosen)
  rw [← hmakes.produces] at hmem
  obtain ⟨text, -, hread⟩ := List.mem_map.1 hmem
  exact MediaType.ofText?_shown hread

/-- Types that read back from their texts are the same if their content types are. -/
theorem eq_of_ofReadable_text {m m' : MediaType} (h : MediaType.ofText? m.text = some m)
    (h' : MediaType.ofText? m'.text = some m')
    (heq : HeaderValue.ofReadable m.text = .ofReadable m'.text) : m = m' := by
  have htext : m.text = m'.text := Web.toList_toUTF8_injective (HeaderValue.mk.inj heq)
  rw [htext, h'] at h
  exact (Option.some.inj h).symm

/-- A content type is one that the request accepts exactly if its media type is. -/
theorem namesOneOf_text_iff {m : MediaType} (h : MediaType.ofText? m.text = some m)
    (accept : String) :
    (HeaderValue.ofReadable m.text).NamesOneOf (MediaType.ofList accept) ↔
      ∃ a ∈ MediaType.namedIn accept, a.accepts m = true := by
  have hbytes : (HeaderValue.ofReadable m.text).bytes = m.text.toUTF8.toList := rfl
  rw [HeaderValue.namesOneOf_iff hbytes, h, Option.any_some, MediaType.any_accepts_iff]

/-- A type that is chosen for a request that names types is one of those that it accepts. -/
theorem accepts_chosen {produces : List MediaType} {ctx : Context} {m : MediaType}
    (hchosen : Router.chosenType? produces ctx = some m) {accept : String}
    (haccept : ctx.header? "accept" = some accept) (hnamed : (MediaType.namedIn accept).Nonempty) :
    ∃ a ∈ MediaType.namedIn accept, a.accepts m = true := by
  cases (Router.chosenType?_eq_some_iff haccept).1 hchosen with
  | first hnone _ => exact absurd hnone hnamed.ne_empty
  | accepted _ _ hmem haccepts => exact ⟨_, hmem, haccepts⟩

/-- **The type that was chosen is sent exactly if no context is lost and no renderer of JSON
writes**, unless JSON was chosen. The router is built, checks media types, and chose one type for a
request whose response has none; the renderers of the route are those of the library, and its code
leaves content types alone; and the request is completed. Then a response that went with a lost
context leaves one without a content type, and what a renderer of JSON writes has the content type
of JSON. So a request that names what it accepts, and loses no context, gets a type that it accepts
exactly if it accepts JSON or no renderer of JSON writes. -/
theorem dispatch_labels {b : Blueprint σ} {r : Router σ} (hbuild : b.build = .ok r) {ctx : Context}
    {route : Route (Pipeline σ)} {bindings : Bindings} {m : MediaType}
    (hchooses : r.Chooses ctx route bindings m) {declared : List Library}
    (hdeclared : route.pipeline.renderers = declared.map Library.renderer)
    (hcode : route.pipeline.KeepsLabel) (hfresh : ctx.label? = none) {here : Option Executor}
    {w : σ} (hdone : (r.dispatch here ctx w).ending = .done .completed) :
    ((r.dispatch here ctx w).context.label? = some (.ofReadable m.text) ↔
      ¬route.pipeline.Loses here (chosenFlow ctx route bindings m w) route.pipeline.befores ∧
        (route.pipeline.Relabels declared (chosenFlow ctx route bindings m w) → m = .json)) ∧
    (route.pipeline.Loses here (chosenFlow ctx route bindings m w) route.pipeline.befores →
      (r.dispatch here ctx w).context.label? = none) ∧
    (¬route.pipeline.Loses here (chosenFlow ctx route bindings m w) route.pipeline.befores →
      route.pipeline.Relabels declared (chosenFlow ctx route bindings m w) →
        (r.dispatch here ctx w).context.label? = some jsonLabel) ∧
    ∀ accept, ctx.header? "accept" = some accept → (MediaType.namedIn accept).Nonempty →
      ¬route.pipeline.Loses here (chosenFlow ctx route bindings m w) route.pipeline.befores →
        ((∃ v, (r.dispatch here ctx w).context.label? = some v ∧
            v.NamesOneOf (MediaType.ofList accept)) ↔
          (route.pipeline.Relabels declared (chosenFlow ctx route bindings m w) →
            ∃ a ∈ MediaType.namedIn accept, a.accepts .json = true)) := by
  have hread := ofText?_chosen hbuild hchooses
  have hjson : MediaType.ofText? MediaType.json.text = some .json := by decide +kernel
  have hfree : ctx.response.headers.contains .contentType = false := by
    rw [Web.Headers.contains, ← Context.label?, hfresh, Option.isSome_none]
  have hpreset : (chosenFlow ctx route bindings m w).context.label? =
      some (.ofReadable m.text) :=
    Context.get?_preset hfree hchooses.isWildcard hread
  have hrun : (r.dispatch here ctx w).context =
      (route.pipeline.run here (chosenFlow ctx route bindings m w)).2.context := by
    rw [hchooses.dispatch_of_takes (hchooses.takes_of_completed hdone)]
    rfl
  rw [hrun]
  generalize chosenFlow ctx route bindings m w = flow at hpreset ⊢
  have hlost (hloses : route.pipeline.Loses here flow route.pipeline.befores) :=
    Pipeline.label?_run_of_loses hcode hloses
  have hrelabelled (hkept : ¬route.pipeline.Loses here flow route.pipeline.befores)
      (hrelabels : route.pipeline.Relabels declared flow) :=
    Pipeline.label?_run_of_relabels hcode hdeclared hkept hrelabels
  refine ⟨⟨fun hlabel => ?_, fun ⟨hkept, hsame⟩ => ?_⟩, hlost, hrelabelled,
    fun accept haccept hnamed hkept => ?_⟩
  · have hkept : ¬route.pipeline.Loses here flow route.pipeline.befores := by
      intro hloses
      cases (hlost hloses).symm.trans hlabel
    refine ⟨hkept, fun hrelabels => eq_of_ofReadable_text hread hjson ?_⟩
    exact Option.some.inj (hlabel.symm.trans (hrelabelled hkept hrelabels))
  · by_cases hrelabels : route.pipeline.Relabels declared flow
    · rw [hrelabelled hkept hrelabels, hsame hrelabels, jsonLabel]
    · exact Pipeline.label?_run hcode hdeclared hkept hrelabels hpreset
  · by_cases hrelabels : route.pipeline.Relabels declared flow
    · rw [hrelabelled hkept hrelabels, ← namesOneOf_text_iff hjson, ← jsonLabel]
      simp [hrelabels]
    · have hlabel := Pipeline.label?_run hcode hdeclared hkept hrelabels hpreset
      have haccepts := accepts_chosen hchooses.chosen haccept hnamed
      exact iff_of_true ⟨_, hlabel, (namesOneOf_text_iff hread accept).2 haccepts⟩
        fun h => absurd h hrelabels

/-- A handler that only returns a value. -/
def returning (value : Value) : Handler Unit :=
  ExceptT.mk (pure (.ok value))

/-- A route that offers a kind of JSON of its own, within a scope that renders JSON. -/
def halBlueprint (value : Value) : Blueprint Unit :=
  (({} : Blueprint Unit).renderer Renderer.json).route (.only .get) "/report" (returning value)
    { produces := ["application/hal+json"] }

/-- The route that it makes. -/
def halRoute (value : Value) : Route (Pipeline Unit) :=
  { id := 0, method := .only .get, pattern := ⟨[.literal "report"]⟩, source := "/report"
    produces := [⟨"application", "hal+json"⟩]
    pipeline := .compose (returning value) [] [Renderer.json] false }

/-- A request that accepts nothing else. -/
def halRequest : Context :=
  .ofRequest
    { method := .get, path := "/report"
      headers := ⟨[(.accept, .ofReadable "application/hal+json")]⟩ }

theorem build_halBlueprint (value : Value) :
    (halBlueprint value).build = .ok (Router.sole (halRoute value)) := by
  have hsource : ((({} : Blueprint Unit).renderer Renderer.json).scopes.linearize
      "/report").pattern = "/report" := by decide +kernel
  have hpattern : Pattern.parse "/report" = .ok ⟨[.literal "report"]⟩ := by decide +kernel
  have hproduces : ["application/hal+json"].map MediaType.ofText? =
      [⟨"application", "hal+json"⟩].map some := by decide +kernel
  have hmakes {d : Declaration Unit} (hd : (halBlueprint value).declarations = [d]) :
      d.Makes 0 (halRoute value) := by
    obtain rfl := List.singleton_inj.1 hd
    exact ⟨rfl, rfl, (congrArg Pattern.parse hsource).trans hpattern, hsource.symm, rfl,
      hproduces, rfl, rfl, rfl⟩
  exact build_of_makes rfl rfl (hmakes rfl) rfl

theorem chooses_halRoute (value : Value) :
    (Router.sole (halRoute value)).Chooses halRequest (halRoute value) {}
      ⟨"application", "hal+json"⟩ where
  enforces := rfl
  found := rfl
  chosen := by
    have hchosen : Router.chosenType? [⟨"application", "hal+json"⟩] halRequest =
        some ⟨"application", "hal+json"⟩ := by decide +kernel
    exact hchosen
  isWildcard := by decide

theorem keepsLabel_halRoute (value : Value) : (halRoute value).pipeline.KeepsLabel where
  handler _ _ _ h := h
  afters := List.forall_mem_nil _
  befores := List.forall_mem_nil _

theorem not_loses_halRoute (value : Value) (here : Option Executor) (flow : Flow Unit) :
    ¬(halRoute value).pipeline.Loses here flow (halRoute value).pipeline.befores := by
  intro hloses
  cases hloses

/-- The value is rendered, and the request is completed. -/
theorem completes_halRoute (value : Value) :
    ((Router.sole (halRoute value)).dispatch none halRequest ()).ending = .done .completed := by
  have hrun {flow : Flow Unit} (hfree : flow.context.isCommitted = false) :
      (halRoute value).pipeline.run none flow = (.done (.ok value),
        { flow with context := Library.rendered flow.context [.json false] value }) := by
    have hguarded : flow.perform (Action.guarded (returning value).run) =
        (.done (.ok value), flow) := rfl
    have hrenderers : (halRoute value).pipeline.renderers = [Library.json false].map
      Library.renderer := rfl
    exact (Flow.perform_bind _ hguarded).trans
      (Pipeline.perform_renderUnlessCommitted_library hrenderers hfree value)
  have hfree := halRequest.isCommitted_preset ⟨"application", "hal+json"⟩
  rw [(chooses_halRoute value).dispatch_of_takes rfl, Router.runRoute, hrun hfree]
  rfl

/-- Text is sent with the type that was chosen. -/
theorem dispatch_labels_text :
    ∃ r route bindings, (halBlueprint (.text "hi")).build = .ok r ∧
      r.table.resolve .get "/report" = .found route bindings ∧
      (r.dispatch none halRequest ()).ending = .done .completed ∧
      (r.dispatch none halRequest ()).context.label? =
        some (.ofReadable "application/hal+json") := by
  have hdeclared : (halRoute (.text "hi")).pipeline.renderers = [Library.json false].map
    Library.renderer := rfl
  have hdone := completes_halRoute (.text "hi")
  obtain ⟨hlabel, -⟩ := dispatch_labels (build_halBlueprint (.text "hi"))
    (chooses_halRoute (.text "hi")) hdeclared (keepsLabel_halRoute (.text "hi")) rfl hdone
  refine ⟨_, _, _, build_halBlueprint (.text "hi"), rfl, hdone,
    hlabel.2 ⟨not_loses_halRoute _ none _, ?_⟩⟩
  rintro ⟨flow₁, -, -, outcome, j, flow₂, flow₃, hhandled, hpasses, -⟩
  cases hhandled with
  | returned hreturned =>
      cases hreturned
      cases hpasses
  | panicked hpanicked => cases hpanicked

/-- **JSON is sent as JSON although another type was chosen**, and is the only one that the request
accepts. -/
theorem dispatch_mislabels :
    ∃ r route bindings, (halBlueprint (.json (.bool true))).build = .ok r ∧
      r.Chooses halRequest route bindings ⟨"application", "hal+json"⟩ ∧
      route.pipeline.renderers = [Library.json false].map Library.renderer ∧
      route.pipeline.KeepsLabel ∧ halRequest.label? = none ∧
      halRequest.header? "accept" = some "application/hal+json" ∧
      (r.dispatch none halRequest ()).ending = .done .completed ∧
      (r.dispatch none halRequest ()).context.label? = some jsonLabel ∧
      jsonLabel ≠ .ofReadable "application/hal+json" ∧
      ¬jsonLabel.NamesOneOf (MediaType.ofList "application/hal+json") := by
  have hdeclared : (halRoute (.json (.bool true))).pipeline.renderers = [Library.json false].map
    Library.renderer := rfl
  have hchooses := chooses_halRoute (.json (.bool true))
  have hcode := keepsLabel_halRoute (.json (.bool true))
  have hlabel : ((Router.sole (halRoute (.json (.bool true)))).dispatch none
      halRequest ()).context.label? = some jsonLabel := by
    rw [hchooses.dispatch_of_takes rfl]
    refine Pipeline.label?_run_of_relabels hcode hdeclared (not_loses_halRoute _ none _)
      ⟨_, .inner _ rfl, ⟨false, rfl⟩, ?_⟩
    exact ⟨_, .bool true, _, _, .returned rfl, .done _ _, halRequest.isCommitted_preset _⟩
  have hnames : ¬jsonLabel.NamesOneOf (MediaType.ofList "application/hal+json") :=
    fun h => absurd ((HeaderValue.namesOneOf_iff rfl).1 h) (by decide +kernel)
  exact ⟨_, _, _, build_halBlueprint _, hchooses, hdeclared, hcode, rfl, by decide +kernel,
    completes_halRoute _, hlabel, by decide +kernel, hnames⟩

end Blueprint

end Switchyard
