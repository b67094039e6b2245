import Mathlib.Logic.Relation
import Switchyard.Proofs.Nesting
import Switchyard.Proofs.Sequencing
import Switchyard.Router.Dispatch

/-!
# Contexts on Other Executors

A filter that offloads hands the context itself to another executor, not a copy of it, and gets it
back with the outcome of the rest of the pipeline. If there is no outcome, because the rest
panicked or was never run, the context does not come back, and the filters around go on with
an empty one.

What code outside the library does to a context it does by the operations of the context. None of
them touches the request, the route or the bindings. So the request survives a pipeline
exactly if no context was lost on the way (`Pipeline.Loses`). A failure loses nothing, nor does a
panic of the handler, which is caught in the inner segment; a panic of any other code between
the offloading filter and the end of the inner segment does.

## Main results

* `Operated.sameRequest`, `Operated.sameBody`: what operations do not touch.
* `Action.sequential_operates`: the library does nothing else to a context between the code.
* `Pipeline.keeps_runFrom`, `Pipeline.keeps_runFrom_of_loses`: what the code of a pipeline keeps
  still holds of the context that it is given, or of an empty one if it loses the context.
* `Pipeline.operated_runFrom`, `Pipeline.operated_runFrom_of_loses`: so it operates on the one or
  on the other.
* `Pipeline.not_loses_of_ends`: nothing is lost where all code comes to its end.
* `Router.dispatch_keeps_iff`: exactly when the request survives.
* `Router.dispatch_loses_request`: a request that does not.
-/

namespace Switchyard

open Web (Status)

variable {σ α β : Type}

/-! ### Operations on a context -/

namespace Context

/-- One operation on a context, as code outside the library has them. With `takes`, the response
may be taken out. -/
inductive Operation (takes : Bool) (ctx : Context) : Context → Prop
  | setStatus (status : Status) : Operation takes ctx (ctx.setStatus status)
  | setHeader {name value : String} {ctx' : Context} :
      ctx.setHeader name value = .ok ctx' → Operation takes ctx ctx'
  | setContentType {value : String} {ctx' : Context} :
      ctx.setContentType value = .ok ctx' → Operation takes ctx ctx'
  | setDefaultContentType {value : String} {ctx' : Context} :
      ctx.setDefaultContentType value = .ok ctx' → Operation takes ctx ctx'
  | send {body : ByteArray} {ctx' : Context} : ctx.send body = .ok ctx' → Operation takes ctx ctx'
  | takeResponse : takes = true → Operation takes ctx ctx.takeResponse.2
  /-- any change of what filters and handlers leave for one another -/
  | leaveNotes (notes : Bindings) : Operation takes ctx { ctx with notes }

/-- Any number of operations, one after the other. -/
abbrev Operated (takes : Bool) : Context → Context → Prop :=
  Relation.ReflTransGen (Operation takes)

/-- Two contexts are of one request, with one route and the same bindings. -/
structure SameRequest (ctx ctx' : Context) : Prop where
  request : ctx'.request = ctx.request
  route : ctx'.route = ctx.route
  bindings : ctx'.bindings = ctx.bindings

theorem SameRequest.trans {ctx ctx' ctx'' : Context} (h : ctx.SameRequest ctx')
    (h' : ctx'.SameRequest ctx'') : ctx.SameRequest ctx'' :=
  ⟨h'.request.trans h.request, h'.route.trans h.route, h'.bindings.trans h.bindings⟩

/-- The response of the second context is committed with the body of the first. -/
def SameBody (ctx ctx' : Context) : Prop :=
  ctx'.isCommitted = true ∧ ctx'.response.body = ctx.response.body

/-- No operation touches the request, the route or the bindings. -/
theorem Operation.sameRequest {takes : Bool} {ctx ctx' : Context}
    (h : Operation takes ctx ctx') : ctx.SameRequest ctx' := by
  cases h with
  | setStatus status => exact ⟨rfl, rfl, rfl⟩
  | setHeader h =>
      obtain ⟨n, v, rfl⟩ := setHeader_eq_ok h
      exact ⟨rfl, rfl, rfl⟩
  | setContentType h =>
      obtain ⟨n, v, rfl⟩ := setContentType_eq_ok h
      exact ⟨rfl, rfl, rfl⟩
  | setDefaultContentType h =>
      rcases setDefaultContentType_eq_ok h with rfl | ⟨n, v, rfl⟩
      · exact ⟨rfl, rfl, rfl⟩
      · exact ⟨rfl, rfl, rfl⟩
  | send h =>
      obtain ⟨-, rfl⟩ := send_eq_ok_iff.1 h
      exact ⟨rfl, rfl, rfl⟩
  | takeResponse _ => exact ⟨rfl, rfl, rfl⟩
  | leaveNotes notes => exact ⟨rfl, rfl, rfl⟩

/-- A response stays committed with its body unless it is taken out. -/
theorem Operation.sameBody {ctx ctx' : Context} (h : Operation false ctx ctx')
    (hc : ctx.isCommitted = true) : ctx.SameBody ctx' := by
  cases h with
  | setStatus status => exact ⟨hc, rfl⟩
  | setHeader h =>
      obtain ⟨n, v, rfl⟩ := setHeader_eq_ok h
      exact ⟨hc, rfl⟩
  | setContentType h =>
      obtain ⟨n, v, rfl⟩ := setContentType_eq_ok h
      exact ⟨hc, rfl⟩
  | setDefaultContentType h =>
      rcases setDefaultContentType_eq_ok h with rfl | ⟨n, v, rfl⟩
      · exact ⟨hc, rfl⟩
      · exact ⟨hc, rfl⟩
  | send h =>
      obtain ⟨hfree, -⟩ := send_eq_ok_iff.1 h
      cases hc.symm.trans hfree
  | takeResponse htakes => cases htakes
  | leaveNotes notes => exact ⟨hc, rfl⟩

/-- **Operations do not touch the request**, the route or the bindings. -/
theorem Operated.sameRequest {takes : Bool} {ctx ctx' : Context}
    (h : Operated takes ctx ctx') : ctx.SameRequest ctx' := by
  induction h with
  | refl => exact ⟨rfl, rfl, rfl⟩
  | tail _ hstep ih => exact ih.trans hstep.sameRequest

/-- **A committed response stays committed** with its body unless it is taken out. -/
theorem Operated.sameBody {ctx ctx' : Context} (h : Operated false ctx ctx')
    (hc : ctx.isCommitted = true) : ctx.SameBody ctx' := by
  induction h with
  | refl => exact ⟨hc, rfl⟩
  | tail _ hstep ih =>
      obtain ⟨hc', hbody⟩ := hstep.sameBody ih.1
      exact ⟨hc', hbody.trans ih.2⟩

end Context

open Context (Operation Operated)

/-! ### Code that operates on its context -/

namespace Action

/-- Does the action keep a property of its context, however it ends? -/
def Keeps (I : Context → Prop) (x : Action σ α) : Prop :=
  ∀ ctx w, I ctx → I (x ctx w).context

section

variable {I : Context → Prop}

theorem Keeps.bind {x : Action σ α} {f : α → Action σ β} (hx : x.Keeps I)
    (hf : ∀ a, (f a).Keeps I) : (x >>= f).Keeps I := by
  intro ctx w hctx
  have hfirst := hx ctx w hctx
  rw [bind_run]
  cases hrun : x ctx w with
  | mk ending ctx' w' =>
      rw [hrun] at hfirst
      cases ending with
      | done a => exact hf a ctx' w' hfirst
      | panicked p => exact hfirst
      | stalled => exact hfirst

theorem Keeps.guarded {x : Action σ (Except Failure α)} (hx : x.Keeps I) :
    (Action.guarded x).Keeps I := by
  intro ctx w hctx
  exact hx ctx w hctx

theorem keeps_edit {f : Context → Except Failure Context}
    (h : ∀ ctx ctx', f ctx = .ok ctx' → I ctx → I ctx') : (edit f : Action σ _).Keeps I := by
  intro ctx w hctx
  rw [edit]
  split
  · next ctx' hf => exact h ctx ctx' hf hctx
  · exact hctx

/-- The library keeps between the code what choosing a content type and sending a body keep. -/
theorem sequential_keeps
    (hdefault : ∀ {value ctx ctx'}, ctx.setDefaultContentType value = .ok ctx' → I ctx → I ctx')
    (hsend : ∀ {body ctx ctx'}, ctx.send body = .ok ctx' → I ctx → I ctx') :
    Sequential fun α (x : Action σ α) => x.Keeps I where
  pure _ _ _ hctx := hctx
  bind := Keeps.bind
  guarded := Keeps.guarded
  isCommitted _ _ hctx := hctx
  setDefaultContentType _ := keeps_edit fun _ _ => hdefault
  send _ := keeps_edit fun _ _ => hsend

end

variable {takes : Bool}

/-- Does the action nothing to its context but operate on it, however it ends? -/
def Operates (takes : Bool) (x : Action σ α) : Prop :=
  ∀ ctx w, Operated takes ctx (x ctx w).context

/-- An action that operates keeps what was operated on. -/
theorem operates_iff_keeps {x : Action σ α} :
    x.Operates takes ↔ ∀ start, x.Keeps (Operated takes start) :=
  ⟨fun h _ ctx w hctx => hctx.trans (h ctx w), fun h ctx w => h ctx ctx w .refl⟩

theorem Operates.bind {x : Action σ α} {f : α → Action σ β} (hx : x.Operates takes)
    (hf : ∀ a, (f a).Operates takes) : (x >>= f).Operates takes :=
  operates_iff_keeps.2 fun start =>
    (operates_iff_keeps.1 hx start).bind fun a => operates_iff_keeps.1 (hf a) start

theorem Operates.guarded {x : Action σ (Except Failure α)} (hx : x.Operates takes) :
    (Action.guarded x).Operates takes :=
  operates_iff_keeps.2 fun start => (operates_iff_keeps.1 hx start).guarded

/-- One operation, or none if it fails. -/
theorem operates_edit {f : Context → Except Failure Context}
    (h : ∀ ctx ctx', f ctx = .ok ctx' → Operation takes ctx ctx') :
    (edit f : Action σ _).Operates takes :=
  operates_iff_keeps.2 fun _ => keeps_edit fun ctx ctx' hf hstart => hstart.tail (h ctx ctx' hf)

/-- The library operates on the context between the code of a pipeline. -/
theorem sequential_operates (takes : Bool) :
    Sequential fun α (x : Action σ α) => x.Operates takes where
  pure _ _ _ := .refl
  bind := Operates.bind
  guarded := Operates.guarded
  isCommitted _ _ := .refl
  setDefaultContentType _ := operates_edit fun _ _ => .setDefaultContentType
  send _ := operates_edit fun _ _ => .send

end Action

/-- Does a filter in front keep a property of the context, on the way in and on the way out? -/
def Before.Keeps (I : Context → Prop) : Before σ → Prop
  | .around enter => Action.Keeps I enter ∧
      ∀ ctx w leave, (enter ctx w).ending = .done (.watch leave) →
        ∀ ending, Action.Keeps I (leave ending).run
  | .offload _ => True

/-- Does a filter in front operate on its context, on the way in and on the way out? -/
def Before.Operates (takes : Bool) : Before σ → Prop
  | .around enter => Action.Operates takes enter ∧
      ∀ ctx w leave, (enter ctx w).ending = .done (.watch leave) →
        ∀ ending, Action.Operates takes (leave ending).run
  | .offload _ => True

theorem Before.Operates.keeps {takes : Bool} {f : Before σ} (h : f.Operates takes)
    (start : Context) : f.Keeps (Operated takes start) := by
  cases f with
  | around enter =>
      exact ⟨Action.operates_iff_keeps.1 h.1 start, fun ctx w leave hleave ending =>
        Action.operates_iff_keeps.1 (h.2 ctx w leave hleave ending) start⟩
  | offload executor => trivial

/-- What comes second keeps what the first keeps if it does so on what the first left. -/
theorem Flow.keeps_bind {I : Context → Prop} {x : Action σ α} (hx : x.Keeps I)
    {f : α → Action σ β} {flow : Flow σ} (h : I flow.context)
    (hf : ∀ a flow₁, flow.perform x = (.done a, flow₁) → I flow₁.context →
      I (flow₁.perform (f a)).2.context) : I (flow.perform (x >>= f)).2.context := by
  have hfirst : I (flow.perform x).2.context := hx flow.context flow.world h
  rw [Flow.perform_bind_run]
  cases hrun : flow.perform x with
  | mk ending flow₁ =>
      rw [hrun] at hfirst
      cases ending with
      | done a => exact hf a flow₁ hrun hfirst
      | panicked e => exact hfirst
      | stalled => exact hfirst

namespace Pipeline

/-- Does the inner segment operate on its context? -/
abbrev Operates (takes : Bool) (p : Pipeline σ) : Prop :=
  p.Inside fun _ => Action.Operates takes

/-! ### Contexts that are lost -/

/-- A context was lost with an offloaded segment. -/
inductive Loses (p : Pipeline σ) : Option Executor → Flow σ → List (Before σ) → Prop
  /-- the executor starts nothing -/
  | cancelled (here : Option Executor) (flow : Flow σ) (rest : List (Before σ)) :
      Loses p here flow (.offload .shutDown :: rest)
  /-- the segment had no outcome -/
  | ended {here : Option Executor} {flow : Flow σ} {rest : List (Before σ)} :
      (∀ outcome, (p.runFrom (some .running) flow rest).1 ≠ .done outcome) →
        Loses p here flow (.offload .running :: rest)
  /-- further down in the segment -/
  | further {here : Option Executor} {flow : Flow σ} {rest : List (Before σ)} :
      Loses p (some .running) flow rest → Loses p here flow (.offload .running :: rest)
  /-- behind a filter that was entered -/
  | inside {here : Option Executor} {flow flow₁ : Flow σ} {rest : List (Before σ)}
      {enter : Action σ (Entry σ)} {leave : Ending Outcome → Attempt σ Value} :
      flow.perform enter = (.done (.watch leave), flow₁) → Loses p here flow₁ rest →
        Loses p here flow (.around enter :: rest)

/-- The inner segment runs, on this flow. -/
inductive Reaches (p : Pipeline σ) : Flow σ → List (Before σ) → Flow σ → Prop
  | inner (flow : Flow σ) : p.detached = false → Reaches p flow [] flow
  /-- behind a filter that was entered -/
  | inside {flow flow₁ flow' : Flow σ} {rest : List (Before σ)} {enter : Action σ (Entry σ)}
      {leave : Ending Outcome → Attempt σ Value} :
      flow.perform enter = (.done (.watch leave), flow₁) → Reaches p flow₁ rest flow' →
        Reaches p flow (.around enter :: rest) flow'
  /-- on another executor -/
  | moved {flow flow' : Flow σ} {rest : List (Before σ)} :
      Reaches p flow rest flow' → Reaches p flow (.offload .running :: rest) flow'

/-! ### Properties of contexts that the code keeps -/

section

variable {I : Context → Prop} {p : Pipeline σ} {here : Option Executor} {flow flow₁ : Flow σ}
  {rest befores : List (Before σ)}

/-- An offloaded segment that loses no context leaves the one that its rest left. -/
theorem context_offload (h : ¬p.Loses here flow (.offload .running :: rest)) :
    (p.runFrom here flow (.offload .running :: rest)).2.context =
      (p.runFrom (some .running) flow rest).2.context := by
  cases hrun : p.runFrom (some .running) flow rest with
  | mk ending flow₁ =>
      rw [runFrom, hrun]
      cases ending with
      | done outcome => rfl
      | panicked e => exact absurd (.ended fun _ h => by rw [hrun] at h; cases h) h
      | stalled => exact absurd (.ended fun _ h => by rw [hrun] at h; cases h) h

/-- The way out of a filter that was entered keeps what holds behind the rest of the pipeline. -/
theorem keeps_around {enter : Action σ (Entry σ)} (henter : (Before.around enter).Keeps I)
    {leave : Ending Outcome → Attempt σ Value}
    (hrun : flow.perform enter = (.done (.watch leave), flow₁))
    (h : I (p.runFrom here flow₁ rest).2.context) :
    I (p.runFrom here flow (.around enter :: rest)).2.context := by
  rw [runFrom, hrun]
  exact henter.2 _ _ leave (Prod.mk.inj hrun).1 _ _ _ h

/-- **A pipeline that loses no context keeps what its filters in front keep**, and its inner segment
where it runs. -/
theorem keeps_runFrom (hbefores : ∀ f ∈ befores, f.Keeps I)
    (hinner : ∀ flow₁, p.Reaches flow befores flow₁ → I flow₁.context →
      I (flow₁.perform p.inner.run).2.context)
    (hlost : ¬p.Loses here flow befores) (h : I flow.context) :
    I (p.runFrom here flow befores).2.context := by
  induction befores generalizing here flow with
  | nil =>
      rw [runFrom]
      split
      · cases here <;> exact h
      · next hdetached => exact hinner flow (.inner flow (Bool.eq_false_iff.2 hdetached)) h
  | cons f rest ih =>
      obtain ⟨hf, hrest⟩ := List.forall_mem_cons.1 hbefores
      cases f with
      | around enter =>
          have hfirst := hf.1 flow.context flow.world h
          cases hrun : flow.perform enter with
          | mk ending flow₁ =>
              obtain ⟨hending, rfl⟩ := Prod.mk.inj hrun
              cases ending with
              | panicked e => rw [runFrom, hrun]; exact hfirst
              | stalled => rw [runFrom, hrun]; exact hfirst
              | done entry =>
                  cases entry with
                  | answer outcome => rw [runFrom, hrun]; exact hfirst
                  | watch leave =>
                      exact keeps_around hf hrun (ih hrest
                        (fun flow₂ hreach => hinner flow₂ (.inside hrun hreach))
                        (fun hloses => hlost (.inside hrun hloses)) hfirst)
      | offload executor =>
          cases executor with
          | shutDown => exact absurd (.cancelled here flow rest) hlost
          | running =>
              rw [context_offload hlost]
              exact ih hrest (fun flow₂ hreach => hinner flow₂ (.moved hreach))
                (fun hloses => hlost (.further hloses)) h

/-- What holds behind the inner segment still holds behind a pipeline that loses no context. -/
theorem keeps_runFrom_of_reaches (hreach : p.Reaches flow befores flow₁)
    (hbefores : ∀ f ∈ befores, f.Keeps I) (hlost : ¬p.Loses here flow befores)
    (h : I (flow₁.perform p.inner.run).2.context) : I (p.runFrom here flow befores).2.context := by
  induction hreach generalizing here with
  | inner flow hdetached =>
      rw [runFrom, hdetached]
      exact h
  | inside hrun _ ih =>
      obtain ⟨hf, hrest⟩ := List.forall_mem_cons.1 hbefores
      exact keeps_around hf hrun (ih hrest (fun hloses => hlost (.inside hrun hloses)) h)
  | moved _ ih =>
      obtain ⟨-, hrest⟩ := List.forall_mem_cons.1 hbefores
      rw [context_offload hlost]
      exact ih hrest (fun hloses => hlost (.further hloses)) h

/-- **Behind a pipeline that loses a context** holds what holds of an empty one. -/
theorem keeps_runFrom_of_loses (hbefores : ∀ f ∈ befores, f.Keeps I) (hempty : I {})
    (hlost : p.Loses here flow befores) : I (p.runFrom here flow befores).2.context := by
  induction hlost with
  | cancelled here flow rest =>
      rw [runFrom]
      exact hempty
  | @ended here flow rest hended =>
      cases hrun : p.runFrom (some .running) flow rest with
      | mk ending flow₁ =>
          rw [hrun] at hended
          rw [runFrom, hrun]
          cases ending with
          | done outcome => exact absurd rfl (hended outcome)
          | panicked e => exact hempty
          | stalled => exact hempty
  | @further here flow rest _ ih =>
      have ih := ih fun g hg => hbefores g (List.mem_cons_of_mem _ hg)
      cases hrun : p.runFrom (some .running) flow rest with
      | mk ending flow₁ =>
          rw [hrun] at ih
          rw [runFrom, hrun]
          cases ending with
          | done outcome => exact ih
          | panicked e => exact hempty
          | stalled => exact hempty
  | inside hrun _ ih =>
      obtain ⟨hf, hrest⟩ := List.forall_mem_cons.1 hbefores
      exact keeps_around hf hrun (ih hrest)

end

/-- **A pipeline that loses no context operates on the one that it is given.** -/
theorem operated_runFrom {takes : Bool} {p : Pipeline σ} (hp : p.Operates takes)
    {befores : List (Before σ)} (hbefores : ∀ f ∈ befores, f.Operates takes)
    {here : Option Executor} {flow : Flow σ} (h : ¬p.Loses here flow befores) :
    Operated takes flow.context (p.runFrom here flow befores).2.context := by
  have hinner := Action.operates_iff_keeps.1 ((Action.sequential_operates takes).inner hp)
    flow.context
  exact keeps_runFrom (fun f hf => (hbefores f hf).keeps flow.context)
    (fun flow₁ _ => hinner flow₁.context flow₁.world) h .refl

/-- **A pipeline that loses a context operates on an empty one.** -/
theorem operated_runFrom_of_loses {takes : Bool} {p : Pipeline σ}
    {befores : List (Before σ)} (hbefores : ∀ f ∈ befores, f.Operates takes)
    {here : Option Executor} {flow : Flow σ} (h : p.Loses here flow befores) :
    Operated takes {} (p.runFrom here flow befores).2.context :=
  keeps_runFrom_of_loses (fun f hf => (hbefores f hf).keeps {}) .refl h

/-- The request survives exactly if no context is lost. -/
theorem sameRequest_runFrom_iff {takes : Bool} {p : Pipeline σ} (hp : p.Operates takes)
    {befores : List (Before σ)} (hbefores : ∀ f ∈ befores, f.Operates takes)
    (here : Option Executor) (flow : Flow σ) (hroute : flow.context.route.isSome = true) :
    flow.context.SameRequest (p.runFrom here flow befores).2.context ↔
      ¬p.Loses here flow befores := by
  refine ⟨fun hsame hloses => ?_, fun h => (operated_runFrom hp hbefores h).sameRequest⟩
  have hempty := (operated_runFrom_of_loses hbefores hloses).sameRequest
  rw [← hsame.route, hempty.route] at hroute
  cases hroute

/-- **Nothing is lost where all code comes to its end** and every executor runs, whether the outcome
is a value or a failure. -/
theorem not_loses_of_ends {p : Pipeline σ} (hdetached : p.detached = false)
    (hinner : Action.Ends p.inner.run) {befores : List (Before σ)}
    (hbefores : ∀ f ∈ befores, (Filter.before f).Ends)
    (hexecutors : Before.offload .shutDown ∉ befores) (here : Option Executor) (flow : Flow σ) :
    ¬p.Loses here flow befores := by
  intro hloses
  induction hloses with
  | cancelled here flow rest => exact hexecutors List.mem_cons_self
  | @ended here flow rest hended =>
      have hfilters : ∀ f ∈ rest.map Filter.before, f.Ends := by
        intro f hf
        obtain ⟨b, hb, rfl⟩ := List.mem_map.1 hf
        exact hbefores b (List.mem_cons_of_mem _ hb)
      have hrest : beforesOf (rest.map Filter.before) = rest := by
        rw [beforesOf, List.filterMap_map]
        exact List.filterMap_some
      obtain ⟨_, _, _, _, _, outcome, flow', hrun, -⟩ :=
        surrounded hdetached hinner hfilters (some .running) flow
      rw [hrest] at hrun
      exact hended outcome (congrArg Prod.fst hrun)
  | further _ ih =>
      exact ih (fun f hf => hbefores f (List.mem_cons_of_mem _ hf))
        fun hmem => hexecutors (List.mem_cons_of_mem _ hmem)
  | inside _ _ ih =>
      exact ih (fun f hf => hbefores f (List.mem_cons_of_mem _ hf))
        fun hmem => hexecutors (List.mem_cons_of_mem _ hmem)

end Pipeline

/-! ### Dispatching -/

namespace Router

/-- Checking the media types chooses a content type at most. -/
theorem run_negotiate_eq_ok {route : RouteInfo} {ctx admitted : Context}
    (h : (negotiate route).run ctx = (.ok (), admitted)) :
    admitted = ctx ∨ ∃ value, ctx.setDefaultContentType value = .ok admitted := by
  rw [run_negotiate] at h
  cases hchosen : chosenType? route.produces ctx with
  | none => grind
  | some m =>
      cases hset : ctx.setDefaultContentType m.text with
      | ok chosen => grind [Except.toOption]
      | error failure => grind [Except.toOption]

theorem sameRequest_negotiated {r : Router σ} {route : RouteInfo} {ctx admitted : Context}
    (h : r.negotiated route ctx = (.ok (), admitted)) : ctx.SameRequest admitted := by
  have hself : ctx.SameRequest ctx := ⟨rfl, rfl, rfl⟩
  rw [negotiated] at h
  split at h
  · rcases run_negotiate_eq_ok h with rfl | ⟨value, hset⟩
    · exact hself
    · exact (.setDefaultContentType hset : Operation false ctx admitted).sameRequest
  · cases h
    exact hself

/-- **The request survives exactly if no context is lost.** The code of a route operates on the
contexts that it is given. When a filter that offloads returns to the filters around it, the
context is of the same request, with the same route and bindings, exactly if none was lost with an
offloaded segment; and then a response that was committed before is still committed with its
body, if none of the code further down takes responses out. When the router returns, the context
has its request and what was found for it exactly if none was lost in the whole pipeline. -/
theorem dispatch_keeps_iff {route : Route (Pipeline σ)} (hcode : route.pipeline.Operates true)
    (hbefores : ∀ f ∈ route.pipeline.befores, f.Operates true) :
    (∀ (here : Option Executor) (flow : Flow σ) (executor : Executor) (rest : List (Before σ)),
      .offload executor :: rest <:+ route.pipeline.befores →
        flow.context.route.isSome = true →
          (flow.context.SameRequest
              (route.pipeline.runFrom here flow (.offload executor :: rest)).2.context ↔
            ¬route.pipeline.Loses here flow (.offload executor :: rest)) ∧
          (¬route.pipeline.Loses here flow (.offload executor :: rest) →
            route.pipeline.Operates false → (∀ f ∈ rest, f.Operates false) →
              flow.context.isCommitted = true → flow.context.SameBody
                (route.pipeline.runFrom here flow (.offload executor :: rest)).2.context)) ∧
      ∀ (r : Router σ) (here : Option Executor) (ctx admitted : Context) (w : σ) (b : Bindings),
        r.table.resolve ctx.request.method ctx.request.path = .found route b →
          r.negotiated route.toRouteInfo ctx = (.ok (), admitted) →
            ((r.dispatch here ctx w).context.request = ctx.request ∧
                (r.dispatch here ctx w).context.route = some route.toRouteInfo ∧
                (r.dispatch here ctx w).context.bindings = b ↔
              ¬route.pipeline.Loses here
                { context := admitted.bind route.toRouteInfo b, world := w }
                route.pipeline.befores) := by
  refine ⟨fun here flow executor rest hsuffix hroute => ⟨?_, fun hkept hinside hrest hc => ?_⟩,
    fun r here ctx admitted w b hresolve hnegotiated => ?_⟩
  · have hrest : ∀ f ∈ .offload executor :: rest, f.Operates true :=
      fun f hf => hbefores f (hsuffix.subset hf)
    exact Pipeline.sameRequest_runFrom_iff hcode hrest here flow hroute
  · have hrest : ∀ f ∈ .offload executor :: rest, f.Operates false :=
      List.forall_mem_cons.2 ⟨trivial, hrest⟩
    exact (Pipeline.operated_runFrom hinside hrest hkept).sameBody hc
  · have hrun : (r.dispatch here ctx w).context = (route.pipeline.run here
        { context := admitted.bind route.toRouteInfo b, world := w }).2.context := by
      rw [dispatch_of_found hresolve, hnegotiated]
      rfl
    have hiff := Pipeline.sameRequest_runFrom_iff hcode hbefores here
      { context := admitted.bind route.toRouteInfo b, world := w } rfl
    rw [hrun, ← hiff, Pipeline.run]
    have hrequest := (sameRequest_negotiated hnegotiated).request
    constructor
    · rintro ⟨h, hr, hb⟩
      exact ⟨h.trans hrequest.symm, hr, hb⟩
    · rintro ⟨h, hr, hb⟩
      exact ⟨h.trans hrequest, hr, hb⟩

/-- A route whose inner segment runs on another executor. -/
def offloaded (handler : Handler Unit) (afters : List (After Unit)) : Route (Pipeline Unit) :=
  { id := 0, method := .only .post, pattern := ⟨[.literal "users", .parameter "id"]⟩,
    source := "/users/{id}"
    pipeline := { handler, befores := [.offload .running], afters } }

/-- The router of one route. -/
def single (route : Route (Pipeline Unit)) : Router Unit :=
  { table := (({ policy := .replace } : RouteTable (Pipeline Unit)).insert route).1
    classifier := {}
    settings := {} }

/-- A request that the route answers. -/
def created : Context :=
  .ofRequest { method := .post, path := "/users/7" }

/-- Code that panics. -/
def buggy : Attempt Unit Value :=
  ExceptT.mk (Action.panic (.text "bug"))

/-- The request survives a handler that panics on another executor. -/
theorem dispatch_keeps_created :
    ∃ ctx, ((single (offloaded buggy [])).dispatch none created ()).context = ctx ∧
      ctx.request.method = .post ∧ ctx.request.path = "/users/7" ∧
      ctx.route = some (offloaded buggy []).toRouteInfo ∧ ctx.bindings = ⟨[("id", "7")]⟩ := by
  have hcode : (offloaded buggy []).pipeline.Operates true :=
    ⟨fun _ _ => .refl, List.forall_mem_nil _, List.forall_mem_nil _⟩
  have hbefores : ∀ f ∈ (offloaded buggy []).pipeline.befores, f.Operates true :=
    List.forall_mem_singleton.2 trivial
  have hkept (flow : Flow Unit) : ¬(offloaded buggy []).pipeline.Loses none flow
      (offloaded buggy []).pipeline.befores := by
    refine Pipeline.not_loses_of_ends rfl (fun ctx w => ⟨_, rfl⟩) ?_ ?_ none flow
    · exact List.forall_mem_singleton.2 trivial
    · intro hmem
      cases List.mem_singleton.1 hmem
  obtain ⟨-, hdispatch⟩ := dispatch_keeps_iff hcode hbefores
  obtain ⟨hrequest, hroute, hbindings⟩ :=
    (hdispatch (single (offloaded buggy [])) none created created () ⟨[("id", "7")]⟩ rfl rfl).2
      (hkept _)
  refine ⟨_, rfl, ?_, ?_, hroute, hbindings⟩
  · rw [hrequest]
    rfl
  · rw [hrequest]
    rfl

/-- A handler that answers without a value. -/
def silent : Attempt Unit Value :=
  return .empty

/-- **A filter that panics on another executor takes the request with it**: what is left in the
context is the empty request of a fresh one, with no route and no bindings. -/
theorem dispatch_loses_request :
    created.request.method = .post ∧ created.request.path = "/users/7" ∧
      ((single (offloaded silent [fun _ => buggy])).table.resolve .post "/users/7" =
        .found (offloaded silent [fun _ => buggy]) ⟨[("id", "7")]⟩) ∧
      ∃ ctx, ((single (offloaded silent [fun _ => buggy])).dispatch none created ()).context = ctx ∧
        ctx.request.method = .get ∧ ctx.request.path = "/" ∧ ctx.route = none ∧
        ctx.bindings = {} := by
  have hresolve : (single (offloaded silent [fun _ => buggy])).table.resolve created.request.method
      created.request.path = .found (offloaded silent [fun _ => buggy]) ⟨[("id", "7")]⟩ := rfl
  refine ⟨rfl, rfl, hresolve, {}, ?_, rfl, rfl, rfl, rfl⟩
  rw [dispatch_of_found hresolve]
  rfl

end Router

end Switchyard
