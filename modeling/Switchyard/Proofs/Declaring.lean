import Switchyard.Proofs.Scoping
import Switchyard.Router.Blueprint

/-!
# Declarations in a Blueprint

A blueprint is made by a list of calls, and what matters to a route is the history of scopes up to
its own call. What is declared between the opening of a scope and its closing leaves no trace for
later routes (`scopes_nested`), and what is declared after a route leaves none in the route
(`declarations_callAll`).

## Main results

* `Blueprint.scopes_callAll`: the scopes of a blueprint are those of its history.
* `Blueprint.declarations_callAll`: what is declared later does not change a declaration.
* `ScopeStack.linearize_after`: a route gets exactly what is declared in the scopes that are open.
-/

namespace Switchyard

/-! ### Calls -/

namespace Blueprint

variable {σ : Type}

open ScopeStack (Bracketed Change after)

/-- What can be declared in a blueprint. -/
inductive Call (σ : Type) where
  | route (method : Web.RouteMethod) (pattern : String) (handler : Handler σ)
    (options : RouteOptions)
  | scope (change : Change σ)
  | errorKind (k : CauseKind) (s : Web.Status)
  | errorRule (accepts : Failure → Bool) (s : Web.Status)

/-- A change of the scopes declared. -/
def change (b : Blueprint σ) : Change σ → Blueprint σ
  | .opened stem detach => b.openScope stem detach
  | .closed => b.closeScope
  | .filter f => b.filter f
  | .renderer r => b.renderer r

/-- One thing declared. -/
def call (b : Blueprint σ) : Call σ → Blueprint σ
  | .route method pattern handler options => b.route method pattern handler options
  | .scope c => b.change c
  | .errorKind k s => b.errorKind k s
  | .errorRule accepts s => b.errorRule accepts s

/-- All things declared, one after the other. -/
def callAll (b : Blueprint σ) (calls : List (Call σ)) : Blueprint σ :=
  calls.foldl call b

/-- The change of the scopes that is declared, if it is one. -/
def Call.change? : Call σ → Option (Change σ)
  | .scope c => some c
  | .route _ _ _ _ | .errorKind _ _ | .errorRule _ _ => none

/-- All that is done to the scopes. -/
def changes (calls : List (Call σ)) : List (Change σ) :=
  calls.filterMap Call.change?

theorem callAll_append (b : Blueprint σ) (calls later : List (Call σ)) :
    b.callAll (calls ++ later) = (b.callAll calls).callAll later :=
  List.foldl_append

theorem scopes_change (b : Blueprint σ) (c : Change σ) :
    (b.change c).scopes = b.scopes.apply c := by
  cases c with
  | opened stem detach => rfl
  | closed =>
      rw [change, closeScope, ScopeStack.apply]
      cases b.scopes.pop? <;> rfl
  | filter f => rfl
  | renderer r => rfl

theorem declarations_change (b : Blueprint σ) (c : Change σ) :
    (b.change c).declarations = b.declarations := by
  cases c with
  | opened stem detach => rfl
  | closed =>
      rw [change, closeScope]
      cases b.scopes.pop? <;> rfl
  | filter f => rfl
  | renderer r => rfl

/-- The scopes of a blueprint are those of its history. -/
theorem scopes_callAll (b : Blueprint σ) (calls : List (Call σ)) :
    (b.callAll calls).scopes = b.scopes.applyAll (changes calls) := by
  induction calls generalizing b with
  | nil => rfl
  | cons c calls ih =>
      rw [callAll, List.foldl_cons, ← callAll, ih]
      cases c with
      | scope c => rw [call, scopes_change]; rfl
      | route method pattern handler options => rfl
      | errorKind k s => rfl
      | errorRule accepts s => rfl

/-- What is declared between an opening and its closing leaves the scopes as they were. -/
theorem scopes_closeScope {calls : List (Call σ)} (h : Bracketed (changes calls))
    (b : Blueprint σ) (stem : String) (detach : Bool) :
    ((b.openScope stem detach).callAll calls).closeScope.scopes = b.scopes := by
  calc ((b.openScope stem detach).callAll calls).closeScope.scopes
      = ((b.openScope stem detach).callAll calls).scopes.apply .closed := scopes_change _ .closed
    _ = b.scopes.applyAll (.opened stem detach :: (changes calls ++ [.closed])) := by
        rw [scopes_callAll, ← List.cons_append, ScopeStack.applyAll_append]
        rfl
    _ = b.scopes := ScopeStack.applyAll_scope h b.scopes stem detach []

/-- What is declared under a prefix, detached or offloaded leaves the scopes as they were. -/
theorem scopes_nested {calls : List (Call σ)} (h : Bracketed (changes calls)) (b : Blueprint σ)
    (stem : String) (executor : Executor) :
    (b.under stem (·.callAll calls)).scopes = b.scopes ∧
      (b.detach (·.callAll calls)).scopes = b.scopes ∧
      (b.offload executor (·.callAll calls)).scopes = b.scopes := by
  have hoffload : Bracketed (changes (.scope (.filter (.before (.offload executor))) :: calls)) :=
    h.filter _
  exact ⟨scopes_closeScope h b stem false, scopes_closeScope h b "" true,
    scopes_closeScope hoffload b "" false⟩

/-- **What is declared later does not change a declaration.** -/
theorem declarations_callAll (b : Blueprint σ) (calls : List (Call σ)) :
    b.declarations <+: (b.callAll calls).declarations := by
  induction calls generalizing b with
  | nil => exact List.prefix_rfl
  | cons c calls ih =>
      have hcall : b.declarations <+: (b.call c).declarations := by
        cases c with
        | route method pattern handler options => exact List.prefix_append _ _
        | scope c => exact ⟨[], by rw [List.append_nil, call, declarations_change]⟩
        | errorKind k s => exact List.prefix_rfl
        | errorRule accepts s => exact List.prefix_rfl
      exact hcall.trans (ih (b.call c))

/-- A route keeps what the scopes contributed to it where it was declared. -/
theorem getElem?_declarations_callAll (b : Blueprint σ) (method : Web.RouteMethod)
    (pattern : String) (handler : Handler σ) (options : RouteOptions) (later : List (Call σ)) :
    (b.callAll (.route method pattern handler options :: later)).declarations[
        b.declarations.length]? =
      some { method, placed := b.scopes.linearize pattern, handler, options } := by
  have hlater := declarations_callAll (b.route method pattern handler options) later
  obtain ⟨more, hmore⟩ := hlater
  have hdeclared :
      (b.callAll (.route method pattern handler options :: later)).declarations =
        b.declarations ++ { method, placed := b.scopes.linearize pattern, handler, options } ::
          more := by
    rw [List.append_cons]
    exact hmore.symm
  rw [hdeclared, List.getElem?_append_right (Nat.le_refl _), Nat.sub_self]
  rfl

end Blueprint

/-! ### Every history -/

namespace ScopeStack

variable {σ : Type}

open Blueprint (Call changes)

/-- What a history of scopes, closings that fail included, comes to, and what a route that is
declared behind it gets. -/
structure FollowsHistory (history : List (Change σ)) (pattern : String) : Prop where
  /-- the route has the filters that are not enclosed in a closed scope, in the order in which they
  were declared -/
  filters : ((after history).linearize pattern).filters = inScope Change.filter? [] history
  /-- and so it has the renderers -/
  renderers : ((after history).linearize pattern).renderers = inScope Change.renderer? [] history
  /-- it is detached exactly if a scope was opened so and no later change closes it -/
  detached : ((after history).linearize pattern).detach = true ↔
    ∃ earlier stem later, history = earlier ++ .opened stem true :: later ∧ ¬Closes later
  /-- it keeps all this whatever is declared after it -/
  kept : ∀ (settings : RouterSettings) (calls later : List (Call σ)) (method : Web.RouteMethod)
    (handler : Handler σ) (options : RouteOptions), changes calls = history →
      (({ settings } : Blueprint σ).callAll
          (calls ++ .route method pattern handler options :: later)).declarations[
            (({ settings } : Blueprint σ).callAll calls).declarations.length]? =
        some { method, placed := (after history).linearize pattern, handler, options }
  /-- an opening, a bracketed stretch and a closing could be left out -/
  scope : ∀ (stem : String) (detach : Bool) (body later : List (Change σ)), Bracketed body →
    after (history ++ .opened stem detach :: (body ++ .closed :: later)) = after (history ++ later)
  /-- so what is declared under a prefix, detached or offloaded leaves the scopes as they were -/
  nested : ∀ (b : Blueprint σ) (stem : String) (executor : Executor) (calls : List (Call σ)),
    Bracketed (changes calls) →
      (b.under stem (·.callAll calls)).scopes = b.scopes ∧
        (b.detach (·.callAll calls)).scopes = b.scopes ∧
        (b.offload executor (·.callAll calls)).scopes = b.scopes
  /-- the scopes that are open are those of the history -/
  depth : (after history).depth = depthAfter history
  /-- there is one frame more -/
  frames : (after history).frames.length = depthAfter history + 1
  /-- and a declaration changes the last one -/
  top : ∀ edit, ((after history).modifyTop edit).frames =
    (after history).frames.modify (depthAfter history) edit
  /-- a closing fails exactly if no scope is open -/
  underflow : (after history).pop? = none ↔ ¬EndsWithin history
  /-- and then it changes nothing -/
  unchanged : ¬EndsWithin history → after (history ++ [.closed]) = after history

/-- A closing fails exactly if no scope is open. -/
theorem pop?_after_eq_none_iff (history : List (Change σ)) :
    (after history).pop? = none ↔ ¬EndsWithin history := by
  rw [pop?_eq_none_iff, depth_after, endsWithin_iff, not_not]

/-- **A route gets exactly what is declared in the scopes that are open**, for every history of
scopes. -/
theorem linearize_after (history : List (Change σ)) (pattern : String) :
    FollowsHistory history pattern where
  filters := flatMap_frames_after reads_filters history
  renderers := flatMap_frames_after reads_renderers history
  detached := detach_linearize_after_iff history pattern
  kept := by
    intro settings calls later method handler options hcalls
    have hscopes : (({ settings } : Blueprint σ).callAll calls).scopes = after history := by
      rw [Blueprint.scopes_callAll, hcalls, after]
    rw [Blueprint.callAll_append, Blueprint.getElem?_declarations_callAll, hscopes]
  scope := by
    intro stem detach body later hbody
    rw [after_append, applyAll_scope hbody, after_append]
  nested b stem executor calls hcalls := Blueprint.scopes_nested hcalls b stem executor
  depth := depth_after history
  frames := by rw [length_frames, depth_after]
  top edit := by rw [frames_modifyTop, depth_after]
  underflow := pop?_after_eq_none_iff history
  unchanged := by
    intro hfail
    rw [after_concat, apply, (pop?_after_eq_none_iff history).2 hfail]
    rfl

/-- A history with a closing that fails, a detached scope that is closed, and one that is not. -/
def uneven : List (Change Unit) :=
  [.closed, .filter (.before (.offload .running)), .opened "/old" true,
    .filter (.before (.offload .shutDown)), .renderer .json, .closed, .opened "/new" true,
    .renderer .jsonPretty, .filter (.before (.check (pure ())))]

/-- A handler without a result of its own. -/
def idle : Handler Unit :=
  ExceptT.mk (pure (.ok .empty))

/-- What stood in the closed scope is gone, and the route is detached by the open one. One more
scope around a filter would make no difference, nor does what is declared later. -/
theorem linearize_after_uneven :
    ((after uneven).linearize "/r").filters =
        [.before (.offload .running), .before (.check (pure ()))] ∧
      ((after uneven).linearize "/r").renderers = [.jsonPretty] ∧
      ((after uneven).linearize "/r").detach = true ∧
      (({} : Blueprint Unit).callAll
          (uneven.map .scope ++
            [.route .any "/r" idle {}, .scope (.renderer .json)])).declarations[0]? =
        some
          { method := .any, placed := (after uneven).linearize "/r", handler := idle,
            options := {} } ∧
      after (uneven ++ [.opened "" false, .filter (.before (.offload .running)), .closed]) =
        after uneven ∧
      (after uneven).depth = 1 := by
  have hfollows := linearize_after uneven "/r"
  have hopen : ¬Closes (σ := Unit)
      [.renderer .jsonPretty, .filter (.before (.check (pure ())))] := by decide
  exact ⟨hfollows.filters, hfollows.renderers,
    hfollows.detached.2 ⟨uneven.take 6, "/new", uneven.drop 7, rfl, hopen⟩,
    hfollows.kept {} (uneven.map .scope) [.scope (.renderer .json)] .any idle {} rfl,
    hfollows.scope "" false [.filter (.before (.offload .running))] [] (.filter _ .nil),
    hfollows.depth⟩

end ScopeStack

end Switchyard
