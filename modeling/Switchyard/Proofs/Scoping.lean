import Mathlib.Data.List.Basic
import Mathlib.Data.List.Induction
import Switchyard.Router.Scope

/-!
# Histories of Scopes

While routes are declared, scopes are opened and closed in any order, also with closings that find
no scope to close. This module says what a stack of scopes holds by its history alone. A change is
enclosed in a closed scope if a properly bracketed stretch leads back from it to an opening and
another one leads on from it to a closing (`Enclosed`), and a route gets what is not enclosed, in
the order in which it was declared.

The stack is not compared with the history as a whole: `flatMap_frames_applyAll` reads it from the
changes still to come. Of the scopes that are open now, as many will be gone as there are unmatched
closings ahead (`unmatchedCloses`), and all others are kept as they are.

## Main results

* `endsWithin_iff`, `closes_iff`: brackets are matched by counting.
* `flatMap_frames_applyAll`: what the frames hold is what is in scope.
* `applyAll_scope`: an opening, a bracketed stretch and a closing leave the stack as it was.
* `detach_linearize_after_iff`: a route is detached if a scope was opened so and stays open.
-/

namespace Switchyard

namespace ScopeStack

variable {σ α : Type}

/-! ### Histories -/

/-- What can be done to a stack of scopes. -/
inductive Change (σ : Type) where
  | opened (stem : String) (detach : Bool)
  | closed
  | filter (f : Filter σ)
  | renderer (r : Renderer σ)

/-- One change made. A closing that fails leaves the stack as it was. -/
def apply (s : ScopeStack σ) : Change σ → ScopeStack σ
  | .opened stem detach => s.push stem detach
  | .closed => (s.pop?.map (·.2)).getD s
  | .filter f => s.addFilter f
  | .renderer r => s.addRenderer r

/-- All changes made, one after the other. -/
def applyAll (s : ScopeStack σ) (changes : List (Change σ)) : ScopeStack σ :=
  changes.foldl apply s

/-- The stack that a history leaves. -/
def after (history : List (Change σ)) : ScopeStack σ :=
  ({} : ScopeStack σ).applyAll history

theorem applyAll_append (s : ScopeStack σ) (changes later : List (Change σ)) :
    s.applyAll (changes ++ later) = (s.applyAll changes).applyAll later :=
  List.foldl_append

theorem after_append (history later : List (Change σ)) :
    after (history ++ later) = (after history).applyAll later :=
  applyAll_append _ history later

theorem after_concat (history : List (Change σ)) (c : Change σ) :
    after (history ++ [c]) = (after history).apply c :=
  after_append history [c]

namespace Change

/-- The number of open scopes behind a change. -/
def depthFrom (depth : Nat) : Change σ → Nat
  | .opened _ _ => depth + 1
  | .closed => depth - 1
  | .filter _ => depth
  | .renderer _ => depth

/-- The filter that is declared, if it is one. -/
def filter? : Change σ → Option (Filter σ)
  | .filter f => some f
  | .opened _ _ | .closed | .renderer _ => none

/-- The renderer that is declared, if it is one. -/
def renderer? : Change σ → Option (Renderer σ)
  | .renderer r => some r
  | .opened _ _ | .closed | .filter _ => none

/-- Whether the scope that is opened is detached, if one is. -/
def detach? : Change σ → Option Bool
  | .opened _ detach => some detach
  | .closed | .filter _ | .renderer _ => none

end Change

/-- The number of scopes that a history leaves open. -/
def depthAfter (history : List (Change σ)) : Nat :=
  history.foldl Change.depthFrom 0

theorem depthAfter_concat (history : List (Change σ)) (c : Change σ) :
    depthAfter (history ++ [c]) = c.depthFrom (depthAfter history) := by
  rw [depthAfter, List.foldl_concat, depthAfter]

/-- The number of closings for which nothing was opened before. -/
def unmatchedCloses : List (Change σ) → Nat
  | [] => 0
  | .opened _ _ :: later => unmatchedCloses later - 1
  | .closed :: later => unmatchedCloses later + 1
  | .filter _ :: later => unmatchedCloses later
  | .renderer _ :: later => unmatchedCloses later

/-- A stretch of changes that closes what it opens, and nothing else. -/
inductive Bracketed : List (Change σ) → Prop
  | nil : Bracketed []
  | filter (f : Filter σ) {rest : List (Change σ)} :
      Bracketed rest → Bracketed (.filter f :: rest)
  | renderer (r : Renderer σ) {rest : List (Change σ)} :
      Bracketed rest → Bracketed (.renderer r :: rest)
  | scope (stem : String) (detach : Bool) {body rest : List (Change σ)} :
      Bracketed body → Bracketed rest →
        Bracketed (.opened stem detach :: (body ++ .closed :: rest))

theorem Bracketed.append {body rest : List (Change σ)} (h : Bracketed body)
    (hrest : Bracketed rest) : Bracketed (body ++ rest) := by
  induction h with
  | nil => exact hrest
  | filter f _ ih => exact ih.filter f
  | renderer r _ ih => exact ih.renderer r
  | scope stem detach hbody _ _ ih =>
      rw [List.cons_append, List.append_assoc, List.cons_append]
      exact hbody.scope stem detach ih

/-- A bracketed stretch closes no scope that was open before. -/
theorem Bracketed.unmatchedCloses_append {body : List (Change σ)} (h : Bracketed body)
    (later : List (Change σ)) : unmatchedCloses (body ++ later) = unmatchedCloses later := by
  induction h generalizing later with
  | nil => rfl
  | filter f _ ih => exact ih later
  | renderer r _ ih => exact ih later
  | @scope stem detach body rest _ _ ihbody ih =>
      calc unmatchedCloses (.opened stem detach :: (body ++ .closed :: rest) ++ later)
          = unmatchedCloses (body ++ (.closed :: (rest ++ later))) - 1 := by
            rw [List.cons_append, List.append_assoc, List.cons_append, unmatchedCloses]
        _ = unmatchedCloses (rest ++ later) := by
            rw [ihbody, unmatchedCloses, Nat.add_sub_cancel]
        _ = unmatchedCloses later := ih later

/-- A bracketed stretch leaves no scope open. -/
theorem Bracketed.depthAfter_append {body : List (Change σ)} (h : Bracketed body)
    (history : List (Change σ)) : depthAfter (history ++ body) = depthAfter history := by
  induction h generalizing history with
  | nil => rw [List.append_nil]
  | filter f _ ih => rw [List.append_cons, ih, depthAfter_concat, Change.depthFrom]
  | renderer r _ ih => rw [List.append_cons, ih, depthAfter_concat, Change.depthFrom]
  | scope stem detach _ _ ihbody ih =>
      rw [List.append_cons, ← List.append_assoc, List.append_cons _ Change.closed, ih,
        depthAfter_concat, ihbody, depthAfter_concat, Change.depthFrom, Change.depthFrom,
        Nat.add_sub_cancel]

/-! ### Matching brackets -/

/-- Is a scope that is opened in the history still open at its end? -/
def EndsWithin (history : List (Change σ)) : Prop :=
  ∃ earlier stem detach body,
    history = earlier ++ .opened stem detach :: body ∧ Bracketed body

/-- Will the innermost scope that is open now be closed? -/
def Closes (later : List (Change σ)) : Prop :=
  ∃ body rest, later = body ++ .closed :: rest ∧ Bracketed body

/-- Is what stands between two stretches in a scope that was opened in the first and is closed in
the second? -/
def Enclosed (history later : List (Change σ)) : Prop :=
  EndsWithin history ∧ Closes later

theorem EndsWithin.depthAfter_ne_zero {history : List (Change σ)} (h : EndsWithin history) :
    depthAfter history ≠ 0 := by
  obtain ⟨earlier, stem, detach, body, rfl, hbody⟩ := h
  rw [List.append_cons, hbody.depthAfter_append, depthAfter_concat]
  exact Nat.succ_ne_zero _

/-- A bracketed stretch does not lead out of a scope. -/
theorem EndsWithin.append {history body : List (Change σ)} (h : EndsWithin history)
    (hbody : Bracketed body) : EndsWithin (history ++ body) := by
  obtain ⟨earlier, stem, detach, inside, rfl, hinside⟩ := h
  exact ⟨earlier, stem, detach, inside ++ body, by simp, hinside.append hbody⟩

/-- Where scopes are open, the history leads back to the opening of one through a bracketed stretch.
At a closing it leads back twice: over the scope that is closed, and on to the one around it. -/
theorem endsWithin_of_depthAfter {history : List (Change σ)} (h : depthAfter history ≠ 0) :
    EndsWithin history := by
  induction hn : history.length using Nat.strongRecOn generalizing history with
  | ind n ih =>
      subst hn
      rcases List.eq_nil_or_concat' history with rfl | ⟨earlier, c, rfl⟩
      · exact absurd rfl h
      have hlt : earlier.length < (earlier ++ [c]).length := by
        rw [List.length_append, List.length_singleton]
        exact Nat.lt_succ_self _
      rw [depthAfter_concat] at h
      cases c with
      | opened stem detach => exact ⟨earlier, stem, detach, [], rfl, .nil⟩
      | filter f => exact (ih _ hlt h rfl).append (.filter f .nil)
      | renderer r => exact (ih _ hlt h rfl).append (.renderer r .nil)
      | closed =>
          rw [Change.depthFrom] at h
          -- what is closed was opened behind `middle`, and a scope is open at the end of that
          obtain ⟨middle, stem, detach, body, rfl, hbody⟩ := ih _ hlt (by omega) rfl
          have hdepth : depthAfter middle ≠ 0 := by
            rw [List.append_cons, hbody.depthAfter_append, depthAfter_concat,
              Change.depthFrom] at h
            omega
          have hmiddle : middle.length <
              (middle ++ Change.opened stem detach :: body ++ [Change.closed]).length := by
            simp only [List.length_append, List.length_cons]
            omega
          rw [List.append_assoc, List.cons_append]
          exact (ih _ hmiddle hdepth rfl).append (hbody.scope stem detach .nil)

theorem Closes.unmatchedCloses_ne_zero {later : List (Change σ)} (h : Closes later) :
    unmatchedCloses later ≠ 0 := by
  obtain ⟨body, rest, rfl, hbody⟩ := h
  rw [hbody.unmatchedCloses_append, unmatchedCloses]
  exact Nat.succ_ne_zero _

/-- What closes a scope behind a bracketed stretch closes it in front of the stretch. -/
theorem Bracketed.closes_append {body later : List (Change σ)} (hbody : Bracketed body)
    (h : Closes later) : Closes (body ++ later) := by
  obtain ⟨inside, rest, rfl, hinside⟩ := h
  exact ⟨body ++ inside, rest, (List.append_assoc body inside _).symm, hbody.append hinside⟩

/-- Where a closing is unmatched, a bracketed stretch leads on to one. At an opening it leads on
twice: over the scope that is opened, and on to the end of the one around it. -/
theorem closes_of_unmatchedCloses {later : List (Change σ)} (h : unmatchedCloses later ≠ 0) :
    Closes later := by
  induction hn : later.length using Nat.strongRecOn generalizing later with
  | ind n ih =>
      subst hn
      cases later with
      | nil => exact absurd rfl h
      | cons c later =>
          have hlt : later.length < (c :: later).length := Nat.lt_succ_self _
          cases c with
          | closed => exact ⟨[], later, rfl, .nil⟩
          | filter f =>
              have hcloses : Closes later := ih _ hlt h rfl
              exact (Bracketed.nil.filter f).closes_append hcloses
          | renderer r =>
              have hcloses : Closes later := ih _ hlt h rfl
              exact (Bracketed.nil.renderer r).closes_append hcloses
          | opened stem detach =>
              rw [unmatchedCloses] at h
              -- what is opened is closed in front of `middle`, and one more closing is in that
              obtain ⟨body, middle, rfl, hbody⟩ := ih _ hlt (by omega) rfl
              have hclosed : unmatchedCloses middle ≠ 0 := by
                rw [hbody.unmatchedCloses_append, unmatchedCloses] at h
                omega
              have hmiddle : middle.length <
                  (.opened stem detach :: (body ++ .closed :: middle)).length := by
                simp only [List.length_append, List.length_cons]
                omega
              rw [List.append_cons body]
              exact (hbody.scope stem detach .nil).closes_append (ih _ hmiddle hclosed rfl)

/-- **The end of a history is in a scope exactly if scopes are counted there.** -/
theorem endsWithin_iff {history : List (Change σ)} :
    EndsWithin history ↔ depthAfter history ≠ 0 :=
  ⟨EndsWithin.depthAfter_ne_zero, endsWithin_of_depthAfter⟩

/-- **A scope will be closed exactly if unmatched closings are counted ahead.** -/
theorem closes_iff {later : List (Change σ)} : Closes later ↔ unmatchedCloses later ≠ 0 :=
  ⟨Closes.unmatchedCloses_ne_zero, closes_of_unmatchedCloses⟩

instance (later : List (Change σ)) : Decidable (Closes later) :=
  decidable_of_iff (unmatchedCloses later ≠ 0) closes_iff.symm

instance (history later : List (Change σ)) : Decidable (Enclosed history later) :=
  decidable_of_iff (depthAfter history ≠ 0 ∧ unmatchedCloses later ≠ 0)
    (and_congr endsWithin_iff closes_iff).symm

/-- What is picked from the changes that are not in a closed scope at the end, in their order. The
changes come behind a history. -/
def inScope (pick : Change σ → Option α) (history : List (Change σ)) : List (Change σ) → List α
  | [] => []
  | c :: later =>
    (if Enclosed (history ++ [c]) later then [] else (pick c).toList) ++
      inScope pick (history ++ [c]) later

/-- A member of what is in scope was picked from a change that is not enclosed. -/
theorem mem_inScope_iff {pick : Change σ → Option α} {history changes : List (Change σ)} {a : α} :
    a ∈ inScope pick history changes ↔
      ∃ earlier c later, changes = earlier ++ c :: later ∧ pick c = some a ∧
        ¬Enclosed (history ++ earlier ++ [c]) later := by
  induction changes generalizing history with
  | nil =>
      constructor
      · exact fun h => absurd h List.not_mem_nil
      · rintro ⟨earlier, c, later, h, -⟩
        simp at h
  | cons d changes ih =>
      rw [inScope, List.mem_append, ih]
      constructor
      · rintro (h | ⟨earlier, c, later, rfl, hpick, henclosed⟩)
        · split at h
          · exact absurd h List.not_mem_nil
          · next henclosed =>
            exact ⟨[], d, changes, rfl, by simpa using h, by rwa [List.append_nil]⟩
        · rw [← List.append_cons] at henclosed
          exact ⟨d :: earlier, c, later, rfl, hpick, henclosed⟩
      · rintro ⟨earlier, c, later, heq, hpick, henclosed⟩
        cases earlier with
        | nil =>
            obtain ⟨rfl, rfl⟩ := List.cons.inj heq
            rw [List.append_nil] at henclosed
            refine .inl ?_
            rw [if_neg henclosed, hpick]
            exact List.mem_singleton_self a
        | cons e earlier =>
            obtain ⟨rfl, rfl⟩ := List.cons.inj heq
            rw [List.append_cons history] at henclosed
            exact .inr ⟨earlier, c, later, rfl, hpick, henclosed⟩

/-! ### The stack by its history -/

theorem length_frames (s : ScopeStack σ) : s.frames.length = s.depth + 1 := by
  rw [frames, List.length_cons, List.length_reverse, depth]

theorem pop?_eq_none_iff {s : ScopeStack σ} : s.pop? = none ↔ s.depth = 0 := by
  rcases s with ⟨- | ⟨frame, inner⟩, root⟩
  · exact ⟨fun _ => rfl, fun _ => rfl⟩
  · simp [pop?, depth]

/-- A change of the innermost frame changes the last of all frames, and no other. -/
theorem frames_modifyTop (s : ScopeStack σ) (f : ScopeFrame σ → ScopeFrame σ) :
    (s.modifyTop f).frames = s.frames.modify s.depth f := by
  rcases s with ⟨- | ⟨frame, inner⟩, root⟩
  · rfl
  · have hlast : (root :: inner.reverse).length = inner.length + 1 := by
      rw [List.length_cons, List.length_reverse]
    calc root :: (f frame :: inner).reverse
        = (root :: inner.reverse) ++ [f frame] := by rw [List.reverse_cons, List.cons_append]
      _ = (root :: inner.reverse ++ [frame]).modify (inner.length + 1) f := by
          rw [List.modify_eq_take_drop, List.take_left' hlast, List.drop_left' hlast]
          rfl
      _ = (root :: (frame :: inner).reverse).modify (inner.length + 1) f := by
          rw [List.reverse_cons, List.cons_append]

theorem depth_apply (s : ScopeStack σ) (c : Change σ) :
    (s.apply c).depth = c.depthFrom s.depth := by
  cases c with
  | opened stem detach => rfl
  | closed => rcases s with ⟨- | ⟨frame, inner⟩, root⟩ <;> rfl
  | filter f => rcases s with ⟨- | ⟨frame, inner⟩, root⟩ <;> rfl
  | renderer r => rcases s with ⟨- | ⟨frame, inner⟩, root⟩ <;> rfl

theorem depth_after (history : List (Change σ)) : (after history).depth = depthAfter history := by
  induction history using List.reverseRecOn with
  | nil => rfl
  | append_singleton history c ih => rw [after_concat, depth_apply, ih, depthAfter_concat]

/-- What is read of a frame is what was picked from its opening and from the declarations in it. -/
structure Reads (get : ScopeFrame σ → List α) (pick : Change σ → Option α) : Prop where
  opened : ∀ stem detach, get { stem, detach } = (pick (.opened stem detach)).toList
  closed : pick .closed = none
  filter : ∀ (frame : ScopeFrame σ) f,
    get { frame with filters := frame.filters ++ [f] } = get frame ++ (pick (.filter f)).toList
  renderer : ∀ (frame : ScopeFrame σ) r,
    get { frame with renderers := frame.renderers ++ [r] } =
      get frame ++ (pick (.renderer r)).toList

theorem reads_filters : Reads (fun frame : ScopeFrame σ => frame.filters) Change.filter? where
  opened _ _ := rfl
  closed := rfl
  filter _ _ := rfl
  renderer _ _ := (List.append_nil _).symm

theorem reads_renderers : Reads (fun frame : ScopeFrame σ => frame.renderers) Change.renderer? where
  opened _ _ := rfl
  closed := rfl
  filter _ _ := (List.append_nil _).symm
  renderer _ _ := rfl

theorem reads_detach : Reads (fun frame : ScopeFrame σ => [frame.detach]) Change.detach? where
  opened _ _ := rfl
  closed := rfl
  filter _ _ := rfl
  renderer _ _ := rfl

/-- The stack with the innermost scopes closed. -/
def without (s : ScopeStack σ) (n : Nat) : ScopeStack σ :=
  { s with inner := s.inner.drop n }

/-- What a declaration in the innermost frame adds is there as long as this frame is open. -/
theorem flatMap_frames_modifyTop {get : ScopeFrame σ → List α} {edit : ScopeFrame σ → ScopeFrame σ}
    {added : List α} (h : ∀ frame, get (edit frame) = get frame ++ added) (s : ScopeStack σ)
    (n : Nat) :
    ((s.modifyTop edit).without n).frames.flatMap get =
      (s.without n).frames.flatMap get ++
        if (s.modifyTop edit).depth ≠ 0 ∧ n ≠ 0 then [] else added := by
  rcases s with ⟨- | ⟨frame, inner⟩, root⟩
  · simp [modifyTop, without, frames, depth, h]
  · cases n with
    | zero => simp [modifyTop, without, frames, h]
    | succ n => simp [modifyTop, without, frames, depth]

/-- What the frames that will stay open hold behind a change is what they held before it, and what
is picked from the change if its own frame is one of them. -/
theorem flatMap_frames_apply {get : ScopeFrame σ → List α} {pick : Change σ → Option α}
    (h : Reads get pick) (s : ScopeStack σ) (c : Change σ) (later : List (Change σ)) :
    ((s.apply c).without (unmatchedCloses later)).frames.flatMap get =
      (s.without (unmatchedCloses (c :: later))).frames.flatMap get ++
        if (s.apply c).depth ≠ 0 ∧ unmatchedCloses later ≠ 0 then [] else (pick c).toList := by
  cases c with
  | opened stem detach =>
      rw [apply, unmatchedCloses]
      cases unmatchedCloses later with
      | zero => simp [push, without, frames, h.opened]
      | succ n => simp [push, without, frames, depth]
  | closed =>
      rcases s with ⟨- | ⟨frame, inner⟩, root⟩
      · simp [apply, pop?, without, frames, h.closed]
      · simp [apply, pop?, without, frames, unmatchedCloses, h.closed]
  | filter f => exact flatMap_frames_modifyTop (fun frame => h.filter frame f) s _
  | renderer r => exact flatMap_frames_modifyTop (fun frame => h.renderer frame r) s _

/-- **What the frames hold is what is in scope.** What a frame held before the changes is kept if
the frame stays open, and behind it comes what is in scope of the changes. -/
theorem flatMap_frames_applyAll {get : ScopeFrame σ → List α} {pick : Change σ → Option α}
    (h : Reads get pick) {s : ScopeStack σ} {history : List (Change σ)}
    (hs : s.depth = depthAfter history) (changes : List (Change σ)) :
    (s.applyAll changes).frames.flatMap get =
      (s.without (unmatchedCloses changes)).frames.flatMap get ++
        inScope pick history changes := by
  induction changes generalizing s history with
  | nil => exact (List.append_nil _).symm
  | cons c changes ih =>
      have hdepth : (s.apply c).depth = depthAfter (history ++ [c]) := by
        rw [depth_apply, hs, depthAfter_concat]
      have henclosed : Enclosed (history ++ [c]) changes ↔
          (s.apply c).depth ≠ 0 ∧ unmatchedCloses changes ≠ 0 := by
        rw [Enclosed, endsWithin_iff, closes_iff, hdepth]
      calc (s.applyAll (c :: changes)).frames.flatMap get
          = ((s.apply c).without (unmatchedCloses changes)).frames.flatMap get ++
              inScope pick (history ++ [c]) changes := ih hdepth
        _ = (s.without (unmatchedCloses (c :: changes))).frames.flatMap get ++
              inScope pick history (c :: changes) := by
            rw [flatMap_frames_apply h, List.append_assoc, inScope]
            simp only [henclosed]

/-- What is read of all frames that a history leaves. -/
theorem flatMap_frames_after {get : ScopeFrame σ → List α} {pick : Change σ → Option α}
    (h : Reads get pick) (history : List (Change σ)) :
    (after history).frames.flatMap get = get {} ++ inScope pick [] history := by
  have hempty : ({} : ScopeStack σ).depth = depthAfter ([] : List (Change σ)) := rfl
  rw [after, flatMap_frames_applyAll h hempty]
  simp [without, frames]

/-- A bracketed stretch changes no frame but the innermost. -/
theorem Bracketed.exists_applyAll {body : List (Change σ)} (h : Bracketed body)
    (s : ScopeStack σ) (frame : ScopeFrame σ) :
    ∃ frame', ({ s with inner := frame :: s.inner } : ScopeStack σ).applyAll body =
      { s with inner := frame' :: s.inner } := by
  induction h generalizing s frame with
  | nil => exact ⟨frame, rfl⟩
  | filter f _ ih => exact ih s { frame with filters := frame.filters ++ [f] }
  | renderer r _ ih => exact ih s { frame with renderers := frame.renderers ++ [r] }
  | @scope stem detach body rest _ _ ihbody ih =>
      -- the body works on the frame that is opened, and the rest on `frame` again
      obtain ⟨inner, hinner⟩ := ihbody { s with inner := frame :: s.inner } { stem, detach }
      obtain ⟨frame', hframe'⟩ := ih s frame
      refine ⟨frame', ?_⟩
      calc ({ s with inner := frame :: s.inner } : ScopeStack σ).applyAll
              (.opened stem detach :: (body ++ .closed :: rest))
          = (({ s with inner := { stem, detach } :: frame :: s.inner } : ScopeStack σ).applyAll
              body).applyAll (.closed :: rest) := applyAll_append _ body _
        _ = ({ s with inner := frame :: s.inner } : ScopeStack σ).applyAll rest := by
            rw [hinner]
            rfl
        _ = { s with inner := frame' :: s.inner } := hframe'

/-- **An opening, a bracketed stretch and a closing leave the stack as it was.** -/
theorem applyAll_scope {body : List (Change σ)} (h : Bracketed body) (s : ScopeStack σ)
    (stem : String) (detach : Bool) (later : List (Change σ)) :
    s.applyAll (.opened stem detach :: (body ++ .closed :: later)) = s.applyAll later := by
  obtain ⟨frame, hframe⟩ := h.exists_applyAll s { stem, detach }
  calc s.applyAll (.opened stem detach :: (body ++ .closed :: later))
      = ((s.push stem detach).applyAll body).applyAll (.closed :: later) :=
        applyAll_append _ body _
    _ = ({ s with inner := frame :: s.inner } : ScopeStack σ).applyAll (.closed :: later) :=
        congrArg (fun s => applyAll s _) hframe
    _ = s.applyAll later := rfl

/-- Is one of the frames detached? Only if a scope was opened so that no later change closes. -/
theorem detach_linearize_after_iff (history : List (Change σ)) (pattern : String) :
    ((after history).linearize pattern).detach = true ↔
      ∃ earlier stem later, history = earlier ++ .opened stem true :: later ∧ ¬Closes later := by
  have hany : ((after history).linearize pattern).detach = true ↔
      true ∈ inScope Change.detach? [] history := by
    have hread := flatMap_frames_after reads_detach history
    have hmem : true ∈ (after history).frames.flatMap (fun frame => [frame.detach]) ↔
        true ∈ inScope Change.detach? [] history := by
      rw [hread]
      simp
    rw [← hmem, linearize, List.any_eq_true, List.mem_flatMap]
    exact exists_congr fun frame => and_congr_right fun _ => by rw [List.mem_singleton, eq_comm]
  rw [hany, mem_inScope_iff]
  constructor
  · rintro ⟨earlier, c, later, rfl, hpick, henclosed⟩
    cases c with
    | opened stem detach =>
        obtain rfl : detach = true := Option.some.inj hpick
        exact ⟨earlier, stem, later, rfl, fun hcloses =>
          henclosed ⟨⟨earlier, stem, true, [], rfl, .nil⟩, hcloses⟩⟩
    | closed => simp [Change.detach?] at hpick
    | filter f => simp [Change.detach?] at hpick
    | renderer r => simp [Change.detach?] at hpick
  · rintro ⟨earlier, stem, later, rfl, hcloses⟩
    exact ⟨earlier, .opened stem true, later, rfl, rfl, fun henclosed => hcloses henclosed.2⟩

end ScopeStack

end Switchyard
