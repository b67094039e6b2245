import Mathlib.Logic.Relation
import Switchyard.Proofs.Compiling
import Switchyard.Proofs.Declaring

/-!
# What a Build Reports

Faults of a blueprint come from four places. A closing for which no scope is open is reported where
it is made, the scopes that are still open are reported at the end, and then every declaration is
compiled and registered. None of them hides another: `build_reports` gives the list of all faults.

Which closings fail and how many scopes stay open is a matter of brackets. If pairs of an opening
and a closing that stand side by side are taken out, until there are none, some closings are left,
and behind them some openings (`Leaves`). The pairs may be taken out in any order, as none of them
changes how many closings are unmatched or how many scopes are open at the end (`leaves_iff`).

## Main results

* `ScopeStack.leaves_iff`: what is left of a history when all pairs are taken out.
* `Blueprint.faults_callAll`: the closings that fail.
* `Blueprint.build_reports`: all that is wrong with a blueprint, and when it is built.
-/

namespace Switchyard

/-! ### Pairs of brackets -/

namespace ScopeStack

variable {σ : Type}

/-- A history with a pair of brackets taken out, or with a change that is no bracket. -/
inductive Cancels : List (Change σ) → List (Change σ) → Prop
  | pair (earlier later : List (Change σ)) (stem : String) (detach : Bool) :
      Cancels (earlier ++ .opened stem detach :: .closed :: later) (earlier ++ later)
  | filter (earlier later : List (Change σ)) (f : Filter σ) :
      Cancels (earlier ++ .filter f :: later) (earlier ++ later)
  | renderer (earlier later : List (Change σ)) (r : Renderer σ) :
      Cancels (earlier ++ .renderer r :: later) (earlier ++ later)

/-- Closings, and behind them openings of scopes with their prefixes. -/
def leftover (closes : Nat) (scopes : List (String × Bool)) : List (Change σ) :=
  List.replicate closes .closed ++ scopes.map fun scope => .opened scope.1 scope.2

/-- When all pairs are taken out of a history, so many closings are left, and so many openings
behind them. -/
def Leaves (history : List (Change σ)) (closes opens : Nat) : Prop :=
  ∃ scopes : List (String × Bool), scopes.length = opens ∧
    Relation.ReflTransGen Cancels history (leftover closes scopes)

/-- What is taken out is properly bracketed. -/
theorem Cancels.exists_bracketed {history rest : List (Change σ)} (h : Cancels history rest) :
    ∃ earlier body later, Bracketed body ∧ history = earlier ++ body ++ later ∧
      rest = earlier ++ later := by
  cases h with
  | pair earlier later stem detach =>
      exact ⟨earlier, [.opened stem detach, .closed], later, .scope stem detach .nil .nil,
        by simp, rfl⟩
  | filter earlier later f => exact ⟨earlier, [.filter f], later, .filter f .nil, by simp, rfl⟩
  | renderer earlier later r =>
      exact ⟨earlier, [.renderer r], later, .renderer r .nil, by simp, rfl⟩

theorem depthAfter_append (history later : List (Change σ)) :
    depthAfter (history ++ later) = later.foldl (fun depth c => c.depthFrom depth)
      (depthAfter history) :=
  List.foldl_append

/-- Of what comes later, only its unmatched closings count. -/
theorem unmatchedCloses_append_congr {later later' : List (Change σ)}
    (h : unmatchedCloses later = unmatchedCloses later') (history : List (Change σ)) :
    unmatchedCloses (history ++ later) = unmatchedCloses (history ++ later') := by
  induction history with
  | nil => exact h
  | cons c history ih => cases c <;> simp only [List.cons_append, unmatchedCloses, ih]

/-- Taking a pair out changes neither the unmatched closings nor the scopes left open. -/
theorem Cancels.counts_eq {history rest : List (Change σ)} (h : Cancels history rest) :
    unmatchedCloses history = unmatchedCloses rest ∧ depthAfter history = depthAfter rest := by
  obtain ⟨earlier, body, later, hbody, rfl, rfl⟩ := h.exists_bracketed
  constructor
  · rw [List.append_assoc]
    exact unmatchedCloses_append_congr (hbody.unmatchedCloses_append later) earlier
  · rw [depthAfter_append, hbody.depthAfter_append, depthAfter_append]

theorem leftover_concat (closes : Nat) (scopes : List (String × Bool)) (scope : String × Bool) :
    (leftover closes (scopes ++ [scope]) : List (Change σ)) =
      leftover closes scopes ++ [.opened scope.1 scope.2] := by
  rw [leftover, List.map_append, ← List.append_assoc]
  rfl

theorem unmatchedCloses_leftover (closes : Nat) (scopes : List (String × Bool)) :
    unmatchedCloses (leftover closes scopes : List (Change σ)) = closes := by
  induction closes with
  | zero =>
      induction scopes with
      | nil => rfl
      | cons scope scopes ih => exact congrArg (· - 1) ih
  | succ closes ih => exact congrArg (· + 1) ih

theorem depthAfter_leftover (closes : Nat) (scopes : List (String × Bool)) :
    depthAfter (leftover closes scopes : List (Change σ)) = scopes.length := by
  induction scopes using List.reverseRecOn with
  | nil =>
      rw [leftover, List.map_nil, List.append_nil]
      induction closes with
      | zero => rfl
      | succ closes ih =>
          rw [List.replicate_succ', depthAfter_concat, ih]
          rfl
  | append_singleton scopes scope ih =>
      rw [leftover_concat, depthAfter_concat, ih, List.length_append]
      rfl

theorem Leaves.counts {history : List (Change σ)} {closes opens : Nat}
    (h : Leaves history closes opens) :
    closes = unmatchedCloses history ∧ opens = depthAfter history := by
  obtain ⟨scopes, rfl, hcancel⟩ := h
  have hcounts : ∀ rest, Relation.ReflTransGen Cancels history rest →
      unmatchedCloses history = unmatchedCloses rest ∧ depthAfter history = depthAfter rest := by
    intro rest hrest
    induction hrest with
    | refl => exact ⟨rfl, rfl⟩
    | tail _ hstep ih => exact ⟨ih.1.trans hstep.counts_eq.1, ih.2.trans hstep.counts_eq.2⟩
  obtain ⟨hcloses, hdepth⟩ := hcounts _ hcancel
  rw [hcloses, hdepth, unmatchedCloses_leftover, depthAfter_leftover]
  exact ⟨rfl, rfl⟩

/-- Pairs can be taken out in front of other changes. -/
theorem Cancels.append {history rest : List (Change σ)} (h : Cancels history rest)
    (more : List (Change σ)) : Cancels (history ++ more) (rest ++ more) := by
  cases h with
  | pair earlier later stem detach =>
      simpa only [List.append_assoc, List.cons_append] using
        .pair earlier (later ++ more) stem detach
  | filter earlier later f =>
      simpa only [List.append_assoc, List.cons_append] using .filter earlier (later ++ more) f
  | renderer earlier later r =>
      simpa only [List.append_assoc, List.cons_append] using .renderer earlier (later ++ more) r

/-- Something is left of every history. The last change is kept if it is an opening, and taken out
if it is no bracket. A closing is taken out together with the last opening that is left, if there is
one. -/
theorem exists_leaves (history : List (Change σ)) :
    ∃ closes opens, Leaves history closes opens := by
  induction history using List.reverseRecOn with
  | nil => exact ⟨0, 0, [], rfl, .refl⟩
  | append_singleton history c ih =>
      obtain ⟨closes, -, scopes, rfl, hcancel⟩ := ih
      have hlift : Relation.ReflTransGen Cancels (history ++ [c]) (leftover closes scopes ++ [c]) :=
        hcancel.lift (· ++ [c]) fun _ _ hstep => hstep.append [c]
      cases c with
      | opened stem detach =>
          refine ⟨closes, _, scopes ++ [(stem, detach)], rfl, ?_⟩
          rwa [leftover_concat]
      | filter f =>
          have hlast := Cancels.filter (leftover closes scopes) [] f
          rw [List.append_nil] at hlast
          exact ⟨closes, _, scopes, rfl, hlift.tail hlast⟩
      | renderer r =>
          have hlast := Cancels.renderer (leftover closes scopes) [] r
          rw [List.append_nil] at hlast
          exact ⟨closes, _, scopes, rfl, hlift.tail hlast⟩
      | closed =>
          rcases List.eq_nil_or_concat' scopes with rfl | ⟨scopes, ⟨stem, detach⟩, rfl⟩
          · refine ⟨closes + 1, _, [], rfl, ?_⟩
            rw [leftover, List.map_nil, List.append_nil, List.replicate_succ']
            rwa [leftover, List.map_nil, List.append_nil] at hlift
          · have hlast := Cancels.pair (leftover closes scopes : List (Change σ)) [] stem detach
            rw [List.append_nil] at hlast
            rw [leftover_concat, List.append_assoc] at hlift
            exact ⟨closes, _, scopes, rfl, hlift.tail hlast⟩

/-- **Taking out pairs counts brackets.** What is left of a history does not depend on the order in
which the pairs are taken out. -/
theorem leaves_iff {history : List (Change σ)} {closes opens : Nat} :
    Leaves history closes opens ↔
      closes = unmatchedCloses history ∧ opens = depthAfter history := by
  refine ⟨Leaves.counts, ?_⟩
  rintro ⟨rfl, rfl⟩
  obtain ⟨closes, opens, h⟩ := exists_leaves history
  obtain ⟨rfl, rfl⟩ := h.counts
  exact h

end ScopeStack

/-! ### Faults of blueprints -/

namespace Blueprint

variable {σ : Type}

open ScopeStack (Change Leaves after depthAfter unmatchedCloses)

/-- The routes that calls declare behind a history of scopes, each with what the scopes contribute
to it. -/
def declared (history : List (Change σ)) : List (Call σ) → List (Declaration σ)
  | [] => []
  | .route method pattern handler options :: calls =>
    { method, placed := (after history).linearize pattern, handler, options } ::
      declared history calls
  | .scope c :: calls => declared (history ++ [c]) calls
  | .errorKind _ _ :: calls => declared history calls
  | .errorRule _ _ :: calls => declared history calls

theorem callAll_cons (b : Blueprint σ) (c : Call σ) (calls : List (Call σ)) :
    b.callAll (c :: calls) = (b.call c).callAll calls := rfl

/-- The declarations of a blueprint are those of its calls. -/
theorem declarations_eq_declared {b : Blueprint σ} {history : List (Change σ)}
    (h : b.scopes = after history) (calls : List (Call σ)) :
    (b.callAll calls).declarations = b.declarations ++ declared history calls := by
  induction calls generalizing b history with
  | nil => exact (List.append_nil _).symm
  | cons c calls ih =>
      rw [callAll_cons]
      cases c with
      | route method pattern handler options =>
          have hroute : (b.call (.route method pattern handler options)).scopes = after history := h
          rw [ih hroute, declared, ← h]
          exact List.append_assoc _ _ _
      | scope c =>
          have hscopes : (b.call (.scope c)).scopes = after (history ++ [c]) := by
            rw [call, scopes_change, h, ScopeStack.after_concat]
          rw [ih hscopes, declared, call, declarations_change]
      | errorKind k s =>
          have hkind : (b.call (.errorKind k s)).scopes = after history := h
          exact ih hkind
      | errorRule accepts s =>
          have hrule : (b.call (.errorRule accepts s)).scopes = after history := h
          exact ih hrule

theorem settings_callAll (b : Blueprint σ) (calls : List (Call σ)) :
    (b.callAll calls).settings = b.settings := by
  induction calls generalizing b with
  | nil => rfl
  | cons c calls ih =>
      have hcall : (b.call c).settings = b.settings := by
        cases c with
        | scope c =>
            cases c with
            | closed =>
                rw [call, change, closeScope]
                cases b.scopes.pop? <;> rfl
            | _ => rfl
        | _ => rfl
      rw [callAll_cons, ih, hcall]

/-- A change of the scopes is a fault if it is a closing and no scope is open. -/
theorem faults_change (b : Blueprint σ) (c : Change σ) (later : List (Change σ)) :
    (b.change c).faults ++
        List.replicate (unmatchedCloses later - (b.change c).scopes.depth) .scopeUnderflow =
      b.faults ++
        List.replicate (unmatchedCloses (c :: later) - b.scopes.depth) .scopeUnderflow := by
  cases c with
  | opened stem detach =>
      rw [unmatchedCloses, Nat.sub_sub, Nat.add_comm 1]
      rfl
  | filter f =>
      rw [scopes_change, ScopeStack.depth_apply]
      rfl
  | renderer r =>
      rw [scopes_change, ScopeStack.depth_apply]
      rfl
  | closed =>
      rw [scopes_change, ScopeStack.depth_apply, unmatchedCloses, change, closeScope]
      cases hpop : b.scopes.pop? with
      | none =>
          have hdepth := ScopeStack.pop?_eq_none_iff.1 hpop
          rw [hdepth, Change.depthFrom, Nat.sub_zero, Nat.sub_zero, List.replicate_succ]
          exact List.append_assoc _ _ _
      | some popped =>
          have hdepth : b.scopes.depth ≠ 0 := fun hzero => by
            rw [ScopeStack.pop?_eq_none_iff.2 hzero] at hpop
            cases hpop
          have hcount : unmatchedCloses later - (b.scopes.depth - 1) =
              unmatchedCloses later + 1 - b.scopes.depth := by omega
          rw [Change.depthFrom, hcount]

/-- **The closings that fail** are the unmatched ones that the open scopes do not take up. -/
theorem faults_callAll (b : Blueprint σ) (calls : List (Call σ)) :
    (b.callAll calls).faults = b.faults ++
      List.replicate (unmatchedCloses (changes calls) - b.scopes.depth) .scopeUnderflow := by
  induction calls generalizing b with
  | nil =>
      rw [changes, List.filterMap_nil, unmatchedCloses, Nat.zero_sub]
      exact (List.append_nil _).symm
  | cons c calls ih =>
      rw [callAll_cons, ih]
      cases c with
      | scope c => exact faults_change b c (changes calls)
      | _ => rfl

/-- The faults of scopes, where so many closings and openings are left over. -/
def unevenFaults (closes opens : Nat) : List BuildFault :=
  List.replicate closes .scopeUnderflow ++ if opens = 0 then [] else [.unclosedScope opens]

/-- The table that the sound declarations in front of a place make, each route under the number of
its declaration. -/
def tableBefore (policy : DuplicatePolicy) (ds : List (Declaration σ)) (i : Nat) :
    RouteTable (Pipeline σ) :=
  ({ policy } : RouteTable (Pipeline σ)).insertAll (soundRoutes 0 (ds.take i))

/-- There is a report on each declaration: its own faults or, if it has none, the refusal of its
route by the table of the sound declarations before it, if it is refused. -/
structure Reported (policy : DuplicatePolicy) (ds : List (Declaration σ))
    (reports : List (List BuildFault)) : Prop where
  length : reports.length = ds.length
  own : ∀ (i : Nat) (d : Declaration σ), ds[i]? = some d → d.ownFaults ≠ [] →
    reports[i]? = some d.ownFaults
  refused : ∀ (i : Nat) (d : Declaration σ) (route : Route (Pipeline σ)), ds[i]? = some d →
    d.Makes i route → reports[i]? =
      some (((tableBefore policy ds i).insert route).2.toList.map (refusalFault route.toRouteInfo))

/-- What is registered, with the reports on the declarations. -/
theorem exists_reported (policy : DuplicatePolicy) (ds : List (Declaration σ)) :
    ∃ reports, Reported policy ds reports ∧
      register 0 { policy } ds = (tableBefore policy ds ds.length, reports.flatten) := by
  refine ⟨ds.mapIdx fun i d => report (tableBefore policy ds i) i d, ⟨?_, ?_, ?_⟩, ?_⟩
  · exact List.length_mapIdx
  · intro i d hd hown
    rw [List.getElem?_mapIdx, hd, Option.map_some, report_of_ownFaults hown]
  · intro i d route hd hmakes
    rw [List.getElem?_mapIdx, hd, Option.map_some, report_of_makes hmakes]
  · rw [register_eq, tableBefore, List.take_length]
    simp only [Nat.zero_add, tableBefore]

/-- The table in front of a place has the routes of the sound declarations there, and no others. -/
theorem mem_soundRoutes_take_iff {ds : List (Declaration σ)} {i : Nat}
    {route : Route (Pipeline σ)} :
    route ∈ soundRoutes 0 (ds.take i) ↔ ∃ (j : Nat) (d : Declaration σ),
      j < i ∧ ds[j]? = some d ∧ d.ownFaults = [] ∧ d.Makes j route := by
  rw [mem_soundRoutes_iff]
  refine exists_congr fun j => exists_congr fun d => ?_
  constructor
  · rintro ⟨hd, hmakes⟩
    rw [List.getElem?_take] at hd
    obtain ⟨hj, hd⟩ := Option.ite_none_right_eq_some.1 hd
    exact ⟨hj, hd, hmakes.ownFaults_eq_nil, hmakes⟩
  · rintro ⟨hj, hd, -, hmakes⟩
    rw [List.getElem?_take, if_pos hj]
    exact ⟨hd, hmakes⟩

/-- The faults of the scopes, as they are left over by the history. -/
theorem faults_append_scopeFaults (settings : RouterSettings) {calls : List (Call σ)}
    {closes opens : Nat} (h : Leaves (changes calls) closes opens) :
    (({ settings } : Blueprint σ).callAll calls).faults ++
        (({ settings } : Blueprint σ).callAll calls).scopeFaults = unevenFaults closes opens := by
  obtain ⟨rfl, rfl⟩ := ScopeStack.leaves_iff.1 h
  have hempty : ({ settings } : Blueprint σ).scopes.depth = 0 := rfl
  have hdepth : (({ settings } : Blueprint σ).callAll calls).scopes.depth =
      depthAfter (changes calls) := by
    rw [scopes_callAll, ← ScopeStack.depth_after]
    rfl
  rw [faults_callAll, hempty, Nat.sub_zero, scopeFaults, hdepth]
  rfl

/-- **A build reports every fault.** Some closings and openings are left of the scopes that calls
declare when all pairs are taken out. The report has a fault for each closing, then one for all the
openings, and then those of the declarations in their order: for each its own faults or, if it has
none, the refusal of its route, if the table refuses it. What is in the table there are the routes
of the sound declarations before, and no others. The blueprint is built exactly if nothing is
reported, and then each declaration has its route at the place of its number. -/
theorem build_reports (settings : RouterSettings) (calls : List (Call σ)) :
    (∃ closes opens, Leaves (changes calls) closes opens) ∧
    ∀ closes opens, Leaves (changes calls) closes opens →
      ∃ reports, Reported settings.duplicateRoutes (declared [] calls) reports ∧
        (∀ i route, route ∈ soundRoutes 0 ((declared [] calls).take i) ↔
          ∃ (j : Nat) (d : Declaration σ),
            j < i ∧ (declared [] calls)[j]? = some d ∧ d.ownFaults = [] ∧ d.Makes j route) ∧
        (({ settings } : Blueprint σ).callAll calls).registered =
          (tableBefore settings.duplicateRoutes (declared [] calls) (declared [] calls).length,
            reports.flatten) ∧
        (∀ faults, (({ settings } : Blueprint σ).callAll calls).build = .error faults ↔
          faults ≠ [] ∧ faults = unevenFaults closes opens ++ reports.flatten) ∧
        ((∃ router, (({ settings } : Blueprint σ).callAll calls).build = .ok router) ↔
          unevenFaults closes opens ++ reports.flatten = []) ∧
        ∀ router, (({ settings } : Blueprint σ).callAll calls).build = .ok router →
          router.table.routes.length = (declared [] calls).length ∧
          ∀ (i : Nat) (d : Declaration σ), (declared [] calls)[i]? = some d →
            ∃ route, router.table.routes[i]? = some route ∧ d.Makes i route := by
  refine ⟨ScopeStack.exists_leaves _, fun closes opens hleaves => ?_⟩
  have hscopes := faults_append_scopeFaults settings hleaves
  have hdeclared : (({ settings } : Blueprint σ).callAll calls).declarations =
      declared [] calls := declarations_eq_declared rfl calls
  obtain ⟨reports, hreported, hregister⟩ :=
    exists_reported settings.duplicateRoutes (declared [] calls)
  have hregistered : (({ settings } : Blueprint σ).callAll calls).registered =
      (tableBefore settings.duplicateRoutes (declared [] calls) (declared [] calls).length,
        reports.flatten) := by
    rw [registered, settings_callAll, hdeclared, hregister]
  refine ⟨reports, hreported, fun i route => mem_soundRoutes_take_iff, hregistered, ?_, ?_, ?_⟩
  · intro faults
    rw [build_eq_error_iff, hscopes, hregistered]
  · simp only [build_eq_ok_iff, hscopes, hregistered, exists_and_left, exists_eq, and_true]
  · intro router hbuild
    rw [build_eq_ok_iff, hscopes, hregistered] at hbuild
    obtain ⟨hnil, rfl⟩ := hbuild
    have hreports : reports.flatten = [] := (List.append_eq_nil_iff.1 hnil).2
    rw [hreports] at hregister
    obtain ⟨-, hroutes, hsound⟩ := register_spec hregister
    have hlist : (tableBefore settings.duplicateRoutes (declared [] calls)
        (declared [] calls).length).routes = soundRoutes 0 (declared [] calls) := hroutes
    rw [hlist]
    refine ⟨length_soundRoutes hsound 0, fun i d hd => ?_⟩
    obtain ⟨route, hcompile, hmakes⟩ :=
      Declaration.exists_makes (hsound d (List.mem_of_getElem? hd)) i
    refine ⟨route, ?_, hmakes⟩
    rw [getElem?_soundRoutes hsound, hd, Option.bind_some, Nat.zero_add, hcompile]
    rfl

/-- Calls with faults of every kind, and a scope around a declaration that is closed again. -/
def faulty : List (Call Unit) :=
  [.scope .closed,
    .route (.only .get) "/a/\x7bx" ScopeStack.idle {},
    .scope (.opened "/in" false),
    .route (.only .get) "/b" ScopeStack.idle
      { produces := ["nonsense"], consumes := ["text/html", "*"] },
    .scope .closed,
    .scope (.opened "/left" true),
    .scope (.renderer .json),
    .route .any "/\x7bid\x7d" ScopeStack.idle {},
    .route (.only .get) "/\x7bnr\x7d" ScopeStack.idle {}]

/-- The same calls without those that are to blame. -/
def faultless : List (Call Unit) :=
  [.scope (.opened "/in" false),
    .route (.only .get) "/b" ScopeStack.idle { consumes := ["text/html"] },
    .scope .closed,
    .route .any "/\x7bid\x7d" ScopeStack.idle {}]

/-- Each fault is reported at its place. Without them the blueprint is built. -/
theorem build_reports_faulty :
    (({ settings := { duplicateRoutes := .reject } } : Blueprint Unit).callAll faulty).build =
        .error
          [.scopeUnderflow, .unclosedScope 1,
            .pattern (.only .get) ⟨"/a/\x7bx", .unbalancedBraces⟩,
            .invalidMediaType "/in/b" "nonsense", .invalidMediaType "/in/b" "*",
            .duplicate (.only .get) "/left/\x7bnr\x7d"] ∧
      ∃ router, (({} : Blueprint Unit).callAll faultless).build = .ok router ∧
        router.table.routes.length = 2 := by
  obtain ⟨-, hfaulty⟩ := build_reports { duplicateRoutes := .reject } faulty
  obtain ⟨-, hfaultless⟩ := build_reports {} faultless
  constructor
  · have hleaves : Leaves (changes faulty) 1 1 := ScopeStack.leaves_iff.2 ⟨rfl, rfl⟩
    obtain ⟨reports, -, -, hregistered, herror, -⟩ := hfaulty 1 1 hleaves
    have hrun : (({ settings := { duplicateRoutes := .reject } } : Blueprint Unit).callAll
        faulty).registered.2 =
          [.pattern (.only .get) ⟨"/a/\x7bx", .unbalancedBraces⟩,
            .invalidMediaType "/in/b" "nonsense", .invalidMediaType "/in/b" "*",
            .duplicate (.only .get) "/left/\x7bnr\x7d"] := by
      decide +kernel
    have hreports := (congrArg Prod.snd hregistered).symm.trans hrun
    dsimp only at hreports
    exact (herror _).2 ⟨List.cons_ne_nil _ _, by rw [hreports]; rfl⟩
  · have hleaves : Leaves (changes faultless) 0 0 :=
      ⟨[], rfl, .single (.pair [] [] "/in" false)⟩
    obtain ⟨reports, -, -, hregistered, -, hbuilt, hroutes⟩ := hfaultless 0 0 hleaves
    have hrun : (({} : Blueprint Unit).callAll faultless).registered.2 = [] := by
      decide +kernel
    have hreports := (congrArg Prod.snd hregistered).symm.trans hrun
    dsimp only at hreports
    obtain ⟨router, hrouter⟩ := hbuilt.2 (by rw [hreports]; rfl)
    exact ⟨router, hrouter, (hroutes router hrouter).1⟩

end Blueprint

end Switchyard
