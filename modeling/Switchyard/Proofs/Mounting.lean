import Mathlib.Data.List.Forall2
import Switchyard.Proofs.Prefixing
import Switchyard.Proofs.Refusal
import Switchyard.Proofs.Reporting
import Switchyard.Service.Stub

/-!
# Mounting Static Routes

Three passes go over the static routes of the settings. The check of the settings collects all that
is wrong with any of them. Mounting declares one after the other and stops at the first whose method
or status it cannot read. Building reads the patterns of all that are declared and registers their
routes. This module shows that the three agree: mounting stops exactly at the first fault of the
check that is of its kind (`Blueprint.mountFrom_cases`), and building finds the faults of patterns
that the check found, for the same routes and in the same order
(`Blueprint.forall₂_patternFaults`). What is left for a blueprint of checked settings is what the
check does not look at, how the routes go together.

## Main results

* `Blueprint.mountFrom_cases`, `Blueprint.mount_cases`: what comes of mounting.
* `Blueprint.filter_isPattern_register`: the faults of patterns are those of the declarations.
* `Blueprint.forall₂_patternFaults`: they are those that the check finds.
* `Blueprint.mount_agrees`: the check, mounting and building agree.
-/

namespace Switchyard

open Web (MediaType RouteMethod Status)

variable {σ : Type}

namespace SettingFault

/-- Is the fault one at which mounting stops? -/
def stopsMounting : SettingFault → Bool
  | routeMethod _ _ | routeStatus _ _ => true
  | _ => false

/-- Is the fault one of a pattern? -/
def isPattern : SettingFault → Bool
  | routePattern _ _ => true
  | _ => false

end SettingFault

/-- Is the fault one of a pattern? -/
def BuildFault.isPattern : BuildFault → Bool
  | .pattern _ _ => true
  | _ => false

/-- The declaration is what a static route says, within open scopes. -/
structure StaticRoute.Declares (scopes : ScopeStack σ) (r : StaticRoute) (d : Declaration σ) :
    Prop where
  method : RouteMethod.ofText? r.method = some d.method
  placed : d.placed = scopes.linearize r.path
  handler : ∃ status, Status.ofCode? r.status = some status ∧
    d.handler = stub status r.contentType r.body
  options : d.options = { name := r.name }

/-! ### Faults of one route -/

namespace StaticRoute

/-- The fault of the method, if it cannot be read. -/
def methodFault? (index : Nat) (r : StaticRoute) : Option SettingFault :=
  if (RouteMethod.ofText? r.method).isNone then some (.routeMethod index r.method) else none

/-- The fault of the pattern, if it cannot be read. -/
def patternFault? (index : Nat) (r : StaticRoute) : Option SettingFault :=
  match Pattern.parse r.path with
  | .ok _ => none
  | .error e => some (.routePattern index e)

/-- The fault of the status, if it is none. -/
def statusFault? (index : Nat) (r : StaticRoute) : Option SettingFault :=
  if (Status.ofCode? r.status).isNone then some (.routeStatus index r.status) else none

/-- The fault of the content type, if there is one that names no media type. -/
def contentTypeFault? (index : Nat) (r : StaticRoute) : Option SettingFault :=
  r.contentType.bind fun text =>
    if (MediaType.ofText? text).isNone then some (.routeContentType index text) else none

/-- There is at most one fault of each kind. -/
theorem faults_eq (index : Nat) (r : StaticRoute) :
    r.faults index = (r.methodFault? index).toList ++ (r.patternFault? index).toList ++
      (r.statusFault? index).toList ++ (r.contentTypeFault? index).toList := by
  have htoList {p : Prop} [Decidable p] (fault : SettingFault) :
      (if p then some fault else none).toList = if p then [fault] else [] := by
    split <;> rfl
  rw [faults, methodFault?, patternFault?, statusFault?, contentTypeFault?, htoList, htoList]
  cases Pattern.parse r.path <;> cases r.contentType <;> simp [htoList]

/-- Of routes without faults, each one has none. -/
theorem exists_faults_eq_nil {index : Nat} {routes : List StaticRoute}
    (h : faultsFrom index routes = []) {r : StaticRoute} (hr : r ∈ routes) :
    ∃ i, r.faults i = [] := by
  induction routes generalizing index with
  | nil => cases hr
  | cons first routes ih =>
      obtain ⟨hfirst, hroutes⟩ := List.append_eq_nil_iff.1 h
      rcases List.mem_cons.1 hr with rfl | hmem
      · exact ⟨index, hfirst⟩
      · exact ih hroutes hmem

/-- The fault of a route at which mounting stops, if there is one. -/
theorem find?_stopsMounting_faults (index : Nat) (r : StaticRoute) :
    (r.faults index).find? SettingFault.stopsMounting =
      (r.methodFault? index).or (r.statusFault? index) := by
  have hmethod : (r.methodFault? index).toList.find? SettingFault.stopsMounting =
      r.methodFault? index := by
    rw [methodFault?]
    split <;> rfl
  have hpattern : (r.patternFault? index).toList.find? SettingFault.stopsMounting = none := by
    rw [patternFault?]
    split <;> rfl
  have hstatus : (r.statusFault? index).toList.find? SettingFault.stopsMounting =
      r.statusFault? index := by
    rw [statusFault?]
    split <;> rfl
  have hcontentType :
      (r.contentTypeFault? index).toList.find? SettingFault.stopsMounting = none := by
    rw [contentTypeFault?]
    cases r.contentType with
    | none => rfl
    | some text =>
        rw [Option.bind_some]
        split <;> rfl
  rw [faults_eq, List.find?_append, List.find?_append, List.find?_append, hmethod, hpattern,
    hstatus, hcontentType, Option.or_none, Option.or_none]

/-- The fault of the pattern of a route, if there is one. -/
theorem filter_isPattern_faults (index : Nat) (r : StaticRoute) :
    (r.faults index).filter SettingFault.isPattern = (r.patternFault? index).toList := by
  have hmethod : (r.methodFault? index).toList.filter SettingFault.isPattern = [] := by
    rw [methodFault?]
    split <;> rfl
  have hpattern : (r.patternFault? index).toList.filter SettingFault.isPattern =
      (r.patternFault? index).toList := by
    rw [patternFault?]
    split <;> rfl
  have hstatus : (r.statusFault? index).toList.filter SettingFault.isPattern = [] := by
    rw [statusFault?]
    split <;> rfl
  have hcontentType : (r.contentTypeFault? index).toList.filter SettingFault.isPattern = [] := by
    rw [contentTypeFault?]
    cases r.contentType with
    | none => rfl
    | some text =>
        rw [Option.bind_some]
        split <;> rfl
  rw [faults_eq, List.filter_append, List.filter_append, List.filter_append, hmethod, hpattern,
    hstatus, hcontentType, List.nil_append, List.append_nil, List.append_nil]

end StaticRoute

/-! ### Mounting -/

namespace Blueprint

/-- **What comes of mounting.** Either there is a fault of a method or a status, and mounting ends
with the first one, or every route is declared, in the open scopes. -/
theorem mountFrom_cases (b : Blueprint σ) (index : Nat) (routes : List StaticRoute) :
    (∃ fault, (StaticRoute.faultsFrom index routes).find? SettingFault.stopsMounting =
        some fault ∧ b.mountFrom index routes = .error fault) ∨
      (StaticRoute.faultsFrom index routes).find? SettingFault.stopsMounting = none ∧
        ∃ ds, List.Forall₂ (StaticRoute.Declares b.scopes) routes ds ∧
          b.mountFrom index routes = .ok { b with declarations := b.declarations ++ ds } := by
  induction routes generalizing b index with
  | nil =>
      refine .inr ⟨rfl, [], .nil, ?_⟩
      rw [mountFrom, List.append_nil]
  | cons r routes ih =>
      -- the first fault is one of this route, or else one of the routes behind it
      rw [StaticRoute.faultsFrom, List.find?_append, StaticRoute.find?_stopsMounting_faults,
        StaticRoute.methodFault?, StaticRoute.statusFault?, mountFrom]
      cases hmethod : RouteMethod.ofText? r.method with
      | none => exact .inl ⟨_, rfl, rfl⟩
      | some method =>
          cases hstatus : Status.ofCode? r.status with
          | none => exact .inl ⟨_, rfl, rfl⟩
          | some status =>
              have hdeclares : r.Declares b.scopes
                  { method, placed := b.scopes.linearize r.path, options := { name := r.name }
                    handler := stub status r.contentType r.body } :=
                ⟨hmethod, rfl, ⟨status, hstatus, rfl⟩, rfl⟩
              have hrest := ih (b.route method r.path (stub status r.contentType r.body)
                { name := r.name }) (index + 1)
              rcases hrest with ⟨fault, hfind, hmount⟩ | ⟨hfind, ds, hds, hmount⟩
              · exact .inl ⟨fault, hfind, hmount⟩
              · refine .inr ⟨hfind, _ :: ds, .cons hdeclares hds, ?_⟩
                dsimp only
                rw [hmount, route, List.append_assoc]
                rfl

/-- A declaration has its route at its own place. -/
theorem exists_declares {scopes : ScopeStack σ} {routes : List StaticRoute}
    {ds : List (Declaration σ)} (h : List.Forall₂ (StaticRoute.Declares scopes) routes ds) {i : Nat}
    {d : Declaration σ} (hd : ds[i]? = some d) :
    ∃ r, routes[i]? = some r ∧ r.Declares scopes d := by
  obtain ⟨hlt, rfl⟩ := List.getElem?_eq_some_iff.1 hd
  have hlt' : i < routes.length := h.length_eq ▸ hlt
  exact ⟨routes[i], List.getElem?_eq_getElem hlt', h.get hlt' hlt⟩

/-! ### Faults of patterns -/

/-- A static route names no media types to be negotiated, so that only its pattern can be at
fault. -/
theorem ownFaults_of_declares {scopes : ScopeStack σ} {r : StaticRoute} {d : Declaration σ}
    (h : r.Declares scopes d) : d.ownFaults = d.patternFault?.toList := by
  rw [Declaration.ownFaults, h.options]
  exact List.append_nil _

/-- The fault of a pattern is the only report of this kind on a declaration. -/
theorem filter_isPattern_report (table : RouteTable (Pipeline σ)) (id : Nat) (d : Declaration σ) :
    (report table id d).filter BuildFault.isPattern = d.patternFault?.toList := by
  have hpattern : d.patternFault?.toList.filter BuildFault.isPattern = d.patternFault?.toList := by
    rw [Declaration.patternFault?]
    split <;> rfl
  have hmediaTypes (texts : List String) (source : String) :
      (texts.map (BuildFault.invalidMediaType source)).filter BuildFault.isPattern = [] :=
    List.filter_eq_nil_iff.2 fun fault hfault => by
      obtain ⟨text, -, rfl⟩ := List.mem_map.1 hfault
      exact Bool.false_ne_true
  have hrefusal (refused : Option Refusal) (route : RouteInfo) :
      (refused.map (refusalFault route)).toList.filter BuildFault.isPattern = [] := by
    cases refused with
    | none => rfl
    | some refusal => cases refusal <;> rfl
  have hrefusals (made : Option (Route (Pipeline σ))) :
      (made.bind fun route => (table.insert route).2.map
        (refusalFault route.toRouteInfo)).toList.filter BuildFault.isPattern = [] := by
    cases made with
    | none => rfl
    | some route => exact hrefusal _ _
  rw [report, Declaration.ownFaults, List.filter_append, List.filter_append, hpattern, hmediaTypes,
    hrefusals, List.append_nil, List.append_nil]

/-- **The faults of patterns are those of the declarations**, in their order. -/
theorem filter_isPattern_register (id : Nat) (table : RouteTable (Pipeline σ))
    (ds : List (Declaration σ)) :
    (register id table ds).2.filter BuildFault.isPattern =
      ds.filterMap Declaration.patternFault? := by
  induction ds generalizing id table with
  | nil => rfl
  | cons d ds ih =>
      rw [register_cons, List.filter_append, filter_isPattern_report, ih, List.filterMap_cons]
      cases d.patternFault? <;> rfl

/-- The faults are on the route and the declaration at one place: its pattern cannot be read, and
both say why. -/
def SamePattern (ds : List (Declaration σ)) (fault : SettingFault) (built : BuildFault) : Prop :=
  ∃ i d e, ds[i]? = some d ∧ d.patternFault? = some built ∧
    fault = .routePattern i e ∧ built = .pattern d.method e

/-- **The check and the build find the same faults in patterns**, for the same routes and in the
same order. -/
theorem forall₂_patternFaults {all : List (Declaration σ)} {index : Nat}
    {routes : List StaticRoute} {ds : List (Declaration σ)}
    (h : List.Forall₂ (StaticRoute.Declares {}) routes ds)
    (hall : ∀ k, all[index + k]? = ds[k]?) :
    List.Forall₂ (SamePattern all)
      ((StaticRoute.faultsFrom index routes).filter SettingFault.isPattern)
      (ds.filterMap Declaration.patternFault?) := by
  -- `all` stays as it is while routes and declarations are taken from the front
  induction h generalizing index with
  | nil => exact .nil
  | @cons r d routes ds hr h ih =>
      have hshift (k : Nat) : all[index + 1 + k]? = ds[k]? := by
        rw [Nat.add_assoc, Nat.add_comm 1, hall (k + 1), List.getElem?_cons_succ]
      have hrest := ih hshift
      have hpattern : d.placed.pattern = r.path := by
        rw [hr.placed]
        exact nestUnder_empty r.path
      have hd : all[index]? = some d := hall 0
      rw [StaticRoute.faultsFrom, List.filter_append, StaticRoute.filter_isPattern_faults,
        StaticRoute.patternFault?]
      cases hparse : Pattern.parse r.path with
      | ok pattern =>
          have hown : d.patternFault? = none := by
            rw [Declaration.patternFault?, hpattern, hparse]
          rw [List.filterMap_cons_none hown]
          exact hrest
      | error e =>
          have hown : d.patternFault? = some (.pattern d.method e) := by
            rw [Declaration.patternFault?, hpattern, hparse]
          rw [List.filterMap_cons_some hown]
          exact .cons ⟨index, d, e, hd, hown, rfl, rfl⟩ hrest

/-! ### Settings as a whole -/

/-- What is wrong with a blueprint, when it is to be built. -/
def buildFaults (b : Blueprint σ) : List BuildFault :=
  match b.build with
  | .ok _ => []
  | .error faults => faults

theorem buildFaults_eq (b : Blueprint σ) :
    b.buildFaults = b.faults ++ b.scopeFaults ++ b.registered.2 := by
  rw [buildFaults]
  cases hbuild : b.build with
  | ok router => exact (build_eq_ok_iff.1 hbuild).1.symm
  | error faults => exact (build_eq_error_iff.1 hbuild).2

/-- Faults of other settings than the routes do not stop mounting, nor are they faults of
patterns. -/
theorem of_mem_otherFaults {s : Settings} {fault : SettingFault}
    (h : fault ∈ s.server.faults ++ s.reports.faults) :
    fault.stopsMounting = false ∧ fault.isPattern = false := by
  have hkind : fault = .bindAddress s.server.bindAddress ∨ fault = .zeroTimeout ∨
      fault = .zeroBodyLimit ∨ fault = .logLevel s.reports.logLevel := by
    simp only [ServerSettings.faults, ReportSettings.faults, List.mem_append,
      List.mem_ite_nil_left, List.mem_ite_nil_right, List.mem_singleton] at h
    tauto
  rcases hkind with rfl | rfl | rfl | rfl <;> exact ⟨rfl, rfl⟩

theorem find?_stopsMounting_settings (s : Settings) :
    s.faults.find? SettingFault.stopsMounting =
      (StaticRoute.faultsFrom 0 s.routes).find? SettingFault.stopsMounting := by
  have hother : (s.server.faults ++ s.reports.faults).find? SettingFault.stopsMounting = none :=
    List.find?_eq_none.2 fun fault hfault => by simp [(of_mem_otherFaults hfault).1]
  rw [Settings.faults, List.find?_append, hother, Option.none_or]

theorem filter_isPattern_settings (s : Settings) :
    s.faults.filter SettingFault.isPattern =
      (StaticRoute.faultsFrom 0 s.routes).filter SettingFault.isPattern := by
  have hother : (s.server.faults ++ s.reports.faults).filter SettingFault.isPattern = [] :=
    List.filter_eq_nil_iff.2 fun fault hfault => by simp [(of_mem_otherFaults hfault).2]
  rw [Settings.faults, List.filter_append, hother, List.nil_append]

/-- On a declaration with a pattern that can be read and no media types, nothing can be reported but
that its route is refused. -/
theorem of_mem_reported {policy : DuplicatePolicy} {ds : List (Declaration σ)}
    (hown : ∀ d ∈ ds, d.ownFaults = []) {fault : BuildFault}
    (h : fault ∈ (register 0 { policy } ds).2) :
    (∃ method pattern slot, fault = .conflictingConstraint method pattern slot) ∨
      policy = .reject ∧ ∃ method pattern, fault = .duplicate method pattern := by
  obtain ⟨reports, hreported, hregister⟩ := exists_reported policy ds
  rw [hregister] at h
  obtain ⟨report, hreport, hfault⟩ := List.mem_flatten.1 h
  obtain ⟨i, hi⟩ := List.mem_iff_getElem?.1 hreport
  have hlt : i < ds.length := hreported.length ▸ (List.getElem?_eq_some_iff.1 hi).1
  have hd : ds[i]? = some ds[i] := List.getElem?_eq_getElem hlt
  obtain ⟨route, -, hmakes⟩ :=
    Declaration.exists_makes (hown ds[i] (List.getElem_mem hlt)) i
  rw [hreported.refused i ds[i] route hd hmakes, Option.some.injEq] at hi
  rw [← hi, List.mem_map] at hfault
  obtain ⟨refusal, hrefusal, rfl⟩ := hfault
  rw [Option.mem_toList] at hrefusal
  rcases RouteTable.insert_snd_eq_some hrefusal with ⟨rfl, hpolicy, -⟩ | ⟨-, -, c, rfl, -⟩
  · rw [tableBefore, RouteTable.policy_insertAll] at hpolicy
    exact .inr ⟨hpolicy, _, _, rfl⟩
  · exact .inl ⟨_, _, c, rfl⟩

/-- **What comes of mounting the routes of settings** on a fresh blueprint: the first fault of a
method or a status that the check finds, or a blueprint with a declaration for each route. -/
theorem mount_cases (settings : RouterSettings) (s : Settings) :
    (∃ fault, s.faults.find? SettingFault.stopsMounting = some fault ∧
        ({ settings } : Blueprint σ).mount s.routes = .error fault) ∨
      s.faults.find? SettingFault.stopsMounting = none ∧
        ∃ ds : List (Declaration σ), List.Forall₂ (StaticRoute.Declares {}) s.routes ds ∧
          ({ settings } : Blueprint σ).mount s.routes =
            .ok ({ settings, declarations := ds }, s.routes.length) := by
  rw [find?_stopsMounting_settings, mount]
  rcases mountFrom_cases ({ settings } : Blueprint σ) 0 s.routes with
    ⟨fault, hfind, hmount⟩ | ⟨hfind, ds, hds, hmount⟩
  · exact .inl ⟨fault, hfind, by rw [hmount]; rfl⟩
  · exact .inr ⟨hfind, ds, hds, by rw [hmount]; rfl⟩

/-- What is wrong with a blueprint in which only declarations were made. -/
theorem buildFaults_of_declarations (settings : RouterSettings) (ds : List (Declaration σ)) :
    ({ settings, declarations := ds } : Blueprint σ).buildFaults =
      (register 0 { policy := settings.duplicateRoutes } ds).2 := by
  rw [buildFaults_eq]
  rfl

/-- **The check of the settings, mounting and building agree on static routes.** Mounting them on a
fresh blueprint ends with a fault exactly if the check finds one in a method or a status, and then
with the first of these. If it does not, every route is declared, and the build finds the faults of
patterns that the check finds, for the same routes and in the same order. If the check finds
nothing, nothing else can be wrong with the blueprint but that routes have different constraints at
one place or, where duplicates are rejected, that a route is one. -/
theorem mount_agrees (settings : RouterSettings) (s : Settings) :
    (∀ fault, ({ settings } : Blueprint σ).mount s.routes = .error fault ↔
      s.faults.find? SettingFault.stopsMounting = some fault) ∧
    (∀ b mounted, ({ settings } : Blueprint σ).mount s.routes = .ok (b, mounted) →
      mounted = s.routes.length ∧
      List.Forall₂ (StaticRoute.Declares {}) s.routes b.declarations ∧
      List.Forall₂ (SamePattern b.declarations) (s.faults.filter SettingFault.isPattern)
        (b.buildFaults.filter BuildFault.isPattern)) ∧
    (s.faults = [] → ∃ b, ({ settings } : Blueprint σ).mount s.routes = .ok (b, s.routes.length) ∧
      ∀ fault ∈ b.buildFaults,
        (∃ method pattern slot, fault = .conflictingConstraint method pattern slot) ∨
          settings.duplicateRoutes = .reject ∧
            ∃ method pattern, fault = .duplicate method pattern) := by
  rcases mount_cases (σ := σ) settings s with ⟨found, hfind, hmount⟩ | ⟨hfind, ds, hds, hmount⟩
  · rw [hmount, hfind]
    refine ⟨fun fault => ?_, fun b mounted h => ?_, fun hnone => ?_⟩
    · rw [Except.error.injEq, Option.some.injEq]
    · cases h
    · rw [hnone] at hfind
      cases hfind
  · have hpatterns : List.Forall₂ (SamePattern ds) (s.faults.filter SettingFault.isPattern)
        (({ settings, declarations := ds } : Blueprint σ).buildFaults.filter
          BuildFault.isPattern) := by
      rw [filter_isPattern_settings, buildFaults_of_declarations, filter_isPattern_register]
      exact forall₂_patternFaults hds fun k => by rw [Nat.zero_add]
    rw [hmount, hfind]
    refine ⟨fun fault => ?_, fun b mounted h => ?_, fun hnone => ?_⟩
    · exact iff_of_false (fun h => by cases h) fun h => by cases h
    · obtain ⟨rfl, rfl⟩ := Prod.mk.inj (Except.ok.inj h)
      exact ⟨rfl, hds, hpatterns⟩
    · refine ⟨_, rfl, fun fault hfault => ?_⟩
      -- without faults of the check there are none of patterns, so every declaration is sound
      rw [buildFaults_of_declarations] at hpatterns hfault
      rw [hnone, List.filter_nil, List.forall₂_nil_left_iff, filter_isPattern_register,
        List.filterMap_eq_nil_iff] at hpatterns
      refine of_mem_reported (fun d hd => ?_) hfault
      obtain ⟨i, hi⟩ := List.mem_iff_getElem?.1 hd
      obtain ⟨r, -, hr⟩ := exists_declares hds hi
      rw [ownFaults_of_declares hr, hpatterns d hd]
      rfl

/-- Routes with a pattern that cannot be read, a status that is none and a text that is no
method. -/
def unreadable : Settings :=
  { routes := [{ path := "/a/\x7bx" }, { path := "/b", status := 99 },
      { path := "/c", method := "NO PE" }] }

/-- Routes of which the second has a pattern that cannot be read. -/
def unbalanced : Settings :=
  { routes := [{ path := "/a" }, { path := "/a/\x7bx" }] }

/-- Two routes for one method and one path. -/
def twice : Settings :=
  { routes := [{ path := "/a" }, { path := "/a", method := "get" }] }

/-- A fault of a pattern does not stop mounting, that of a status does, and the method behind it is
not looked at. The build finds the fault of the pattern, and of routes that the check accepts
nothing but that one is a duplicate. -/
theorem mount_agrees_unreadable :
    ({} : Blueprint Unit).mount unreadable.routes = .error (.routeStatus 1 99) ∧
    (∃ b, ({} : Blueprint Unit).mount unbalanced.routes = .ok (b, 2) ∧
      b.buildFaults.filter BuildFault.isPattern =
        [.pattern (.only .get) ⟨"/a/\x7bx", .unbalancedBraces⟩]) ∧
    ∃ b, ({ settings := { duplicateRoutes := .reject } } : Blueprint Unit).mount twice.routes =
        .ok (b, 2) ∧
      ∀ fault ∈ b.buildFaults,
        (∃ method pattern slot, fault = .conflictingConstraint method pattern slot) ∨
          ∃ method pattern, fault = .duplicate method pattern := by
  obtain ⟨hstops, -, -⟩ := mount_agrees (σ := Unit) {} unreadable
  obtain ⟨hnever, hpatterns, -⟩ := mount_agrees (σ := Unit) {} unbalanced
  obtain ⟨-, -, haccepted⟩ := mount_agrees (σ := Unit) { duplicateRoutes := .reject } twice
  refine ⟨(hstops _).2 (by decide +kernel), ?_, ?_⟩
  · have hfind : unbalanced.faults.find? SettingFault.stopsMounting = none := by decide +kernel
    have hfaults : unbalanced.faults.filter SettingFault.isPattern =
        [.routePattern 1 ⟨"/a/\x7bx", .unbalancedBraces⟩] := by decide +kernel
    cases hmount : ({} : Blueprint Unit).mount unbalanced.routes with
    | error fault =>
        rw [(hnever fault).1 hmount] at hfind
        cases hfind
    | ok mounted =>
        obtain ⟨b, n⟩ := mounted
        obtain ⟨rfl, hdeclares, hfound⟩ := hpatterns b n hmount
        rw [hfaults] at hfound
        generalize hbuilt : b.buildFaults.filter BuildFault.isPattern = built at hfound
        obtain - | ⟨⟨i, d, e, hd, -, hfault, rfl⟩, hnil⟩ := hfound
        cases hnil
        cases hfault
        obtain ⟨r, hr, hdeclared⟩ := exists_declares hdeclares hd
        cases hr
        have hmethod : some d.method = some (.only .get) := by
          rw [← hdeclared.method]
          decide +kernel
        exact ⟨b, rfl, by rw [hbuilt, Option.some.inj hmethod]⟩
  · obtain ⟨b, hmount, hfaults⟩ := haccepted (by decide +kernel)
    exact ⟨b, hmount, fun fault hfault => (hfaults fault hfault).imp_right And.right⟩

end Blueprint

end Switchyard
