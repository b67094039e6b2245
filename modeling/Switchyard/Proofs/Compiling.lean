import Switchyard.Proofs.Registration
import Switchyard.Router.Blueprint

/-!
# Compiled Declarations

What is wrong with a declaration in itself does not depend on other declarations: its pattern may
not be readable, and texts may name no media types. All of this is reported together
(`Declaration.ownFaults`). A declaration without such faults makes a route, of which all is known
(`Declaration.Makes`).

Then the routes are registered, each with its number. A declaration with faults of its own is left
out, and so the table is the one that the other declarations make of the empty one. What is reported
on a declaration is thus a matter of the declaration and of the sound declarations before it
(`register_eq`).

## Main results

* `Declaration.compile_eq_ok_iff`, `Declaration.compile_eq_error_iff`: what comes of a declaration.
* `Blueprint.register_eq`: the table and the reports, one for each declaration.
* `Blueprint.register_spec`: the table of declarations on which nothing is reported.
* `Blueprint.build_eq_ok_iff`, `Blueprint.build_eq_error_iff`: what comes of a blueprint.
-/

namespace Switchyard

open Web (MediaType)

/-! ### A single declaration -/

namespace Declaration

variable {σ : Type}

/-- The fault of the pattern, if it cannot be read. -/
def patternFault? (d : Declaration σ) : Option BuildFault :=
  match Pattern.parse d.placed.pattern with
  | .error e => some (.pattern d.method e)
  | .ok _ => none

/-- The texts that should name media types and name none. -/
def invalidMediaTypes (texts : List String) : List String :=
  texts.filter fun text => (MediaType.ofText? text).isNone

/-- All that is wrong with a declaration in itself: the fault of the pattern, then what is produced
and no media type, then what is consumed and none. -/
def ownFaults (d : Declaration σ) : List BuildFault :=
  d.patternFault?.toList ++
    (invalidMediaTypes d.options.produces ++ invalidMediaTypes d.options.consumes).map
      (BuildFault.invalidMediaType d.placed.pattern)

/-- The route is the one that the declaration makes under a number. -/
structure Makes (d : Declaration σ) (id : Nat) (route : Route (Pipeline σ)) : Prop where
  id : route.id = id
  method : route.method = d.method
  pattern : Pattern.parse d.placed.pattern = .ok route.pattern
  source : route.source = d.placed.pattern
  name : route.name = d.options.name
  produces : d.options.produces.map MediaType.ofText? = route.produces.map some
  consumes : d.options.consumes.map MediaType.ofText? = route.consumes.map some
  detached : route.detached = (d.options.detach || d.placed.detach)
  pipeline : route.pipeline =
    .compose d.handler d.placed.filters d.placed.renderers (d.options.detach || d.placed.detach)

theorem invalidMediaTypes_of_none {text : String} (h : MediaType.ofText? text = none)
    (texts : List String) :
    invalidMediaTypes (text :: texts) = text :: invalidMediaTypes texts :=
  List.filter_cons_of_pos (by simp [h])

theorem invalidMediaTypes_of_some {text : String} {m : MediaType}
    (h : MediaType.ofText? text = some m) (texts : List String) :
    invalidMediaTypes (text :: texts) = invalidMediaTypes texts :=
  List.filter_cons_of_neg (by simp [h])

theorem mediaTypes_eq (texts : List String) :
    mediaTypes texts = (texts.filterMap MediaType.ofText?, invalidMediaTypes texts) := by
  induction texts with
  | nil => rfl
  | cons text texts ih =>
      rw [mediaTypes, ih]
      cases h : MediaType.ofText? text with
      | none => rw [invalidMediaTypes_of_none h, List.filterMap_cons_none h]
      | some m => rw [invalidMediaTypes_of_some h, List.filterMap_cons_some h]

/-- Texts name media types, one each, exactly if none of them is invalid. -/
theorem map_ofText?_eq_iff {texts : List String} {types : List MediaType} :
    texts.map MediaType.ofText? = types.map some ↔
      invalidMediaTypes texts = [] ∧ texts.filterMap MediaType.ofText? = types := by
  induction texts generalizing types with
  | nil => cases types <;> simp [invalidMediaTypes]
  | cons text texts ih =>
      cases h : MediaType.ofText? text with
      | none =>
          rw [invalidMediaTypes_of_none h]
          cases types <;> simp [h]
      | some m =>
          rw [invalidMediaTypes_of_some h, List.filterMap_cons_some h]
          cases types with
          | nil => simp
          | cons n types =>
              rw [List.map_cons, List.map_cons, h, List.cons.injEq, List.cons.injEq,
                Option.some.injEq, ih, and_left_comm]

theorem Makes.ownFaults_eq_nil {d : Declaration σ} {id : Nat} {route : Route (Pipeline σ)}
    (h : d.Makes id route) : d.ownFaults = [] := by
  have hproduces := (map_ofText?_eq_iff.1 h.produces).1
  have hconsumes := (map_ofText?_eq_iff.1 h.consumes).1
  simp [ownFaults, patternFault?, h.pattern, hproduces, hconsumes]

/-- A declaration makes one route under a number. -/
theorem Makes.unique {d : Declaration σ} {id : Nat} {route route' : Route (Pipeline σ)}
    (h : d.Makes id route) (h' : d.Makes id route') : route = route' := by
  have hpattern : route.pattern = route'.pattern := Except.ok.inj (h.pattern.symm.trans h'.pattern)
  have hproduces : route.produces = route'.produces :=
    (map_ofText?_eq_iff.1 h.produces).2.symm.trans (map_ofText?_eq_iff.1 h'.produces).2
  have hconsumes : route.consumes = route'.consumes :=
    (map_ofText?_eq_iff.1 h.consumes).2.symm.trans (map_ofText?_eq_iff.1 h'.consumes).2
  obtain ⟨info, pipeline⟩ := route
  obtain ⟨info', pipeline'⟩ := route'
  obtain rfl : pipeline = pipeline' := h.pipeline.trans h'.pipeline.symm
  obtain rfl : info = info' := by
    cases info
    cases info'
    simp only [RouteInfo.mk.injEq]
    exact ⟨h.id.trans h'.id.symm, h.method.trans h'.method.symm, hpattern,
      h.source.trans h'.source.symm, h.name.trans h'.name.symm, hproduces, hconsumes,
      h.detached.trans h'.detached.symm⟩
  rfl

/-- **A declaration with faults of its own makes no route**, and all its faults are reported. -/
theorem compile_of_ownFaults {d : Declaration σ} (h : d.ownFaults ≠ []) (id : Nat) :
    d.compile id = .error d.ownFaults := by
  rw [compile, mediaTypes_eq, mediaTypes_eq]
  dsimp only
  rw [ownFaults, patternFault?] at h ⊢
  cases hparse : Pattern.parse d.placed.pattern with
  | error e => rfl
  | ok pattern =>
      rw [hparse] at h
      exact if_pos h

/-- A declaration without faults of its own makes a route. -/
theorem exists_makes {d : Declaration σ} (h : d.ownFaults = []) (id : Nat) :
    ∃ route, d.compile id = .ok route ∧ d.Makes id route := by
  rw [compile, mediaTypes_eq, mediaTypes_eq]
  dsimp only
  rw [ownFaults, patternFault?] at h
  cases hparse : Pattern.parse d.placed.pattern with
  | error e =>
      rw [hparse] at h
      cases h
  | ok pattern =>
      rw [hparse, Option.toList_none, List.nil_append] at h
      obtain ⟨hproduces, hconsumes⟩ := List.append_eq_nil_iff.1 (List.map_eq_nil_iff.1 h)
      exact ⟨_, if_neg (not_not.2 h), rfl, rfl, hparse, rfl, rfl,
        map_ofText?_eq_iff.2 ⟨hproduces, rfl⟩, map_ofText?_eq_iff.2 ⟨hconsumes, rfl⟩, rfl, rfl⟩

/-- **What compiles is the route that the declaration makes.** -/
theorem compile_eq_ok_iff {d : Declaration σ} {id : Nat} {route : Route (Pipeline σ)} :
    d.compile id = .ok route ↔ d.Makes id route := by
  by_cases hown : d.ownFaults = []
  · obtain ⟨made, hcompile, hmade⟩ := exists_makes hown id
    rw [hcompile, Except.ok.injEq]
    exact ⟨fun h => h ▸ hmade, fun h => hmade.unique h⟩
  · rw [compile_of_ownFaults hown]
    exact iff_of_false (fun h => by cases h) fun h => hown h.ownFaults_eq_nil

/-- **What does not compile has faults of its own**, and these are all that is reported. -/
theorem compile_eq_error_iff {d : Declaration σ} {id : Nat} {faults : List BuildFault} :
    d.compile id = .error faults ↔ d.ownFaults ≠ [] ∧ faults = d.ownFaults := by
  by_cases hown : d.ownFaults = []
  · obtain ⟨made, hcompile, -⟩ := exists_makes hown id
    rw [hcompile]
    exact iff_of_false (fun h => by cases h) fun h => h.1 hown
  · rw [compile_of_ownFaults hown, Except.error.injEq, eq_comm]
    exact ⟨fun h => ⟨hown, h⟩, And.right⟩

theorem toOption_compile_eq_some_iff {d : Declaration σ} {id : Nat} {route : Route (Pipeline σ)} :
    (d.compile id).toOption = some route ↔ d.Makes id route := by
  rw [← compile_eq_ok_iff]
  cases d.compile id <;> simp [Except.toOption]

end Declaration

/-! ### All declarations -/

namespace Blueprint

variable {σ : Type}

/-- The routes of the declarations without faults of their own, numbered from `id`. The others have
a number as well, but no route. -/
def soundRoutes (id : Nat) (ds : List (Declaration σ)) : List (Route (Pipeline σ)) :=
  (ds.zipIdx id).filterMap fun (d, i) => (d.compile i).toOption

/-- What is reported on a declaration when it comes to a table: its own faults or, if it makes a
route, the refusal of this route. -/
def report (table : RouteTable (Pipeline σ)) (id : Nat) (d : Declaration σ) : List BuildFault :=
  d.ownFaults ++ ((d.compile id).toOption.bind fun route =>
    (table.insert route).2.map (refusalFault route.toRouteInfo)).toList

theorem soundRoutes_cons (id : Nat) (d : Declaration σ) (ds : List (Declaration σ)) :
    soundRoutes id (d :: ds) = (d.compile id).toOption.toList ++ soundRoutes (id + 1) ds := by
  rw [soundRoutes, List.zipIdx_cons, List.filterMap_cons]
  dsimp only
  cases (d.compile id).toOption <;> rfl

/-- A sound route is made by a declaration, under the number of its place. -/
theorem mem_soundRoutes_iff {ds : List (Declaration σ)} {route : Route (Pipeline σ)} :
    route ∈ soundRoutes 0 ds ↔
      ∃ (i : Nat) (d : Declaration σ), ds[i]? = some d ∧ d.Makes i route := by
  simp only [soundRoutes, List.mem_filterMap, Prod.exists, List.mem_zipIdx_iff_getElem?,
    Declaration.toOption_compile_eq_some_iff]
  exact exists_comm

theorem report_of_ownFaults {d : Declaration σ} (h : d.ownFaults ≠ [])
    (table : RouteTable (Pipeline σ)) (id : Nat) : report table id d = d.ownFaults := by
  rw [report, Declaration.compile_of_ownFaults h]
  exact List.append_nil _

theorem report_of_makes {d : Declaration σ} {id : Nat} {route : Route (Pipeline σ)}
    (h : d.Makes id route) (table : RouteTable (Pipeline σ)) :
    report table id d = (table.insert route).2.toList.map (refusalFault route.toRouteInfo) := by
  rw [report, h.ownFaults_eq_nil, Declaration.compile_eq_ok_iff.2 h, List.nil_append,
    Except.toOption, Option.bind_some, Option.toList_map]

/-- One declaration registered. -/
theorem register_cons (id : Nat) (table : RouteTable (Pipeline σ)) (d : Declaration σ)
    (ds : List (Declaration σ)) :
    register id table (d :: ds) =
      ((register (id + 1) (table.insertAll (d.compile id).toOption.toList) ds).1,
        report table id d ++
          (register (id + 1) (table.insertAll (d.compile id).toOption.toList) ds).2) := by
  rw [register]
  cases hcompile : d.compile id with
  | error faults =>
      obtain ⟨hown, rfl⟩ := Declaration.compile_eq_error_iff.1 hcompile
      rw [report_of_ownFaults hown]
      rfl
  | ok route =>
      rw [report_of_makes (Declaration.compile_eq_ok_iff.1 hcompile)]
      rfl

/-- **The table is that of the sound routes, and the reports stand in the order of the
declarations.** What is reported on a declaration depends on the sound routes before it. -/
theorem register_eq (id : Nat) (table : RouteTable (Pipeline σ)) (ds : List (Declaration σ)) :
    register id table ds =
      (table.insertAll (soundRoutes id ds),
        (ds.mapIdx fun i d =>
          report (table.insertAll (soundRoutes id (ds.take i))) (id + i) d).flatten) := by
  induction ds generalizing id table with
  | nil => rfl
  | cons d ds ih =>
      have hinsert (ds : List (Declaration σ)) :
          (table.insertAll (d.compile id).toOption.toList).insertAll (soundRoutes (id + 1) ds) =
            table.insertAll (soundRoutes id (d :: ds)) := by
        rw [soundRoutes_cons, RouteTable.insertAll_append]
      rw [register_cons, ih, hinsert, List.mapIdx_cons, List.flatten_cons]
      simp only [hinsert, List.take_succ_cons, Nat.add_right_comm, Nat.add_assoc]
      rfl

/-- **Declarations on which nothing is reported** are all sound, and the table has all their
routes. -/
theorem register_spec {id : Nat} {table table' : RouteTable (Pipeline σ)}
    {ds : List (Declaration σ)} (h : register id table ds = (table', [])) :
    table' = table.insertAll (soundRoutes id ds) ∧
      table'.routes = table.routes ++ soundRoutes id ds ∧ ∀ d ∈ ds, d.ownFaults = [] := by
  refine ⟨(Prod.mk.inj ((register_eq id table ds).symm.trans h)).1.symm, ?_⟩
  induction ds generalizing id table with
  | nil =>
      obtain rfl := (Prod.mk.inj h).1
      exact ⟨(List.append_nil _).symm, fun d hd => absurd hd List.not_mem_nil⟩
  | cons d ds ih =>
      rw [register_cons] at h
      obtain ⟨htable, hreports⟩ := Prod.mk.inj h
      obtain ⟨hreport, hmore⟩ := List.append_eq_nil_iff.1 hreports
      have hown : d.ownFaults = [] := (List.append_eq_nil_iff.1 hreport).1
      obtain ⟨route, hcompile, hmakes⟩ := Declaration.exists_makes hown id
      rw [report_of_makes hmakes, List.map_eq_nil_iff, Option.toList_eq_nil_iff] at hreport
      obtain ⟨hroutes, hsound⟩ := ih (Prod.ext htable hmore)
      refine ⟨?_, List.forall_mem_cons.2 ⟨hown, hsound⟩⟩
      calc table'.routes
          = (table.insert route).1.routes ++ soundRoutes (id + 1) ds := by
            rw [hroutes, hcompile]
            rfl
        _ = table.routes ++ soundRoutes id (d :: ds) := by
            rw [RouteTable.routes_insert, if_pos hreport, soundRoutes_cons, hcompile,
              List.append_assoc]
            rfl

/-- Without faults, each declaration has its route at its own place. -/
theorem getElem?_soundRoutes {ds : List (Declaration σ)} (h : ∀ d ∈ ds, d.ownFaults = [])
    (id i : Nat) :
    (soundRoutes id ds)[i]? = ds[i]?.bind fun d => (d.compile (id + i)).toOption := by
  induction ds generalizing id i with
  | nil => rfl
  | cons d ds ih =>
      obtain ⟨hown, hds⟩ := List.forall_mem_cons.1 h
      obtain ⟨route, hcompile, -⟩ := Declaration.exists_makes hown id
      rw [soundRoutes_cons, hcompile]
      cases i with
      | zero => exact congrArg Except.toOption hcompile.symm
      | succ i =>
          have hrest := ih hds (id + 1) i
          rw [Nat.add_assoc, Nat.add_comm 1] at hrest
          exact hrest

theorem length_soundRoutes {ds : List (Declaration σ)} (h : ∀ d ∈ ds, d.ownFaults = [])
    (id : Nat) : (soundRoutes id ds).length = ds.length := by
  induction ds generalizing id with
  | nil => rfl
  | cons d ds ih =>
      obtain ⟨hown, hds⟩ := List.forall_mem_cons.1 h
      obtain ⟨route, hcompile, -⟩ := Declaration.exists_makes hown id
      rw [soundRoutes_cons, hcompile]
      exact congrArg (· + 1) (ih hds (id + 1))

/-- The declarations of a blueprint registered in an empty table. -/
def registered (b : Blueprint σ) : RouteTable (Pipeline σ) × List BuildFault :=
  register 0 { policy := b.settings.duplicateRoutes } b.declarations

/-- A blueprint is not built if anything is wrong with it, and all of it is reported. -/
theorem build_eq_error_iff {b : Blueprint σ} {faults : List BuildFault} :
    b.build = .error faults ↔
      faults ≠ [] ∧ faults = b.faults ++ b.scopeFaults ++ b.registered.2 := by
  rw [build, ← registered]
  dsimp only
  split
  · next hnil =>
    rw [hnil]
    exact iff_of_false (fun h => by cases h) fun h => h.1 h.2
  · next found hne =>
    rw [Except.error.injEq]
    exact ⟨fun h => ⟨h ▸ hne, h.symm⟩, fun h => h.2.symm⟩

/-- A blueprint is built if nothing is wrong with it. -/
theorem build_eq_ok_iff {b : Blueprint σ} {router : Router σ} :
    b.build = .ok router ↔ b.faults ++ b.scopeFaults ++ b.registered.2 = [] ∧
      router = { table := b.registered.1, classifier := b.classifier, settings := b.settings } := by
  rw [build, ← registered]
  dsimp only
  split
  · next hnil =>
    rw [Except.ok.injEq, eq_comm]
    exact (and_iff_right hnil).symm
  · next found hne => exact iff_of_false (fun h => by cases h) fun h => hne h.1

/-- A router is built of a single declaration that makes a route. -/
theorem build_of_makes {b : Blueprint σ} {d : Declaration σ} {route : Route (Pipeline σ)}
    (hfaults : b.faults ++ b.scopeFaults = []) (hdeclared : b.declarations = [d])
    (hmakes : d.Makes 0 route) {table : RouteTable (Pipeline σ)}
    (hinsert : ({ policy := b.settings.duplicateRoutes } : RouteTable (Pipeline σ)).insert route =
      (table, none)) :
    b.build = .ok { table, classifier := b.classifier, settings := b.settings } := by
  have hregistered : b.registered = (table, []) := by
    rw [registered, hdeclared, register, Declaration.compile_eq_ok_iff.2 hmakes]
    dsimp only
    rw [hinsert]
    rfl
  rw [build_eq_ok_iff, hregistered, hfaults]
  exact ⟨rfl, rfl⟩

end Blueprint

end Switchyard
