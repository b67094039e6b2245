import Switchyard.Proofs.Compiling
import Switchyard.Proofs.Resolution

/-!
# The Bindings of a Built Router

A router is built only if no declaration has a fault. Then its table comes of accepted
registrations alone: the list of routes is the list of declarations, each route stands at its
own number, and each pattern was read from a text.

What a look-up in such a table finds is a route of the list that answers the method. The names
come from the route and the values from the walk through the trie. They fit because the values
are those of a match of the route's own pattern (`RouteTable.find_sound`), whatever other
patterns share the nodes of the trie.

## Main results

* `exists_routes_of_build`: the table of a built router.
* `exists_makes_of_resolve`: what a built router finds was declared.
* `resolve_sound`: a match of a built router is a match of its route, and filling the pattern
  with the bindings gives the path back.
-/

namespace Switchyard.Blueprint

open Trie (admits)
open Web (Method)

variable {σ : Type}

/-- **The table of a built router** holds the routes that were declared, each at the place of its
number, and under a pattern that was read from its source. -/
theorem exists_routes_of_build {b : Blueprint σ} {router : Router σ}
    (h : b.build = .ok router) :
    ∃ routes : List (Route (Pipeline σ)), router.table =
        ({ policy := b.settings.duplicateRoutes } : RouteTable (Pipeline σ)).insertAll routes ∧
      router.table.routes = routes ∧
      (∀ (n : Nat) (route : Route (Pipeline σ)), routes[n]? = some route → route.id = n) ∧
      ∀ route ∈ routes, Pattern.parse route.source = .ok route.pattern := by
  obtain ⟨hnil, rfl⟩ := build_eq_ok_iff.1 h
  have hreports : b.registered.2 = [] := (List.append_eq_nil_iff.1 hnil).2
  obtain ⟨htable, hlist, hsound⟩ := register_spec (Prod.ext rfl hreports)
  refine ⟨soundRoutes 0 b.declarations, htable, hlist, fun n route hn => ?_, fun route hmem => ?_⟩
  · rw [getElem?_soundRoutes hsound, Nat.zero_add, Option.bind_eq_some_iff] at hn
    obtain ⟨d, -, hcompile⟩ := hn
    exact (Declaration.toOption_compile_eq_some_iff.1 hcompile).id
  · obtain ⟨i, d, -, hmakes⟩ := mem_soundRoutes_iff.1 hmem
    rw [hmakes.source, hmakes.pattern]

/-- What a built router finds is the route of a declaration, under the number of its place. -/
theorem exists_makes_of_resolve {b : Blueprint σ} {router : Router σ} {m : Method} {path : String}
    {route : Route (Pipeline σ)} {bindings : Bindings} (hbuild : b.build = .ok router)
    (hfound : router.table.resolve m path = .found route bindings) :
    ∃ d, b.declarations[route.id]? = some d ∧ d.Makes route.id route := by
  obtain ⟨hnil, rfl⟩ := build_eq_ok_iff.1 hbuild
  have hreports : b.registered.2 = [] := (List.append_eq_nil_iff.1 hnil).2
  have htable : b.registered.1 = ({ policy := b.settings.duplicateRoutes } :
      RouteTable (Pipeline σ)).insertAll (soundRoutes 0 b.declarations) :=
    (register_spec (Prod.ext rfl hreports)).1
  obtain ⟨values, hfind, -⟩ := RouteTable.resolve_eq_found_iff.1 hfound
  dsimp only at hfind
  rw [htable] at hfind
  obtain ⟨hmem, -, -⟩ := RouteTable.find_sound hfind
  obtain ⟨i, d, hd, hmakes⟩ := mem_soundRoutes_iff.1 hmem
  obtain rfl := hmakes.id
  exact ⟨d, hd, hmakes⟩

/-- **A match of a built router is a match of the route that it names**, and the bindings rebuild
the path. The route stands at its number in the list of routes and answers the method. There
is one value for each variable of its pattern, in the order of the declaration, and no name is
bound twice. The value of a parameter is a segment of the path, not empty and without a slash, and
meets the constraint of its own place. The pattern with its variables replaced by their values is
cut into the segments of the path. -/
theorem resolve_sound {b : Blueprint σ} {router : Router σ} {m : Method} {path : String}
    {route : Route (Pipeline σ)} {bindings : Bindings} (hbuild : b.build = .ok router)
    (hfound : router.table.resolve m path = .found route bindings) :
    router.table.routes[route.id]? = some route ∧ m ∈ route.method.expand ∧
      ((router.table.trie m).find (splitPath path) =
          some (route, bindings.pairs.map Prod.snd) ∧
        bindings.pairs.map Prod.fst = route.pattern.variableNames ∧
        route.pattern.variableNames.Nodup) ∧
      (∀ name, .parameter name ∈ route.pattern.segments →
        ∃ x, bindings.get? name = some x ∧ x ≠ "" ∧ '/' ∉ x.toList) ∧
      (∀ name c, .regex name c ∈ route.pattern.segments →
        ∃ x, bindings.get? name = some x ∧ x ≠ "" ∧ '/' ∉ x.toList ∧ c.admits x = true) ∧
      splitPath (route.pattern.filled bindings) = splitPath path := by
  obtain ⟨routes, htable, hlist, hids, hparses⟩ := exists_routes_of_build hbuild
  obtain ⟨values, hfind, rfl⟩ := RouteTable.resolve_eq_found_iff.1 hfound
  obtain ⟨hmem, hm, hcap⟩ := RouteTable.find_sound (htable ▸ hfind)
  have hwell := wellFormed_of_parse (hparses route hmem)
  have hlength := length_captures? hcap hwell
  have slot {s : Segment} (hs : s ∈ route.pattern.segments) {c : Option Constraint}
      (hstep : s.step = .slot c) {name : String} (hname : s.boundName? = some name) :
      ∃ x, (Bindings.zip route.pattern.variableNames values).get? name = some x ∧ x ≠ "" ∧
        '/' ∉ x.toList ∧ admits c x = true := by
    obtain ⟨x, hx, hget, hne, hc⟩ := slot_of_captures? hcap hwell hs hstep hname
    exact ⟨x, hget, hne, slash_not_mem_of_mem_splitPath hx, hc⟩
  refine ⟨?_, hm, ⟨?_, ?_, hwell.nodup⟩, fun name hs => ?_, fun name c hs => ?_, ?_⟩
  · obtain ⟨n, hn⟩ := List.mem_iff_getElem?.1 hmem
    rw [hlist, hids n route hn, hn]
  · rw [hfind]
    exact congrArg (fun l => some (route, l)) (List.map_snd_zip hlength.le).symm
  · exact List.map_fst_zip hlength.ge
  · obtain ⟨x, hget, hne, hslash, -⟩ := slot hs rfl rfl
    exact ⟨x, hget, hne, hslash⟩
  · exact slot hs rfl rfl
  · exact splitPath_filled hcap hwell

/-- A blueprint whose patterns share nodes under different names. -/
def shared : Blueprint Unit :=
  ["/p/{id:[0-9]+}", "/{kind}/list", "/p/{nr:[0-9]+}/*rest", "/p/{id:[0-9]+}/edit"].foldl
    (fun b source => b.route .any source (ExceptT.mk (pure (.ok .empty)))) {}

/-- Two variables of a pattern that shares its nodes, the second with a slash at its end. -/
theorem resolve_sound_shared :
    ∃ router route bindings, shared.build = .ok router ∧
      router.table.resolve .get "/p/42//a/b/" = .found route bindings ∧
      bindings.pairs = [("nr", "42"), ("rest", "a/b/")] ∧
      splitPath (route.pattern.filled bindings) = splitPath "/p/42//a/b/" := by
  have hrun : (match shared.build with
      | .ok router =>
        match router.table.resolve .get "/p/42//a/b/" with
        | .found _ bindings => decide (bindings.pairs = [("nr", "42"), ("rest", "a/b/")])
        | _ => false
      | .error _ => false) = true := by
    decide +kernel
  split at hrun
  · next router hbuild =>
    split at hrun
    · next route bindings hfound =>
      obtain ⟨-, -, -, -, -, hpath⟩ := resolve_sound hbuild hfound
      exact ⟨router, route, bindings, hbuild, hfound, of_decide_eq_true hrun, hpath⟩
    · cases hrun
  · cases hrun

end Switchyard.Blueprint
