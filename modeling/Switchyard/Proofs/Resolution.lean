import Switchyard.Proofs.Registration

/-!
# Resolutions of Paths

A table resolves a path by one look-up in the trie of the method, and asks the other tries only
if this look-up finds nothing. The methods that it then reports are those whose tries find
something. They are sorted, so the order of the tries does not show: two tables whose
look-ups agree give the same answers.

## Main results

* `mem_allowed_iff`: a method is allowed for a path exactly if its trie resolves the path.
* `allowed_congr`: which tries resolve the path determines the list of methods.
* `resolve_eq_found_iff`: a path is resolved to a route by one look-up.
-/

namespace Switchyard.RouteTable

open Web (Method)

variable {ρ : Type}

/-- A method without a trie resolves nothing. -/
theorem find_trie_of_lookup_none {t : RouteTable ρ} {m : Method} (path : List String)
    (h : t.tries.lookup m = none) : (t.trie m).find path = none := by
  rw [trie, h, Option.getD_none]
  cases path with
  | nil => rfl
  | cons x rest =>
      have hslot : (Trie.empty : Trie (Route ρ)).slot = none := rfl
      exact Trie.walk_of_rest rest rfl (.inr hslot)

/-- **A method is allowed for a path exactly if its trie resolves the path.** -/
theorem mem_allowed_iff {t : RouteTable ρ} (h : (t.tries.map Prod.fst).Nodup) {m : Method}
    {path : String} :
    m ∈ t.allowed path ↔ ((t.trie m).find (splitPath path)).isSome = true := by
  rw [allowed, Method.mem_sort, List.mem_map]
  constructor
  · rintro ⟨⟨k, trie⟩, hmem, rfl⟩
    obtain ⟨hpair, hfind⟩ := List.mem_filter.1 hmem
    rw [RouteTable.trie, (Association.lookup_eq_some_iff_mem h).2 hpair]
    exact hfind
  · intro hfind
    cases hl : t.tries.lookup m with
    | none =>
        rw [find_trie_of_lookup_none _ hl] at hfind
        cases hfind
    | some trie =>
        rw [RouteTable.trie, hl] at hfind
        have hpair := (Association.lookup_eq_some_iff_mem h).1 hl
        exact ⟨(m, trie), List.mem_filter.2 ⟨hpair, hfind⟩, rfl⟩

theorem nodup_allowed {t : RouteTable ρ} (h : (t.tries.map Prod.fst).Nodup) (path : String) :
    (t.allowed path).Nodup :=
  Method.nodup_sort ((List.filter_sublist.map Prod.fst).nodup h)

/-- **The allowed methods depend only on which tries resolve the path**, not on the order in
which the tries are kept. -/
theorem allowed_congr {t u : RouteTable ρ} (ht : (t.tries.map Prod.fst).Nodup)
    (hu : (u.tries.map Prod.fst).Nodup) {path : String}
    (h : ∀ m, ((t.trie m).find (splitPath path)).isSome =
      ((u.trie m).find (splitPath path)).isSome) : t.allowed path = u.allowed path := by
  refine Method.sort_eq_sort ((List.filter_sublist.map Prod.fst).nodup ht)
    ((List.filter_sublist.map Prod.fst).nodup hu) fun m => ?_
  have hm : m ∈ t.allowed path ↔ m ∈ u.allowed path := by
    rw [mem_allowed_iff ht, mem_allowed_iff hu, h m]
  exact Method.mem_sort.symm.trans (hm.trans Method.mem_sort)

theorem resolve_of_find {t : RouteTable ρ} {m : Method} {path : String} {route : Route ρ}
    {values : List String} (h : (t.trie m).find (splitPath path) = some (route, values)) :
    t.resolve m path = .found route (.zip route.pattern.variableNames values) := by
  rw [resolve, h]

/-- **A path is resolved to a route by one look-up**, whose values are bound to the variables
of the route. -/
theorem resolve_eq_found_iff {t : RouteTable ρ} {m : Method} {path : String}
    {route : Route ρ} {b : Bindings} :
    t.resolve m path = .found route b ↔
      ∃ values, (t.trie m).find (splitPath path) = some (route, values) ∧
        b = .zip route.pattern.variableNames values := by
  constructor
  · intro h
    rw [resolve] at h
    split at h
    · next r values hfind =>
      obtain ⟨rfl, rfl⟩ := Resolution.found.inj h
      exact ⟨values, hfind, rfl⟩
    · split at h <;> cases h
  · rintro ⟨values, hfind, rfl⟩
    exact resolve_of_find hfind

/-- Tables whose look-ups agree on a path resolve it alike. -/
theorem resolve_congr {t u : RouteTable ρ} {path : String}
    (h : ∀ m, (t.trie m).find (splitPath path) = (u.trie m).find (splitPath path))
    (hallowed : t.allowed path = u.allowed path) (m : Method) :
    t.resolve m path = u.resolve m path := by
  rw [resolve, resolve, h m, hallowed]

end Switchyard.RouteTable
