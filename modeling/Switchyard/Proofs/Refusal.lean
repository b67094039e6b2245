import Switchyard.Pattern.Parser
import Switchyard.Proofs.Resolution

/-!
# Refused Registrations

A registration that is refused does not always leave the answers of the table as they were. A
duplicate is looked for in all tries before any of them is written, so it leaves no trace. A
conflict is found on the way, trie by trie, and ends the registration there: the tries before it
keep the route. For a route that answers one method there is no trie before; a route for
every method is left under the methods up to the first conflict.

The list of routes never changes. Look-ups change exactly if one of the tries in which the
route was left resolves some path differently with it than without it.

## Main results

* `storedUnder_of_conflict`: a conflict leaves the route under the methods before it.
* `sameAnswers_iff_of_refused`: exactly when a refused route leaves the answers as they were.
* `refused_route_answers`: a refused route that answers requests.
-/

namespace Switchyard.RouteTable

open Web (Method RouteMethod)

variable {ρ : Type}

/-- Do look-ups, the methods of all paths and the list of routes agree? -/
def SameAnswers (t u : RouteTable ρ) : Prop :=
  (∀ m path, t.resolve m path = u.resolve m path) ∧
    (∀ path, t.allowed path = u.allowed path) ∧ t.routes = u.routes

/-! ### Where a refused route is left -/

/-- A registration is refused as a duplicate before any trie is written, or it ends at the first
trie that does not take the route. -/
theorem insert_snd_eq_some {t : RouteTable ρ} {route : Route ρ} {refusal : Refusal}
    (h : (t.insert route).2 = some refusal) :
    (refusal = .duplicate ∧ t.policy = .reject ∧ t.storedUnder route = []) ∨
      ∃ m rest c, refusal = .conflict c ∧
        route.method.expand = t.storedUnder route ++ m :: rest ∧
        ((t.trie m).insert route route.pattern.segments).2 = .error c := by
  rw [insert] at h
  rw [storedUnder]
  split at h
  · next htaken =>
    rw [if_pos htaken]
    exact .inl ⟨(Option.some.inj h).symm, htaken.1, rfl⟩
  · next htaken =>
    rw [if_neg htaken]
    cases hins : t.insertUnder route route.method.expand with
    | mk table result =>
        rw [hins] at h
        cases result with
        | none => cases h
        | some refusal =>
            obtain rfl := Option.some.inj h
            obtain ⟨m, rest, c, hsplit, hc, hrefusal⟩ :=
              insertUnder_snd_eq_some (nodup_expand route.method) (congrArg Prod.snd hins)
            exact .inr ⟨m, rest, c, hrefusal, hsplit, hc⟩

/-- A duplicate that is rejected is left nowhere. -/
theorem storedUnder_of_duplicate {t : RouteTable ρ} {route : Route ρ}
    (h : (t.insert route).2 = some .duplicate) : t.storedUnder route = [] := by
  rcases insert_snd_eq_some h with ⟨-, -, hnil⟩ | ⟨m, rest, c, hc, -⟩
  · exact hnil
  · cases hc

/-- A conflict leaves the route under the methods before it. -/
theorem storedUnder_of_conflict {t : RouteTable ρ} {route : Route ρ} {c : SlotConflict}
    (h : (t.insert route).2 = some (.conflict c)) :
    ∃ m rest, route.method.expand = t.storedUnder route ++ m :: rest ∧
      ((t.trie m).insert route route.pattern.segments).2 = .error c := by
  rcases insert_snd_eq_some h with ⟨hduplicate, -⟩ | ⟨m, rest, c', heq, hsplit, hconflict⟩
  · cases hduplicate
  · obtain rfl := Refusal.conflict.inj heq
    exact ⟨m, rest, hsplit, hconflict⟩

/-- A refused route that answers one method is left nowhere. -/
theorem storedUnder_of_only {t : RouteTable ρ} {route : Route ρ} {m : Method}
    (hmethod : route.method = .only m) (h : (t.insert route).2 ≠ none) :
    t.storedUnder route = [] := by
  obtain ⟨refusal, hrefusal⟩ := Option.ne_none_iff_exists'.1 h
  cases refusal with
  | duplicate => exact storedUnder_of_duplicate hrefusal
  | conflict c =>
      obtain ⟨n, rest, hsplit, -⟩ := storedUnder_of_conflict hrefusal
      rw [hmethod] at hsplit
      have hlength := congrArg List.length hsplit
      simp only [RouteMethod.expand, List.length_append, List.length_cons, List.length_nil]
        at hlength
      exact List.eq_nil_of_length_eq_zero (by omega)

/-! ### What a refused route changes -/

/-- Tables that were filled by registrations and resolve a path alike look it up alike: the
captured values are determined by the route. -/
theorem find_eq_of_resolve_eq {policy : DuplicatePolicy} {history other : List (Route ρ)}
    {m : Method} {path : String}
    (h : (({ policy } : RouteTable ρ).insertAll history).resolve m path =
      (({ policy } : RouteTable ρ).insertAll other).resolve m path) :
    ((({ policy } : RouteTable ρ).insertAll history).trie m).find (splitPath path) =
      ((({ policy } : RouteTable ρ).insertAll other).trie m).find (splitPath path) := by
  cases hfind : ((({ policy } : RouteTable ρ).insertAll history).trie m).find
      (splitPath path) with
  | some found =>
      obtain ⟨route, values⟩ := found
      rw [resolve_of_find hfind] at h
      obtain ⟨values', hfind', -⟩ := resolve_eq_found_iff.1 h.symm
      obtain ⟨-, -, hcap⟩ := find_sound hfind
      obtain ⟨-, -, hcap'⟩ := find_sound hfind'
      rw [hfind', Option.some.inj (hcap.symm.trans hcap')]
  | none =>
      cases hfind' : ((({ policy } : RouteTable ρ).insertAll other).trie m).find
          (splitPath path) with
      | none => rfl
      | some found =>
          obtain ⟨route, values⟩ := found
          rw [resolve_of_find hfind'] at h
          obtain ⟨values', hsome, -⟩ := resolve_eq_found_iff.1 h
          rw [hfind] at hsome
          cases hsome

/-- If the tries in which a refused route was left look up as before, then all answers are as
before. -/
theorem sameAnswers_of_find_eq {t : RouteTable ρ} {route : Route ρ}
    (hkeys : (t.tries.map Prod.fst).Nodup) (h : (t.insert route).2 ≠ none)
    (hfind : ∀ m ∈ t.storedUnder route, ∀ path : String,
      ((t.trie m).insert route route.pattern.segments).1.find (splitPath path) =
        (t.trie m).find (splitPath path)) :
    SameAnswers (t.insert route).1 t := by
  have hall (path : String) (m : Method) :
      ((t.insert route).1.trie m).find (splitPath path) = (t.trie m).find (splitPath path) := by
    rw [trie_insert]
    split
    · next hm => exact hfind m hm path
    · rfl
  have hallowed (path : String) : (t.insert route).1.allowed path = t.allowed path :=
    allowed_congr (nodup_keys_insert route hkeys) hkeys fun m => by rw [hall path m]
  refine ⟨fun m path => resolve_congr (hall path) (hallowed path) m, hallowed, ?_⟩
  rw [routes_insert, if_neg h]

/-- **A refused route leaves the answers as they were exactly if** each trie in which it was left
resolves every path as before. It is left in none if it is a duplicate or answers one method
only, and in those before the first conflict otherwise. The list of routes never gets it. -/
theorem sameAnswers_iff_of_refused (policy : DuplicatePolicy) (history : List (Route ρ))
    (route : Route ρ) (t : RouteTable ρ) (ht : t = ({ policy } : RouteTable ρ).insertAll history)
    (h : (t.insert route).2 ≠ none) :
    (t.insert route).1.routes = t.routes ∧
      (SameAnswers (t.insert route).1 t ↔
        ∀ m ∈ t.storedUnder route, ∀ path : String,
          ((t.trie m).insert route route.pattern.segments).1.find (splitPath path) =
            (t.trie m).find (splitPath path)) ∧
      ((t.insert route).2 = some .duplicate ∨ route.method ≠ .any →
        t.storedUnder route = []) ∧
      ∀ c, (t.insert route).2 = some (.conflict c) →
        ∃ m rest, route.method.expand = t.storedUnder route ++ m :: rest ∧
          ((t.trie m).insert route route.pattern.segments).2 = .error c := by
  have hkeys : (t.tries.map Prod.fst).Nodup :=
    ht ▸ nodup_keys_insertAll history List.nodup_nil
  have hafter : (t.insert route).1 =
      ({ policy } : RouteTable ρ).insertAll (history ++ [route]) := by
    rw [insertAll_append, ← ht]
    rfl
  refine ⟨by rw [routes_insert, if_neg h], ⟨fun hsame m hm path => ?_, ?_⟩, ?_,
    fun c hc => storedUnder_of_conflict hc⟩
  · have hresolve := hsame.1 m path
    rw [hafter, ht] at hresolve
    have hfind := find_eq_of_resolve_eq hresolve
    rw [← hafter, ← ht, trie_insert, if_pos hm] at hfind
    exact hfind
  · exact sameAnswers_of_find_eq hkeys h
  · rintro (hduplicate | hmethod)
    · exact storedUnder_of_duplicate hduplicate
    · cases hone : route.method with
      | any => exact absurd hone hmethod
      | only m => exact storedUnder_of_only hone h

/-- A route of a pattern that is written in a text, without a pipeline. -/
def bare (method : RouteMethod) (source : String) : Route Unit :=
  { id := 0, method, source, pattern := (Pattern.parse source).toOption.getD default,
    pipeline := () }

/-- A table in which the pattern of one method has digits in its slot. -/
def digitsUnder (m : Method) : RouteTable Unit :=
  ({ policy := .replace } : RouteTable Unit).insertAll [bare (.only m) "/p/{id:[0-9]+}"]

/-- A conflict in the first trie leaves all answers as they were. -/
theorem sameAnswers_of_first_conflict :
    ((digitsUnder .get).insert (bare .any "/p/{id:[a-z]+}")).2 ≠ none ∧
      SameAnswers ((digitsUnder .get).insert (bare .any "/p/{id:[a-z]+}")).1
        (digitsUnder .get) := by
  have hrefused : ((digitsUnder .get).insert (bare .any "/p/{id:[a-z]+}")).2 ≠ none := by
    decide +kernel
  have hstored : (digitsUnder .get).storedUnder (bare .any "/p/{id:[a-z]+}") = [] := by
    decide +kernel
  obtain ⟨-, hsame, -, -⟩ := sameAnswers_iff_of_refused .replace _ _ (digitsUnder .get) rfl hrefused
  refine ⟨hrefused, hsame.2 fun m hm => ?_⟩
  rw [hstored] at hm
  cases hm

/-- **A refused route can answer requests.** The conflict is met under the third method, and the
route stays under the first two. It also stands in the way of a route that the table would have
accepted. -/
theorem refused_route_answers :
    ((digitsUnder .post).insert (bare .any "/p/{id:[a-z]+}")).2 ≠ none ∧
      (digitsUnder .post).allowed "/p/a" = [] ∧
      Method.get ∈ ((digitsUnder .post).insert (bare .any "/p/{id:[a-z]+}")).1.allowed "/p/a" ∧
      ((digitsUnder .post).insert (bare (.only .get) "/p/{id:[0-9]+}")).2 = none ∧
      (((digitsUnder .post).insert (bare .any "/p/{id:[a-z]+}")).1.insert
        (bare (.only .get) "/p/{id:[0-9]+}")).2 ≠ none ∧
      ¬SameAnswers ((digitsUnder .post).insert (bare .any "/p/{id:[a-z]+}")).1
        (digitsUnder .post) := by
  have hnone : (digitsUnder .post).allowed "/p/a" = [] := by decide +kernel
  have hkeys : ((digitsUnder .post).tries.map Prod.fst).Nodup :=
    nodup_keys_insertAll _ List.nodup_nil
  have hget : Method.get ∈
      ((digitsUnder .post).insert (bare .any "/p/{id:[a-z]+}")).1.allowed "/p/a" :=
    (mem_allowed_iff (nodup_keys_insert _ hkeys)).2 (by decide +kernel)
  refine ⟨by decide +kernel, hnone, hget, by decide +kernel, by decide +kernel, fun hsame => ?_⟩
  rw [hsame.2.1 "/p/a", hnone] at hget
  cases hget

end Switchyard.RouteTable
