import Mathlib.Data.List.TakeWhile
import Switchyard.Proofs.Matching
import Switchyard.Table.Registry

/-!
# Registrations in a Route Table

A route is put into the trie of each of its methods, one method after the other. This module
says what a registration does to every trie, whether it is accepted or refused, and carries it
over to histories of registrations: the trie of a method is the one that the routes stored
under it make, in the order in which they came (`trie_insertAll`).

A conflict ends the registration where it is met. The tries before it keep the route
(`storedUnder`), while the list of routes does not get it.

## Main results

* `trie_insert`: what one registration does to the trie of a method.
* `insert_snd_eq_none_iff`: when a route is accepted.
* `trie_insertAll`: the trie of a method after any history.
* `find_sound`: what a look-up finds was registered for the method, under a pattern that matches.
-/

namespace Switchyard.RouteTable

open Trie (Entry)
open Web (Method RouteMethod)

variable {ρ : Type}

/-! ### One registration -/

/-- Does the trie of the method take the route without a conflict? -/
def takes (t : RouteTable ρ) (route : Route ρ) (m : Method) : Bool :=
  ((t.trie m).insert route route.pattern.segments).2.isOk

/-- The methods in whose tries a registration leaves the route. A duplicate is left in none,
and a conflict in those before the one where it is met. -/
def storedUnder (t : RouteTable ρ) (route : Route ρ) : List Method :=
  if t.policy = .reject ∧ t.isTaken route.method.expand route.pattern then []
  else route.method.expand.takeWhile (t.takes route)

/-- The table with the route in the trie of one method. -/
def storeUnder (t : RouteTable ρ) (route : Route ρ) (m : Method) : RouteTable ρ :=
  t.withTrie m ((t.trie m).insert route route.pattern.segments).1

theorem trie_withTrie (t : RouteTable ρ) (m k : Method) (trie : Trie (Route ρ)) :
    (t.withTrie m trie).trie k = if k = m then trie else t.trie k := by
  rw [RouteTable.trie, withTrie, Association.lookup_put]
  split <;> rfl

theorem trie_storeUnder (t : RouteTable ρ) (route : Route ρ) (m k : Method) :
    (t.storeUnder route m).trie k =
      if k = m then ((t.trie m).insert route route.pattern.segments).1 else t.trie k :=
  trie_withTrie t m k _

/-- A trie that meets a conflict stays as it is. -/
theorem trie_storeUnder_of_conflict {t : RouteTable ρ} {route : Route ρ} {m : Method}
    (h : t.takes route m = false) (k : Method) :
    (t.storeUnder route m).trie k = t.trie k := by
  rw [trie_storeUnder]
  split
  · next hk =>
    rw [takes] at h
    cases hins : ((t.trie m).insert route route.pattern.segments).2 with
    | ok previous => rw [hins] at h; cases h
    | error c => rw [hk, Trie.insert_fst_of_error hins]
  · rfl

theorem takes_storeUnder_of_ne (t : RouteTable ρ) (route : Route ρ) {m k : Method}
    (h : k ≠ m) : (t.storeUnder route m).takes route k = t.takes route k := by
  rw [takes, takes, trie_storeUnder, if_neg h]

/-- A route answers no method twice. -/
theorem nodup_expand (method : RouteMethod) : method.expand.Nodup := by
  cases method with
  | any => decide
  | only m => exact List.pairwise_singleton _ _

/-- The route in the trie of one method does not matter to the tries of other methods. -/
theorem takeWhile_takes_storeUnder (t : RouteTable ρ) (route : Route ρ) {m : Method}
    {ms : List Method} (h : m ∉ ms) :
    ms.takeWhile ((t.storeUnder route m).takes route) = ms.takeWhile (t.takes route) := by
  induction ms with
  | nil => rfl
  | cons k ms ih =>
      obtain ⟨hk, hms⟩ := List.ne_and_not_mem_of_not_mem_cons h
      rw [List.takeWhile_cons, List.takeWhile_cons, takes_storeUnder_of_ne t route (Ne.symm hk),
        ih hms]

/-- A trie that takes the route gets it, and the next method follows. -/
theorem insertUnder_of_takes {t : RouteTable ρ} {route : Route ρ} {m : Method}
    (ms : List Method) (h : t.takes route m = true) :
    t.insertUnder route (m :: ms) = (t.storeUnder route m).insertUnder route ms := by
  rw [insertUnder, storeUnder]
  split
  · next hins => rw [hins]
  · next hins => rw [takes, hins] at h; cases h

/-- A trie that does not take the route ends the registration. -/
theorem insertUnder_of_conflict {t : RouteTable ρ} {route : Route ρ} {m : Method}
    (ms : List Method) (h : t.takes route m = false) :
    ∃ c, ((t.trie m).insert route route.pattern.segments).2 = .error c ∧
      t.insertUnder route (m :: ms) = (t.storeUnder route m, some (.conflict c)) := by
  rw [insertUnder, storeUnder]
  split
  · next hins => rw [takes, hins] at h; cases h
  · next trie c hins => exact ⟨c, congrArg Prod.snd hins, by rw [hins]⟩

/-- The tries that take the route one after the other get it, up to the first conflict. No
other trie is touched. -/
theorem trie_insertUnder (t : RouteTable ρ) (route : Route ρ) {ms : List Method}
    (h : ms.Nodup) (k : Method) :
    (t.insertUnder route ms).1.trie k =
      if k ∈ ms.takeWhile (t.takes route) then
        ((t.trie k).insert route route.pattern.segments).1
      else t.trie k := by
  induction ms generalizing t with
  | nil => simp [insertUnder]
  | cons m ms ih =>
      obtain ⟨hm, hms⟩ := List.nodup_cons.1 h
      cases htakes : t.takes route m with
      | false =>
          obtain ⟨c, -, hins⟩ := insertUnder_of_conflict ms htakes
          rw [hins, trie_storeUnder_of_conflict htakes,
            List.takeWhile_cons_of_neg (by simp [htakes]), if_neg List.not_mem_nil]
      | true =>
          have hrest := takeWhile_takes_storeUnder t route hm
          rw [insertUnder_of_takes ms htakes, List.takeWhile_cons_of_pos htakes, ih _ hms, hrest,
            trie_storeUnder]
          by_cases hk : k = m
          · subst hk
            have hnot : k ∉ ms.takeWhile (t.takes route) :=
              fun hmem => hm ((List.takeWhile_sublist _).subset hmem)
            rw [if_neg hnot, if_pos rfl, if_pos List.mem_cons_self]
          · rw [if_neg hk]
            simp [hk]

/-- The tries take the route one after the other exactly if each of them takes it. -/
theorem insertUnder_snd_eq_none_iff (t : RouteTable ρ) (route : Route ρ) {ms : List Method}
    (h : ms.Nodup) :
    (t.insertUnder route ms).2 = none ↔ ∀ m ∈ ms, t.takes route m = true := by
  induction ms generalizing t with
  | nil => simp [insertUnder]
  | cons m ms ih =>
      obtain ⟨hm, hms⟩ := List.nodup_cons.1 h
      cases htakes : t.takes route m with
      | false =>
          obtain ⟨c, -, hins⟩ := insertUnder_of_conflict ms htakes
          simp [hins, htakes]
      | true =>
          have hrest (n : Method) (hn : n ∈ ms) :
              (t.storeUnder route m).takes route n = t.takes route n :=
            takes_storeUnder_of_ne t route (ne_of_mem_of_not_mem hn hm)
          rw [insertUnder_of_takes ms htakes, ih _ hms, List.forall_mem_cons]
          constructor
          · exact fun hall => ⟨htakes, fun n hn => (hrest n hn).symm.trans (hall n hn)⟩
          · exact fun hall n hn => (hrest n hn).trans (hall.2 n hn)

/-- The first trie that does not take the route ends the registration with its conflict. -/
theorem insertUnder_snd_eq_some {t : RouteTable ρ} {route : Route ρ} {ms : List Method}
    {refusal : Refusal} (hms : ms.Nodup) (h : (t.insertUnder route ms).2 = some refusal) :
    ∃ m rest c, ms = ms.takeWhile (t.takes route) ++ m :: rest ∧
      ((t.trie m).insert route route.pattern.segments).2 = .error c ∧
      refusal = .conflict c := by
  induction ms generalizing t with
  | nil => cases h
  | cons m ms ih =>
      obtain ⟨hm, hnodup⟩ := List.nodup_cons.1 hms
      cases htakes : t.takes route m with
      | false =>
          obtain ⟨c, hc, hins⟩ := insertUnder_of_conflict ms htakes
          rw [hins] at h
          rw [List.takeWhile_cons_of_neg (by simp [htakes])]
          exact ⟨m, ms, c, rfl, hc, (Option.some.inj h).symm⟩
      | true =>
          rw [insertUnder_of_takes ms htakes] at h
          obtain ⟨n, rest, c, hsplit, hc, hrefusal⟩ := ih hnodup h
          have hn : n ≠ m := by
            rintro rfl
            exact hm (hsplit ▸ List.mem_append_right _ List.mem_cons_self)
          have hrest := takeWhile_takes_storeUnder t route hm
          rw [trie_storeUnder, if_neg hn] at hc
          rw [hrest] at hsplit
          rw [List.takeWhile_cons_of_pos htakes]
          exact ⟨n, rest, c, congrArg (m :: ·) hsplit, hc, hrefusal⟩

/-- Nothing but the tries changes, and each method keeps one trie. -/
theorem insertUnder_fst (t : RouteTable ρ) (route : Route ρ) (ms : List Method) :
    ∃ tries, (t.insertUnder route ms).1 = { t with tries } ∧
      ((t.tries.map Prod.fst).Nodup → (tries.map Prod.fst).Nodup) := by
  induction ms generalizing t with
  | nil => exact ⟨t.tries, rfl, id⟩
  | cons m ms ih =>
      have hkeys (hnodup : (t.tries.map Prod.fst).Nodup) :
          ((t.storeUnder route m).tries.map Prod.fst).Nodup := by
        rw [storeUnder, withTrie, Association.keys_put]
        split
        · exact hnodup
        · next hm =>
          refine List.nodup_append.2 ⟨hnodup, List.pairwise_singleton _ _, ?_⟩
          intro k hk n hn
          rw [List.mem_singleton.1 hn]
          exact ne_of_mem_of_not_mem hk hm
      cases htakes : t.takes route m with
      | false =>
          obtain ⟨c, -, hins⟩ := insertUnder_of_conflict ms htakes
          exact ⟨_, congrArg Prod.fst hins, hkeys⟩
      | true =>
          obtain ⟨tries, heq, hnodup⟩ := ih (t.storeUnder route m)
          exact ⟨tries, by rw [insertUnder_of_takes ms htakes, heq]; rfl, hnodup ∘ hkeys⟩

/-- **What one registration does to the trie of a method.** -/
theorem trie_insert (t : RouteTable ρ) (route : Route ρ) (m : Method) :
    (t.insert route).1.trie m =
      if m ∈ t.storedUnder route then ((t.trie m).insert route route.pattern.segments).1
      else t.trie m := by
  have hunder := trie_insertUnder t route (nodup_expand route.method) m
  rw [insert, storedUnder]
  by_cases htaken : t.policy = .reject ∧ t.isTaken route.method.expand route.pattern = true
  · rw [if_pos htaken, if_pos htaken, if_neg List.not_mem_nil]
  · rw [if_neg htaken, if_neg htaken, ← hunder]
    split
    · next hins => rw [hins]
    · next hins => rw [hins]; rfl

/-- Beside the tries, a registration changes the list of routes only, and only if the route is
accepted. -/
theorem insert_fst (t : RouteTable ρ) (route : Route ρ) :
    ∃ tries, (t.insert route).1 =
        { t with
          tries
          routes := if (t.insert route).2 = none then t.routes ++ [route] else t.routes } ∧
      ((t.tries.map Prod.fst).Nodup → (tries.map Prod.fst).Nodup) := by
  obtain ⟨tries, hunder, hnodup⟩ := insertUnder_fst t route route.method.expand
  rw [insert]
  split
  · exact ⟨t.tries, rfl, id⟩
  · refine ⟨tries, ?_, hnodup⟩
    cases hins : t.insertUnder route route.method.expand with
    | mk table refusal =>
        rw [hins] at hunder
        obtain rfl : table = { t with tries } := hunder
        cases refusal <;> rfl

theorem routes_insert (t : RouteTable ρ) (route : Route ρ) :
    (t.insert route).1.routes =
      if (t.insert route).2 = none then t.routes ++ [route] else t.routes := by
  obtain ⟨tries, heq, -⟩ := insert_fst t route
  rw [heq]

theorem policy_insert (t : RouteTable ρ) (route : Route ρ) :
    (t.insert route).1.policy = t.policy := by
  obtain ⟨tries, heq, -⟩ := insert_fst t route
  rw [heq]

theorem nodup_keys_insert {t : RouteTable ρ} (route : Route ρ)
    (h : (t.tries.map Prod.fst).Nodup) : ((t.insert route).1.tries.map Prod.fst).Nodup := by
  obtain ⟨tries, heq, hnodup⟩ := insert_fst t route
  rw [heq]
  exact hnodup h

/-- **A route is accepted exactly if** it is no duplicate that is to be rejected and every trie
takes it. -/
theorem insert_snd_eq_none_iff (t : RouteTable ρ) (route : Route ρ) :
    (t.insert route).2 = none ↔
      ¬(t.policy = .reject ∧ t.isTaken route.method.expand route.pattern = true) ∧
        ∀ m ∈ route.method.expand, t.takes route m = true := by
  rw [← insertUnder_snd_eq_none_iff t route (nodup_expand route.method), insert]
  split
  · next htaken => simp [htaken]
  · next htaken =>
    rw [and_iff_right htaken]
    cases hins : t.insertUnder route route.method.expand with
    | mk table refusal => cases refusal <;> simp

/-- A route is left under methods that it answers. -/
theorem mem_expand_of_mem_storedUnder {t : RouteTable ρ} {route : Route ρ} {m : Method}
    (h : m ∈ t.storedUnder route) : m ∈ route.method.expand := by
  rw [storedUnder] at h
  split at h
  · cases h
  · exact (List.takeWhile_sublist _).subset h

/-- An accepted route is left under all of them. -/
theorem storedUnder_of_accepted {t : RouteTable ρ} {route : Route ρ}
    (h : (t.insert route).2 = none) : t.storedUnder route = route.method.expand := by
  obtain ⟨htaken, hall⟩ := (insert_snd_eq_none_iff t route).1 h
  rw [storedUnder, if_neg htaken]
  exact List.takeWhile_eq_self_iff.2 hall

/-! ### Histories of registrations -/

/-- The table after routes were offered to it one after the other, some of them refused. -/
def insertAll (t : RouteTable ρ) (history : List (Route ρ)) : RouteTable ρ :=
  history.foldl (fun t route => (t.insert route).1) t

/-- What a history leaves in the trie of a method, in the order in which it came. -/
def storedEntries (m : Method) (t : RouteTable ρ) : List (Route ρ) → List (Entry (Route ρ))
  | [] => []
  | route :: rest =>
    if m ∈ t.storedUnder route then
      (route.pattern.segments, route) :: storedEntries m (t.insert route).1 rest
    else storedEntries m (t.insert route).1 rest

theorem insertAll_cons (t : RouteTable ρ) (route : Route ρ) (rest : List (Route ρ)) :
    t.insertAll (route :: rest) = (t.insert route).1.insertAll rest := rfl

theorem insertAll_append (t : RouteTable ρ) (history more : List (Route ρ)) :
    t.insertAll (history ++ more) = (t.insertAll history).insertAll more :=
  List.foldl_append

/-- **The trie of a method after any history** is made by what the history leaves in it. -/
theorem trie_insertAll (t : RouteTable ρ) (history : List (Route ρ)) (m : Method) :
    (t.insertAll history).trie m = (t.trie m).insertAll (t.storedEntries m history) := by
  induction history generalizing t with
  | nil => rfl
  | cons route rest ih =>
      rw [insertAll_cons, ih, trie_insert, storedEntries]
      split <;> rfl

/-- What is left in a trie is a route of the history under its own pattern, in a trie of one
of its methods. -/
theorem mem_storedEntries {t : RouteTable ρ} {history : List (Route ρ)} {m : Method}
    {e : Entry (Route ρ)} (h : e ∈ t.storedEntries m history) :
    e.2 ∈ history ∧ m ∈ e.2.method.expand ∧ e.1 = e.2.pattern.segments := by
  induction history generalizing t with
  | nil => cases h
  | cons route rest ih =>
      rw [storedEntries] at h
      split at h
      · next hm =>
        rcases List.mem_cons.1 h with rfl | h
        · exact ⟨List.mem_cons_self, mem_expand_of_mem_storedUnder hm, rfl⟩
        · obtain ⟨hmem, hrest⟩ := ih h
          exact ⟨List.mem_cons_of_mem route hmem, hrest⟩
      · obtain ⟨hmem, hrest⟩ := ih h
        exact ⟨List.mem_cons_of_mem route hmem, hrest⟩

theorem policy_insertAll (t : RouteTable ρ) (history : List (Route ρ)) :
    (t.insertAll history).policy = t.policy := by
  induction history generalizing t with
  | nil => rfl
  | cons route rest ih => rw [insertAll_cons, ih, policy_insert]

theorem nodup_keys_insertAll {t : RouteTable ρ} (history : List (Route ρ))
    (h : (t.tries.map Prod.fst).Nodup) : ((t.insertAll history).tries.map Prod.fst).Nodup := by
  induction history generalizing t with
  | nil => exact h
  | cons route rest ih => exact ih (nodup_keys_insert route h)

/-- **What a look-up finds was registered for the method**, under a pattern that matches the
path. The captured values are determined by the route and the path. -/
theorem find_sound {policy : DuplicatePolicy} {history : List (Route ρ)} {m : Method}
    {path : List String} {route : Route ρ} {values : List String}
    (h : (((({ policy } : RouteTable ρ).insertAll history).trie m).find path) =
      some (route, values)) :
    route ∈ history ∧ m ∈ route.method.expand ∧
      captures? route.pattern.segments path = some values := by
  rw [trie_insertAll] at h
  obtain ⟨p, hp, hcap⟩ := Trie.find_sound h
  obtain ⟨hmem, hm, heq⟩ := mem_storedEntries hp
  obtain rfl : p = route.pattern.segments := heq
  exact ⟨hmem, hm, hcap⟩

end Switchyard.RouteTable
