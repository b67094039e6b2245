import Mathlib.Data.List.Induction
import Mathlib.Data.List.Perm.Basic
import Switchyard.Proofs.Precedence
import Switchyard.Proofs.Resolution

/-!
# The Order of Registrations

Whether a route is accepted depends on what is in the tries already, and of two routes at one
place of a trie the later one answers. Still the order of registrations matters to nothing else.
Whether a list of routes is accepted is a matter of its pairs (`acceptsAll_iff_pairwise`): two
routes that share a method have to put one constraint on the slots that they share, and under
the policy that rejects duplicates they must not lead to one place. Both relations are symmetric.
And a look-up is the rule of precedence on the list of patterns, which asks for the last of
several candidates only at places to which more than one pattern leads.

Two lists are compared up to the numbers of their routes, since a router numbers its routes in the
order of their declaration.

## Main results

* `Trie.isSome_valueAt?_insertAll`: which patterns have a value in a trie.
* `Trie.answer_perm`, `Trie.answer_mapValues`: the rule of precedence does not ask for the order of
  patterns of different shapes, nor for what their values are.
* `acceptsAll_iff_pairwise`: when all routes of a list are accepted.
* `resolve_reordered`: routes in another order are accepted as well, and answer alike.
-/

namespace Switchyard

namespace Trie

variable {α β : Type}

/-! ### Shapes of patterns -/

/-- Two patterns lead to one place of a trie: they have equal literals, variables and wildcards in
the same places, whatever the variables are called and whatever constraints they have. -/
def SameShape : List Segment → List Segment → Prop
  | [], [] => True
  | s :: p, r :: q =>
    match s.step, r.step with
    | .literal a, .literal b => a = b ∧ SameShape p q
    | .slot _, .slot _ => SameShape p q
    | .rest, .rest => True
    | _, _ => False
  | _, _ => False

theorem SameShape.symm {p q : List Segment} (h : SameShape p q) : SameShape q p := by
  induction p generalizing q with
  | nil =>
      cases q with
      | nil => trivial
      | cons r q => exact h.elim
  | cons s p ih =>
      cases q with
      | nil => exact h.elim
      | cons r q =>
          cases hs : s.step <;> cases hr : r.step <;> simp only [SameShape, hs, hr] at h ⊢
          · exact ⟨h.1.symm, ih h.2⟩
          · exact ih h

theorem SlotsAgree.symm {p q : List Segment} (h : SlotsAgree p q) : SlotsAgree q p := by
  induction p generalizing q with
  | nil => exact slotsAgree_nil_right q
  | cons s p ih =>
      cases q with
      | nil => exact slotsAgree_nil_left (s :: p)
      | cons r q =>
          cases hs : s.step <;> cases hr : r.step <;> simp only [SlotsAgree, hs, hr] at h ⊢
          · exact fun hab => ih (h hab.symm)
          · exact ⟨h.1.symm, ih h.2⟩

/-- A pattern that goes on through a literal has the shape of an entry exactly if its rest has the
shape of what is left of an entry behind the literal. -/
theorem exists_sameShape_literal_iff {es : List (Entry α)} {s : Segment} {rest : List Segment}
    {text : String} (hs : s.step = .literal text) :
    (∃ e ∈ es, SameShape e.1 (s :: rest)) ↔
      ∃ e ∈ behind (· = .literal text) es, SameShape e.1 rest := by
  constructor
  · rintro ⟨⟨p, v⟩, hmem, h⟩
    cases p with
    | nil => exact h.elim
    | cons r p =>
        cases hr : r.step <;> simp only [SameShape, hr, hs] at h
        obtain ⟨rfl, h⟩ := h
        exact ⟨(p, v), mem_behind_iff.2 ⟨r, by simpa using hr, hmem⟩, h⟩
  · rintro ⟨⟨p, v⟩, hmem, h⟩
    obtain ⟨r, hr, hes⟩ := mem_behind_iff.1 hmem
    have hr : r.step = .literal text := by simpa using hr
    refine ⟨(r :: p, v), hes, ?_⟩
    simp only [SameShape, hr, hs]
    exact ⟨trivial, h⟩

/-- A pattern that goes on through the slot has the shape of an entry exactly if its rest has the
shape of what is left of an entry behind the slot, whose constraint all entries share. -/
theorem exists_sameShape_slot_iff {es : List (Entry α)} {s : Segment} {rest : List Segment}
    {c d : Option Constraint} (hs : s.step = .slot c) (hd : ∀ c ∈ slotConstraints es, c = d) :
    (∃ e ∈ es, SameShape e.1 (s :: rest)) ↔
      ∃ e ∈ behind (· = .slot d) es, SameShape e.1 rest := by
  constructor
  · rintro ⟨⟨p, v⟩, hmem, h⟩
    cases p with
    | nil => exact h.elim
    | cons r p =>
        cases hr : r.step with
        | slot c' =>
            simp only [SameShape, hr, hs] at h
            obtain rfl := hd c' (mem_slotConstraints_iff.2 ⟨r, p, v, hr, hmem⟩)
            exact ⟨(p, v), mem_behind_iff.2 ⟨r, by simpa using hr, hmem⟩, h⟩
        | literal text => simp only [SameShape, hr, hs] at h
        | rest => simp only [SameShape, hr, hs] at h
  · rintro ⟨⟨p, v⟩, hmem, h⟩
    obtain ⟨r, hr, hes⟩ := mem_behind_iff.1 hmem
    have hr : r.step = .slot d := by simpa using hr
    refine ⟨(r :: p, v), hes, ?_⟩
    simp only [SameShape, hr, hs]
    exact h

/-- An empty pattern has the shape of an entry exactly if an entry has ended. -/
theorem exists_sameShape_nil_iff {es : List (Entry α)} :
    (∃ e ∈ es, SameShape e.1 []) ↔ ended es ≠ [] := by
  rw [ne_eq, List.eq_nil_iff_forall_not_mem, not_forall_not]
  constructor
  · rintro ⟨⟨p, v⟩, hmem, h⟩
    cases p with
    | nil => exact ⟨v, mem_ended_iff.2 hmem⟩
    | cons r p => exact h.elim
  · rintro ⟨v, hv⟩
    exact ⟨([], v), mem_ended_iff.1 hv, trivial⟩

/-- A pattern that goes on with a wildcard has the shape of an entry exactly if an entry does so. -/
theorem exists_sameShape_rest_iff {es : List (Entry α)} {s : Segment} {rest : List Segment}
    (hs : s.step = .rest) :
    (∃ e ∈ es, SameShape e.1 (s :: rest)) ↔ behind (· = .rest) es ≠ [] := by
  rw [ne_eq, List.eq_nil_iff_forall_not_mem, not_forall_not]
  constructor
  · rintro ⟨⟨p, v⟩, hmem, h⟩
    cases p with
    | nil => exact h.elim
    | cons r p =>
        cases hr : r.step <;> simp only [SameShape, hr, hs] at h
        exact ⟨(p, v), mem_behind_iff.2 ⟨r, by simpa using hr, hmem⟩⟩
  · rintro ⟨⟨p, v⟩, hmem⟩
    obtain ⟨r, hr, hes⟩ := mem_behind_iff.1 hmem
    have hr : r.step = .rest := by simpa using hr
    refine ⟨(r :: p, v), hes, ?_⟩
    simp only [SameShape, hr, hs]

/-- **A pattern has a value in a trie exactly if** an entry of its shape was inserted. -/
theorem isSome_valueAt?_insertAll {es : List (Entry α)}
    (h : es.Pairwise fun a b => SlotsAgree a.1 b.1) (p : List Segment) :
    (((empty : Trie α).insertAll es).valueAt? p).isSome = true ↔
      ∃ e ∈ es, SameShape e.1 p := by
  induction p generalizing es with
  | nil =>
      have hempty : (empty : Trie α).value = none := rfl
      rw [exists_sameShape_nil_iff, valueAt?, value_insertAll, hempty, Option.or_none,
        List.getLast?_isSome]
  | cons s rest ih =>
      cases hs : s.step with
      | literal text =>
          have hchild := ih (pairwise_agree_behind (.literal text) (by simp) h)
          rw [exists_sameShape_literal_iff hs, ← hchild, valueAt?_of_literal _ rest hs,
            literal?_insertAll]
          cases hb : behind (· = .literal text) es with
          | nil => rw [insertAll_nil, valueAt?_empty]; rfl
          | cons e bs => rfl
      | slot c =>
          have hslot := slot_insertAll es (t := (empty : Trie α)) rfl
          rw [valueAt?_of_slot _ rest hs, hslot]
          cases hc : slotConstraints es with
          | nil =>
              rw [exists_sameShape_slot_iff (d := c) hs (by simp [hc]),
                behind_slot_of_slotConstraints_nil c hc]
              simp
          | cons d ds =>
              rw [exists_sameShape_slot_iff hs (slotConstraints_eq_head h hc),
                ← ih (pairwise_agree_behind (.slot d) (by simp) h)]
              rfl
      | rest =>
          have hempty : (empty : Trie α).wildcard = none := rfl
          rw [exists_sameShape_rest_iff hs, valueAt?_of_rest _ rest hs, wildcard_insertAll,
            hempty, Option.or_none, Option.isSome_map, List.getLast?_isSome]

/-! ### The rule of precedence on lists in another order -/

/-- The entries with other values. -/
def mapValues (f : α → β) (es : List (Entry α)) : List (Entry β) :=
  es.map fun e => (e.1, f e.2)

theorem behind_mapValues (leads : Segment.Step → Bool) (f : α → β) (es : List (Entry α)) :
    behind leads (mapValues f es) = mapValues f (behind leads es) := by
  rw [behind, mapValues, mapValues, behind, List.filterMap_map, List.map_filterMap]
  refine List.filterMap_congr ?_
  rintro ⟨p, v⟩ -
  cases p with
  | nil => rfl
  | cons s rest => by_cases hs : leads s.step <;> simp [hs]

theorem ended_mapValues (f : α → β) (es : List (Entry α)) :
    ended (mapValues f es) = (ended es).map f := by
  rw [ended, mapValues, ended, List.filterMap_map, List.map_filterMap]
  refine List.filterMap_congr ?_
  rintro ⟨p, v⟩ -
  cases p <;> rfl

theorem slotConstraints_mapValues (f : α → β) (es : List (Entry α)) :
    slotConstraints (mapValues f es) = slotConstraints es := by
  rw [slotConstraints, mapValues, slotConstraints, List.filterMap_map]
  rfl

theorem mapValues_ne_nil_iff {f : α → β} {es : List (Entry α)} :
    mapValues f es ≠ [] ↔ es ≠ [] := by
  rw [mapValues, ne_eq, List.map_eq_nil_iff]

theorem choose_mapValues (f : α → β) (es : List (Entry α)) (path : List String) :
    choose (mapValues f es) path =
      (choose es path).map fun (v, captured) => (f v, captured) := by
  induction path generalizing es with
  | nil =>
      rw [choose, choose, ended_mapValues, List.getLast?_map]
      cases (ended es).getLast? <;> rfl
  | cons s path ih =>
      rw [choose, choose]
      simp only [behind_mapValues, slotConstraints_mapValues, mapValues_ne_nil_iff, ih]
      by_cases hl : behind (· = .literal s) es = []
      · rw [if_neg (not_not.2 hl), if_neg (not_not.2 hl)]
        by_cases hslot : s ≠ "" ∧ slotConstraints es ≠ []
        · rw [if_pos hslot, if_pos hslot]
          split
          · cases choose (behind (fun st => st.constraint?.isSome) es) path <;> rfl
          · rfl
        · rw [if_neg hslot, if_neg hslot, mapValues, List.getLast?_map]
          cases (behind (· = .rest) es).getLast? <;> rfl
      · rw [if_pos hl, if_pos hl]

/-- The rule of precedence looks at the patterns only. -/
theorem answer_mapValues (f : α → β) (es : List (Entry α)) (path : List String) :
    answer (mapValues f es) path =
      (answer es path).map fun (v, captured) => (f v, captured) := by
  cases path with
  | cons s rest => exact choose_mapValues f es (s :: rest)
  | nil =>
      rw [answer, answer, choose_mapValues, behind_mapValues, mapValues, List.getLast?_map]
      cases choose es [] with
      | some found => rfl
      | none => cases (behind (· = .rest) es).getLast? <;> rfl

theorem behind_perm {es fs : List (Entry α)} (h : es.Perm fs) (leads : Segment.Step → Bool) :
    (behind leads es).Perm (behind leads fs) :=
  h.filterMap _

theorem ended_perm {es fs : List (Entry α)} (h : es.Perm fs) : (ended es).Perm (ended fs) :=
  h.filterMap _

theorem ne_nil_iff_of_perm {l l' : List α} (h : l.Perm l') : l ≠ [] ↔ l' ≠ [] := by
  rw [← List.length_pos_iff, ← List.length_pos_iff, h.length_eq]

/-- A list whose elements exclude each other has at most one. -/
theorem eq_of_perm_of_exclusive {l l' : List α} (hperm : l.Perm l')
    (h : l.Pairwise fun _ _ => False) : l = l' := by
  match l with
  | [] => exact (List.nil_perm.1 hperm).symm
  | [a] => exact List.singleton_perm.1 hperm
  | a :: b :: rest => exact ((List.pairwise_cons.1 h).1 b List.mem_cons_self).elim

/-- Of entries of different shapes at most one has ended. -/
theorem exclusive_ended {es : List (Entry α)}
    (h : es.Pairwise fun a b => ¬SameShape a.1 b.1) : (ended es).Pairwise fun _ _ => False := by
  refine List.Pairwise.filterMap _ ?_ h
  rintro ⟨p, v⟩ ⟨q, w⟩ hpq v' hv w' hw
  cases p with
  | cons s p => cases hv
  | nil =>
      cases q with
      | cons r q => cases hw
      | nil => exact hpq trivial

/-- What entries of different shapes that go on as `leads` asks are to each other behind it. -/
theorem pairwise_behind {leads : Segment.Step → Bool} {R : List Segment → List Segment → Prop}
    {es : List (Entry α)} (hR : ∀ (s r : Segment) (p q : List Segment), leads s.step = true →
      leads r.step = true → ¬SameShape (s :: p) (r :: q) → R p q)
    (h : es.Pairwise fun a b => ¬SameShape a.1 b.1) :
    (behind leads es).Pairwise fun a b => R a.1 b.1 := by
  refine List.Pairwise.filterMap _ ?_ h
  rintro ⟨p, v⟩ ⟨q, w⟩ hpq ⟨p', v'⟩ hp ⟨q', w'⟩ hq
  cases p with
  | nil => cases hp
  | cons s p =>
      cases q with
      | nil => cases hq
      | cons r q =>
          simp only [Option.ite_none_right_eq_some, Option.some.injEq, Prod.mk.injEq] at hp hq
          obtain ⟨hs, rfl, -⟩ := hp
          obtain ⟨hr, rfl, -⟩ := hq
          exact hR s r p q hs hr hpq

/-- Of entries of different shapes at most one goes on with a wildcard. -/
theorem exclusive_behind_rest {es : List (Entry α)}
    (h : es.Pairwise fun a b => ¬SameShape a.1 b.1) :
    (behind (· = .rest) es).Pairwise fun _ _ => False := by
  refine pairwise_behind (R := fun _ _ => False) (fun s r p q hs hr hpq => hpq ?_) h
  simp only [decide_eq_true_eq] at hs hr
  simp only [SameShape, hs, hr]

theorem pairwise_shape_behind_literal (text : String) {es : List (Entry α)}
    (h : es.Pairwise fun a b => ¬SameShape a.1 b.1) :
    (behind (· = .literal text) es).Pairwise fun a b => ¬SameShape a.1 b.1 := by
  refine pairwise_behind (R := fun p q => ¬SameShape p q)
    (fun s r p q hs hr hpq hshape => hpq ?_) h
  simp only [decide_eq_true_eq] at hs hr
  simp only [SameShape, hs, hr]
  exact ⟨trivial, hshape⟩

theorem pairwise_shape_behind_slot {es : List (Entry α)}
    (h : es.Pairwise fun a b => ¬SameShape a.1 b.1) :
    (behind (fun st => st.constraint?.isSome) es).Pairwise
      fun a b => ¬SameShape a.1 b.1 := by
  refine pairwise_behind (R := fun p q => ¬SameShape p q)
    (fun s r p q hs hr hpq hshape => hpq ?_) h
  obtain ⟨c, hc⟩ := Option.isSome_iff_exists.1 hs
  obtain ⟨d, hd⟩ := Option.isSome_iff_exists.1 hr
  simp only [SameShape, Segment.Step.constraint?_eq_some_iff.1 hc,
    Segment.Step.constraint?_eq_some_iff.1 hd]
  exact hshape

/-- The choice among entries of different shapes does not depend on their order. -/
theorem choose_perm {es fs : List (Entry α)} (hperm : es.Perm fs)
    (h : es.Pairwise fun a b => ¬SameShape a.1 b.1) (path : List String) :
    choose es path = choose fs path := by
  induction path generalizing es fs with
  | nil => rw [choose, choose, eq_of_perm_of_exclusive (ended_perm hperm) (exclusive_ended h)]
  | cons s path ih =>
      have hbehind := behind_perm hperm
      have hslots : (slotConstraints es).Perm (slotConstraints fs) := hperm.filterMap _
      rw [choose, choose, ih (hbehind _) (pairwise_shape_behind_literal s h),
        ih (hbehind _) (pairwise_shape_behind_slot h), hslots.all_eq,
        eq_of_perm_of_exclusive (hbehind _) (exclusive_behind_rest h)]
      simp only [ne_nil_iff_of_perm (hbehind _), ne_nil_iff_of_perm hslots]

/-- **The answer of entries of different shapes does not depend on their order.** -/
theorem answer_perm {es fs : List (Entry α)} (hperm : es.Perm fs)
    (h : es.Pairwise fun a b => ¬SameShape a.1 b.1) (path : List String) :
    answer es path = answer fs path := by
  cases path with
  | cons s rest => exact choose_perm hperm h (s :: rest)
  | nil =>
      rw [answer, answer, choose_perm hperm h,
        eq_of_perm_of_exclusive (behind_perm hperm _) (exclusive_behind_rest h)]

end Trie

/-! ### Routes and their numbers -/

variable {ρ : Type}

/-- Two routes answer one method. -/
def Route.SharesMethod (a b : Route ρ) : Prop :=
  ∃ m ∈ a.method.expand, m ∈ b.method.expand

/-- Two routes lead to one place of a trie. -/
def Route.Collides (a b : Route ρ) : Prop :=
  a.SharesMethod b ∧ Trie.SameShape a.pattern.segments b.pattern.segments

/-- Two routes can stand in one table: if they answer one method, they put one constraint on the
slots that they share, and only a table in which routes replace each other takes them both if they
collide. -/
def Route.Compatible (policy : DuplicatePolicy) (a b : Route ρ) : Prop :=
  (a.SharesMethod b → Trie.SlotsAgree a.pattern.segments b.pattern.segments) ∧
    ¬(policy = .reject ∧ a.Collides b)

theorem Route.SharesMethod.symm {a b : Route ρ} (h : a.SharesMethod b) : b.SharesMethod a := by
  obtain ⟨m, ha, hb⟩ := h
  exact ⟨m, hb, ha⟩

theorem Route.Collides.symm {a b : Route ρ} (h : a.Collides b) : b.Collides a :=
  ⟨h.1.symm, h.2.symm⟩

theorem Route.Compatible.symm {policy : DuplicatePolicy} {a b : Route ρ}
    (h : Compatible policy a b) : Compatible policy b a :=
  ⟨fun hm => (h.1 hm.symm).symm, fun hc => h.2 ⟨hc.1, hc.2.symm⟩⟩

/-- The route without its number. -/
def Route.unnumbered (route : Route ρ) : Route ρ :=
  { route with id := 0 }

/-- What a look-up answers, up to the number of the route. -/
def Resolution.unnumbered : Resolution ρ → Resolution ρ
  | .found route bindings => .found route.unnumbered bindings
  | .methodNotAllowed allowed => .methodNotAllowed allowed
  | .notFound => .notFound

namespace RouteTable

open Trie (Entry SlotsAgree SameShape)
open Web (Method)

/-! ### When all routes of a list are accepted -/

/-- Is each of the routes accepted, one after the other? -/
def acceptsAll (t : RouteTable ρ) : List (Route ρ) → Bool
  | [] => true
  | route :: rest => (t.insert route).2.isNone && (t.insert route).1.acceptsAll rest

/-- What routes leave in the trie of a method if all of them are accepted. -/
def entriesOf (m : Method) (routes : List (Route ρ)) : List (Entry (Route ρ)) :=
  (routes.filter (m ∈ ·.method.expand)).map fun route => (route.pattern.segments, route)

theorem acceptsAll_append (t : RouteTable ρ) (routes more : List (Route ρ)) :
    t.acceptsAll (routes ++ more) =
      (t.acceptsAll routes && (t.insertAll routes).acceptsAll more) := by
  induction routes generalizing t with
  | nil => simp [acceptsAll, insertAll]
  | cons route rest ih =>
      simp only [List.cons_append, acceptsAll, insertAll_cons, ih, Bool.and_assoc]

theorem mem_entriesOf_iff {m : Method} {routes : List (Route ρ)} {e : Entry (Route ρ)} :
    e ∈ entriesOf m routes ↔
      ∃ route ∈ routes, m ∈ route.method.expand ∧ (route.pattern.segments, route) = e := by
  simp only [entriesOf, List.mem_map, List.mem_filter, decide_eq_true_eq, and_assoc]

theorem storedEntries_of_acceptsAll {t : RouteTable ρ} {routes : List (Route ρ)}
    (h : t.acceptsAll routes = true) (m : Method) :
    t.storedEntries m routes = entriesOf m routes := by
  induction routes generalizing t with
  | nil => rfl
  | cons route rest ih =>
      rw [acceptsAll, Bool.and_eq_true, Option.isNone_iff_eq_none] at h
      rw [storedEntries, storedUnder_of_accepted h.1, ih h.2, entriesOf, entriesOf]
      by_cases hm : m ∈ route.method.expand <;> simp [hm]

/-- The trie of a method after routes all of which were accepted. -/
theorem trie_of_acceptsAll {policy : DuplicatePolicy} {routes : List (Route ρ)}
    (h : ({ policy } : RouteTable ρ).acceptsAll routes = true) (m : Method) :
    (({ policy } : RouteTable ρ).insertAll routes).trie m =
      (Trie.empty : Trie (Route ρ)).insertAll (entriesOf m routes) := by
  rw [trie_insertAll, storedEntries_of_acceptsAll h]
  rfl

/-- Compatible routes put one constraint on the slots that they share in a trie. -/
theorem pairwise_agree_entriesOf {policy : DuplicatePolicy} {routes : List (Route ρ)}
    (h : routes.Pairwise (Route.Compatible policy)) (m : Method) :
    (entriesOf m routes).Pairwise fun a b => SlotsAgree a.1 b.1 := by
  refine List.pairwise_map.2 (List.pairwise_filter.2 (h.imp fun hab ha hb => ?_))
  exact hab.1 ⟨m, of_decide_eq_true ha, of_decide_eq_true hb⟩

/-- One more route is accepted exactly if it is compatible with all routes in the table. -/
theorem insert_snd_eq_none_iff_compatible {policy : DuplicatePolicy} {routes : List (Route ρ)}
    (h : ({ policy } : RouteTable ρ).acceptsAll routes = true)
    (hpair : routes.Pairwise (Route.Compatible policy)) (route : Route ρ) :
    ((({ policy } : RouteTable ρ).insertAll routes).insert route).2 = none ↔
      ∀ a ∈ routes, a.Compatible policy route := by
  have htakes (m : Method) :
      (({ policy } : RouteTable ρ).insertAll routes).takes route m = true ↔
        ∀ a ∈ routes, m ∈ a.method.expand →
          SlotsAgree a.pattern.segments route.pattern.segments := by
    rw [takes, trie_of_acceptsAll h, Trie.insert_isOk_iff (pairwise_agree_entriesOf hpair m)]
    simp only [mem_entriesOf_iff]
    constructor
    · exact fun hall a ha hm => hall _ ⟨a, ha, hm, rfl⟩
    · rintro hall e ⟨a, ha, hm, rfl⟩
      exact hall a ha hm
  have htaken : (({ policy } : RouteTable ρ).insertAll routes).isTaken route.method.expand
      route.pattern = true ↔ ∃ a ∈ routes, a.Collides route := by
    rw [isTaken, List.any_eq_true]
    simp only [trie_of_acceptsAll h,
      Trie.isSome_valueAt?_insertAll (pairwise_agree_entriesOf hpair _), mem_entriesOf_iff]
    constructor
    · rintro ⟨m, hm, e, ⟨a, ha, hma, rfl⟩, hshape⟩
      exact ⟨a, ha, ⟨m, hma, hm⟩, hshape⟩
    · rintro ⟨a, ha, ⟨m, hma, hm⟩, hshape⟩
      exact ⟨m, hm, _, ⟨a, ha, hma, rfl⟩, hshape⟩
  rw [insert_snd_eq_none_iff, policy_insertAll, htaken]
  constructor
  · rintro ⟨hfree, hall⟩ a ha
    refine ⟨?_, fun hc => hfree ⟨hc.1, a, ha, hc.2⟩⟩
    rintro ⟨m, hma, hm⟩
    exact (htakes m).1 (hall m hm) a ha hma
  · intro hall
    refine ⟨?_, fun m hm => (htakes m).2 fun a ha hma => (hall a ha).1 ⟨m, hma, hm⟩⟩
    rintro ⟨hpolicy, a, ha, hc⟩
    exact (hall a ha).2 ⟨hpolicy, hc⟩

/-- **All routes of a list are accepted exactly if** they are compatible in pairs. -/
theorem acceptsAll_iff_pairwise {policy : DuplicatePolicy} {routes : List (Route ρ)} :
    ({ policy } : RouteTable ρ).acceptsAll routes = true ↔
      routes.Pairwise (Route.Compatible policy) := by
  induction routes using List.reverseRecOn with
  | nil => simp [acceptsAll]
  | append_singleton routes route ih =>
      rw [acceptsAll_append, Bool.and_eq_true, List.pairwise_append]
      by_cases h : ({ policy } : RouteTable ρ).acceptsAll routes = true
      · have hpair := ih.1 h
        simp only [h, true_and, acceptsAll, Bool.and_true, Option.isNone_iff_eq_none,
          insert_snd_eq_none_iff_compatible h hpair, hpair, List.pairwise_singleton,
          List.forall_mem_singleton]
      · exact iff_of_false (fun hall => h hall.1) (fun hall => h (ih.2 hall.1))

/-! ### Routes in another order -/

theorem entriesOf_map_unnumbered (m : Method) (routes : List (Route ρ)) :
    entriesOf m (routes.map Route.unnumbered) =
      Trie.mapValues Route.unnumbered (entriesOf m routes) := by
  rw [entriesOf, entriesOf, Trie.mapValues, List.filter_map, List.map_map, List.map_map]
  rfl

/-- What a look-up finds among accepted routes, up to the number of the route, is the rule of
precedence on the routes without their numbers. -/
theorem find_unnumbered {policy : DuplicatePolicy} {routes : List (Route ρ)}
    (h : ({ policy } : RouteTable ρ).acceptsAll routes = true) (m : Method) (path : List String) :
    (((({ policy } : RouteTable ρ).insertAll routes).trie m).find path).map
        (fun (route, values) => (route.unnumbered, values)) =
      Trie.answer (entriesOf m (routes.map Route.unnumbered)) path := by
  rw [trie_of_acceptsAll h,
    Trie.find_insertAll (pairwise_agree_entriesOf (acceptsAll_iff_pairwise.1 h) m),
    entriesOf_map_unnumbered, Trie.answer_mapValues]

/-- Tables whose look-ups agree up to the numbers of routes resolve paths alike up to them. -/
theorem unnumbered_resolve_congr {t u : RouteTable ρ} (ht : (t.tries.map Prod.fst).Nodup)
    (hu : (u.tries.map Prod.fst).Nodup) {path : String}
    (h : ∀ m, ((t.trie m).find (splitPath path)).map
        (fun (route, values) => (route.unnumbered, values)) =
      ((u.trie m).find (splitPath path)).map fun (route, values) => (route.unnumbered, values))
    (m : Method) : (t.resolve m path).unnumbered = (u.resolve m path).unnumbered := by
  have hallowed : t.allowed path = u.allowed path :=
    allowed_congr ht hu fun m => by simpa using congrArg Option.isSome (h m)
  have hm := h m
  rw [resolve, resolve, hallowed]
  cases hfind : (t.trie m).find (splitPath path) with
  | none =>
      rw [hfind, Option.map_none, eq_comm, Option.map_eq_none_iff] at hm
      rw [hm]
  | some found =>
      obtain ⟨route, values⟩ := found
      rw [hfind, Option.map_some, eq_comm, Option.map_eq_some_iff] at hm
      obtain ⟨⟨route', values'⟩, hfind', heq⟩ := hm
      obtain ⟨hroute, rfl⟩ := Prod.mk.inj heq
      have hpattern : route'.pattern = route.pattern := congrArg (·.pattern) hroute
      rw [hfind']
      simp only [Resolution.unnumbered]
      rw [hroute, hpattern]

/-- **Registration in another order.** Whether all routes of a list are accepted does not depend on
their order nor on their numbers. If they are, and no two of them collide, then every look-up
answers the same, up to the number of the route. -/
theorem resolve_reordered (policy : DuplicatePolicy) {routes others : List (Route ρ)}
    (h : (routes.map Route.unnumbered).Perm (others.map Route.unnumbered)) :
    (({ policy } : RouteTable ρ).acceptsAll routes = true ↔
        ({ policy } : RouteTable ρ).acceptsAll others = true) ∧
      (({ policy } : RouteTable ρ).acceptsAll routes = true →
        (routes.Pairwise fun a b => ¬a.Collides b) →
          ∀ m path,
            ((({ policy } : RouteTable ρ).insertAll routes).resolve m path).unnumbered =
              ((({ policy } : RouteTable ρ).insertAll others).resolve m path).unnumbered) := by
  have hcompatible (l : List (Route ρ)) : l.Pairwise (Route.Compatible policy) ↔
      (l.map Route.unnumbered).Pairwise (Route.Compatible policy) := by
    rw [List.pairwise_map]
    rfl
  have haccepts : ({ policy } : RouteTable ρ).acceptsAll routes = true ↔
      ({ policy } : RouteTable ρ).acceptsAll others = true := by
    rw [acceptsAll_iff_pairwise, acceptsAll_iff_pairwise, hcompatible, hcompatible others]
    exact h.pairwise_iff fun hab => hab.symm
  refine ⟨haccepts, fun haccepted hcollide m path => ?_⟩
  have hkeys (l : List (Route ρ)) :
      ((({ policy } : RouteTable ρ).insertAll l).tries.map Prod.fst).Nodup :=
    nodup_keys_insertAll l List.nodup_nil
  refine unnumbered_resolve_congr (hkeys routes) (hkeys others) (fun m => ?_) m
  have hperm : (entriesOf m (routes.map Route.unnumbered)).Perm
      (entriesOf m (others.map Route.unnumbered)) := (h.filter _).map _
  have hshape : (entriesOf m (routes.map Route.unnumbered)).Pairwise
      fun a b => ¬SameShape a.1 b.1 := by
    refine List.pairwise_map.2 (List.pairwise_filter.2 (List.pairwise_map.2
      (hcollide.imp fun hab ha hb hsame => hab ⟨⟨m, ?_, ?_⟩, hsame⟩)))
    · exact of_decide_eq_true ha
    · exact of_decide_eq_true hb
  rw [find_unnumbered haccepted, find_unnumbered (haccepts.1 haccepted),
    Trie.answer_perm hperm hshape]

/-- Routes that meet at a node of the tries without leading to one place. -/
def meeting : List (Route Unit) :=
  [{ id := 0, method := .only .get, pattern := ⟨[.literal "p", .parameter "id"]⟩,
     source := "/p/{id}", pipeline := () },
    { id := 1, method := .any, pattern := ⟨[.literal "p", .literal "new"]⟩, source := "/p/new",
      pipeline := () },
    { id := 2, method := .only .get, pattern := ⟨[.wildcard "*"]⟩, source := "/*",
      pipeline := () }]

/-- The same routes declared from the last to the first. -/
def meetingReversed : List (Route Unit) :=
  meeting.reverse.zipIdx.map fun (route, n) => { route with id := n }

/-- The route of the slot answers from another place, whose number it has. -/
theorem resolve_reordered_meeting :
    ((({ policy := .reject } : RouteTable Unit).insertAll meetingReversed).resolve .get
        "/p/7").unnumbered =
      .found
        { id := 0, method := .only .get, pattern := ⟨[.literal "p", .parameter "id"]⟩,
          source := "/p/{id}", pipeline := () }
        { pairs := [("id", "7")] } := by
  have hperm : (meeting.map Route.unnumbered).Perm (meetingReversed.map Route.unnumbered) :=
    (List.reverse_perm (meeting.map Route.unnumbered)).symm
  have hcollide : meeting.Pairwise fun a b => ¬a.Collides b := by
    simp [meeting, Route.Collides, SameShape, Segment.step]
  obtain ⟨-, hanswers⟩ := resolve_reordered .reject hperm
  rw [← hanswers (by decide +kernel) hcollide .get "/p/7"]
  rfl

end RouteTable

end Switchyard
