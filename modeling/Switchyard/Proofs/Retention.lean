import Switchyard.Proofs.Refusal
import Switchyard.Proofs.Reordering

/-!
# Routes That Stay Where They Are

A table that rejects duplicates looks for a value at the place of a new route before it writes any
trie, and it looks there whatever constraints the patterns put on their slots. The insertion does
look at the constraints, and may end on the way through the tries. This module shows that the two
walks fit together: the look finds exactly the value that the insertion would replace
(`insert_snd_eq_valueAt?`), and an insertion changes what stands at its own shape and nothing else
(`valueAt?_insert_of_not_sameShape`). So no insertion in a run of such a table replaces a value,
also none of those that a refused route leaves behind.

## Main results

* `Trie.isOk_insert_iff`: an insertion meets no conflict exactly if it agrees with all slots on
  its way.
* `Trie.valueAt?_insert_of_free`: an insertion at a free place keeps all values.
* `valueAt?_insertAll`: a table that rejects duplicates keeps what is in its tries.
* `reject_displaces_nothing`: it displaces nothing, and accepts what fits.
-/

namespace Switchyard

namespace Trie

variable {α : Type}

/-! ### Slots on the way of a pattern -/

/-- The slots that a pattern leads through in a trie, whatever their constraints are: the constraint
that a slot has, with the one that the pattern puts on it. -/
def slotsUsed (t : Trie α) : List Segment → List (Option Constraint × Option Constraint)
  | [] => []
  | s :: rest =>
    match s.step with
    | .literal text => (t.literal? text).elim [] fun child => child.slotsUsed rest
    | .slot incoming =>
      t.slot.elim [] fun (existing, child) => (existing, incoming) :: child.slotsUsed rest
    | .rest => []

theorem slotsUsed_of_literal (t : Trie α) {s : Segment} (rest : List Segment) {text : String}
    (h : s.step = .literal text) :
    t.slotsUsed (s :: rest) = (t.literal? text).elim [] fun child => child.slotsUsed rest := by
  rw [slotsUsed, h]

theorem slotsUsed_of_slot (t : Trie α) {s : Segment} (rest : List Segment)
    {incoming : Option Constraint} (h : s.step = .slot incoming) :
    t.slotsUsed (s :: rest) =
      t.slot.elim [] fun (existing, child) => (existing, incoming) :: child.slotsUsed rest := by
  rw [slotsUsed, h]

theorem slotsUsed_of_rest (t : Trie α) {s : Segment} (rest : List Segment) (h : s.step = .rest) :
    t.slotsUsed (s :: rest) = [] := by
  rw [slotsUsed, h]

/-- **An insertion meets no conflict exactly if** its pattern puts on every slot that it leads
through the constraint that the slot has. -/
theorem isOk_insert_iff (t : Trie α) (v : α) (p : List Segment) :
    (t.insert v p).2.isOk = true ↔ ∀ used ∈ t.slotsUsed p, used.1 = used.2 := by
  induction p generalizing t with
  | nil => exact iff_of_true rfl (List.forall_mem_nil _)
  | cons s rest ih =>
      cases hs : s.step with
      | literal text =>
          rw [insert_of_literal t v rest hs, slotsUsed_of_literal t rest hs]
          cases hl : t.literal? text with
          | none =>
              rw [Option.getD_none, insert_empty_snd]
              exact iff_of_true rfl (List.forall_mem_nil _)
          | some child => exact ih child
      | slot c =>
          rw [slotsUsed_of_slot t rest hs]
          cases hslot : t.slot with
          | none =>
              rw [insert_of_slot v rest hs (behindSlot_of_none c hslot), insert_empty_snd]
              exact iff_of_true rfl (List.forall_mem_nil _)
          | some existing =>
              obtain ⟨d, child⟩ := existing
              have hb := behindSlot_of_some c hslot
              rw [Option.elim_some, List.forall_mem_cons]
              by_cases hd : d = c
              · rw [if_pos hd] at hb
                rw [insert_of_slot v rest hs hb, and_iff_right hd]
                exact ih child
              · rw [if_neg hd] at hb
                rw [insert_of_conflict v rest hs hb]
                exact iff_of_false (fun hok => by cases hok) fun hall => hd hall.1
      | rest =>
          rw [insert_of_rest t v rest hs, slotsUsed_of_rest t rest hs]
          exact iff_of_true rfl (List.forall_mem_nil _)

/-! ### What an insertion does to the values of a trie -/

/-- Patterns of one shape have one value. -/
theorem valueAt?_congr (t : Trie α) {p q : List Segment} (h : SameShape p q) :
    t.valueAt? p = t.valueAt? q := by
  induction p generalizing t q with
  | nil =>
      cases q with
      | nil => rfl
      | cons r q => exact h.elim
  | cons s p ih =>
      cases q with
      | nil => exact h.elim
      | cons r q =>
          cases hs : s.step <;> cases hr : r.step <;> simp only [SameShape, hs, hr] at h
          · obtain ⟨rfl, h⟩ := h
            rw [valueAt?_of_literal t p hs, valueAt?_of_literal t q hr]
            exact congrArg _ (funext fun child => ih child h)
          · rw [valueAt?_of_slot t p hs, valueAt?_of_slot t q hr]
            exact congrArg _ (funext fun behind => ih behind.2 h)
          · rw [valueAt?_of_rest t p hs, valueAt?_of_rest t q hr]

/-- **An insertion replaces the value that a look at its place finds.** -/
theorem insert_snd_eq_valueAt? {t : Trie α} {v : α} {p : List Segment} {old : Option α}
    (h : (t.insert v p).2 = .ok old) : old = t.valueAt? p := by
  induction p generalizing t with
  | nil => exact (Except.ok.inj h).symm
  | cons s rest ih =>
      cases hs : s.step with
      | literal text =>
          rw [insert_of_literal t v rest hs] at h
          rw [valueAt?_of_literal t rest hs]
          cases hl : t.literal? text with
          | none =>
              rw [hl, Option.getD_none, insert_empty_snd] at h
              exact (Except.ok.inj h).symm
          | some child =>
              rw [hl] at h
              exact ih h
      | slot c =>
          rw [valueAt?_of_slot t rest hs]
          cases hslot : t.slot with
          | none =>
              rw [insert_of_slot v rest hs (behindSlot_of_none c hslot), insert_empty_snd] at h
              exact (Except.ok.inj h).symm
          | some existing =>
              obtain ⟨d, child⟩ := existing
              have hb := behindSlot_of_some c hslot
              by_cases hd : d = c
              · rw [if_pos hd] at hb
                rw [insert_of_slot v rest hs hb] at h
                exact ih h
              · rw [if_neg hd] at hb
                rw [insert_of_conflict v rest hs hb] at h
                cases h
      | rest =>
          rw [insert_of_rest t v rest hs] at h
          rw [valueAt?_of_rest t rest hs]
          exact (Except.ok.inj h).symm

/-- **An insertion touches no value but that of its own shape.** -/
theorem valueAt?_insert_of_not_sameShape (t : Trie α) (v : α) {p q : List Segment}
    (h : ¬SameShape p q) : (t.insert v p).1.valueAt? q = t.valueAt? q := by
  induction q generalizing t p with
  | nil =>
      rw [valueAt?, value_insert]
      cases p with
      | nil => exact absurd trivial h
      | cons s p => rfl
  | cons r q ih =>
      cases hr : r.step with
      | literal text =>
          rw [valueAt?_of_literal _ q hr, valueAt?_of_literal _ q hr, literal?_insert]
          cases p with
          | nil => rfl
          | cons s p =>
              rw [behind_segment]
              by_cases hs : s.step = .literal text
              · simp only [SameShape, hs, hr, true_and] at h
                rw [if_pos (decide_eq_true hs), grown, Option.bind_some, insertAll, insertAll,
                  ih _ h]
                cases t.literal? text with
                | none => exact valueAt?_empty q
                | some child => rfl
              · rw [if_neg (by simpa using hs)]
                rfl
      | slot c =>
          rw [valueAt?_of_slot _ q hr, valueAt?_of_slot _ q hr]
          cases hslot : t.slot with
          | none =>
              rw [slot_insert_of_none v p hslot]
              cases hc : slotConstraints [(p, v)] with
              | nil => rfl
              | cons d ds =>
                  obtain ⟨s, rest, w, hs, hmem⟩ :=
                    mem_slotConstraints_iff.1 (hc ▸ List.mem_cons_self : d ∈ _)
                  obtain ⟨rfl, -⟩ := Prod.mk.inj (List.mem_singleton.1 hmem)
                  simp only [SameShape, hs, hr] at h
                  rw [List.head?_cons, Option.map_some, Option.bind_some, behind_segment,
                    if_pos (decide_eq_true hs)]
                  exact (ih empty h).trans (valueAt?_empty q)
          | some existing =>
              obtain ⟨d, child⟩ := existing
              rw [slot_insert_of_some v p hslot, Option.bind_some, Option.bind_some]
              cases p with
              | nil => rfl
              | cons s p =>
                  rw [behind_segment]
                  by_cases hs : s.step = .slot d
                  · simp only [SameShape, hs, hr] at h
                    rw [if_pos (decide_eq_true hs)]
                    exact ih child h
                  · rw [if_neg (by simpa using hs)]
                    rfl
      | rest =>
          rw [valueAt?_of_rest _ q hr, valueAt?_of_rest _ q hr, wildcard_insert]
          cases p with
          | nil => rfl
          | cons s p =>
              have hs : s.step ≠ .rest := fun hs => h (by simp only [SameShape, hs, hr])
              rw [behind_segment, if_neg (by simpa using hs)]
              rfl

/-- **An insertion at a free place keeps all values.** -/
theorem valueAt?_insert_of_free {t : Trie α} {p q : List Segment} {u : α} (v : α)
    (hfree : t.valueAt? p = none) (h : t.valueAt? q = some u) :
    (t.insert v p).1.valueAt? q = some u := by
  have hshape : ¬SameShape p q := fun hshape => by
    rw [t.valueAt?_congr hshape, h] at hfree
    cases hfree
  rw [valueAt?_insert_of_not_sameShape t v hshape, h]

end Trie

namespace RouteTable

open Web (Method)

variable {ρ : Type}

/-! ### What registrations displace -/

/-- The routes that are replaced while a route is put into the trie of one method after the
other. -/
def displacedUnder (t : RouteTable ρ) (route : Route ρ) : List Method → List (Route ρ)
  | [] => []
  | m :: ms =>
    match ((t.trie m).insert route route.pattern.segments).2 with
    | .ok old => old.toList ++ (t.storeUnder route m).displacedUnder route ms
    | .error _ => []

/-- The routes that one registration replaces in all tries. A duplicate that is rejected reaches
no trie. -/
def displacedBy (t : RouteTable ρ) (route : Route ρ) : List (Route ρ) :=
  if t.policy = .reject ∧ t.isTaken route.method.expand route.pattern then []
  else t.displacedUnder route route.method.expand

/-- The routes that a history of registrations replaces, accepted or not. -/
def displaced (t : RouteTable ρ) : List (Route ρ) → List (Route ρ)
  | [] => []
  | route :: rest => t.displacedBy route ++ (t.insert route).1.displaced rest

/-- Where no trie has a value at the place of a route, no value is replaced. -/
theorem displacedUnder_eq_nil {t : RouteTable ρ} {route : Route ρ} {ms : List Method}
    (hms : ms.Nodup) (hfree : ∀ m ∈ ms, (t.trie m).valueAt? route.pattern.segments = none) :
    t.displacedUnder route ms = [] := by
  induction ms generalizing t with
  | nil => rfl
  | cons m ms ih =>
      obtain ⟨hm, hms⟩ := List.nodup_cons.1 hms
      obtain ⟨hfirst, hrest⟩ := List.forall_mem_cons.1 hfree
      rw [displacedUnder]
      split
      · next old hins =>
        have hold : old = none := (Trie.insert_snd_eq_valueAt? hins).trans hfirst
        have hothers : ∀ k ∈ ms,
            ((t.storeUnder route m).trie k).valueAt? route.pattern.segments = none := by
          intro k hk
          rw [trie_storeUnder, if_neg (ne_of_mem_of_not_mem hk hm)]
          exact hrest k hk
        rw [hold, ih hms hothers]
        rfl
      · rfl

/-- No method has a route at the pattern. -/
theorem isTaken_eq_false_iff {t : RouteTable ρ} {methods : List Method} {pattern : Pattern} :
    t.isTaken methods pattern = false ↔
      ∀ m ∈ methods, (t.trie m).valueAt? pattern.segments = none := by
  simp only [isTaken, List.any_eq_false, Option.not_isSome_iff_eq_none]

/-! ### Tables that reject duplicates -/

section Reject

variable {t : RouteTable ρ}

/-- A route that is no duplicate meets no value in its tries. -/
theorem free_of_not_duplicate (hpolicy : t.policy = .reject) {route : Route ρ}
    (h : ¬(t.policy = .reject ∧ t.isTaken route.method.expand route.pattern = true)) :
    ∀ m ∈ route.method.expand, (t.trie m).valueAt? route.pattern.segments = none := by
  rw [and_iff_right hpolicy, Bool.not_eq_true] at h
  exact isTaken_eq_false_iff.1 h

/-- A route that is left in a trie met no value there. -/
theorem free_of_mem_storedUnder (hpolicy : t.policy = .reject) {route : Route ρ} {m : Method}
    (h : m ∈ t.storedUnder route) : (t.trie m).valueAt? route.pattern.segments = none := by
  have hm := mem_expand_of_mem_storedUnder h
  rw [storedUnder] at h
  split at h
  · cases h
  · next hfree => exact free_of_not_duplicate hpolicy hfree m hm

/-- **A registration keeps what is in the tries**, whether it is accepted or refused. -/
theorem valueAt?_insert (hpolicy : t.policy = .reject) (route : Route ρ) {m : Method}
    {p : List Segment} {u : Route ρ} (h : (t.trie m).valueAt? p = some u) :
    ((t.insert route).1.trie m).valueAt? p = some u := by
  rw [trie_insert]
  split
  · next hm => exact Trie.valueAt?_insert_of_free route (free_of_mem_storedUnder hpolicy hm) h
  · exact h

/-- **A history keeps what is in the tries.** -/
theorem valueAt?_insertAll (hpolicy : t.policy = .reject) (history : List (Route ρ)) {m : Method}
    {p : List Segment} {u : Route ρ} (h : (t.trie m).valueAt? p = some u) :
    ((t.insertAll history).trie m).valueAt? p = some u := by
  induction history generalizing t with
  | nil => exact h
  | cons route rest ih =>
      exact ih ((policy_insert t route).trans hpolicy) (valueAt?_insert hpolicy route h)

/-- No registration replaces a route. -/
theorem displacedBy_eq_nil (hpolicy : t.policy = .reject) (route : Route ρ) :
    t.displacedBy route = [] := by
  rw [displacedBy]
  split
  · rfl
  · next hfree =>
    exact displacedUnder_eq_nil (nodup_expand route.method) (free_of_not_duplicate hpolicy hfree)

/-- No history replaces a route. -/
theorem displaced_eq_nil (hpolicy : t.policy = .reject) (history : List (Route ρ)) :
    t.displaced history = [] := by
  induction history generalizing t with
  | nil => rfl
  | cons route rest ih =>
      rw [displaced, displacedBy_eq_nil hpolicy, ih ((policy_insert t route).trans hpolicy)]
      rfl

end Reject

/-- An accepted route stands in the tries of all its methods. -/
theorem valueAt?_of_accepted {t : RouteTable ρ} {route : Route ρ} (h : (t.insert route).2 = none)
    {m : Method} (hm : m ∈ route.method.expand) :
    ((t.insert route).1.trie m).valueAt? route.pattern.segments = some route := by
  have htakes := ((insert_snd_eq_none_iff t route).1 h).2 m hm
  rw [trie_insert, storedUnder_of_accepted h, if_pos hm]
  rw [takes] at htakes
  cases hins : ((t.trie m).insert route route.pattern.segments).2 with
  | ok old => exact Trie.valueAt?_insert_self hins
  | error c => rw [hins] at htakes; cases htakes

/-- **A table that rejects duplicates displaces nothing.** In no history of registrations, whether
they are accepted or refused, does an insertion into a trie replace a route; and a route that was
accepted after any history stands in the tries of all its methods whatever is registered later. A
route is accepted exactly if none of the tries of its methods has a route of its shape, nor another
constraint on one of the slots that the route leads through. -/
theorem reject_displaces_nothing (history : List (Route ρ)) :
    ({ policy := .reject } : RouteTable ρ).displaced history = [] ∧
      ∀ (t : RouteTable ρ) (route : Route ρ),
        t = ({ policy := .reject } : RouteTable ρ).insertAll history →
          ((t.insert route).2 = none ↔
            ∀ m ∈ route.method.expand, (t.trie m).valueAt? route.pattern.segments = none ∧
              ∀ used ∈ (t.trie m).slotsUsed route.pattern.segments, used.1 = used.2) ∧
          ((t.insert route).2 = none → ∀ (later : List (Route ρ)), ∀ m ∈ route.method.expand,
            (((t.insert route).1.insertAll later).trie m).valueAt? route.pattern.segments =
              some route) := by
  refine ⟨displaced_eq_nil rfl history, fun t route ht => ?_⟩
  have hpolicy : t.policy = .reject := by rw [ht, policy_insertAll]
  constructor
  · rw [insert_snd_eq_none_iff, and_iff_right hpolicy, Bool.not_eq_true, isTaken_eq_false_iff,
      ← forall₂_and]
    simp only [takes, Trie.isOk_insert_iff]
  · intro haccepted later m hm
    exact valueAt?_insertAll ((policy_insert t route).trans hpolicy) later
      (valueAt?_of_accepted haccepted hm)

/-- A history whose second route is refused under the third method, and stays under the first
two. -/
def halfway : List (Route Unit) :=
  [bare (.only .post) "/p/{id:[0-9]+}", bare .any "/p/{id:[a-z]+}/x"]

/-- What a refused route left is in the way of others, and is not displaced either. Where it was not
left, a route is accepted, and is not displaced by what comes later. -/
theorem reject_displaces_nothing_halfway :
    ∃ t : RouteTable Unit, t = ({ policy := .reject } : RouteTable Unit).insertAll halfway ∧
      (t.insert (bare (.only .get) "/p/{id:[a-z]+}/x")).2 = some .duplicate ∧
      ({ policy := .reject } : RouteTable Unit).displaced halfway = [] ∧
      (t.insert (bare (.only .put) "/p/{id:[a-z]+}/x")).2 = none ∧
      (((t.insert (bare (.only .put) "/p/{id:[a-z]+}/x")).1.insertAll
        [bare .any "/p/{y}/x", bare (.only .put) "/p/{y:[a-z]+}/x"]).trie .put).valueAt?
          (bare (.only .put) "/p/{id:[a-z]+}/x").pattern.segments =
        some (bare (.only .put) "/p/{id:[a-z]+}/x") := by
  obtain ⟨hnone, hall⟩ := reject_displaces_nothing halfway
  obtain ⟨hiff, hstays⟩ := hall _ (bare (.only .put) "/p/{id:[a-z]+}/x") rfl
  have haccepted := hiff.2 (by decide +kernel)
  exact ⟨_, rfl, by decide +kernel, hnone, haccepted,
    hstays haccepted _ .put List.mem_cons_self⟩

end RouteTable

end Switchyard
