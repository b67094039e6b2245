import Mathlib.Data.List.Induction
import Switchyard.Table.Trie

/-!
# What a Sequence of Insertions Makes of a Trie

A trie is only ever made by inserting patterns with their values into the empty trie, one
after the other, and each insertion may end in a conflict. This module says what such a
sequence leaves at a node without looking at the tree: the literal children, the slot, the
wildcard and the value of a node are functions of the list of entries that were inserted
below it, and what stands below a child is what the insertion of the remaining entries
(`behind`) makes.

The equations hold for every sequence, also for one with conflicts. An insertion that ends
in a conflict changes nothing at all: a conflict needs a slot that is already there, so all
nodes on the way to it are there as well, and a node that was just made has no slot.

## Main results

* `literal?_insertAll`, `slot_insertAll`, `wildcard_insertAll`, `value_insertAll`: the parts
  of a node, read off the entries.
* `insert_fst_of_error`: an insertion that ends in a conflict leaves the trie as it was.
* `accepts_iff_pairwise`: a sequence of insertions meets no conflict exactly when its
  patterns agree pairwise on the constraints of the slots that they share.
-/

namespace Switchyard.Segment.Step

/-- The constraint that is put on a slot, if the step leads through one. -/
def constraint? : Step → Option (Option Constraint)
  | .slot c => some c
  | _ => none

/-- Only a step through a slot puts a constraint on it. -/
theorem constraint?_eq_some_iff {st : Step} {c : Option Constraint} :
    st.constraint? = some c ↔ st = .slot c := by
  cases st <;> simp [constraint?]

end Switchyard.Segment.Step

namespace Switchyard.Trie

variable {α : Type}

/-! ### Entries and what is left of them -/

/-- A pattern, or what is left of it behind some of its segments, with its value. -/
abbrev Entry (α : Type) := List Segment × α

/-- What is left of the entries whose next segment leads on as `leads` asks. -/
def behind (leads : Segment.Step → Bool) (es : List (Entry α)) : List (Entry α) :=
  es.filterMap fun (p, v) =>
    match p with
    | [] => none
    | s :: rest => if leads s.step then some (rest, v) else none

/-- The values of the entries of which nothing is left. -/
def ended (es : List (Entry α)) : List α :=
  es.filterMap fun (p, v) =>
    match p with
    | [] => some v
    | _ :: _ => none

/-- The constraints of the slots that the next segments lead through, in their order. -/
def slotConstraints (es : List (Entry α)) : List (Option Constraint) :=
  es.filterMap fun (p, _) => p.head?.bind fun s => s.step.constraint?

@[simp] theorem behind_nil (leads : Segment.Step → Bool) :
    behind leads ([] : List (Entry α)) = [] := rfl

theorem behind_cons (leads : Segment.Step → Bool) (e : Entry α) (es : List (Entry α)) :
    behind leads (e :: es) = behind leads [e] ++ behind leads es := by
  simp only [behind, ← List.filterMap_append, List.singleton_append]

@[simp] theorem behind_ended (leads : Segment.Step → Bool) (v : α) :
    behind leads [(([] : List Segment), v)] = [] := rfl

/-- A single entry goes on exactly when its next segment does. -/
theorem behind_segment (leads : Segment.Step → Bool) (s : Segment) (rest : List Segment)
    (v : α) :
    behind leads [(s :: rest, v)] = if leads s.step then [(rest, v)] else [] := by
  by_cases h : leads s.step <;> simp [behind, h]

/-- What is left of an entry comes from an entry with one more segment. -/
theorem mem_behind_iff {leads : Segment.Step → Bool} {es : List (Entry α)}
    {p : List Segment} {v : α} :
    (p, v) ∈ behind leads es ↔ ∃ s, leads s.step = true ∧ (s :: p, v) ∈ es := by
  simp only [behind, List.mem_filterMap]
  constructor
  · rintro ⟨⟨q, w⟩, hmem, h⟩
    cases q with
    | nil => cases h
    | cons s rest =>
        by_cases hs : leads s.step = true
        · simp only [hs, if_true, Option.some.injEq, Prod.mk.injEq] at h
          obtain ⟨rfl, rfl⟩ := h
          exact ⟨s, hs, hmem⟩
        · simp [hs] at h
  · rintro ⟨s, hs, hmem⟩
    exact ⟨(s :: p, v), hmem, by simp [hs]⟩

/-- The values of entries that have ended are those of empty rests. -/
theorem mem_ended_iff {es : List (Entry α)} {v : α} : v ∈ ended es ↔ ([], v) ∈ es := by
  simp only [ended, List.mem_filterMap]
  constructor
  · rintro ⟨⟨q, w⟩, hmem, h⟩
    cases q with
    | nil => cases h; exact hmem
    | cons s rest => cases h
  · intro hmem
    exact ⟨([], v), hmem, rfl⟩

/-- The constraints at the slot are those of the next segments. -/
theorem mem_slotConstraints_iff {es : List (Entry α)} {c : Option Constraint} :
    c ∈ slotConstraints es ↔ ∃ s p v, s.step = .slot c ∧ (s :: p, v) ∈ es := by
  simp only [slotConstraints, List.mem_filterMap]
  constructor
  · rintro ⟨⟨q, w⟩, hmem, h⟩
    cases q with
    | nil => cases h
    | cons s rest => exact ⟨s, rest, w, Segment.Step.constraint?_eq_some_iff.1 h, hmem⟩
  · rintro ⟨s, p, v, hs, hmem⟩
    exact ⟨(s :: p, v), hmem, by simp [hs, Segment.Step.constraint?]⟩

/-- Nothing goes on through a slot on which no constraint is put. -/
theorem behind_slot_of_slotConstraints_nil {es : List (Entry α)} (c : Option Constraint)
    (h : slotConstraints es = []) : behind (· = .slot c) es = [] := by
  by_contra hne
  obtain ⟨⟨p, v⟩, hmem⟩ := List.exists_mem_of_ne_nil _ hne
  obtain ⟨s, hs, hes⟩ := mem_behind_iff.1 hmem
  have : c ∈ slotConstraints es := mem_slotConstraints_iff.2 ⟨s, p, v, by simpa using hs, hes⟩
  rw [h] at this
  cases this

/-! ### Sequences of insertions -/

/-- The trie after the entries were inserted one after the other. -/
def insertAll (t : Trie α) : List (Entry α) → Trie α
  | [] => t
  | (p, v) :: es => (t.insert v p).1.insertAll es

/-- Does none of the insertions, one after the other, end in a conflict? -/
def accepts (t : Trie α) : List (Entry α) → Bool
  | [] => true
  | (p, v) :: es => (t.insert v p).2.isOk && (t.insert v p).1.accepts es

@[simp] theorem insertAll_nil (t : Trie α) : t.insertAll [] = t := rfl

theorem insertAll_append (t : Trie α) (es fs : List (Entry α)) :
    t.insertAll (es ++ fs) = (t.insertAll es).insertAll fs := by
  induction es generalizing t with
  | nil => rfl
  | cons e es ih => exact ih _

theorem accepts_append (t : Trie α) (es fs : List (Entry α)) :
    t.accepts (es ++ fs) = (t.accepts es && (t.insertAll es).accepts fs) := by
  induction es generalizing t with
  | nil => simp [accepts]
  | cons e es ih => simp only [List.cons_append, accepts, insertAll, ih, Bool.and_assoc]

/-- A child, or none yet, after the entries that lead to it were inserted. It is made when
the first of them comes, and it stays when that one ends in a conflict below it. -/
def grown (child : Option (Trie α)) : List (Entry α) → Option (Trie α)
  | [] => child
  | e :: es => some ((child.getD empty).insertAll (e :: es))

theorem grown_append (child : Option (Trie α)) (es fs : List (Entry α)) :
    grown child (es ++ fs) = grown (grown child es) fs := by
  cases es with
  | nil => rfl
  | cons e es =>
      cases fs with
      | nil => rw [List.append_nil]; rfl
      | cons f fs =>
          have h := insertAll_append (child.getD empty) (e :: es) (f :: fs)
          exact congrArg some h

/-- What grows where nothing was is what the entries make of the empty trie. -/
theorem grown_none_getD (es : List (Entry α)) :
    (grown none es).getD empty = (empty : Trie α).insertAll es := by
  cases es <;> rfl

/-! ### One insertion -/

/-- One insertion grows the child of its own literal and no other. -/
theorem literal?_insert (t : Trie α) (v : α) (p : List Segment) (text : String) :
    (t.insert v p).1.literal? text =
      grown (t.literal? text) (behind (· = .literal text) [(p, v)]) := by
  cases p with
  | nil => rfl
  | cons s rest =>
      rw [behind_segment]
      cases hs : s.step with
      | literal other =>
          rw [insert_of_literal t v rest hs]
          by_cases ht : other = text
          · subst ht
            simp [grown, insertAll]
          · have hne : ¬ (Segment.Step.literal other = .literal text) := by simpa using ht
            simp [hne, grown, literal?_withLiteral_of_ne t _ (Ne.symm ht)]
      | slot c =>
          cases hb : t.behindSlot c with
          | error e => simp [insert_of_conflict v rest hs hb, grown]
          | ok child => simp [insert_of_slot v rest hs hb, grown]; rfl
      | rest => simp [insert_of_rest t v rest hs, grown]; rfl

/-- One insertion goes on behind a slot exactly when it puts the same constraint on it. -/
theorem slot_insert_of_some {t child : Trie α} {c : Option Constraint} (v : α)
    (p : List Segment) (h : t.slot = some (c, child)) :
    (t.insert v p).1.slot = some (c, child.insertAll (behind (· = .slot c) [(p, v)])) := by
  cases p with
  | nil => exact h
  | cons s rest =>
      rw [behind_segment]
      cases hs : s.step with
      | literal text => rw [insert_of_literal t v rest hs]; simpa using h
      | slot d =>
          have hb := behindSlot_of_some d h
          by_cases hd : c = d
          · subst hd
            rw [if_pos rfl] at hb
            rw [insert_of_slot v rest hs hb]
            simp [insertAll]
          · rw [if_neg hd] at hb
            rw [insert_of_conflict v rest hs hb, h]
            simp [Ne.symm hd]
      | rest => rw [insert_of_rest t v rest hs]; simpa using h

/-- The first insertion through a slot decides on its constraint. -/
theorem slot_insert_of_none {t : Trie α} (v : α) (p : List Segment) (h : t.slot = none) :
    (t.insert v p).1.slot =
      (slotConstraints [(p, v)]).head?.map fun c =>
        (c, empty.insertAll (behind (· = .slot c) [(p, v)])) := by
  cases p with
  | nil => exact h
  | cons s rest =>
      cases hs : s.step with
      | literal text =>
          rw [insert_of_literal t v rest hs]
          simpa [slotConstraints, hs, Segment.Step.constraint?] using h
      | slot c =>
          rw [insert_of_slot v rest hs (behindSlot_of_none c h)]
          simp [slotConstraints, hs, Segment.Step.constraint?, behind_segment, insertAll]
      | rest =>
          rw [insert_of_rest t v rest hs]
          simpa [slotConstraints, hs, Segment.Step.constraint?] using h

/-- One insertion leaves its value at a wildcard, or touches none. -/
theorem wildcard_insert (t : Trie α) (v : α) (p : List Segment) :
    (t.insert v p).1.wildcard =
      ((behind (· = .rest) [(p, v)]).getLast?.map Prod.snd).or t.wildcard := by
  cases p with
  | nil => rfl
  | cons s rest =>
      rw [behind_segment]
      cases hs : s.step with
      | literal text => rw [insert_of_literal t v rest hs]; rfl
      | slot c =>
          cases hb : t.behindSlot c with
          | error e => rw [insert_of_conflict v rest hs hb]; rfl
          | ok child => rw [insert_of_slot v rest hs hb]; rfl
      | rest => rw [insert_of_rest t v rest hs]; rfl

/-- One insertion leaves its value at the node where its pattern ends. -/
theorem value_insert (t : Trie α) (v : α) (p : List Segment) :
    (t.insert v p).1.value = (ended [(p, v)]).getLast?.or t.value := by
  cases p with
  | nil => rfl
  | cons s rest =>
      cases hs : s.step with
      | literal text => rw [insert_of_literal t v rest hs]; rfl
      | slot c =>
          cases hb : t.behindSlot c with
          | error e => rw [insert_of_conflict v rest hs hb]; rfl
          | ok child => rw [insert_of_slot v rest hs hb]; rfl
      | rest => rw [insert_of_rest t v rest hs]; rfl

/-! ### The parts of a node after a sequence of insertions -/

/-- The child of a literal grows by the entries that go on through it. -/
theorem literal?_insertAll (t : Trie α) (es : List (Entry α)) (text : String) :
    (t.insertAll es).literal? text =
      grown (t.literal? text) (behind (· = .literal text) es) := by
  induction es generalizing t with
  | nil => rfl
  | cons e es ih =>
      obtain ⟨p, v⟩ := e
      rw [insertAll, ih, literal?_insert, behind_cons _ (p, v) es, grown_append]

/-- Below a literal stands what the entries that go on through it make. -/
theorem literal?_insertAll_getD (es : List (Entry α)) (text : String) :
    (((empty : Trie α).insertAll es).literal? text).getD empty =
      empty.insertAll (behind (· = .literal text) es) := by
  rw [literal?_insertAll]
  exact grown_none_getD _

/-- A slot keeps its constraint, and the entries with this constraint go on behind it. -/
theorem slot_insertAll_of_some {t child : Trie α} {c : Option Constraint}
    (es : List (Entry α)) (h : t.slot = some (c, child)) :
    (t.insertAll es).slot = some (c, child.insertAll (behind (· = .slot c) es)) := by
  induction es generalizing t child with
  | nil => exact h
  | cons e es ih =>
      obtain ⟨p, v⟩ := e
      rw [insertAll, ih (slot_insert_of_some v p h), behind_cons _ (p, v) es, insertAll_append]

/-- The first entry that goes on through the slot decides on its constraint, and the entries
with this constraint go on behind it. -/
theorem slot_insertAll {t : Trie α} (es : List (Entry α)) (h : t.slot = none) :
    (t.insertAll es).slot =
      (slotConstraints es).head?.map fun c =>
        (c, empty.insertAll (behind (· = .slot c) es)) := by
  induction es generalizing t with
  | nil => exact h
  | cons e es ih =>
      obtain ⟨p, v⟩ := e
      have hstep := slot_insert_of_none v p h
      have hcons : slotConstraints ((p, v) :: es) =
          slotConstraints [(p, v)] ++ slotConstraints es :=
        List.filterMap_append (l := [(p, v)])
      cases hc : slotConstraints [(p, v)] with
      | nil =>
          rw [hc] at hstep hcons
          have hskip : ∀ c, behind (· = .slot c) [(p, v)] = [] := fun c =>
            behind_slot_of_slotConstraints_nil c hc
          rw [insertAll, ih hstep, hcons, List.nil_append]
          simp only [behind_cons _ (p, v) es, hskip, List.nil_append]
      | cons c cs =>
          rw [hc] at hstep hcons
          rw [insertAll, slot_insertAll_of_some es hstep, hcons, List.cons_append,
            List.head?_cons, Option.map_some, behind_cons _ (p, v) es, insertAll_append]

/-- The wildcard holds the value of the last entry that goes on with one. -/
theorem wildcard_insertAll (t : Trie α) (es : List (Entry α)) :
    (t.insertAll es).wildcard =
      ((behind (· = .rest) es).getLast?.map Prod.snd).or t.wildcard := by
  induction es generalizing t with
  | nil => rfl
  | cons e es ih =>
      obtain ⟨p, v⟩ := e
      rw [insertAll, ih, wildcard_insert, behind_cons _ (p, v) es, List.getLast?_append]
      cases (behind (· = .rest) es).getLast? <;> rfl

/-- The value that a wildcard of the trie answers with is that of the last entry with one. -/
theorem takeRest_insertAll (es : List (Entry α)) (path : List String) :
    ((empty : Trie α).insertAll es).takeRest path =
      (behind (· = .rest) es).getLast?.map fun (_, v) => (v, [rejoin path]) := by
  rw [takeRest, wildcard_insertAll]
  cases (behind (· = .rest) es).getLast? <;> rfl

/-- The node holds the value of the last entry that ends there. -/
theorem value_insertAll (t : Trie α) (es : List (Entry α)) :
    (t.insertAll es).value = (ended es).getLast?.or t.value := by
  induction es generalizing t with
  | nil => rfl
  | cons e es ih =>
      obtain ⟨p, v⟩ := e
      have hcons : ended ((p, v) :: es) = ended [(p, v)] ++ ended es :=
        List.filterMap_append (l := [(p, v)])
      rw [insertAll, ih, value_insert, hcons, List.getLast?_append, Option.or_assoc]

/-! ### A walk, read off the entries -/

/-- A walk ends at the value of the last entry that ends there. -/
theorem walk_insertAll_nil (es : List (Entry α)) :
    ((empty : Trie α).insertAll es).walk [] = (ended es).getLast?.map fun v => (v, []) := by
  rw [walk, value_insertAll]
  exact congrArg _ Option.or_none

/-- A walk goes on among the entries with the literal, if there are any. -/
theorem walk_insertAll_of_literal {es : List (Entry α)} {x : String} (path : List String)
    (h : behind (· = .literal x) es ≠ []) :
    ((empty : Trie α).insertAll es).walk (x :: path) =
      ((empty : Trie α).insertAll (behind (· = .literal x) es)).walk path := by
  have hchild := literal?_insertAll (empty : Trie α) es x
  cases hl : behind (· = .literal x) es with
  | nil => exact absurd hl h
  | cons e rest =>
      rw [hl] at hchild
      exact walk_of_literal path hchild

/-- Else it goes on among the entries with the slot, whose first constraint decides. -/
theorem walk_insertAll_of_slot {es : List (Entry α)} {x : String} {c : Option Constraint}
    {cs : List (Option Constraint)} (path : List String)
    (hl : behind (· = .literal x) es = []) (hx : x ≠ "") (hc : slotConstraints es = c :: cs) :
    ((empty : Trie α).insertAll es).walk (x :: path) =
      if admits c x then
        (((empty : Trie α).insertAll (behind (· = .slot c) es)).walk path).map
          fun (v, captured) => (v, x :: captured)
      else none := by
  have hchild := literal?_insertAll (empty : Trie α) es x
  have hslot := slot_insertAll es (t := (empty : Trie α)) rfl
  rw [hl] at hchild
  rw [hc, List.head?_cons, Option.map_some] at hslot
  exact walk_of_slot path hchild hx hslot

/-- Else it ends at the wildcard of the last entry with one. -/
theorem walk_insertAll_of_rest {es : List (Entry α)} {x : String} (path : List String)
    (hl : behind (· = .literal x) es = []) (h : x = "" ∨ slotConstraints es = []) :
    ((empty : Trie α).insertAll es).walk (x :: path) =
      (behind (· = .rest) es).getLast?.map fun (_, v) => (v, [rejoin (x :: path)]) := by
  have hchild := literal?_insertAll (empty : Trie α) es x
  have hslot := slot_insertAll es (t := (empty : Trie α)) rfl
  rw [hl] at hchild
  have hnone : x = "" ∨ ((empty : Trie α).insertAll es).slot = none :=
    h.imp_right fun hc => by rw [hslot, hc]; rfl
  rw [walk_of_rest path hchild hnone, takeRest_insertAll]

/-! ### Conflicts -/

theorem withLiteral_self {t child : Trie α} {text : String}
    (h : t.literal? text = some child) : t.withLiteral text child = t := by
  obtain ⟨l, s, w, v⟩ := t
  exact congrArg (fun l => node l s w v) (Association.put_of_lookup h)

theorem withSlot_self {t child : Trie α} {c : Option Constraint}
    (h : t.slot = some (c, child)) : t.withSlot c child = t := by
  obtain ⟨l, s, w, v⟩ := t
  exact congrArg (fun s => node l s w v) h.symm

/-- An insertion into the empty trie meets no slot, and so no conflict. -/
theorem insert_empty_snd (v : α) (p : List Segment) :
    ((empty : Trie α).insert v p).2 = .ok none := by
  induction p with
  | nil => rfl
  | cons s rest ih =>
      cases hs : s.step with
      | literal text => rw [insert_of_literal _ v rest hs]; exact ih
      | slot c => rw [insert_of_slot v rest hs (behindSlot_of_none c rfl)]; exact ih
      | rest => rw [insert_of_rest _ v rest hs]; rfl

/-- **An insertion that ends in a conflict changes nothing.** The slot at which it ends was
there before, and so was every node on the way to it. -/
theorem insert_fst_of_error {t : Trie α} {v : α} {p : List Segment} {e : SlotConflict}
    (h : (t.insert v p).2 = .error e) : (t.insert v p).1 = t := by
  induction p generalizing t with
  | nil => cases h
  | cons s rest ih =>
      cases hs : s.step with
      | literal text =>
          rw [insert_of_literal t v rest hs] at h ⊢
          cases hl : t.literal? text with
          | none =>
              rw [hl, Option.getD_none, insert_empty_snd] at h
              cases h
          | some child =>
              rw [hl, Option.getD_some] at h
              rw [Option.getD_some, ih h]
              exact withLiteral_self hl
      | slot c =>
          cases hb : t.behindSlot c with
          | error e' => rw [insert_of_conflict v rest hs hb]
          | ok child =>
              rw [insert_of_slot v rest hs hb] at h ⊢
              cases hslot : t.slot with
              | none =>
                  rw [behindSlot_of_none c hslot, Except.ok.injEq] at hb
                  rw [← hb, insert_empty_snd] at h
                  cases h
              | some existing =>
                  obtain ⟨d, old⟩ := existing
                  rw [behindSlot_of_some c hslot] at hb
                  split at hb
                  · next hd =>
                    obtain rfl := hd
                    obtain rfl := Except.ok.inj hb
                    rw [ih h]
                    exact withSlot_self hslot
                  · cases hb
      | rest => rw [insert_of_rest t v rest hs] at h; cases h

/-- Two patterns put one constraint on every slot that both lead through. Behind the first
place at which they part, they share no slot. -/
def SlotsAgree : List Segment → List Segment → Prop
  | s :: p, r :: q =>
    match s.step, r.step with
    | .literal a, .literal b => a = b → SlotsAgree p q
    | .slot c, .slot d => c = d ∧ SlotsAgree p q
    | _, _ => True
  | _, _ => True

@[simp] theorem slotsAgree_nil_left (q : List Segment) : SlotsAgree [] q := by
  cases q <;> trivial

@[simp] theorem slotsAgree_nil_right (p : List Segment) : SlotsAgree p [] := by
  cases p <;> trivial

/-- With a pattern that goes on through a literal, exactly the rests behind the literal have
to agree. -/
theorem forall_agree_literal_iff {es : List (Entry α)} {s : Segment} {rest : List Segment}
    {text : String} (hs : s.step = .literal text) :
    (∀ e ∈ es, SlotsAgree e.1 (s :: rest)) ↔
      ∀ e ∈ behind (· = .literal text) es, SlotsAgree e.1 rest := by
  constructor
  · rintro h ⟨q, w⟩ he
    obtain ⟨r, hr, hmem⟩ := mem_behind_iff.1 he
    have hr : r.step = .literal text := by simpa using hr
    have := h _ hmem
    simp only [SlotsAgree, hr, hs] at this
    exact this trivial
  · rintro h ⟨q, w⟩ he
    cases q with
    | nil => exact slotsAgree_nil_left _
    | cons r q =>
        cases hr : r.step with
        | literal other =>
            simp only [SlotsAgree, hr, hs]
            rintro rfl
            exact h (q, w) (mem_behind_iff.2 ⟨r, by simpa using hr, he⟩)
        | slot c => simp [SlotsAgree, hr, hs]
        | rest => simp [SlotsAgree, hr, hs]

/-- With a pattern that goes on through a slot, all constraints at the slot have to be its
own, and the rests behind the slot have to agree. -/
theorem forall_agree_slot_iff {es : List (Entry α)} {s : Segment} {rest : List Segment}
    {c : Option Constraint} (hs : s.step = .slot c) :
    (∀ e ∈ es, SlotsAgree e.1 (s :: rest)) ↔
      (∀ d ∈ slotConstraints es, d = c) ∧
        ∀ e ∈ behind (· = .slot c) es, SlotsAgree e.1 rest := by
  constructor
  · intro h
    constructor
    · intro d hd
      obtain ⟨r, q, w, hr, hmem⟩ := mem_slotConstraints_iff.1 hd
      have := h _ hmem
      simp only [SlotsAgree, hr, hs] at this
      exact this.1
    · rintro ⟨q, w⟩ he
      obtain ⟨r, hr, hmem⟩ := mem_behind_iff.1 he
      have hr : r.step = .slot c := by simpa using hr
      have := h _ hmem
      simp only [SlotsAgree, hr, hs] at this
      exact this.2
  · rintro ⟨hc, hrest⟩ ⟨q, w⟩ he
    cases q with
    | nil => exact slotsAgree_nil_left _
    | cons r q =>
        cases hr : r.step with
        | literal text => simp [SlotsAgree, hr, hs]
        | slot d =>
            obtain rfl := hc d (mem_slotConstraints_iff.2 ⟨r, q, w, hr, he⟩)
            simp only [SlotsAgree, hr, hs]
            exact ⟨trivial, hrest (q, w) (mem_behind_iff.2 ⟨r, by simpa using hr, he⟩)⟩
        | rest => simp [SlotsAgree, hr, hs]

/-- Entries that agree pairwise still do so behind a literal or a slot. -/
theorem pairwise_agree_behind {es : List (Entry α)} (st : Segment.Step) (hst : st ≠ .rest)
    (h : es.Pairwise fun a b => SlotsAgree a.1 b.1) :
    (behind (· = st) es).Pairwise fun a b => SlotsAgree a.1 b.1 := by
  refine List.Pairwise.filterMap _ ?_ h
  rintro ⟨p, v⟩ ⟨q, w⟩ hpq ⟨p', v'⟩ hp ⟨q', w'⟩ hq
  cases p with
  | nil => cases hp
  | cons s p =>
      cases q with
      | nil => cases hq
      | cons r q =>
          simp only [Option.ite_none_right_eq_some, decide_eq_true_eq, Option.some.injEq,
            Prod.mk.injEq] at hp hq
          obtain ⟨hs, rfl, rfl⟩ := hp
          obtain ⟨hr, rfl, rfl⟩ := hq
          cases st with
          | literal text =>
              simp only [SlotsAgree, hs, hr] at hpq
              exact hpq trivial
          | slot c =>
              simp only [SlotsAgree, hs, hr] at hpq
              exact hpq.2
          | rest => exact absurd rfl hst

/-- Entries that agree pairwise put one and the same constraint on the slot. -/
theorem pairwise_agree_slotConstraints {es : List (Entry α)}
    (h : es.Pairwise fun a b => SlotsAgree a.1 b.1) : (slotConstraints es).Pairwise (· = ·) := by
  refine List.Pairwise.filterMap _ ?_ h
  rintro ⟨p, v⟩ ⟨q, w⟩ hpq c hc d hd
  cases p with
  | nil => cases hc
  | cons s p =>
      cases q with
      | nil => cases hd
      | cons r q =>
          have hs : s.step = .slot c := Segment.Step.constraint?_eq_some_iff.1 hc
          have hr : r.step = .slot d := Segment.Step.constraint?_eq_some_iff.1 hd
          simp only [SlotsAgree, hs, hr] at hpq
          exact hpq.1

/-- All constraints at the slot are the first one. -/
theorem slotConstraints_eq_head {es : List (Entry α)} {c : Option Constraint}
    {cs : List (Option Constraint)} (h : es.Pairwise fun a b => SlotsAgree a.1 b.1)
    (hc : slotConstraints es = c :: cs) : ∀ d ∈ slotConstraints es, d = c := by
  have hpair := pairwise_agree_slotConstraints h
  rw [hc, List.pairwise_cons] at hpair
  rw [hc]
  rintro d (_ | ⟨_, hd⟩)
  · rfl
  · exact (hpair.1 d hd).symm

/-- One more insertion succeeds exactly when its pattern agrees with all patterns that were
inserted before. -/
theorem insert_isOk_iff {es : List (Entry α)}
    (h : es.Pairwise fun a b => SlotsAgree a.1 b.1) (v : α) (p : List Segment) :
    ((empty.insertAll es).insert v p).2.isOk = true ↔ ∀ e ∈ es, SlotsAgree e.1 p := by
  induction p generalizing es with
  | nil => simp [Except.isOk, Except.toBool]
  | cons s rest ih =>
      cases hs : s.step with
      | literal text =>
          have hchild := ih (pairwise_agree_behind (.literal text) (by simp) h)
          rw [insert_of_literal _ v rest hs, literal?_insertAll_getD,
            forall_agree_literal_iff hs, ← hchild]
      | slot c =>
          rw [forall_agree_slot_iff hs]
          have hslot := slot_insertAll es (t := (empty : Trie α)) rfl
          cases hc : slotConstraints es with
          | nil =>
              rw [hc] at hslot
              rw [insert_of_slot v rest hs (behindSlot_of_none c hslot), insert_empty_snd,
                behind_slot_of_slotConstraints_nil c hc]
              simp [Except.isOk, Except.toBool]
          | cons d ds =>
              rw [hc, List.head?_cons, Option.map_some] at hslot
              have hb := behindSlot_of_some c hslot
              by_cases hd : d = c
              · subst hd
                rw [if_pos rfl] at hb
                rw [insert_of_slot v rest hs hb,
                  ih (pairwise_agree_behind (.slot d) (by simp) h)]
                refine ⟨fun hrest => ⟨?_, hrest⟩, fun hboth => hboth.2⟩
                exact hc ▸ slotConstraints_eq_head h hc
              · rw [if_neg hd] at hb
                rw [insert_of_conflict v rest hs hb]
                constructor
                · intro hok
                  cases hok
                · rintro ⟨hc', -⟩
                  exact absurd (hc' d List.mem_cons_self) hd
      | rest =>
          rw [insert_of_rest _ v rest hs]
          refine ⟨fun _ e _ => ?_, fun _ => rfl⟩
          obtain ⟨q, w⟩ := e
          cases q with
          | nil => exact slotsAgree_nil_left _
          | cons r q => cases hr : r.step <;> simp [SlotsAgree, hr, hs]

/-- **No insertion of a sequence ends in a conflict exactly when its patterns agree pairwise**
on the constraints of the slots that they share. -/
theorem accepts_iff_pairwise {es : List (Entry α)} :
    (empty : Trie α).accepts es = true ↔ es.Pairwise fun a b => SlotsAgree a.1 b.1 := by
  induction es using List.reverseRecOn with
  | nil => simp [accepts]
  | append_singleton es e ih =>
      obtain ⟨p, v⟩ := e
      rw [accepts_append, Bool.and_eq_true, ih, List.pairwise_append]
      constructor
      · rintro ⟨hes, hp⟩
        have hok : ((empty.insertAll es).insert v p).2.isOk = true := by
          simpa [accepts] using hp
        refine ⟨hes, List.pairwise_singleton _ _, fun a ha b hb => ?_⟩
        obtain rfl := List.mem_singleton.1 hb
        exact (insert_isOk_iff hes v p).1 hok a ha
      · rintro ⟨hes, -, hp⟩
        have hok := (insert_isOk_iff hes v p).2 fun a ha => hp a ha (p, v) (by simp)
        exact ⟨hes, by simpa [accepts] using hok⟩

end Switchyard.Trie
