import Mathlib.Data.List.Basic
import Switchyard.Pattern.Parser
import Switchyard.Pattern.Path
import Switchyard.Proofs.Insertion

/-!
# Precedence on the Plain List of Patterns

`answer` resolves a request path on the list of inserted patterns alone: it starts with all
entries as candidates and keeps, segment by segment, those that go on through the literal,
else those that go on through the slot, else it answers with the wildcard that came last.
There is no tree and nothing is taken back. This module shows that a trie made by
insertions, none of which meets a conflict, resolves every path exactly so.

The trie remembers one constraint for each slot, that of the first pattern through it. The
rule asks all candidates instead. The two agree because patterns that were inserted without
a conflict agree pairwise (`accepts_iff_pairwise`), which is the invariant that the
induction over the segments of the path carries.

## Main results

* `walk_insertAll`: the walk through the trie is the choice among the entries.
* `find_eq_answer`: a look-up answers what the rule answers on the list of patterns, and
  these put one constraint on every slot that they share.
-/

namespace Switchyard.Trie

variable {α : Type}

/-- The value that the candidates `es` answer a path with, and what their variables capture.
Literals come first, then the slot, then the candidate with a wildcard that came last. -/
def choose : List (Entry α) → List String → Option (α × List String)
  | es, [] => (ended es).getLast?.map fun v => (v, [])
  | es, s :: path =>
    if behind (· = .literal s) es ≠ [] then
      choose (behind (· = .literal s) es) path
    else if s ≠ "" ∧ slotConstraints es ≠ [] then
      if (slotConstraints es).all fun c => admits c s then
        (choose (behind (fun st => st.constraint?.isSome) es) path).map
          fun (v, captured) => (v, s :: captured)
      else none
    else
      (behind (· = .rest) es).getLast?.map fun (_, v) => (v, [rejoin (s :: path)])

/-- The answer to a whole path. The root path, which has no segments, goes to a wildcard if no
candidate ends there, and the wildcard then captures nothing. -/
def answer (es : List (Entry α)) (path : List String) : Option (α × List String) :=
  match path with
  | [] =>
    (choose es []).or ((behind (· = .rest) es).getLast?.map fun (_, v) => (v, [""]))
  | s :: rest => choose es (s :: rest)

/-- If one constraint is put on the slot, the entries with it are all that go on through the
slot. -/
theorem behind_isSome_eq {es : List (Entry α)} {c : Option Constraint}
    (h : ∀ d ∈ slotConstraints es, d = c) :
    behind (fun st => st.constraint?.isSome) es = behind (· = .slot c) es := by
  refine List.filterMap_congr ?_
  rintro ⟨p, v⟩ hmem
  cases p with
  | nil => rfl
  | cons s rest =>
      cases hs : s.step with
      | literal text => simp [hs, Segment.Step.constraint?]
      | slot d =>
          obtain rfl := h d (mem_slotConstraints_iff.2 ⟨s, rest, v, hs, hmem⟩)
          simp [hs, Segment.Step.constraint?]
      | rest => simp [hs, Segment.Step.constraint?]

/-- **The walk through the trie is the choice among the entries.** The entries that are left
at a node agree pairwise, so the constraint that the slot remembers is that of all of them. -/
theorem walk_insertAll {es : List (Entry α)}
    (h : es.Pairwise fun a b => SlotsAgree a.1 b.1) (path : List String) :
    ((empty : Trie α).insertAll es).walk path = choose es path := by
  induction path generalizing es with
  | nil => rw [walk_insertAll_nil, choose]
  | cons s path ih =>
      rw [choose]
      by_cases hl : behind (· = .literal s) es = []
      · rw [if_neg (not_not.2 hl)]
        by_cases hrest : s = "" ∨ slotConstraints es = []
        · rw [if_neg fun hslot => hrest.elim hslot.1 hslot.2, walk_insertAll_of_rest path hl hrest]
        · obtain ⟨hs, hslot⟩ := not_or.1 hrest
          obtain ⟨c, cs, hc⟩ := List.exists_cons_of_ne_nil hslot
          have hall := slotConstraints_eq_head h hc
          have hadmits : ((slotConstraints es).all fun d => admits d s) = admits c s := by
            rw [Bool.eq_iff_iff, List.all_eq_true]
            exact ⟨fun ha => ha c (hc ▸ List.mem_cons_self), fun ha d hd => hall d hd ▸ ha⟩
          rw [if_pos ⟨hs, hslot⟩, walk_insertAll_of_slot path hl hs hc, hadmits,
            behind_isSome_eq hall, ih (pairwise_agree_behind (.slot c) (by simp) h)]
      · rw [if_pos hl, walk_insertAll_of_literal path hl]
        exact ih (pairwise_agree_behind (.literal s) (by simp) h)

/-- A look-up in a trie that insertions made answers what the rule answers. -/
theorem find_insertAll {es : List (Entry α)}
    (h : es.Pairwise fun a b => SlotsAgree a.1 b.1) (path : List String) :
    ((empty : Trie α).insertAll es).find path = answer es path := by
  cases path with
  | cons s rest => exact walk_insertAll h (s :: rest)
  | nil =>
      rw [find_nil, answer, choose, value_insertAll, takeRest_insertAll]
      exact congrArg (fun v => (Option.map _ v).or _) Option.or_none

/-- **A look-up is the rule of precedence on the list of inserted patterns.** If no insertion
met a conflict, all candidates put one constraint on a slot that they share, and every
request path is resolved by narrowing down the list, segment by segment. -/
theorem find_eq_answer {es : List (Entry α)} (h : (empty : Trie α).accepts es = true) :
    (es.Pairwise fun a b => SlotsAgree a.1 b.1) ∧
      ∀ path : String,
        ((empty : Trie α).insertAll es).find (splitPath path) = answer es (splitPath path) := by
  have hpair := accepts_iff_pairwise.1 h
  exact ⟨hpair, fun path => find_insertAll hpair (splitPath path)⟩

/-- Patterns that share a literal, a slot under two names, and two wildcards. -/
def crossing : List (Entry Nat) :=
  ["/*all", "/p/*", "/p/{id:[0-9]+}", "/a/b/c", "/a/{x}/d", "/p/{nr:[0-9]+}/x", "/p/{id:[0-9]+}"]
    |>.zipIdx.filterMap fun (text, n) => (Pattern.parse text).toOption.map (·.segments, n)

/-- The last pattern of a shape answers, a literal hides the slot beside it, and a segment that
the slot refuses goes to no wildcard. -/
theorem find_eq_answer_crossing :
    (empty : Trie Nat).accepts crossing = true ∧
      (empty.insertAll crossing).find (splitPath "/p/42") = some (6, ["42"]) ∧
      (empty.insertAll crossing).find (splitPath "/p/q/x") = none ∧
      (empty.insertAll crossing).find (splitPath "/a/b/d") = none ∧
      (empty.insertAll crossing).find (splitPath "/") = some (0, [""]) := by
  have haccepts : (empty : Trie Nat).accepts crossing = true := by decide +kernel
  obtain ⟨-, hfind⟩ := find_eq_answer haccepts
  rw [hfind, hfind, hfind, hfind]
  exact ⟨haccepts, by decide +kernel⟩

end Switchyard.Trie
