import Switchyard.Proofs.Matching
import Switchyard.Proofs.Retention

/-!
# Tries as Maps of Shapes

A trie that insertions made is a map from shapes of patterns to values. The shape of a pattern says
where its literals, its variables and its wildcard stand, and forgets what the variables are called
and which constraints they have. An insertion that is accepted writes the value of its own shape and
reports the one that stood there; one that ends in a conflict writes nothing.

For patterns that were read from a text, where nothing follows a wildcard, two patterns lead to one
place exactly if their shapes are equal (`sameShape_iff_shape_eq`). With the two laws of one step
this gives what a whole sequence of insertions stores: the refused ones leave no trace
(`insertAll_accepted`), and of the accepted ones with one shape the last is found
(`valueAt?_insertAll_eq_last`).

## Main results

* `conflict_leaves_no_trace`: an insertion that ends in a conflict leaves the trie, and so whatever
  comes later, as if it had not been tried.
* `valueAt?_insertAll_eq_last`: what stands at a pattern after a sequence of insertions.
* `insert_keyed_by_shape`: an accepted insertion replaces the value of its shape and no other.
-/

namespace Switchyard

/-- The step without the constraint on its slot. -/
def Segment.Step.bare : Segment.Step → Segment.Step
  | .slot _ => .slot none
  | st => st

namespace Trie

variable {α : Type}

/-! ### Shapes -/

/-- The shape of a pattern: its literals, its variables and its wildcard in their places, whatever
the variables are called and whatever constraints they have. -/
def shape (p : List Segment) : List Segment.Step :=
  p.map fun s => s.step.bare

/-- These are the segments of a pattern that was read from a text. -/
def IsCompiled (p : List Segment) : Prop :=
  ∃ text pattern, Pattern.parse text = .ok pattern ∧ pattern.segments = p

theorem IsCompiled.wildcardLast {p : List Segment} (h : IsCompiled p) : WildcardLast p := by
  obtain ⟨text, pattern, hparse, rfl⟩ := h
  exact (wellFormed_of_parse hparse).wildcardLast

/-- The segments of the pattern that a text writes. -/
def compiled (text : String) : List Segment :=
  ((Pattern.parse text).toOption.map (·.segments)).getD []

theorem isCompiled_compiled (text : String) (h : (Pattern.parse text).isOk = true) :
    IsCompiled (compiled text) := by
  rw [compiled]
  cases hparse : Pattern.parse text with
  | ok p => exact ⟨text, p, hparse, rfl⟩
  | error fault => rw [hparse] at h; cases h

/-- Two patterns whose wildcards stand last lead to one place exactly if they have one shape. -/
theorem sameShape_iff_shape_eq {p q : List Segment} (hp : WildcardLast p) (hq : WildcardLast q) :
    SameShape p q ↔ shape p = shape q := by
  induction p generalizing q with
  | nil => cases q <;> simp [SameShape, shape]
  | cons s p ih =>
      cases q with
      | nil => simp [SameShape, shape]
      | cons r q =>
          have hcons := ih hp.2 hq.2
          simp only [shape, List.map_cons, List.cons.injEq] at hcons ⊢
          rw [← hcons]
          cases hs : s.step <;> cases hr : r.step <;>
            simp only [SameShape, hs, hr, Segment.Step.bare, Segment.Step.literal.injEq,
              reduceCtorEq, false_and, true_and]
          -- behind two wildcards nothing follows
          obtain rfl := hp.1 hs
          obtain rfl := hq.1 hr
          exact iff_of_true trivial trivial

/-! ### Insertions that end in a conflict -/

/-- What comes of each insertion of a sequence: the value that it replaced, or its conflict. -/
def results (t : Trie α) : List (Entry α) → List (Except SlotConflict (Option α))
  | [] => []
  | (p, v) :: es => (t.insert v p).2 :: (t.insert v p).1.results es

/-- The entries of a sequence whose insertion meets no conflict. -/
def accepted (t : Trie α) : List (Entry α) → List (Entry α)
  | [] => []
  | (p, v) :: es =>
    if (t.insert v p).2.isOk then (p, v) :: (t.insert v p).1.accepted es
    else (t.insert v p).1.accepted es

theorem results_append (t : Trie α) (es fs : List (Entry α)) :
    t.results (es ++ fs) = t.results es ++ (t.insertAll es).results fs := by
  induction es generalizing t with
  | nil => rfl
  | cons e es ih => exact congrArg _ (ih _)

theorem accepted_append (t : Trie α) (es fs : List (Entry α)) :
    t.accepted (es ++ fs) = t.accepted es ++ (t.insertAll es).accepted fs := by
  induction es generalizing t with
  | nil => rfl
  | cons e es ih =>
      simp only [List.cons_append, accepted, insertAll, ih]
      split <;> rfl

theorem length_results (t : Trie α) (es : List (Entry α)) : (t.results es).length = es.length := by
  induction es generalizing t with
  | nil => rfl
  | cons e es ih => exact congrArg (· + 1) (ih _)

/-- An insertion that is not accepted ended in a conflict, and changed nothing. -/
theorem insert_fst_of_not_isOk {t : Trie α} {v : α} {p : List Segment}
    (h : ¬(t.insert v p).2.isOk = true) : (t.insert v p).1 = t := by
  cases hresult : (t.insert v p).2 with
  | ok old => rw [hresult] at h; exact absurd rfl h
  | error c => exact insert_fst_of_error hresult

/-- **A sequence of insertions makes what its accepted entries make**, one after the other. -/
theorem insertAll_accepted (t : Trie α) (es : List (Entry α)) :
    t.insertAll (t.accepted es) = t.insertAll es := by
  induction es generalizing t with
  | nil => rfl
  | cons e es ih =>
      obtain ⟨p, v⟩ := e
      rw [accepted, insertAll]
      split
      · exact ih _
      · next hrefused =>
        rw [insert_fst_of_not_isOk hrefused]
        exact ih t

/-- **An insertion that ends in a conflict leaves no trace.** After any sequence of insertions,
accepted or not, the trie is the very same as before; and whatever is inserted later, the trie and
all other results are those of the sequence without the insertion. -/
theorem conflict_leaves_no_trace {es : List (Entry α)} {p : List Segment} {v : α}
    {c : SlotConflict} (h : (((empty : Trie α).insertAll es).insert v p).2 = .error c) :
    (((empty : Trie α).insertAll es).insert v p).1 = empty.insertAll es ∧
      ∀ later : List (Entry α),
        (empty : Trie α).insertAll (es ++ (p, v) :: later) = empty.insertAll (es ++ later) ∧
        ((empty : Trie α).results (es ++ (p, v) :: later)).eraseIdx es.length =
          empty.results (es ++ later) := by
  have hsame := insert_fst_of_error h
  refine ⟨hsame, fun later => ⟨?_, ?_⟩⟩
  · rw [insertAll_append, insertAll_append, insertAll, hsame]
  · have hlength := length_results empty es
    rw [results_append, results_append, results, hsame,
      List.eraseIdx_append_of_length_le hlength.le, hlength, Nat.sub_self, List.eraseIdx_zero,
      List.tail_cons]

/-- Three entries, the second of which meets the constraint of the first at their slot. -/
def disputed : List (Entry Nat) :=
  [(compiled "/p/{id:[0-9]+}", 0), (compiled "/p/{id:[a-z]+}/x", 1), (compiled "/p/q", 2)]

/-- A conflict behind a literal, after another conflict at the same slot: the trie is the one of
before, and so is what a later insertion comes to. -/
theorem conflict_leaves_no_trace_disputed :
    ((((empty : Trie Nat).insertAll disputed).insert 9 (compiled "/p/{nr}/new")).2.mapError
        fun c => (c.existingText, c.incomingText)) = .error ("[0-9]+", "<none>") ∧
      (((empty : Trie Nat).insertAll disputed).insert 9 (compiled "/p/{nr}/new")).1 =
        empty.insertAll disputed ∧
      ((empty : Trie Nat).results
        (disputed ++ [(compiled "/p/{nr}/new", 9), (compiled "/p/{x:[0-9]+}", 10)]))[4]? =
          some (.ok (some 0)) := by
  have hreport : ((((empty : Trie Nat).insertAll disputed).insert 9
      (compiled "/p/{nr}/new")).2.mapError fun c => (c.existingText, c.incomingText)) =
        .error ("[0-9]+", "<none>") := by decide +kernel
  cases hresult : (((empty : Trie Nat).insertAll disputed).insert 9 (compiled "/p/{nr}/new")).2 with
  | ok old => rw [hresult] at hreport; cases hreport
  | error c =>
      obtain ⟨hsame, -⟩ := conflict_leaves_no_trace hresult
      exact ⟨hresult ▸ hreport, hsame, by decide +kernel⟩

/-! ### Values by shape -/

/-- What an accepted insertion does to the value at any pattern. -/
theorem valueAt?_insert_of_ok {t : Trie α} {v : α} {old : Option α} {p q : List Segment}
    (hp : WildcardLast p) (hq : WildcardLast q) (h : (t.insert v p).2 = .ok old) :
    (t.insert v p).1.valueAt? q = if shape p = shape q then some v else t.valueAt? q := by
  split
  · next hshape =>
    rw [← valueAt?_congr _ ((sameShape_iff_shape_eq hp hq).2 hshape)]
    exact valueAt?_insert_self h
  · next hshape =>
    exact valueAt?_insert_of_not_sameShape t v fun hsame =>
      hshape ((sameShape_iff_shape_eq hp hq).1 hsame)

/-- **The value at a pattern is that of the last accepted entry of its shape**, after any sequence
of insertions of patterns that were read from texts. -/
theorem valueAt?_insertAll_eq_last {es : List (Entry α)} {q : List Segment}
    (hes : ∀ e ∈ es, IsCompiled e.1) (hq : IsCompiled q) :
    ((empty : Trie α).insertAll es).valueAt? q =
      (((empty : Trie α).accepted es).filter fun e => shape e.1 = shape q).getLast?.map
        Prod.snd := by
  induction es using List.reverseRecOn with
  | nil => exact valueAt?_empty q
  | append_singleton es e ih =>
      obtain ⟨p, v⟩ := e
      obtain ⟨hes, hp⟩ := List.forall_mem_append.1 hes
      have hp := (List.forall_mem_singleton.1 hp).wildcardLast
      rw [insertAll_append, accepted_append, insertAll, insertAll, accepted, accepted]
      cases hresult : ((empty.insertAll es).insert v p).2 with
      | error c =>
          rw [insert_fst_of_error hresult, ih hes, Except.isOk, Except.toBool, if_neg (by simp),
            List.append_nil]
      | ok old =>
          rw [valueAt?_insert_of_ok hp hq.wildcardLast hresult, ih hes, Except.isOk,
            Except.toBool, if_pos rfl, List.filter_append, List.getLast?_append]
          by_cases hshape : shape p = shape q <;> simp [hshape]

/-- **A trie is a map keyed by shapes.** After any sequence of insertions, accepted or not, an
insertion that is accepted reports the value that stood at its pattern, and afterwards its value
stands at all patterns of the same shape, and at every other pattern what stood there before. -/
theorem insert_keyed_by_shape (es : List (Entry α)) {p q : List Segment} (hp : IsCompiled p)
    (hq : IsCompiled q) (v : α) {old : Option α}
    (h : (((empty : Trie α).insertAll es).insert v p).2 = .ok old) :
    old = ((empty : Trie α).insertAll es).valueAt? p ∧
      (((empty : Trie α).insertAll es).insert v p).1.valueAt? q =
        if shape p = shape q then some v else ((empty : Trie α).insertAll es).valueAt? q :=
  ⟨insert_snd_eq_valueAt? h, valueAt?_insert_of_ok hp.wildcardLast hq.wildcardLast h⟩

/-- A pattern takes the place of one with another name, also for a look with another constraint,
and a pattern that goes on behind it keeps its value. -/
theorem insert_keyed_by_shape_disputed :
    (((empty : Trie Nat).insertAll disputed).insert 9 (compiled "/p/{nr:[0-9]+}")).2 =
        .ok (some 0) ∧
      (((empty : Trie Nat).insertAll disputed).insert 9 (compiled "/p/{nr:[0-9]+}")).1.valueAt?
        (compiled "/p/{x}") = some 9 ∧
      (((empty : Trie Nat).insertAll disputed).insert 9 (compiled "/p/{nr:[0-9]+}")).1.valueAt?
        (compiled "/p/q") = some 2 := by
  have hp : IsCompiled (compiled "/p/{nr:[0-9]+}") := isCompiled_compiled _ (by decide +kernel)
  have hok : (((empty : Trie Nat).insertAll disputed).insert 9
      (compiled "/p/{nr:[0-9]+}")).2 = .ok (some 0) := by decide +kernel
  have hsame := insert_keyed_by_shape disputed hp
    (isCompiled_compiled "/p/{x}" (by decide +kernel)) 9 hok
  have hother := insert_keyed_by_shape disputed hp
    (isCompiled_compiled "/p/q" (by decide +kernel)) 9 hok
  exact ⟨hok, hsame.2.trans (by decide +kernel), hother.2.trans (by decide +kernel)⟩

end Trie

end Switchyard
