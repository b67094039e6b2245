import Switchyard.Proofs.Framing
import Switchyard.Proofs.Searching

/-!
# Bounds of Repetitions

A search follows a repetition through its least number of copies and then through those that are
left to the most, so it needs bounds that are in order. The reader sees to this: it refuses a count
whose lower bound is the greater one, and the other repetitions have fixed bounds. The invariant is
carried by the state of the reader (`State.IsOrdered`), one step at a time.

## Main results

* `State.IsOrdered.step`: a step keeps the bounds in order.
* `parse_isOrdered`: an expression that was read has its bounds in order.
-/

namespace Switchyard.Regex

/-! ### Pieces -/

/-- The expressions of the pieces have their bounds in order. -/
def AllOrdered (ps : List Piece) : Prop :=
  ∀ p ∈ ps, p.expr.IsOrdered

theorem AllOrdered.nil : AllOrdered [] :=
  List.forall_mem_nil _

theorem AllOrdered.cons {p : Piece} {ps : List Piece} (hp : p.expr.IsOrdered)
    (hps : AllOrdered ps) : AllOrdered (p :: ps) :=
  List.forall_mem_cons.2 ⟨hp, hps⟩

theorem seqAll_isOrdered {es : List Regex} (h : ∀ e ∈ es, e.IsOrdered) :
    (seqAll es).IsOrdered := by
  induction es using seqAll.induct with
  | case1 => trivial
  | case2 e => exact h e List.mem_cons_self
  | case3 e es hne ih =>
      obtain ⟨he, hes⟩ := List.forall_mem_cons.1 h
      rw [seqAll]
      · exact ⟨he, ih hes⟩
      · exact hne

theorem altAll_isOrdered {es : List Regex} (h : ∀ e ∈ es, e.IsOrdered) :
    (altAll es).IsOrdered := by
  induction es using altAll.induct with
  | case1 => trivial
  | case2 e => exact h e List.mem_cons_self
  | case3 e es hne ih =>
      obtain ⟨he, hes⟩ := List.forall_mem_cons.1 h
      rw [altAll]
      · exact ⟨he, ih hes⟩
      · exact hne

theorem AllOrdered.branch {ps : List Piece} (h : AllOrdered ps) : (branch ps).expr.IsOrdered := by
  unfold Regex.branch
  split
  · trivial
  · exact h _ List.mem_cons_self
  · refine seqAll_isOrdered fun e he => ?_
    obtain ⟨p, hp, rfl⟩ := List.mem_map.1 he
    exact h p (List.mem_reverse.1 hp)

theorem isOrdered_of_literal {f : Flags} {c : Char} {byte : Bool} {e : Regex}
    (h : f.literal c byte = .ok e) : e.IsOrdered := by
  unfold Flags.literal at h
  split at h
  · cases h
  · split at h
    · cases h; trivial
    · cases h; trivial

theorem isOrdered_of_dot {f : Flags} {e : Regex} (h : f.dot = .ok e) : e.IsOrdered := by
  unfold Flags.dot at h
  split at h
  · cases h
  · split at h
    · cases h; trivial
    · split at h
      · cases h; trivial
      · cases h; trivial

/-! ### The state of the reader -/

/-- All expressions in the state have their bounds in order. -/
structure State.IsOrdered (st : State) : Prop where
  pieces : AllOrdered st.pieces
  branches : AllOrdered st.branches
  frames : ∀ fr ∈ st.frames, AllOrdered fr.pieces ∧ AllOrdered fr.branches

namespace State.IsOrdered

variable {st st' : State}

theorem content (h : st.IsOrdered) : st.content.expr.IsOrdered := by
  unfold State.content
  split
  · exact h.pieces.branch
  · next hbs =>
      refine altAll_isOrdered fun e he => ?_
      obtain ⟨p, hp, rfl⟩ := List.mem_map.1 he
      exact (AllOrdered.cons h.pieces.branch h.branches) p (List.mem_reverse.1 hp)

theorem add (h : st.IsOrdered) {p : Piece} (hp : p.expr.IsOrdered) (rest : List Char) :
    (st.add p rest).IsOrdered :=
  ⟨.cons hp h.pieces, h.branches, h.frames⟩

theorem enter (h : st.IsOrdered) (flags : Flags) (names : List String) (cs : List Char) :
    (st.enter flags names cs).IsOrdered :=
  ⟨.nil, .nil, List.forall_mem_cons.2 ⟨⟨h.pieces, h.branches⟩, h.frames⟩⟩

theorem openNamed (h : st.IsOrdered) {cs : List Char} (hst' : st.openNamed cs = .ok st') :
    st'.IsOrdered := by
  obtain ⟨b, -, hb⟩ := ok_of_bind hst'
  cases hb
  exact h.enter _ _ _

theorem openFlagged (h : st.IsOrdered) {cs : List Char} (hst' : st.openFlagged cs = .ok st') :
    st'.IsOrdered := by
  obtain ⟨⟨flags, opens, cs⟩, -, hb⟩ := ok_of_bind hst'
  cases opens with
  | true =>
      cases hb
      exact h.enter _ _ _
  | false =>
      cases hb
      exact ⟨.cons trivial h.pieces, h.branches, h.frames⟩

theorem openGroup (h : st.IsOrdered) {cs : List Char} (hst' : st.openGroup cs = .ok st') :
    st'.IsOrdered := by
  unfold State.openGroup at hst'
  split at hst'
  case h_5 => exact h.openNamed hst'
  case h_6 => exact h.openNamed hst'
  case h_7 => exact h.openFlagged hst'
  case h_8 =>
    cases hst'
    exact h.enter _ _ _
  all_goals cases hst'

theorem closeGroup (h : st.IsOrdered) {cs : List Char} (hst' : st.closeGroup cs = .ok st') :
    st'.IsOrdered := by
  unfold State.closeGroup at hst'
  split at hst'
  · cases hst'
  · next fr frames hframes =>
      cases hst'
      obtain ⟨hfr, hframes⟩ := List.forall_mem_cons.1 (hframes ▸ h.frames)
      exact ⟨.cons h.content hfr.1, hfr.2, hframes⟩

theorem repeatLast (h : st.IsOrdered) {least : Nat} {most : Option Nat}
    (hcount : ∀ m, most = some m → least ≤ m) {cs : List Char}
    (hst' : st.repeatLast least most cs = .ok st') : st'.IsOrdered := by
  unfold State.repeatLast at hst'
  split at hst'
  · cases hst'
  · next p ps hpieces =>
      split at hst'
      · cases hst'
        obtain ⟨hp, hps⟩ := List.forall_mem_cons.1 (hpieces ▸ h.pieces)
        exact ⟨.cons ⟨hp, hcount⟩ hps, h.branches, h.frames⟩
      · cases hst'

theorem countedTo (h : st.IsOrdered) {least : Option Nat} {b : Option Nat × List Char}
    (hst' : st.countedTo least b = .ok st') : st'.IsOrdered := by
  unfold State.countedTo at hst'
  split at hst'
  · split at hst'
    · next hle => exact h.repeatLast (fun m hm => Option.some.inj hm ▸ hle) hst'
    · cases hst'
  · cases hst'

theorem countedFrom (h : st.IsOrdered) {b : Option Nat × List Char}
    (hst' : st.countedFrom b = .ok st') : st'.IsOrdered := by
  unfold State.countedFrom at hst'
  split at hst'
  · split at hst'
    · split at hst'
      · exact h.repeatLast (fun m hm => by cases hm) hst'
      · cases hst'
    · obtain ⟨b', -, hb'⟩ := ok_of_bind hst'
      exact h.countedTo hb'
  · split at hst'
    · exact h.repeatLast (fun m hm => (Option.some.inj hm).le) hst'
    · cases hst'
  · cases hst'

theorem readCounted (h : st.IsOrdered) {cs : List Char} (hst' : st.readCounted cs = .ok st') :
    st'.IsOrdered := by
  unfold State.readCounted at hst'
  split at hst'
  · obtain ⟨b, -, hb⟩ := ok_of_bind hst'
    exact h.countedFrom hb
  · cases hst'

theorem addAtom (h : st.IsOrdered) {b : Atom × List Char} (hst' : st.addAtom b = .ok st') :
    st'.IsOrdered := by
  obtain ⟨e, he, hst'⟩ := ok_of_bind hst'
  cases hst'
  refine h.add ?_ b.2
  obtain ⟨a, cs⟩ := b
  cases a with
  | literal c byte => exact isOrdered_of_literal he
  | set s => cases he; trivial
  | look l => cases he; trivial

theorem step (h : st.IsOrdered) {c : Char} {cs : List Char} (hst' : st.step c cs = .ok st') :
    st'.IsOrdered := by
  unfold State.step at hst'
  split at hst'
  case h_1 => exact h.openGroup hst'
  case h_2 => exact h.closeGroup hst'
  case h_3 =>
    cases hst'
    exact ⟨.nil, .cons h.pieces.branch h.branches, h.frames⟩
  case h_4 =>
    obtain ⟨b, -, hst'⟩ := ok_of_bind hst'
    obtain ⟨⟨s, depth, rest⟩, -, hst'⟩ := ok_of_bind hst'
    cases hst'
    exact h.add (p := ⟨.chars s, depth, true⟩) trivial rest
  case h_5 => exact h.repeatLast (fun m hm => by cases hm; exact Nat.zero_le 1) hst'
  case h_6 => exact h.repeatLast (fun m hm => by cases hm) hst'
  case h_7 => exact h.repeatLast (fun m hm => by cases hm) hst'
  case h_8 => exact h.readCounted hst'
  case h_9 =>
    obtain ⟨b, -, hst'⟩ := ok_of_bind hst'
    exact h.addAtom hst'
  case h_10 =>
    obtain ⟨e, he, rfl⟩ := ok_of_map hst'
    exact h.add (isOrdered_of_dot he) cs
  case h_11 =>
    cases hst'
    exact h.add (p := ⟨.look st.flags.caret, 0, true⟩) trivial cs
  case h_12 =>
    cases hst'
    exact h.add (p := ⟨.look st.flags.dollar, 0, true⟩) trivial cs
  case h_13 =>
    obtain ⟨e, he, rfl⟩ := ok_of_map hst'
    exact h.add (isOrdered_of_literal he) cs

theorem runAll (h : st.IsOrdered) (hst' : st.runAll = .ok st') : st'.IsOrdered := by
  induction st using runAll_induction with
  | step st ih =>
      cases hcs : st.flags.skip st.rest with
      | nil =>
          rw [runAll_of_skip_nil hcs] at hst'
          cases hst'
          exact ⟨h.pieces, h.branches, h.frames⟩
      | cons c cs =>
          rw [runAll_of_skip_cons hcs] at hst'
          obtain ⟨st'', hstep, hrun⟩ := ok_of_bind hst'
          exact ih c cs st'' hcs hstep (h.step hstep) hrun

end State.IsOrdered

/-- **An expression that was read** has its bounds in order. -/
theorem parse_isOrdered {text : String} {r : Regex} (h : parse text = .ok r) : r.IsOrdered := by
  obtain ⟨p, hp, -, -, rfl⟩ := parse_eq_ok_iff.1 h
  obtain ⟨st, hrun, hfinish⟩ := ok_of_bind hp
  have hst : st.IsOrdered := State.IsOrdered.runAll ⟨.nil, .nil, List.forall_mem_nil _⟩ hrun
  unfold State.finish at hfinish
  split at hfinish
  · cases hfinish
    exact hst.content
  · cases hfinish

end Switchyard.Regex
