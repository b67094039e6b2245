import Switchyard.Proofs.Bracketing
import Switchyard.Regex.Parser

/-!
# Text Behind a Group or a Repetition

The parts of an expression that change the state of its reader, read alone and in front of a tail:
names and flags of groups, counts, and with them one step of the reader (`step_follows`). With the
cases of the earlier modules a step alone tells what it does in front of a tail.

The steps are compared at one and the same state. The frame of an expression also opens a group
around it, so its reader has one more open group throughout; this is left to the runs.

## Main results

* `step_follows`: a step with a tail and without.
-/

namespace Switchyard.Regex

open Text (isBlank)
open Leaves (rest extend)

instance : Leaves State := ⟨State.rest, fun st t => { st with rest := st.rest ++ t }⟩

/-! ### Groups -/

theorem readName_follows (names : List String) (cs : List Char) :
    Follows Past cs (readName names cs) fun t => readName names (cs ++ t.chars) := by
  unfold readName
  obtain ⟨hnone, h⟩ | ⟨ds, hds, h⟩ := dropWhile_ne_append (c := '>') (by decide) (by decide) cs
  · simp only [hnone, h]
    exact .fault
  · simp only [hds, (h _).1, (h _).2]
    refine Follows.mono ?_ ((List.suffix_cons '>' ds).trans (hds ▸ List.dropWhile_suffix _))
    cases cs.takeWhile (· ≠ '>') with
    | nil => exact .fault
    | cons c name =>
        simp only
        split
        · split
          · exact .fault
          · exact .refl List.suffix_rfl
        · exact .fault

theorem readFlags_follows (f : Flags) (seen cs : List Char) :
    Follows Past cs (readFlags f seen cs) fun t => readFlags f seen (cs ++ t.chars) := by
  induction cs generalizing f seen with
  | nil =>
      refine .fails fun t b hb => ?_
      simp only [List.nil_append, Tail.chars, readFlags] at hb
      split at hb
      · next heq => cases heq
      · simp only [if_true] at hb
        split at hb
        · cases hb
        · split at hb
          · cases hb
          · cases hb
            exact List.suffix_rfl
  | cons c cs ih =>
      simp only [List.cons_append, readFlags]
      refine Follows.mono ?_ (List.suffix_cons c cs)
      split
      · split
        · exact .fault
        · exact .refl List.suffix_rfl
      · split
        · split
          · exact .fault
          · split
            · exact .fault
            · exact .refl List.suffix_rfl
        · split
          · exact .fault
          · split
            · exact ih _ _
            · cases f.set? c (!seen.contains '-') with
              | none => exact .fault
              | some f => exact ih _ _

variable (st : State)

/-- The state in a group that was opened. -/
def State.enter (flags : Flags) (names : List String) (cs : List Char) : State :=
  { rest := cs, flags := flags, names := names, pieces := [], branches := []
    frames := ⟨st.pieces, st.branches, st.flags⟩ :: st.frames }

/-- A group is opened behind its name. -/
def State.openNamed (cs : List Char) : Except Fault State := do
  let (name, cs) ← readName st.names cs
  .ok (st.enter st.flags (name :: st.names) cs)

/-- A group is opened behind its flags, or the flags are set. -/
def State.openFlagged (cs : List Char) : Except Fault State := do
  let (flags, opens, cs) ← readFlags st.flags [] cs
  if opens then .ok (st.enter flags st.names cs)
  else .ok { st.add { expr := .empty, repeatable := false } cs with flags := flags }

theorem openNamed_follows (cs : List Char) :
    Follows Past cs (st.openNamed cs) fun t => st.openNamed (cs ++ t.chars) :=
  (readName_follows st.names cs).next fun _ => .refl List.suffix_rfl

theorem openFlagged_follows (cs : List Char) :
    Follows Past cs (st.openFlagged cs) fun t => st.openFlagged (cs ++ t.chars) := by
  refine (readFlags_follows st.flags [] cs).next fun ⟨flags, opens, cs⟩ => ?_
  cases opens with
  | true => exact .refl List.suffix_rfl
  | false => exact .refl List.suffix_rfl

/-- Up to two characters behind the question mark decide what is opened; a parenthesis is none of
them. -/
theorem openGroup_question_follows {cs ds : List Char} (hds : st.flags.skip cs = '?' :: ds)
    (hds' : ∀ t : Tail, st.flags.skip (cs ++ t.chars) = '?' :: (ds ++ t.chars)) :
    Follows Past ds (st.openGroup cs) fun t => st.openGroup (cs ++ t.chars) := by
  have hname := openNamed_follows st
  have hflags := openFlagged_follows st ds
  unfold State.openGroup
  simp only [hds, hds']
  cases ds with
  | nil => exact hflags
  | cons d es =>
      by_cases heq : d = '='
      · subst heq
        exact .fault
      by_cases hnot : d = '!'
      · subst hnot
        exact .fault
      by_cases hangle : d = '<'
      · subst hangle
        refine Follows.mono ?_ (List.suffix_cons '<' es)
        cases es with
        | nil => exact hname []
        | cons e es =>
            by_cases heq : e = '='
            · subst heq
              exact .fault
            by_cases hnot : e = '!'
            · subst hnot
              exact .fault
            simp only [List.cons_append, heq, hnot, List.cons.injEq, false_and, imp_self,
              implies_true]
            exact hname (e :: es)
      by_cases hp : d = 'P'
      · subst hp
        cases es with
        | nil => exact hflags
        | cons e es =>
            by_cases hangle : e = '<'
            · subst hangle
              exact (hname es).mono ((List.suffix_cons '<' es).trans (List.suffix_cons 'P' _))
            · simp only [List.cons_append, hangle, List.cons.injEq, true_and, false_and, imp_self,
                implies_true, Char.reduceEq]
              exact hflags
      simp only [List.cons_append, heq, hnot, hangle, hp, List.cons.injEq, false_and, imp_self,
        implies_true]
      exact hflags

theorem openGroup_follows (cs : List Char) :
    Follows Past cs (st.openGroup cs) fun t => st.openGroup (cs ++ t.chars) := by
  obtain h | ⟨hnil, h⟩ := skip_append st.flags cs
  · refine Follows.mono ?_ (skip_suffix st.flags cs)
    by_cases hquestion : ∃ ds, st.flags.skip cs = '?' :: ds
    · obtain ⟨ds, hds⟩ := hquestion
      rw [hds] at h ⊢
      exact (openGroup_question_follows st hds h).mono (List.suffix_cons '?' ds)
    · unfold State.openGroup
      simp only [h]
      cases hcs : st.flags.skip cs with
      | nil => exact .refl List.suffix_rfl
      | cons c ds =>
          have hc : c ≠ '?' := fun hc => hquestion ⟨ds, hc ▸ hcs⟩
          simp only [List.cons_append, hc, List.cons.injEq, false_and, imp_self, implies_true]
          exact .refl List.suffix_rfl
  · simp only [State.openGroup, hnil, h]
    exact .swallowed rfl fun _ => rfl

theorem closeGroup_follows (cs : List Char) :
    Follows Past cs (st.closeGroup cs) fun t => st.closeGroup (cs ++ t.chars) := by
  unfold State.closeGroup
  cases st.frames with
  | nil => exact .fault
  | cons fr frames => exact .refl List.suffix_rfl

/-! ### Repetitions -/

theorem repeatLast_follows (least : Nat) (most : Option Nat) (cs : List Char) :
    Follows Past cs (st.repeatLast least most cs)
      fun t => st.repeatLast least most (cs ++ t.chars) := by
  unfold State.repeatLast
  cases st.pieces with
  | nil => exact .fault
  | cons p ps =>
      simp only
      split
      · cases cs with
        | nil => exact .refl List.suffix_rfl
        | cons c cs =>
            by_cases hc : c = '?'
            · subst hc
              exact .refl (List.suffix_cons '?' cs)
            · simp only [List.cons_append, hc, List.cons.injEq, false_and, imp_self, implies_true]
              exact .refl List.suffix_rfl
      · exact .fault

/-- The repetition in braces, behind the blanks and comments that follow the braces. -/
theorem repeatLast_skip_follows (least : Nat) (most : Option Nat) (cs : List Char) :
    Follows Past cs (st.repeatLast least most (st.flags.skip cs))
      fun t => st.repeatLast least most (st.flags.skip (cs ++ t.chars)) :=
  .skip (K := fun cs => st.repeatLast least most cs) (L := fun _ cs => st.repeatLast least most cs)
    st.flags (fun _ => rfl) (repeatLast_follows st least most _)

variable (f : Flags)

theorem readCountDigits_nil (n : Nat) (acc : Option Nat) :
    readCount.digits f n acc [] = .ok (acc, []) := by
  cases n <;> rfl

theorem readCountDigits_follows {n : Nat} (acc : Option Nat) {cs : List Char}
    (hn : cs.length < n) :
    Follows Past cs (readCount.digits f n acc cs)
      fun t => readCount.digits f (n + t.chars.length) acc (cs ++ t.chars) := by
  induction n generalizing acc cs with
  | zero => cases hn
  | succ n ih =>
      simp only [Nat.add_right_comm n 1]
      cases cs with
      | nil =>
          refine .left List.suffix_rfl fun t => ?_
          have hskip : f.skip t.chars = t.chars := skip_cons f (by decide) (by decide) t.more
          exact congrArg (fun cs => Except.ok (acc, cs)) hskip
      | cons c ds =>
          simp only [List.cons_append, readCount.digits]
          split
          · split
            · have hle := (skip_suffix f ds).length_le
              rw [List.length_cons] at hn
              refine Follows.mono ?_ (List.suffix_cons c ds)
              refine Follows.skip (K := fun cs => readCount.digits f n (some _) cs)
                (L := fun t cs => readCount.digits f (n + t.chars.length) (some _) cs) f
                (fun _ => ?_) (ih _ (by omega))
              rw [readCountDigits_nil, readCountDigits_nil]
            · exact .fault
          · have hdrop (t : Tail) : (c :: (ds ++ t.chars)).dropWhile isBlank =
                (c :: ds).dropWhile isBlank ++ t.chars :=
              dropWhile_append_tail (by decide) (c :: ds) t
            simp only [hdrop]
            exact (Follows.skipped f acc).mono (List.dropWhile_suffix _)

theorem readCount_follows (cs : List Char) :
    Follows Past cs (readCount f cs) fun t => readCount f (cs ++ t.chars) := by
  have hdrop (t : Tail) : (cs ++ t.chars).dropWhile isBlank = cs.dropWhile isBlank ++ t.chars :=
    dropWhile_append_tail (by decide) cs t
  have hsuffix : cs.dropWhile isBlank <:+ cs := List.dropWhile_suffix _
  simp only [readCount, hdrop, List.length_append, Nat.add_right_comm _ _ 1]
  exact (readCountDigits_follows f none (Nat.lt_succ_of_le hsuffix.length_le)).mono hsuffix

/-- A count with both of its bounds, which is closed behind the second one. -/
def State.countedTo (least : Option Nat) (b : Option Nat × List Char) : Except Fault State :=
  match least, b.1, b.2 with
  | some n, some m, '}' :: cs =>
    if n ≤ m then st.repeatLast n (some m) (st.flags.skip cs) else .error .badCount
  | _, _, _ => .error .badCount

theorem countedTo_follows (least : Option Nat) (b : Option Nat × List Char) :
    Follows Past (rest b) (st.countedTo least b)
      fun t => st.countedTo least (extend b t.chars) := by
  obtain ⟨most, cs⟩ := b
  cases least with
  | none => exact .fault
  | some n =>
      cases most with
      | none => exact .fault
      | some m =>
          cases cs with
          | nil => exact .fault
          | cons c cs =>
              by_cases hc : c = '}'
              · subst hc
                simp only [State.countedTo, extend_pair, extend_list, List.cons_append]
                split
                · exact (repeatLast_skip_follows st n (some m) cs).mono (List.suffix_cons '}' cs)
                · exact .fault
              · simp only [State.countedTo, extend_pair, extend_list, List.cons_append, hc,
                  List.cons.injEq, false_and, imp_self, implies_true]
                exact .fault

/-- What stands behind the lower bound of a count. -/
def State.countedFrom (b : Option Nat × List Char) : Except Fault State :=
  match b.2 with
  | ',' :: cs =>
    match st.flags.skip cs with
    | '}' :: cs =>
      match b.1 with
      | some n => st.repeatLast n none (st.flags.skip cs)
      | none => .error .badCount
    | cs => readCount st.flags cs >>= st.countedTo b.1
  | '}' :: cs =>
    match b.1 with
    | some n => st.repeatLast n (some n) (st.flags.skip cs)
    | none => .error .badCount
  | _ => .error .badCount

theorem countedFrom_follows (b : Option Nat × List Char) :
    Follows Past (rest b) (st.countedFrom b) fun t => st.countedFrom (extend b t.chars) := by
  obtain ⟨least, cs⟩ := b
  have hcounted (most : Nat → Option Nat) (cs) : Follows Past cs
      (match least with
        | some n => st.repeatLast n (most n) (st.flags.skip cs)
        | none => .error .badCount)
      fun t => match least with
        | some n => st.repeatLast n (most n) (st.flags.skip (cs ++ t.chars))
        | none => .error .badCount := by
    cases least with
    | none => exact .fault
    | some n => exact repeatLast_skip_follows st n (most n) cs
  have hto (cs) := (readCount_follows st.flags cs).next (countedTo_follows st least)
  simp only [State.countedFrom, rest_pair, rest_list, extend_pair, extend_list]
  cases cs with
  | nil => exact .fault
  | cons c cs =>
      by_cases hcomma : c = ','
      · subst hcomma
        refine Follows.mono ?_ (List.suffix_cons ',' cs)
        simp only [List.cons_append]
        obtain h | ⟨hnil, h⟩ := skip_append st.flags cs
        · refine Follows.mono ?_ (skip_suffix st.flags cs)
          simp only [h]
          cases st.flags.skip cs with
          | nil => exact hto []
          | cons d ds =>
              by_cases hd : d = '}'
              · subst hd
                exact (hcounted (fun _ => none) ds).mono (List.suffix_cons '}' ds)
              · simp only [List.cons_append, hd, List.cons.injEq, false_and, imp_self,
                  implies_true]
                exact hto (d :: ds)
        · have hend : readCount st.flags [] >>= st.countedTo least = .error .badCount := by
            cases least <;> rfl
          simp only [hnil, h, hend]
          exact .fault
      by_cases hbrace : c = '}'
      · subst hbrace
        exact (hcounted some cs).mono (List.suffix_cons '}' cs)
      · simp only [List.cons_append, hcomma, hbrace, List.cons.injEq, false_and, imp_self,
          implies_true]
        exact .fault

theorem readCounted_follows (cs : List Char) :
    Follows Past cs (st.readCounted cs) fun t => st.readCounted (cs ++ t.chars) := by
  unfold State.readCounted
  split
  · refine Follows.skip (K := fun cs => readCount st.flags cs >>= st.countedFrom)
      (L := fun _ cs => readCount st.flags cs >>= st.countedFrom) st.flags (fun _ => rfl) ?_
    exact (readCount_follows st.flags _).next (countedFrom_follows st)
  · exact .fault

/-! ### Steps -/

/-- What may be left where a text is at fault in front of its tail: the parenthesis of the tail was
read, or a brace comes next that no count can follow. -/
def Astray (t : Tail) (st : State) : Prop :=
  Past t st ∨ ∃ inner more, st.rest = '{' :: inner ∧ st.flags.skip inner = ')' :: more

/-- The part that an atom stands for is added. -/
def State.addAtom (b : Atom × List Char) : Except Fault State := do
  let e ← st.flags.atom b.1
  .ok (st.add { expr := e } b.2)

theorem addAtom_follows (b : Atom × List Char) :
    Follows Past (rest b) (st.addAtom b) fun t => st.addAtom (extend b t.chars) :=
  .value _ fun _ => .refl List.suffix_rfl

theorem Strays.astray {t : Tail} {b : Atom × List Char} (h : Strays st.flags t b) {st' : State}
    (hadd : st.addAtom b = .ok st') : Astray t st' := by
  obtain h | ⟨l, inner, more, rfl, hmore⟩ := h
  · exact .inl (((addAtom_follows st b).suffix hadd).trans h)
  · have hadd : Except.ok (st.add { expr := .look l } ('{' :: inner)) = Except.ok st' := hadd
    cases hadd
    exact .inr ⟨inner, more, rfl, hmore⟩

theorem step_follows (c : Char) (cs : List Char) :
    Follows Astray cs (st.step c cs) fun t => st.step c (cs ++ t.chars) := by
  have hpast {alone behind} (h : Follows Past cs alone behind) : Follows Astray cs alone behind :=
    h.weaken fun _ _ => Or.inl
  unfold State.step
  split
  case h_1 => exact hpast (openGroup_follows st cs)
  case h_2 => exact hpast (closeGroup_follows st cs)
  case h_3 => exact .refl List.suffix_rfl
  case h_4 =>
    have hclass := openClass_readClass_follows st.flags cs
    simp only [← bind_assoc]
    exact hclass.bind (fun _ _ _ hb => hb.elim) (fun _ _ _ => rfl) fun _ _ => .refl List.suffix_rfl
  case h_5 => exact hpast (repeatLast_follows st 0 (some 1) cs)
  case h_6 => exact hpast (repeatLast_follows st 0 none cs)
  case h_7 => exact hpast (repeatLast_follows st 1 none cs)
  case h_8 => exact hpast (readCounted_follows st cs)
  case h_9 =>
    exact (readEscape_follows st.flags cs).bind (K := st.addAtom) (L := fun _ => st.addAtom)
      (fun _ _ _ hb hadd => hb.astray st hadd) (fun _ _ _ => rfl)
      fun b _ => (addAtom_follows st b).weaken fun _ _ => Or.inl
  case h_10 => exact .ofMap _ fun e => .refl List.suffix_rfl
  case h_11 => exact .refl List.suffix_rfl
  case h_12 => exact .refl List.suffix_rfl
  case h_13 => exact .ofMap _ fun e => .refl List.suffix_rfl

end Switchyard.Regex
