import Switchyard.Regex.Escape

/-!
# Text Behind an Expression

A constraint is read inside a frame: a parenthesis, and perhaps more, stands behind the text of the
expression. This module compares reading a text alone with reading it in front of such a `Tail`, for
every part that an expression is made of.

Three things can happen (`Follows`). The reader ends within the text, and then it ends there with
the tail too, and the tail is left as it is. Or the text ends in an open comment, as the flag `x`
allows, and the comment takes up the tail. Or the text alone is at fault, and then the reader may
go on into the tail. What is known in the third case is a parameter of the relation, because the
parts differ in it: most of them pass the parenthesis if they succeed at all, a class has to be
closed and never succeeds, and the edge of a word may leave a brace behind that no count can follow
(`Strays`).

## Main results

* `readEscape_follows`: escapes with a tail and without.
-/

namespace Switchyard.Regex

open Text (isBlank)

/-! ### Tails -/

/-- The closing parenthesis of a frame, and dollars behind it. -/
structure Tail where
  more : List Char
  eq_dollar : ∀ c ∈ more, c = '$'

namespace Tail

def chars (t : Tail) : List Char := ')' :: t.more

theorem notMem_chars (t : Tail) {c : Char} (hparen : c ≠ ')') (hdollar : c ≠ '$') :
    c ∉ t.chars := by
  intro h
  rcases List.mem_cons.1 h with h | h
  · exact hparen h
  · exact hdollar (t.eq_dollar c h)

theorem paren_notMem_more (t : Tail) : ')' ∉ t.more :=
  fun h => absurd (t.eq_dollar _ h) (by decide)

end Tail

/-! ### Outcomes -/

theorem ok_of_bind {α γ : Type} {x : Except Fault α} {K : α → Except Fault γ} {c : γ}
    (h : x >>= K = .ok c) : ∃ a, x = .ok a ∧ K a = .ok c := by
  cases x with
  | ok a => exact ⟨a, rfl, h⟩
  | error e => cases h

theorem ok_of_map {α γ : Type} {x : Except Fault α} {g : α → γ} {c : γ}
    (h : x.map g = .ok c) : ∃ a, x = .ok a ∧ g a = c := by
  cases x with
  | ok a => exact ⟨a, rfl, Except.ok.inj h⟩
  | error e => cases h

/-- An outcome of reading that knows the text left to read. -/
class Leaves (β : Type) where
  rest : β → List Char
  /-- the outcome if more text stands behind the text that is left -/
  extend : β → List Char → β

open Leaves (rest extend)

instance : Leaves (List Char) := ⟨id, (· ++ ·)⟩

instance {α β : Type} [Leaves β] : Leaves (α × β) :=
  ⟨fun b => rest b.2, fun b t => (b.1, extend b.2 t)⟩

@[simp] theorem rest_list (cs : List Char) : rest cs = cs := rfl

@[simp] theorem extend_list (cs t : List Char) : extend cs t = cs ++ t := rfl

variable {α β γ : Type} [Leaves β] [Leaves γ]

@[simp] theorem rest_pair (a : α) (b : β) : rest (a, b) = rest b := rfl

@[simp] theorem extend_pair (a : α) (b : β) (t : List Char) :
    extend (a, b) t = (a, extend b t) := rfl

/-- What is left is in the tail. -/
def Reached (t : Tail) (b : β) : Prop := rest b <:+ t.chars

/-- What is left is in the tail, behind its parenthesis. -/
def Past (t : Tail) (b : β) : Prop := rest b <:+ t.more

theorem Past.reached {t : Tail} {b : β} (h : Past t b) : Reached t b :=
  List.IsSuffix.trans h (List.suffix_cons ')' t.more)

/-- `Follows lost cs alone behind` : the text `cs` gives the outcome `alone`, and with a tail behind
it the outcome `behind`. Where `cs` alone is at fault, an outcome with the tail is `lost`. -/
inductive Follows (lost : Tail → β → Prop) (cs : List Char) :
    Except Fault β → (Tail → Except Fault β) → Prop
  /-- the tail is left -/
  | left {b : β} {behind : Tail → Except Fault β} (hrest : rest b <:+ cs)
      (hbehind : ∀ t : Tail, behind t = .ok (extend b t.chars)) : Follows lost cs (.ok b) behind
  /-- a comment takes up the tail -/
  | swallowed {b : β} {behind : Tail → Except Fault β} (hrest : rest b = [])
      (hbehind : ∀ t, behind t = .ok b) : Follows lost cs (.ok b) behind
  | fails {e : Fault} {behind : Tail → Except Fault β}
      (hlost : ∀ t b, behind t = .ok b → lost t b) : Follows lost cs (.error e) behind

namespace Follows

variable {lost : Tail → β → Prop} {lost' : Tail → γ → Prop} {cs ds : List Char}
  {alone : Except Fault β} {behind : Tail → Except Fault β}

theorem suffix (h : Follows lost cs alone behind) {b : β} (hb : alone = .ok b) :
    rest b <:+ cs := by
  cases h with
  | left hrest _ => cases hb; exact hrest
  | swallowed hrest _ => cases hb; exact hrest ▸ List.nil_suffix
  | fails => cases hb

theorem mono (h : Follows lost cs alone behind) (hcs : cs <:+ ds) :
    Follows lost ds alone behind := by
  cases h with
  | left hrest hb => exact .left (hrest.trans hcs) hb
  | swallowed hrest hb => exact .swallowed hrest hb
  | fails hb => exact .fails hb

theorem weaken {weaker : Tail → β → Prop} (h : Follows lost cs alone behind)
    (hlost : ∀ t b, lost t b → weaker t b) : Follows weaker cs alone behind := by
  cases h with
  | left hrest hb => exact .left hrest hb
  | swallowed hrest hb => exact .swallowed hrest hb
  | fails hb => exact .fails fun t b h => hlost t b (hb t b h)

/-- The outcome holds of the text in front of the tail. -/
theorem refl {b : β} (hrest : rest b <:+ cs) :
    Follows lost cs (.ok b) fun t => .ok (extend b t.chars) :=
  .left hrest fun _ => rfl

/-- A fault that does not depend on the text behind. -/
theorem fault {e : Fault} {e' : Tail → Fault} :
    Follows lost cs (.error e) fun t => .error (e' t) :=
  .fails fun _ _ h => nomatch h

/-- One part after the other. -/
theorem bind {K : β → Except Fault γ} {L : Tail → β → Except Fault γ}
    (h : Follows lost cs alone behind)
    (hlost : ∀ t b c, lost t b → L t b = .ok c → lost' t c)
    (hend : ∀ t b, rest b = [] → L t b = K b)
    (hK : ∀ b, alone = .ok b → Follows lost' (rest b) (K b) fun t => L t (extend b t.chars)) :
    Follows lost' cs (alone >>= K) fun t => behind t >>= L t := by
  cases h with
  | @left b _ hrest hb =>
      simp only [hb]
      exact (hK b rfl).mono hrest
  | @swallowed b _ hrest hb =>
      -- nothing is left to the second part, with the tail or without
      have hb : (fun t => behind t >>= L t) = fun _ => K b :=
        funext fun t => by rw [hb t]; exact hend t b hrest
      have hKb := hK b rfl
      rw [hb]
      show Follows lost' cs (K b) fun _ => K b
      cases hc : K b with
      | ok c => exact .swallowed (List.suffix_nil.1 (hrest ▸ hKb.suffix hc)) fun _ => rfl
      | error e => exact .fault
  | @fails e _ hb =>
      refine .fails fun t c hc => ?_
      cases hbt : behind t with
      | error e => rw [hbt] at hc; cases hc
      | ok b => rw [hbt] at hc; exact hlost t b c (hb t b hbt) hc

/-- One part after the other, where the second one is always read in the same way. -/
theorem next {K : β → Except Fault γ} (h : Follows Past cs alone behind)
    (hK : ∀ b, Follows Past (rest b) (K b) fun t => K (extend b t.chars)) :
    Follows Past cs (alone >>= K) fun t => behind t >>= K :=
  h.bind (fun _ b _ hb hc => ((hK b).suffix hc).trans hb) (fun _ _ _ => rfl) fun b _ => hK b

/-- Something is found out that does not depend on the text. -/
theorem value (x : Except Fault α) {K : α → Except Fault γ} {L : Tail → α → Except Fault γ}
    (hK : ∀ a, Follows lost' cs (K a) fun t => L t a) :
    Follows lost' cs (x >>= K) fun t => x >>= L t := by
  cases x with
  | ok a => exact hK a
  | error e => exact fault

/-- What is found out so becomes part of the outcome. -/
theorem ofMap {lost : Tail → γ → Prop} (x : Except Fault α) {g : α → γ} {g' : Tail → α → γ}
    (hg : ∀ a, Follows lost cs (.ok (g a)) fun t => .ok (g' t a)) :
    Follows lost cs (x.map g) fun t => x.map (g' t) := by
  cases x with
  | ok a => exact hg a
  | error e => exact fault

end Follows

/-! ### Blanks and comments -/

theorem skipFiller_suffix (inside : Bool) (cs : List Char) : skipFiller inside cs <:+ cs := by
  induction inside, cs using skipFiller.induct with
  | case1 => simp [skipFiller]
  | case2 c cs ih =>
      rw [skipFiller]
      exact ih.trans (List.suffix_cons c cs)
  | case3 c cs hblank ih =>
      rw [skipFiller, if_pos hblank]
      exact ih.trans (List.suffix_cons c cs)
  | case4 cs hblank ih =>
      rw [skipFiller, if_neg hblank, if_pos rfl]
      exact ih.trans (List.suffix_cons '#' cs)
  | case5 c cs hblank hhash => simp [skipFiller, hblank, hhash]

theorem skip_suffix (f : Flags) (cs : List Char) : f.skip cs <:+ cs := by
  unfold Flags.skip
  split
  · exact skipFiller_suffix false cs
  · exact List.suffix_rfl

theorem skip_nil (f : Flags) : f.skip [] = [] :=
  List.suffix_nil.1 (skip_suffix f [])

theorem skip_cons (f : Flags) {c : Char} (hblank : isBlank c = false) (hhash : c ≠ '#')
    (cs : List Char) : f.skip (c :: cs) = c :: cs := by
  simp [Flags.skip, skipFiller, hblank, hhash]

/-- A comment that no line break ends takes up the text. -/
theorem skipFiller_comment {cs : List Char} (h : '\n' ∉ cs) : skipFiller true cs = [] := by
  induction cs with
  | nil => rfl
  | cons c cs ih =>
      have hc : decide (c ≠ '\n') = true := decide_eq_true (List.ne_of_not_mem_cons h).symm
      rw [skipFiller, hc]
      exact ih (List.not_mem_of_not_mem_cons h)

/-- Either the tail is not touched, or a comment is open behind the text and takes it up. -/
theorem skipFiller_append (inside : Bool) (cs : List Char) :
    (∀ t : Tail, skipFiller inside (cs ++ t.chars) = skipFiller inside cs ++ t.chars) ∨
      skipFiller inside cs = [] ∧ ∀ t : Tail, skipFiller inside (cs ++ t.chars) = [] := by
  induction inside, cs using skipFiller.induct with
  | case1 inside =>
      cases inside with
      | false => exact .inl fun t => rfl
      | true =>
          exact .inr ⟨rfl, fun t => skipFiller_comment (t.notMem_chars (by decide) (by decide))⟩
  | case2 c cs ih => simpa only [List.cons_append, skipFiller] using ih
  | case3 c cs hblank ih => simpa only [List.cons_append, skipFiller, if_pos hblank] using ih
  | case4 cs hblank ih =>
      simpa only [List.cons_append, skipFiller, if_neg hblank, if_true] using ih
  | case5 c cs hblank hhash =>
      refine .inl fun t => ?_
      simp only [List.cons_append, skipFiller, if_neg hblank, if_neg hhash]

theorem skip_append (f : Flags) (cs : List Char) :
    (∀ t : Tail, f.skip (cs ++ t.chars) = f.skip cs ++ t.chars) ∨
      f.skip cs = [] ∧ ∀ t : Tail, f.skip (cs ++ t.chars) = [] := by
  unfold Flags.skip
  split
  · exact skipFiller_append false cs
  · exact .inl fun _ => rfl

namespace Follows

variable {lost : Tail → γ → Prop} {cs : List Char}

/-- The reader goes on behind blanks and comments. -/
theorem skip (f : Flags) {K : List Char → Except Fault γ} {L : Tail → List Char → Except Fault γ}
    (hend : ∀ t, L t [] = K [])
    (hK : Follows lost (f.skip cs) (K (f.skip cs)) fun t => L t (f.skip cs ++ t.chars)) :
    Follows lost cs (K (f.skip cs)) fun t => L t (f.skip (cs ++ t.chars)) := by
  have pure : Follows (fun _ (_ : List Char) => False) cs (.ok (f.skip cs))
      fun t => .ok (f.skip (cs ++ t.chars)) := by
    obtain h | ⟨hnil, h⟩ := skip_append f cs
    · exact .left (skip_suffix f cs) fun t => congrArg Except.ok (h t)
    · exact .swallowed hnil fun t => congrArg Except.ok ((h t).trans hnil.symm)
  refine pure.bind (fun _ _ _ hb => hb.elim) (fun t ds hds => ?_) fun ds hds => ?_
  · rw [show ds = [] from hds]
    exact hend t
  · cases hds
    exact hK

/-- A part is read, and blanks and comments behind it. -/
theorem skipped {lost : Tail → α × List Char → Prop} (f : Flags) (a : α) :
    Follows lost cs (.ok (a, f.skip cs)) fun t => .ok (a, f.skip (cs ++ t.chars)) := by
  obtain h | ⟨hnil, h⟩ := skip_append f cs
  · exact .left (skip_suffix f cs) fun t => congrArg (fun ds => Except.ok (a, ds)) (h t)
  · exact .swallowed hnil fun t => congrArg (fun ds => Except.ok (a, ds)) ((h t).trans hnil.symm)

end Follows

/-! ### Escapes -/

open Number (hexDigit?)

variable (f : Flags)

theorem readHexFixed_follows (n acc : Nat) (cs : List Char) :
    Follows Past cs (readHexFixed f n acc cs) fun t => readHexFixed f n acc (cs ++ t.chars) := by
  induction n generalizing acc cs with
  | zero => exact .refl List.suffix_rfl
  | succ n ih =>
      cases cs with
      | nil => exact .fault
      | cons c cs =>
          simp only [List.cons_append, readHexFixed]
          cases hexDigit? c with
          | none => exact .fault
          | some d => exact (Follows.skip f (fun _ => rfl) (ih _ _)).mono (List.suffix_cons c cs)

theorem readBraced_suffix {n : Nat} {acc cs : List Char} {b : List Char × List Char}
    (h : readBraced f n acc cs = .ok b) : rest b <:+ cs := by
  induction n generalizing acc cs with
  | zero => cases h
  | succ n ih =>
      refine List.IsSuffix.trans ?_ (skip_suffix f cs)
      rw [readBraced] at h
      split at h
      · cases h
      · next hds =>
          cases h
          exact hds ▸ List.suffix_cons _ _
      · next hds => exact (ih h).trans (hds ▸ List.suffix_cons _ _)

theorem readBraced_follows {n : Nat} {acc cs : List Char} (hn : cs.length < n) :
    Follows Past cs (readBraced f n acc cs)
      fun t => readBraced f (n + t.chars.length) acc (cs ++ t.chars) := by
  induction n generalizing acc cs with
  | zero => cases hn
  | succ n ih =>
      simp only [Nat.add_right_comm n 1, readBraced]
      obtain h | ⟨hnil, h⟩ := skip_append f cs
      · simp only [h]
        have hle := (skip_suffix f cs).length_le
        refine Follows.mono ?_ (skip_suffix f cs)
        cases hds : f.skip cs with
        | nil => exact .fails fun t b h => readBraced_suffix f h
        | cons c ds =>
            rw [hds, List.length_cons] at hle
            by_cases hc : c = '}'
            · subst hc
              exact .refl (List.suffix_cons _ _)
            · simp only [List.cons_append]
              exact (ih (by omega)).mono (List.suffix_cons c ds)
      · simp only [hnil, h]
        exact .fault

/-- The text in braces, with as much fuel as its readers give it. -/
theorem readBraced_all_follows (acc cs : List Char) :
    Follows Past cs (readBraced f (cs.length + 1) acc cs)
      fun t => readBraced f ((cs ++ t.chars).length + 1) acc (cs ++ t.chars) := by
  simp only [List.length_append, Nat.add_right_comm]
  exact readBraced_follows f (Nat.lt_succ_self _)

theorem readHex_follows (digits : Nat) (cs : List Char) :
    Follows Past cs (readHex f (digits + 1) cs)
      fun t => readHex f (digits + 1) (cs ++ t.chars) := by
  simp only [readHex]
  obtain h | ⟨hnil, h⟩ := skip_append f cs
  · simp only [h]
    refine Follows.mono ?_ (skip_suffix f cs)
    cases f.skip cs with
    | nil => exact .fails fun t b h => nomatch h
    | cons c ds =>
        by_cases hc : c = '{'
        · subst hc
          refine ((readBraced_all_follows f [] ds).next fun b => ?_).mono (List.suffix_cons _ _)
          refine .value _ fun ns => ?_
          cases ns.isEmpty with
          | true => exact .fault
          | false => exact .value _ fun c => .skipped f _
        · simp only [List.cons_append, hc, List.cons.injEq, false_and, imp_self, implies_true]
          exact (readHexFixed_follows f (digits + 1) 0 (c :: ds)).next fun b =>
            .value _ fun c => .refl List.suffix_rfl
  · simp only [hnil, h]
    exact .fault

/-- The class that was named, as an atom. -/
def namedAtom (negated : Bool) (b : List Char × List Char) : Except Fault (Atom × List Char) :=
  if !f.unicode then .error .unicodeOff
  else
    match namedClass b.1 with
    | none => .error .unknownClass
    | some rs => do
      let s ← f.close negated (.ranges rs)
      .ok (.set s, b.2)

theorem namedAtom_follows (negated : Bool) (b : List Char × List Char) :
    Follows Past (rest b) (namedAtom f negated b)
      fun t => namedAtom f negated (extend b t.chars) := by
  obtain ⟨name, cs⟩ := b
  unfold namedAtom
  cases f.unicode with
  | false => exact .fault
  | true =>
      show Follows Past cs
        (match namedClass name with | none => .error .unknownClass | some rs => _) fun t =>
        (match namedClass name with | none => .error .unknownClass | some rs => _)
      cases namedClass name with
      | none => exact .fault
      | some rs => exact .value _ fun s => .refl List.suffix_rfl

theorem readUnicodeClass_follows (negated : Bool) (cs : List Char) :
    Follows Past cs (readUnicodeClass f negated cs)
      fun t => readUnicodeClass f negated (cs ++ t.chars) := by
  have hnamed := namedAtom_follows f negated
  simp only [readUnicodeClass]
  obtain h | ⟨hnil, h⟩ := skip_append f cs
  · simp only [h]
    refine Follows.mono ?_ (skip_suffix f cs)
    cases f.skip cs with
    | nil =>
        exact .fails fun t b h => ((hnamed ([')'], f.skip t.more)).suffix h).trans (skip_suffix f _)
    | cons c ds =>
        refine Follows.mono ?_ (List.suffix_cons c ds)
        by_cases hbrace : c = '{'
        · subst hbrace
          exact (readBraced_all_follows f [] ds).next hnamed
        · by_cases hback : c = '\\'
          · subst hback
            exact .fault
          · simp only [List.cons_append]
            exact (Follows.skipped f [c]).next hnamed
  · simp only [hnil, h]
    exact .fault

/-- A look-around is left in front of a brace, and behind the brace nothing counts before the
parenthesis of the tail. -/
def Strays (t : Tail) (b : Atom × List Char) : Prop :=
  Past t b ∨ ∃ l inner more, b = (.look l, '{' :: inner) ∧ f.skip inner = ')' :: more

theorem readWordEdge_follows (cs : List Char) :
    Follows (Strays f) cs (readWordEdge f cs) fun t => readWordEdge f (cs ++ t.chars) := by
  cases cs with
  | nil => exact .refl List.suffix_rfl
  | cons c inner =>
      by_cases hc : c = '{'
      · subst hc
        simp only [List.cons_append, readWordEdge]
        obtain h | ⟨hnil, h⟩ := skip_append f inner
        · simp only [h]
          cases hds : f.skip inner with
          | nil =>
              -- the text ends in the brace, but the parenthesis of the tail is no name of a side
              refine .fails fun t b hb => ?_
              have hb : Except.ok (.look (.wordEdge !f.unicode), '{' :: (inner ++ t.chars)) =
                  Except.ok b := hb
              cases hb
              exact .inr ⟨_, _, t.more, rfl, (h t).trans (congrArg (· ++ t.chars) hds)⟩
          | cons d ds =>
              simp only [List.cons_append]
              split
              · exact .refl List.suffix_rfl
              · refine Follows.weaken ?_ fun _ _ => Or.inl
                refine ((readBraced_all_follows f [] inner).next fun b => ?_).mono
                  (List.suffix_cons '{' inner)
                obtain ⟨name, cs⟩ := b
                simp only [extend_pair]
                generalize String.ofList name = name
                split
                case h_5 => exact .fault
                all_goals exact .refl List.suffix_rfl
        · simp only [hnil, h]
          exact .fault
      · simp only [List.cons_append, readWordEdge, hc, List.cons.injEq, false_and, imp_self,
          implies_true]
        exact .refl List.suffix_rfl

theorem readEscape_follows (cs : List Char) :
    Follows (Strays f) cs (readEscape f cs) fun t => readEscape f (cs ++ t.chars) := by
  cases cs with
  | nil =>
      refine .fails fun t b hb => ?_
      have hb : Except.ok (.literal ')' false, t.more) = Except.ok b := hb
      cases hb
      exact .inl List.suffix_rfl
  | cons c cs =>
      simp only [List.cons_append, readEscape]
      refine Follows.mono ?_ (List.suffix_cons c cs)
      split
      case h_1 => exact (readHex_follows f 1 cs).weaken fun _ _ => Or.inl
      case h_2 => exact (readHex_follows f 3 cs).weaken fun _ _ => Or.inl
      case h_3 => exact (readHex_follows f 7 cs).weaken fun _ _ => Or.inl
      case h_4 => exact (readUnicodeClass_follows f false cs).weaken fun _ _ => Or.inl
      case h_5 => exact (readUnicodeClass_follows f true cs).weaken fun _ _ => Or.inl
      case h_9 => exact .ofMap _ fun s => .refl List.suffix_rfl
      case h_10 => exact .ofMap _ fun s => .refl List.suffix_rfl
      case h_11 => exact .ofMap _ fun s => .refl List.suffix_rfl
      case h_20 => exact readWordEdge_follows f cs
      case h_24 =>
        cases isEscapable c with
        | true => exact .refl List.suffix_rfl
        | false => exact .fault
      all_goals exact .refl List.suffix_rfl

end Switchyard.Regex
