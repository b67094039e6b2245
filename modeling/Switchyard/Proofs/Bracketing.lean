import Mathlib.Data.List.TakeWhile
import Switchyard.Proofs.Following
import Switchyard.Regex.Bracket

/-!
# Text Behind a Class

The parts of a class in brackets, read alone and in front of a tail. A tail has no bracket, so a
class that the text leaves open stays open (`readClass_follows`): the parenthesis of the tail and
the dollars behind it become members, and the reader fails at their end as it fails without them.

The items of a class are the one place where a look-around may be read that is no item. It leaves
the reader in front of a brace (`Strays`), and the range that it would be part of is refused.

## Main results

* `bracket_of_readClass`: a class ends with a bracket of the text.
* `openClass_readClass_follows`: a class ends before the tail, or not at all.
-/

namespace Switchyard.Regex

open Text (isBlank)
open Leaves (rest extend)

variable {α β γ : Type} [Leaves β] [Leaves γ]

/-! ### Looking into a tail -/

theorem bracket_notMem_chars (t : Tail) : ']' ∉ t.chars :=
  t.notMem_chars (by decide) (by decide)

theorem dropWhile_append_tail {p : Char → Bool} (hparen : p ')' = false) (cs : List Char)
    (t : Tail) : (cs ++ t.chars).dropWhile p = cs.dropWhile p ++ t.chars := by
  induction cs with
  | nil => simp [Tail.chars, hparen]
  | cons c cs ih =>
      cases hc : p c with
      | true => simp [hc, ih]
      | false => simp [hc]

theorem head?_append_tail (cs : List Char) (t : Tail) :
    (cs ++ t.chars).head? = cs.head?.or (some ')') := by
  rw [List.head?_append]
  rfl

/-- A character that no tail has is looked for in the text only. -/
theorem dropWhile_ne_append {c : Char} (hparen : c ≠ ')') (hdollar : c ≠ '$') (cs : List Char) :
    (cs.dropWhile (· ≠ c) = [] ∧ ∀ t : Tail, (cs ++ t.chars).dropWhile (· ≠ c) = []) ∨
      ∃ ds, cs.dropWhile (· ≠ c) = c :: ds ∧ ∀ t : Tail,
        (cs ++ t.chars).dropWhile (· ≠ c) = c :: (ds ++ t.chars) ∧
        (cs ++ t.chars).takeWhile (· ≠ c) = cs.takeWhile (· ≠ c) := by
  have pass {ds : List Char} (h : c ∉ ds) : ∀ d ∈ ds, decide (d ≠ c) = true :=
    fun d hd => decide_eq_true fun heq => h (heq ▸ hd)
  by_cases hc : c ∈ cs
  · obtain ⟨before, ds, rfl, hbefore⟩ := List.eq_append_cons_of_mem hc
    refine .inr ⟨ds, ?_, fun t => ⟨?_, ?_⟩⟩
    · rw [List.dropWhile_append_of_pos (pass hbefore)]
      simp
    · rw [List.append_assoc, List.dropWhile_append_of_pos (pass hbefore)]
      simp
    · rw [List.append_assoc, List.takeWhile_append_of_pos (pass hbefore),
        List.takeWhile_append_of_pos (pass hbefore)]
      simp
  · refine .inl ⟨List.dropWhile_eq_nil_iff.2 (pass hc), fun t => List.dropWhile_eq_nil_iff.2 ?_⟩
    exact pass fun h => (List.mem_append.1 h).elim hc (t.notMem_chars hparen hdollar)

/-! ### Classes by their names -/

/-- The class whose name comes next, behind the caret. -/
def asciiClassNamed? (negated : Bool) (cs : List Char) : Option (Bool × CharSet × List Char) :=
  match cs.dropWhile (· ≠ ':') with
  | ':' :: ']' :: rest =>
    (asciiClass? (String.ofList (cs.takeWhile (· ≠ ':')))).map (negated, ·, rest)
  | _ => none

/-- Something is found in front of a tail exactly if it is found without the tail. -/
inductive Finds (cs : List Char) : Option β → (Tail → Option β) → Prop
  | none {behind : Tail → Option β} (hbehind : ∀ t, behind t = none) : Finds cs none behind
  | some {b : β} {behind : Tail → Option β} (hrest : rest b <:+ cs)
      (hbehind : ∀ t : Tail, behind t = some (extend b t.chars)) : Finds cs (some b) behind

theorem Finds.mono {cs ds : List Char} {alone : Option β} {behind : Tail → Option β}
    (h : Finds cs alone behind) (hcs : cs <:+ ds) : Finds ds alone behind := by
  cases h with
  | none hb => exact .none hb
  | some hrest hb => exact .some (hrest.trans hcs) hb

theorem Finds.none_behind {cs : List Char} {behind : Tail → Option β}
    (h : Finds cs Option.none behind) (t : Tail) : behind t = Option.none := by
  cases h with
  | none hb => exact hb t

theorem Finds.suffix {cs : List Char} {b : β} {behind : Tail → Option β}
    (h : Finds cs (Option.some b) behind) : rest b <:+ cs := by
  cases h with
  | some hrest _ => exact hrest

theorem Finds.some_behind {cs : List Char} {b : β} {behind : Tail → Option β}
    (h : Finds cs (Option.some b) behind) (t : Tail) :
    behind t = Option.some (extend b t.chars) := by
  cases h with
  | some _ hb => exact hb t

theorem asciiClassNamed?_finds (negated : Bool) (cs : List Char) :
    Finds cs (asciiClassNamed? negated cs) fun t => asciiClassNamed? negated (cs ++ t.chars) := by
  unfold asciiClassNamed?
  obtain ⟨hnone, h⟩ | ⟨ds, hds, h⟩ :=
    dropWhile_ne_append (c := ':') (by decide) (by decide) cs
  · simp only [hnone, h]
    exact .none fun _ => rfl
  · have hsuffix : ':' :: ds <:+ cs := hds ▸ List.dropWhile_suffix _
    refine Finds.mono ?_ ((List.suffix_cons ':' ds).trans hsuffix)
    simp only [hds, h]
    cases ds with
    | nil => exact .none fun _ => rfl
    | cons d ds =>
        by_cases hd : d = ']'
        · subst hd
          cases asciiClass? (String.ofList (cs.takeWhile (· ≠ ':'))) with
          | none => exact .none fun _ => rfl
          | some s => exact .some (List.suffix_cons ']' ds) fun _ => rfl
        · simp only [List.cons_append, hd, List.cons.injEq, true_and, false_and, imp_self,
            implies_true]
          exact .none fun _ => rfl

/-- A class by its name is found in front of a tail if it is found at all. -/
theorem asciiClassAt?_finds (cs : List Char) :
    Finds cs (asciiClassAt? cs) fun t => asciiClassAt? (cs ++ t.chars) := by
  cases cs with
  | nil => exact .none fun _ => rfl
  | cons c cs =>
      refine Finds.mono ?_ (List.suffix_cons c cs)
      by_cases hc : c = ':'
      · subst hc
        cases cs with
        | nil => exact asciiClassNamed?_finds false []
        | cons d ds =>
            by_cases hd : d = '^'
            · subst hd
              exact (asciiClassNamed?_finds true ds).mono (List.suffix_cons '^' ds)
            · simp only [List.cons_append, asciiClassAt?, hd, List.cons.injEq, false_and, imp_self,
                implies_true]
              exact asciiClassNamed?_finds false (d :: ds)
      · simp only [List.cons_append, asciiClassAt?, hc, List.cons.injEq, false_and, imp_self,
          implies_true]
        exact .none fun _ => rfl

/-! ### Items and ranges -/

variable (f : Flags)

theorem peek_append (c : Char) (cs : List Char) (t : Tail) :
    f.peek (c :: (cs ++ t.chars)) = (f.peek (c :: cs)).or (some ')') := by
  simp only [Flags.peek]
  split
  · rw [dropWhile_append_tail (by decide)]
    cases cs.dropWhile isBlank with
    | nil => rfl
    | cons d ds =>
        by_cases hd : d = '#'
        · subst hd
          simp only [List.cons_append]
          rw [dropWhile_append_tail (by decide), head?_append_tail]
        · simp [hd]
  · exact head?_append_tail cs t

theorem readClassItem_cons_follows (c : Char) (cs : List Char) :
    Follows (Strays f) cs (readClassItem f (c :: cs))
      fun t => readClassItem f (c :: (cs ++ t.chars)) := by
  by_cases hc : c = '\\'
  · subst hc
    exact readEscape_follows f cs
  · simp only [readClassItem]
    exact .refl List.suffix_rfl

theorem readClassItem_follows (cs : List Char) :
    Follows (Strays f) cs (readClassItem f cs) fun t => readClassItem f (cs ++ t.chars) := by
  cases cs with
  | nil =>
      refine .fails fun t b hb => ?_
      have hb : Except.ok (.literal ')' false, t.more) = Except.ok b := hb
      cases hb
      exact .inl List.suffix_rfl
  | cons c cs => exact (readClassItem_cons_follows f c cs).mono (List.suffix_cons c cs)

/-- An item that is no range. -/
def singleItem (first : Atom) (cs : List Char) : Except Fault (CharSet × List Char) :=
  match first with
  | .look _ => .error .badEscape
  | .set s => .ok (s, f.skip cs)
  | a => (rangeEnd f a).map fun n => (.ranges [(n, n)], f.skip cs)

theorem singleItem_follows (first : Atom) (cs : List Char) :
    Follows Past cs (singleItem f first cs) fun t => singleItem f first (cs ++ t.chars) := by
  cases first with
  | literal c byte => exact .ofMap _ fun n => .skipped f _
  | set s => exact .skipped f s
  | look l => exact .fault

theorem rest_of_singleItem {first : Atom} {cs : List Char} {b : CharSet × List Char}
    (h : singleItem f first cs = .ok b) : rest b = f.skip cs := by
  cases first with
  | literal c byte =>
      simp only [singleItem] at h
      cases hn : rangeEnd f (.literal c byte) with
      | ok n => rw [hn] at h; cases h; rfl
      | error e => rw [hn] at h; cases h
  | set s => cases h; rfl
  | look l => cases h

/-- The range from one item to another, which was read. -/
def rangeTo (first : Atom) (b : Atom × List Char) : Except Fault (CharSet × List Char) := do
  let lo ← rangeEnd f first
  let hi ← rangeEnd f b.1
  if lo ≤ hi then .ok (.ranges [(lo, hi)], b.2) else .error .badRange

theorem rangeTo_follows (first : Atom) (b : Atom × List Char) :
    Follows Past (rest b) (rangeTo f first b) fun t => rangeTo f first (extend b t.chars) := by
  obtain ⟨last, cs⟩ := b
  refine .value _ fun lo => .value _ fun hi => ?_
  split
  · exact .refl List.suffix_rfl
  · exact .fault

/-- No range ends with a look-around. -/
theorem Strays.past_of_rangeTo {t : Tail} {first : Atom} {b : Atom × List Char}
    (h : Strays f t b) {c : CharSet × List Char} (hc : rangeTo f first b = .ok c) : Past t b := by
  obtain h | ⟨l, inner, more, rfl, -⟩ := h
  · exact h
  · unfold rangeTo at hc
    cases hlo : rangeEnd f first with
    | ok lo => rw [hlo] at hc; cases hc
    | error e => rw [hlo] at hc; cases hc

/-- Behind the first item: it stands alone, or a range starts with it. -/
def rangeFrom (first : Atom) (cs : List Char) : Except Fault (CharSet × List Char) :=
  match f.skip cs with
  | [] => .error .unclosedClass
  | '-' :: ds =>
    match f.peek ('-' :: ds) with
    | some ']' => singleItem f first cs
    | some '-' => singleItem f first cs
    | _ => readClassItem f (f.skip ds) >>= rangeTo f first
  | _ => singleItem f first cs

theorem readClassRange_eq (cs : List Char) :
    readClassRange f cs = readClassItem f cs >>= fun b => rangeFrom f b.1 b.2 := by
  unfold readClassRange
  congr 1
  funext ⟨first, cs⟩
  cases first
  all_goals
    simp only [rangeFrom, singleItem]
    cases f.skip cs with
    | nil => rfl
    | cons c ds =>
        by_cases hc : c = '-'
        · subst hc
          simp only
          cases f.skip ds <;> rfl
        · simp only [hc, List.cons.injEq, false_and, imp_self, implies_true]

theorem rangeFrom_follows (first : Atom) (cs : List Char) :
    Follows Reached cs (rangeFrom f first cs) fun t => rangeFrom f first (cs ++ t.chars) := by
  have hsingle := (singleItem_follows f first cs).weaken fun _ _ => Past.reached
  unfold rangeFrom
  obtain h | ⟨hnil, h⟩ := skip_append f cs
  · have hsuffix := skip_suffix f cs
    simp only [h]
    cases hds : f.skip cs with
    | nil =>
        refine .fails fun t b hb => ?_
        have hrest := rest_of_singleItem f (show singleItem f first (cs ++ t.chars) = .ok b from hb)
        rw [h t, hds] at hrest
        rw [Reached, hrest]
        exact List.suffix_rfl
    | cons c ds =>
        by_cases hc : c = '-'
        · subst hc
          have hrange : Follows Reached cs (readClassItem f (f.skip ds) >>= rangeTo f first)
              fun t => readClassItem f (f.skip (ds ++ t.chars)) >>= rangeTo f first := by
            refine Follows.mono ?_ ((List.suffix_cons '-' ds).trans (hds ▸ hsuffix))
            refine Follows.skip (K := fun ds => readClassItem f ds >>= rangeTo f first)
              (L := fun _ ds => readClassItem f ds >>= rangeTo f first) f (fun _ => rfl) ?_
            refine (readClassItem_follows f (f.skip ds)).bind (fun t b c hb hc => ?_)
              (fun _ _ _ => rfl) fun b _ =>
                (rangeTo_follows f first b).weaken fun _ _ => Past.reached
            have hpast := hb.past_of_rangeTo f hc
            exact Past.reached (((rangeTo_follows f first b).suffix hc).trans hpast)
          simp only [List.cons_append, peek_append]
          cases f.peek ('-' :: ds) with
          | none => exact hrange
          | some d =>
              simp only [Option.some_or]
              split
              · exact hsingle
              · exact hsingle
              · exact hrange
        · simp only [List.cons_append, hc, List.cons.injEq, false_and, imp_self, implies_true]
          exact hsingle
  · simp only [hnil, h]
    exact .fault

/-- No item starts with a look-around. -/
theorem Strays.past_of_rangeFrom {t : Tail} {b : Atom × List Char} (h : Strays f t b)
    {c : CharSet × List Char} (hc : rangeFrom f b.1 b.2 = .ok c) : Past t b := by
  obtain h | ⟨l, inner, more, rfl, -⟩ := h
  · exact h
  · rw [rangeFrom, skip_cons f (by decide) (by decide)] at hc
    cases hc

theorem readClassRange_cons_follows (c : Char) (cs : List Char) :
    Follows Reached cs (readClassRange f (c :: cs))
      fun t => readClassRange f (c :: (cs ++ t.chars)) := by
  simp only [readClassRange_eq]
  refine (readClassItem_cons_follows f c cs).bind (fun t b c hb hc => ?_) (fun _ _ _ => rfl)
    fun b _ => rangeFrom_follows f b.1 b.2
  have hpast := hb.past_of_rangeFrom f hc
  exact Past.reached (((rangeFrom_follows f b.1 b.2).suffix hc).trans hpast)

/-! ### The start of a class -/

theorem openHyphens_nil (n : Nat) (fr : ClassFrame) (any : Bool) :
    openClass.go f n fr any [] = (fr, any, []) := by
  cases n <;> rfl

theorem openHyphens_follows {n : Nat} (fr : ClassFrame) (any : Bool) {cs : List Char}
    (hn : cs.length < n) :
    Follows Past cs (.ok (openClass.go f n fr any cs))
      fun t => .ok (openClass.go f (n + t.chars.length) fr any (cs ++ t.chars)) := by
  induction n generalizing fr any cs with
  | zero => cases hn
  | succ n ih =>
      simp only [Nat.add_right_comm n 1, openClass.go]
      cases cs with
      | nil => exact .refl List.suffix_rfl
      | cons c ds =>
          by_cases hc : c = '-'
          · subst hc
            have hle := (skip_suffix f ds).length_le
            rw [List.length_cons] at hn
            refine Follows.mono ?_ (List.suffix_cons '-' ds)
            refine Follows.skip
              (K := fun ds => .ok (openClass.go f n (fr.add (.single '-')) true ds))
              (L := fun t ds => .ok (openClass.go f (n + t.chars.length)
                (fr.add (.single '-')) true ds)) f (fun t => ?_) (ih _ _ (by omega))
            simp only [openHyphens_nil]
          · simp only [List.cons_append, hc, List.cons.injEq, false_and, imp_self, implies_true]
            exact .refl List.suffix_rfl

/-- What stands behind the caret and the hyphens of a class: a bracket is a member there, if there
was no hyphen. -/
def openBracket (b : ClassFrame × Bool × List Char) : Except Fault (ClassFrame × List Char) :=
  match b.2.2 with
  | [] => .error .unclosedClass
  | ']' :: cs =>
    if b.2.1 then .ok (b.1, ']' :: cs)
    else
      match f.skip cs with
      | [] => .error .unclosedClass
      | cs => .ok (b.1.add (.single ']'), cs)
  | cs => .ok (b.1, cs)

theorem openBracket_follows (b : ClassFrame × Bool × List Char) :
    Follows Reached (rest b) (openBracket f b) fun t => openBracket f (extend b t.chars) := by
  obtain ⟨fr, any, cs⟩ := b
  simp only [openBracket, rest_pair, rest_list, extend_pair, extend_list]
  cases cs with
  | nil =>
      refine .fails fun t b hb => ?_
      have hb : Except.ok (fr, t.chars) = Except.ok b := hb
      cases hb
      exact List.suffix_rfl
  | cons c cs =>
      by_cases hc : c = ']'
      · subst hc
        cases any with
        | true => exact .refl List.suffix_rfl
        | false =>
            refine Follows.mono ?_ (List.suffix_cons ']' cs)
            simp only [List.cons_append]
            obtain h | ⟨hnil, h⟩ := skip_append f cs
            · simp only [h]
              refine Follows.mono ?_ (skip_suffix f cs)
              cases f.skip cs with
              | nil =>
                  refine .fails fun t b hb => ?_
                  have hb : Except.ok (fr.add (.single ']'), t.chars) = Except.ok b := hb
                  cases hb
                  exact List.suffix_rfl
              | cons d ds => exact .refl List.suffix_rfl
            · simp only [hnil, h]
              exact .fault
      · simp only [List.cons_append, hc, List.cons.injEq, false_and, imp_self, implies_true]
        exact .refl List.suffix_rfl

/-- The start of a class behind its caret. -/
def openBehind (fr : ClassFrame) (cs : List Char) : Except Fault (ClassFrame × List Char) :=
  openBracket f (openClass.go f (cs.length + 1) fr false cs)

theorem openBehind_follows (fr : ClassFrame) (cs : List Char) :
    Follows Reached cs (openBehind f fr cs) fun t => openBehind f fr (cs ++ t.chars) := by
  have hhyphens := openHyphens_follows f fr false (Nat.lt_succ_self cs.length)
  simp only [openBehind, List.length_append, Nat.add_right_comm _ _ 1]
  refine hhyphens.bind (K := openBracket f) (L := fun _ => openBracket f) (fun t b c hb hc => ?_)
    (fun _ _ _ => rfl) fun b _ => openBracket_follows f b
  exact Past.reached (((openBracket_follows f b).suffix hc).trans hb)

theorem openClass_eq {cs ds : List Char} {c : Char} (h : f.skip cs = c :: ds) :
    openClass f cs =
      openBehind f { negated := c = '^' } (if c = '^' then f.skip ds else c :: ds) := by
  rw [openClass, h]
  rfl

theorem openClass_follows (cs : List Char) :
    Follows Reached cs (openClass f cs) fun t => openClass f (cs ++ t.chars) := by
  obtain h | ⟨hnil, h⟩ := skip_append f cs
  · have hsuffix := skip_suffix f cs
    cases hds : f.skip cs with
    | nil =>
        have halone : openClass f cs = .error .unclosedClass := by rw [openClass, hds]
        rw [halone]
        refine .fails fun t b hb => ?_
        have h' : f.skip (cs ++ t.chars) = t.chars := by rw [h t, hds, List.nil_append]
        rw [openClass_eq f h'] at hb
        have hb : Except.ok (({ negated := false } : ClassFrame), t.chars) = Except.ok b := hb
        cases hb
        exact List.suffix_rfl
    | cons c ds =>
        have h' (t : Tail) : f.skip (cs ++ t.chars) = c :: (ds ++ t.chars) := by
          rw [h t, hds, List.cons_append]
        simp only [openClass_eq f hds, openClass_eq f (h' _)]
        refine Follows.mono ?_ (hds ▸ hsuffix)
        by_cases hc : c = '^'
        · simp only [hc, if_true]
          exact (Follows.skip f (fun _ => rfl) (openBehind_follows f _ (f.skip ds))).mono
            (List.suffix_cons '^' ds)
        · simp only [hc, if_false]
          exact openBehind_follows f _ (c :: ds)
  · simp only [openClass, hnil, h]
    exact .fault

/-! ### Up to the closing bracket -/

theorem readClass_nil (n : Nat) (fr : ClassFrame) (frames : List ClassFrame) :
    readClass f n fr frames [] = .error .unclosedClass := by
  cases n with
  | zero => rfl
  | succ n => rw [readClass, skip_nil]

/-- A class ends with a bracket. -/
theorem bracket_of_readClass {n : Nat} {fr : ClassFrame} {frames : List ClassFrame}
    {cs : List Char} {b : CharSet × Nat × List Char} (h : readClass f n fr frames cs = .ok b) :
    ']' :: rest b <:+ f.skip cs := by
  induction n generalizing fr frames cs with
  | zero => cases h
  | succ n ih =>
      have next {fr frames ds} (h : readClass f n fr frames ds = .ok b) :
          ']' :: rest b <:+ ds := (ih h).trans (skip_suffix f ds)
      rw [readClass] at h
      split at h
      · cases h
      · next ds hds =>
          rw [hds]
          refine List.IsSuffix.trans ?_ (List.suffix_cons '[' ds)
          have hfind := asciiClassAt?_finds ds
          split at h
          · next hat =>
              rw [hat] at hfind
              obtain ⟨s, -, h⟩ := ok_of_bind h
              exact (next h).trans hfind.suffix
          · obtain ⟨inner, hinner, h⟩ := ok_of_bind h
            exact (next h).trans ((openClass_follows f ds).suffix hinner)
      · next ds hds =>
          obtain ⟨s, -, h⟩ := ok_of_bind h
          rw [hds]
          cases frames with
          | nil =>
              cases h
              exact List.suffix_rfl
          | cons outer frames => exact (next h).trans (List.suffix_cons ']' ds)
      · next ds hds =>
          rw [hds]
          exact (next h).trans ((List.suffix_cons '&' ds).trans (List.suffix_cons '&' _))
      · next ds hds =>
          rw [hds]
          exact (next h).trans ((List.suffix_cons '-' ds).trans (List.suffix_cons '-' _))
      · next ds hds =>
          rw [hds]
          exact (next h).trans ((List.suffix_cons '~' ds).trans (List.suffix_cons '~' _))
      · next hnil _ _ _ _ _ =>
          cases hds : f.skip cs with
          | nil => exact absurd hds hnil
          | cons c ds =>
              rw [hds] at h
              obtain ⟨item, hitem, h⟩ := ok_of_bind h
              exact (next h).trans
                (((readClassRange_cons_follows f c ds).suffix hitem).trans (List.suffix_cons c ds))

/-- The operator that a character writes if it stands twice. -/
def operator? : Char → Option SetOp
  | '&' => some .inter
  | '-' => some .diff
  | '~' => some .symmDiff
  | _ => none

theorem readClass_operator {n : Nat} {fr : ClassFrame} {frames : List ClassFrame}
    {cs es : List Char} {c : Char} {op : SetOp} (hop : operator? c = some op)
    (h : f.skip cs = c :: c :: es) :
    readClass f (n + 1) fr frames cs =
      readClass f n
        { fr with items := .empty, pending := some (op, fr.value f), depth := fr.depth + 1 }
        frames es := by
  unfold operator? at hop
  split at hop
  all_goals cases hop
  all_goals simp only [readClass, h]

theorem readClass_range {n : Nat} {fr : ClassFrame} {frames : List ClassFrame}
    {cs ds : List Char} {c : Char} (hbracket : c ≠ '[') (hclose : c ≠ ']')
    (hop : ∀ es, ds = c :: es → operator? c = none) (h : f.skip cs = c :: ds) :
    readClass f (n + 1) fr frames cs =
      readClassRange f (c :: ds) >>= fun b => readClass f n (fr.add b.1) frames b.2 := by
  rw [readClass, h]
  split
  case h_1 heq => cases heq
  case h_2 heq => exact absurd (List.cons.inj heq).1 hbracket
  case h_3 heq => exact absurd (List.cons.inj heq).1 hclose
  case h_7 => rfl
  all_goals
    next heq =>
      cases heq
      cases hop _ rfl

/-- In a tail no class is closed. -/
theorem not_readClass_of_suffix {n : Nat} {fr : ClassFrame} {frames : List ClassFrame} {t : Tail}
    {cs : List Char} {b : CharSet × Nat × List Char} (hcs : f.skip cs <:+ t.chars) :
    readClass f n fr frames cs ≠ .ok b :=
  fun h => bracket_notMem_chars t (hcs.mem ((bracket_of_readClass f h).mem List.mem_cons_self))

/-- A part of a class, and the class behind it. -/
theorem Follows.then_readClass {n : Nat} {first : Except Fault (α × List Char)}
    {first' : Tail → Except Fault (α × List Char)} {cs : List Char}
    (h : Follows Reached cs first first') (g : α → ClassFrame) (frames : List ClassFrame)
    (hn : ∀ fr ds, ds <:+ cs → Follows (fun _ _ => False) ds (readClass f n fr frames ds)
      fun t => readClass f (n + t.chars.length) fr frames (ds ++ t.chars)) :
    Follows (fun _ (_ : CharSet × Nat × List Char) => False) cs
      (first >>= fun b => readClass f n (g b.1) frames b.2)
      fun t => first' t >>= fun b => readClass f (n + t.chars.length) (g b.1) frames b.2 := by
  refine h.bind (fun t b c hb hc => ?_) (fun t b hb => ?_) fun b hb => hn (g b.1) b.2 (h.suffix hb)
  · exact not_readClass_of_suffix f ((skip_suffix f b.2).trans hb) hc
  · rw [show b.2 = [] from hb, readClass_nil, readClass_nil]

/-- One step in a class, if the class behind it is read with a tail as it is without one. -/
theorem readClass_cons_follows {n : Nat} (fr : ClassFrame) (frames : List ClassFrame)
    {cs ds : List Char} {c : Char} (hds : f.skip cs = c :: ds)
    (hds' : ∀ t : Tail, f.skip (cs ++ t.chars) = c :: (ds ++ t.chars))
    (hgo : ∀ frames fr es, es <:+ ds → Follows (fun _ _ => False) es (readClass f n fr frames es)
      fun t => readClass f (n + t.chars.length) fr frames (es ++ t.chars)) :
    Follows (fun _ _ => False) ds (readClass f (n + 1) fr frames cs)
      fun t => readClass f (n + t.chars.length + 1) fr frames (cs ++ t.chars) := by
  by_cases hbracket : c = '['
  · subst hbracket
    simp only [readClass, hds, hds']
    have hfind := asciiClassAt?_finds ds
    cases hat : asciiClassAt? ds with
    | none =>
        rw [hat] at hfind
        simp only [hfind.none_behind]
        exact (openClass_follows f ds).then_readClass f id (fr :: frames) (hgo _)
    | some b =>
        rw [hat] at hfind
        simp only [hfind.some_behind]
        obtain ⟨negated, s, es⟩ := b
        exact .value _ fun s => (hgo frames _ es hfind.suffix).mono hfind.suffix
  by_cases hclose : c = ']'
  · subst hclose
    simp only [readClass, hds, hds']
    refine .value _ fun s => ?_
    cases frames with
    | nil => exact .refl List.suffix_rfl
    | cons outer frames => exact hgo frames _ ds List.suffix_rfl
  -- an operator is written by two characters, and no tail starts with one of them
  by_cases htwice : ∃ op es, operator? c = some op ∧ ds = c :: es
  · obtain ⟨op, es, hop, rfl⟩ := htwice
    simp only [readClass_operator f hop hds, readClass_operator f hop (hds' _)]
    exact (hgo frames _ es (List.suffix_cons c es)).mono (List.suffix_cons c es)
  · have hop (es) (hes : ds = c :: es) : operator? c = none :=
      Option.eq_none_iff_forall_ne_some.2 fun op hop => htwice ⟨op, es, hop, hes⟩
    have hop' (t : Tail) (es) (hes : ds ++ t.chars = c :: es) : operator? c = none := by
      cases ds with
      | nil => rw [← (List.cons.inj hes).1]; rfl
      | cons d ds => exact hop ds (congrArg (· :: ds) (List.cons.inj hes).1)
    simp only [readClass_range f hbracket hclose hop hds,
      readClass_range f hbracket hclose (hop' _) (hds' _)]
    exact (readClassRange_cons_follows f c ds).then_readClass f fr.add frames (hgo frames)

theorem readClass_follows {n : Nat} (fr : ClassFrame) (frames : List ClassFrame) {cs : List Char}
    (hn : cs.length < n) :
    Follows (fun _ _ => False) cs (readClass f n fr frames cs)
      fun t => readClass f (n + t.chars.length) fr frames (cs ++ t.chars) := by
  induction n generalizing fr frames cs with
  | zero => cases hn
  | succ n ih =>
      simp only [Nat.add_right_comm n 1]
      obtain h | ⟨hnil, h⟩ := skip_append f cs
      · have hsuffix := skip_suffix f cs
        cases hds : f.skip cs with
        | nil =>
            have halone : readClass f (n + 1) fr frames cs = .error .unclosedClass := by
              rw [readClass, hds]
            rw [halone]
            refine .fails fun t b hb => not_readClass_of_suffix f (t := t) ?_ hb
            rw [h t, hds]
            exact List.suffix_rfl
        | cons c ds =>
            rw [hds] at hsuffix h
            have hlen : ds.length < n := by
              have := hsuffix.length_le
              rw [List.length_cons] at this
              omega
            refine (readClass_cons_follows f fr frames hds h fun frames fr es hes => ?_).mono
              ((List.suffix_cons c ds).trans hsuffix)
            exact ih fr frames (Nat.lt_of_le_of_lt hes.length_le hlen)
      · simp only [readClass, hnil, h]
        exact .fault

/-- A class behind its opening bracket. It ends before the tail, or not at all. -/
theorem openClass_readClass_follows (cs : List Char) :
    Follows (fun _ _ => False) cs
      (openClass f cs >>= fun b => readClass f (b.2.length + 1) b.1 [] b.2)
      fun t => openClass f (cs ++ t.chars) >>= fun b =>
        readClass f (b.2.length + 1) b.1 [] b.2 := by
  refine (openClass_follows f cs).bind (fun t b c hb hc => ?_) (fun _ _ _ => rfl) fun b _ => ?_
  · exact not_readClass_of_suffix f ((skip_suffix f b.2).trans hb) hc
  · obtain ⟨fr, cs⟩ := b
    simp only [extend_pair, extend_list, List.length_append, Nat.add_right_comm _ _ 1]
    exact readClass_follows f fr [] (Nat.lt_succ_self cs.length)

end Switchyard.Regex
