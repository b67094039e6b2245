import Mathlib.Data.List.Induction
import Mathlib.Data.List.Infix
import Switchyard.Pattern.Parser

/-!
# Tokens of a Pattern

A pattern is cut at the slashes that stand outside braces. Which texts can be cut is a matter of
their braces alone: no initial part closes more of them than it opens, and the whole closes as many
as it opens (`isSome_tokensFrom?_iff`). At a slash behind balanced braces the text is cut whatever
comes next (`tokensFrom?_append_slash`), so the tokens of two texts with a slash between them are
those of the one and then those of the other.

Empty tokens write no segments, and `namedTokens` leaves them out. So slashes at the start of a text
or at its end do not matter to it.

## Main results

* `isSome_tokensFrom?_iff`: a text can be cut exactly if its braces are balanced.
* `namedTokens_append_slash`: the tokens of two texts with a slash between them.
* `namedTokens_dropWhile`, `namedTokens_dropEndWhile`: slashes at the start and at the end.
-/

namespace Switchyard.Pattern

/-! ### Balanced braces -/

/-- The braces of a text are balanced where `depth` of them are open at its start: none is closed
that is not open, and at the end all are closed. -/
def BalancedFrom (depth : Nat) (cs : List Char) : Prop :=
  (∀ p, p <+: cs → p.count '}' ≤ depth + p.count '{') ∧ cs.count '}' = depth + cs.count '{'

/-- The braces of a text are balanced. -/
abbrev Balanced (cs : List Char) : Prop :=
  BalancedFrom 0 cs

theorem balancedFrom_nil_iff {depth : Nat} : BalancedFrom depth [] ↔ depth = 0 := by
  simp [BalancedFrom, eq_comm]

/-- What is said of the initial parts of a text, said of those behind its first character. -/
theorem forall_prefix_cons_iff {P : List Char → Prop} {c : Char} {cs : List Char} :
    (∀ p, p <+: c :: cs → P p) ↔ P [] ∧ ∀ p, p <+: cs → P (c :: p) := by
  simp only [List.prefix_cons_iff, or_imp, forall_and, forall_eq, forall_exists_index, and_imp]
  exact and_congr_right fun _ => ⟨fun h p hp => h _ p rfl hp, fun h _ p heq hp => heq ▸ h p hp⟩

theorem balancedFrom_open_iff {depth : Nat} {cs : List Char} :
    BalancedFrom depth ('{' :: cs) ↔ BalancedFrom (depth + 1) cs := by
  simp only [BalancedFrom, forall_prefix_cons_iff, List.count_nil, List.count_cons]
  grind

theorem not_balancedFrom_close (cs : List Char) : ¬BalancedFrom 0 ('}' :: cs) := by
  rintro ⟨h, -⟩
  exact absurd (h ['}'] ⟨cs, rfl⟩) (by decide)

theorem balancedFrom_close_iff {depth : Nat} {cs : List Char} :
    BalancedFrom (depth + 1) ('}' :: cs) ↔ BalancedFrom depth cs := by
  simp only [BalancedFrom, forall_prefix_cons_iff, List.count_nil, List.count_cons]
  grind

theorem balancedFrom_cons_iff {depth : Nat} {c : Char} {cs : List Char} (ho : c ≠ '{')
    (hc : c ≠ '}') : BalancedFrom depth (c :: cs) ↔ BalancedFrom depth cs := by
  simp only [BalancedFrom, forall_prefix_cons_iff, List.count_nil, List.count_cons_of_ne ho,
    List.count_cons_of_ne hc]
  grind

/-! ### Cutting character by character -/

theorem tokensFrom?_open (depth : Nat) (cs : List Char) :
    tokensFrom? depth ('{' :: cs) = (tokensFrom? (depth + 1) cs).map (prependChar '{') := by
  cases depth <;> rfl

theorem tokensFrom?_close_zero (cs : List Char) : tokensFrom? 0 ('}' :: cs) = none := rfl

theorem tokensFrom?_close_succ (depth : Nat) (cs : List Char) :
    tokensFrom? (depth + 1) ('}' :: cs) = (tokensFrom? depth cs).map (prependChar '}') := rfl

theorem tokensFrom?_slash (cs : List Char) :
    tokensFrom? 0 ('/' :: cs) = (tokensFrom? 0 cs).map ([] :: ·) := rfl

/-- A character that neither is a brace nor cuts belongs to the first token. -/
theorem tokensFrom?_other {depth : Nat} {c : Char} (cs : List Char) (ho : c ≠ '{') (hc : c ≠ '}')
    (hslash : ¬(c = '/' ∧ depth = 0)) :
    tokensFrom? depth (c :: cs) = (tokensFrom? depth cs).map (prependChar c) := by
  rw [tokensFrom?.eq_def]
  simp only [if_neg ho, if_neg hc, if_neg hslash]

/-- What holds of a text that is cut holds if every character keeps it, and the end has it. -/
theorem cutInduction {P : Nat → List Char → Prop} (nil : ∀ depth, P depth [])
    (opened : ∀ depth cs, P (depth + 1) cs → P depth ('{' :: cs))
    (unopened : ∀ cs, P 0 ('}' :: cs))
    (closed : ∀ depth cs, P depth cs → P (depth + 1) ('}' :: cs))
    (slash : ∀ cs, P 0 cs → P 0 ('/' :: cs))
    (other : ∀ depth c cs, c ≠ '{' → c ≠ '}' → ¬(c = '/' ∧ depth = 0) → P depth cs →
      P depth (c :: cs)) (depth : Nat) (cs : List Char) : P depth cs := by
  induction cs generalizing depth with
  | nil => exact nil depth
  | cons c cs ih =>
      by_cases ho : c = '{'
      · exact ho ▸ opened depth cs (ih _)
      · by_cases hc : c = '}'
        · cases depth with
          | zero => exact hc ▸ unopened cs
          | succ d => exact hc ▸ closed d cs (ih d)
        · by_cases hslash : c = '/' ∧ depth = 0
          · obtain ⟨rfl, rfl⟩ := hslash
            exact slash cs (ih 0)
          · exact other depth c cs ho hc hslash (ih depth)

/-- **A text can be cut exactly if its braces are balanced.** -/
theorem isSome_tokensFrom?_iff {depth : Nat} {cs : List Char} :
    (tokensFrom? depth cs).isSome = true ↔ BalancedFrom depth cs := by
  induction depth, cs using cutInduction with
  | nil depth =>
      rw [balancedFrom_nil_iff]
      cases depth <;> simp [tokensFrom?]
  | opened depth cs ih => rw [tokensFrom?_open, Option.isSome_map, ih, balancedFrom_open_iff]
  | unopened cs =>
      exact iff_of_false (by simp [tokensFrom?_close_zero]) (not_balancedFrom_close cs)
  | closed depth cs ih =>
      rw [tokensFrom?_close_succ, Option.isSome_map, ih, balancedFrom_close_iff]
  | slash cs ih =>
      rw [tokensFrom?_slash, Option.isSome_map, ih, balancedFrom_cons_iff (by decide) (by decide)]
  | other depth c cs ho hc hslash ih =>
      rw [tokensFrom?_other cs ho hc hslash, Option.isSome_map, ih, balancedFrom_cons_iff ho hc]

theorem prependChar_append (c : Char) {ts : List (List Char)} (h : ts ≠ [])
    (us : List (List Char)) : prependChar c (ts ++ us) = prependChar c ts ++ us := by
  cases ts with
  | nil => exact absurd rfl h
  | cons t ts => rfl

/-- One more character in front of a text whose tokens are followed by others. -/
theorem map_prependChar_append (c : Char) {ts : List (List Char)} (h : ts ≠ [])
    (more : Option (List (List Char))) :
    (more.map (ts ++ ·)).map (prependChar c) = more.map (prependChar c ts ++ ·) := by
  rw [Option.map_map]
  exact congrArg (Option.map · more) (funext (prependChar_append c h))

/-- **A slash behind balanced braces cuts**, whatever comes next. -/
theorem tokensFrom?_append_slash {depth : Nat} {cs : List Char} {ts : List (List Char)}
    (h : tokensFrom? depth cs = some ts) (ds : List Char) :
    tokensFrom? depth (cs ++ '/' :: ds) = (tokens? ds).map (ts ++ ·) := by
  induction depth, cs using cutInduction generalizing ts with
  | nil depth =>
      cases depth with
      | zero =>
          obtain rfl := Option.some.inj h
          exact tokensFrom?_slash ds
      | succ d => cases h
  | opened depth cs ih =>
      rw [tokensFrom?_open] at h
      obtain ⟨us, hus, rfl⟩ := Option.map_eq_some_iff.1 h
      rw [List.cons_append, tokensFrom?_open, ih hus,
        map_prependChar_append _ (tokensFrom?_ne_nil hus)]
  | unopened cs => cases h
  | closed depth cs ih =>
      rw [tokensFrom?_close_succ] at h
      obtain ⟨us, hus, rfl⟩ := Option.map_eq_some_iff.1 h
      rw [List.cons_append, tokensFrom?_close_succ, ih hus,
        map_prependChar_append _ (tokensFrom?_ne_nil hus)]
  | slash cs ih =>
      rw [tokensFrom?_slash] at h
      obtain ⟨us, hus, rfl⟩ := Option.map_eq_some_iff.1 h
      rw [List.cons_append, tokensFrom?_slash, ih hus, Option.map_map]
      rfl
  | other depth c cs ho hc hslash ih =>
      rw [tokensFrom?_other cs ho hc hslash] at h
      obtain ⟨us, hus, rfl⟩ := Option.map_eq_some_iff.1 h
      rw [List.cons_append, tokensFrom?_other _ ho hc hslash, ih hus,
        map_prependChar_append _ (tokensFrom?_ne_nil hus)]

/-! ### Tokens that are not empty -/

/-- The tokens of a text that are not empty, from left to right; none if its braces are not
balanced. -/
def namedTokens (cs : List Char) : List (List Char) :=
  ((tokens? cs).getD []).filter (· ≠ [])

/-- The tokens of a text with balanced braces. -/
theorem tokens?_of_balanced {cs : List Char} (h : Balanced cs) :
    ∃ ts, tokens? cs = some ts ∧ namedTokens cs = ts.filter (· ≠ []) := by
  obtain ⟨ts, hts⟩ := Option.isSome_iff_exists.1 (isSome_tokensFrom?_iff.2 h)
  have htokens : tokens? cs = some ts := hts
  exact ⟨ts, htokens, by rw [namedTokens, htokens, Option.getD_some]⟩

theorem balanced_append_slash {cs ds : List Char} (hcs : Balanced cs) (hds : Balanced ds) :
    Balanced (cs ++ '/' :: ds) := by
  obtain ⟨ts, hts, -⟩ := tokens?_of_balanced hcs
  obtain ⟨us, hus, -⟩ := tokens?_of_balanced hds
  rw [Balanced, ← isSome_tokensFrom?_iff, tokensFrom?_append_slash hts, hus]
  rfl

/-- **The tokens of two texts with a slash between them** are those of both. -/
theorem namedTokens_append_slash {cs : List Char} (hcs : Balanced cs) (ds : List Char)
    (hds : Balanced ds) : namedTokens (cs ++ '/' :: ds) = namedTokens cs ++ namedTokens ds := by
  obtain ⟨ts, hts, hcs⟩ := tokens?_of_balanced hcs
  obtain ⟨us, hus, hds⟩ := tokens?_of_balanced hds
  have hboth : tokens? (cs ++ '/' :: ds) = some (ts ++ us) := by
    rw [tokens?, tokensFrom?_append_slash hts, hus]
    rfl
  rw [hcs, hds, namedTokens, hboth, Option.getD_some, List.filter_append]

/-! ### Slashes at the start and at the end -/

theorem namedTokens_cons_slash (cs : List Char) : namedTokens ('/' :: cs) = namedTokens cs := by
  rw [namedTokens, tokens?, tokensFrom?_slash, namedTokens, tokens?]
  cases tokensFrom? 0 cs <;> simp

/-- Slashes at the start of a text do not matter to its braces. -/
theorem balanced_dropWhile {cs : List Char} (h : Balanced cs) :
    Balanced (cs.dropWhile (· == '/')) := by
  induction cs with
  | nil => exact h
  | cons c cs ih =>
      rw [List.dropWhile_cons]
      split
      · next hc =>
        obtain rfl : c = '/' := by simpa using hc
        exact ih ((balancedFrom_cons_iff (by decide) (by decide)).1 h)
      · exact h

/-- **Slashes at the start of a text** do not matter to its tokens. -/
theorem namedTokens_dropWhile (cs : List Char) :
    namedTokens (cs.dropWhile (· == '/')) = namedTokens cs := by
  induction cs with
  | nil => rfl
  | cons c cs ih =>
      rw [List.dropWhile_cons]
      split
      · next hc =>
        obtain rfl : c = '/' := by simpa using hc
        rw [ih, namedTokens_cons_slash]
      · rfl

theorem dropEndWhile_concat (p : Char → Bool) (cs : List Char) (c : Char) :
    Text.dropEndWhile p (cs ++ [c]) = if p c then Text.dropEndWhile p cs else cs ++ [c] := by
  rw [Text.dropEndWhile, List.reverse_concat, List.dropWhile_cons]
  split
  · rfl
  · rw [List.reverse_cons, List.reverse_reverse]

theorem balanced_of_concat_slash {cs : List Char} (h : Balanced (cs ++ ['/'])) : Balanced cs := by
  obtain ⟨hinitial, hcount⟩ := h
  refine ⟨fun p hp => hinitial p (hp.trans (List.prefix_append cs ['/'])), ?_⟩
  simpa using hcount

/-- Slashes at the end of a text do not matter to its braces. -/
theorem balanced_dropEndWhile {cs : List Char} (h : Balanced cs) :
    Balanced (Text.dropEndWhile (· == '/') cs) := by
  induction cs using List.reverseRecOn with
  | nil => exact h
  | append_singleton cs c ih =>
      rw [dropEndWhile_concat]
      split
      · next hc =>
        obtain rfl : c = '/' := by simpa using hc
        exact ih (balanced_of_concat_slash h)
      · exact h

/-- **Slashes at the end of a text** do not matter to its tokens. -/
theorem namedTokens_dropEndWhile {cs : List Char} (h : Balanced cs) :
    namedTokens (Text.dropEndWhile (· == '/') cs) = namedTokens cs := by
  induction cs using List.reverseRecOn with
  | nil => rfl
  | append_singleton cs c ih =>
      rw [dropEndWhile_concat]
      split
      · next hc =>
        obtain rfl : c = '/' := by simpa using hc
        have hcs := balanced_of_concat_slash h
        have hnil : namedTokens [] = [] := rfl
        rw [ih hcs, namedTokens_append_slash hcs [] (balancedFrom_nil_iff.2 rfl), hnil,
          List.append_nil]
      · rfl

end Switchyard.Pattern
