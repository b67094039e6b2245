import Mathlib.Data.List.Basic
import Switchyard.Proofs.Tokens

/-!
# What a Pattern Is Cut Into

The tokens of a pattern are the parts between the slashes that stand outside braces. This module
says which lists of tokens these are without reading the text from left to right: a token is whole
if its braces are balanced and every slash in it stands inside braces (`Whole`), and a text has just
one cut into whole tokens (`tokens?_eq_some_iff`). So the tokens of a text that is put together from
whole tokens are these tokens again.

The braces are counted a second time, from the brace at the start of a token to the one that closes
it. Both counts agree: in a whole token the first brace is always closed
(`exists_splitBrace?_of_whole`), and what stands inside has balanced braces
(`splitBrace?_eq_some_iff`).

## Main results

* `tokens?_eq_some_iff`: the tokens of a text are its one cut into whole tokens.
* `getLast?_eq_slash_iff`: a text ends with a slash exactly if its last token is empty.
* `splitBrace?_eq_some_iff`: where the brace is that closes a token.
-/

namespace Switchyard.Pattern

/-! ### Whole tokens -/

/-- The braces of a text are balanced where `depth` of them are open at its start, and every slash
stands inside braces. -/
structure WholeFrom (depth : Nat) (t : List Char) : Prop where
  balanced : BalancedFrom depth t
  inside : ∀ p, p ++ ['/'] <+: t → p.count '}' < depth + p.count '{'

/-- The braces of a text are balanced, and no slash stands outside of them. -/
abbrev Whole (t : List Char) : Prop :=
  WholeFrom 0 t

/-- What is said of the text in front of each slash, said of it behind the first character. -/
theorem forall_slash_cons_iff {P : List Char → Prop} {c : Char} {t : List Char} :
    (∀ p, p ++ ['/'] <+: c :: t → P p) ↔
      (c = '/' → P []) ∧ ∀ p, p ++ ['/'] <+: t → P (c :: p) := by
  constructor
  · intro h
    refine ⟨fun hc => h [] ?_, fun p hp => h (c :: p) ?_⟩
    · rw [hc, List.nil_append, List.cons_prefix_cons]
      exact ⟨rfl, List.nil_prefix⟩
    · rw [List.cons_append, List.cons_prefix_cons]
      exact ⟨rfl, hp⟩
  · rintro ⟨hnil, hcons⟩ p hp
    cases p with
    | nil => exact hnil (List.cons_prefix_cons.1 hp).1.symm
    | cons d p =>
        obtain ⟨rfl, hrest⟩ := List.cons_prefix_cons.1 hp
        exact hcons p hrest

theorem wholeFrom_nil : WholeFrom 0 [] :=
  ⟨balancedFrom_nil_iff.2 rfl, fun p hp => by simp at hp⟩

theorem wholeFrom_open_iff {depth : Nat} {t : List Char} :
    WholeFrom depth ('{' :: t) ↔ WholeFrom (depth + 1) t := by
  have hinside : (∀ p, p ++ ['/'] <+: '{' :: t → p.count '}' < depth + p.count '{') ↔
      ∀ p, p ++ ['/'] <+: t → p.count '}' < depth + 1 + p.count '{' := by
    simp only [forall_slash_cons_iff, List.count_cons]
    grind
  exact ⟨fun h => ⟨balancedFrom_open_iff.1 h.balanced, hinside.1 h.inside⟩,
    fun h => ⟨balancedFrom_open_iff.2 h.balanced, hinside.2 h.inside⟩⟩

theorem wholeFrom_close_iff {depth : Nat} {t : List Char} :
    WholeFrom (depth + 1) ('}' :: t) ↔ WholeFrom depth t := by
  have hinside : (∀ p, p ++ ['/'] <+: '}' :: t → p.count '}' < depth + 1 + p.count '{') ↔
      ∀ p, p ++ ['/'] <+: t → p.count '}' < depth + p.count '{' := by
    simp only [forall_slash_cons_iff, List.count_cons]
    grind
  exact ⟨fun h => ⟨balancedFrom_close_iff.1 h.balanced, hinside.1 h.inside⟩,
    fun h => ⟨balancedFrom_close_iff.2 h.balanced, hinside.2 h.inside⟩⟩

theorem not_wholeFrom_slash (t : List Char) : ¬WholeFrom 0 ('/' :: t) := by
  intro h
  have := h.inside [] (List.cons_prefix_cons.2 ⟨rfl, List.nil_prefix⟩)
  simp at this

theorem wholeFrom_cons_iff {depth : Nat} {c : Char} {t : List Char} (ho : c ≠ '{') (hc : c ≠ '}')
    (hslash : ¬(c = '/' ∧ depth = 0)) : WholeFrom depth (c :: t) ↔ WholeFrom depth t := by
  have hinside : (∀ p, p ++ ['/'] <+: c :: t → p.count '}' < depth + p.count '{') ↔
      ∀ p, p ++ ['/'] <+: t → p.count '}' < depth + p.count '{' := by
    have hfirst : c = '/' → 0 < depth := fun h => by
      rw [not_and] at hslash
      exact Nat.pos_of_ne_zero (hslash h)
    simp only [forall_slash_cons_iff, List.count_nil, List.count_cons_of_ne ho,
      List.count_cons_of_ne hc, Nat.add_zero]
    exact and_iff_right hfirst
  exact ⟨fun h => ⟨(balancedFrom_cons_iff ho hc).1 h.balanced, hinside.1 h.inside⟩,
    fun h => ⟨(balancedFrom_cons_iff ho hc).2 h.balanced, hinside.2 h.inside⟩⟩

/-- A whole token does not end with a slash. -/
theorem Whole.getLast?_ne_slash {t : List Char} (h : Whole t) : t.getLast? ≠ some '/' := by
  intro hlast
  obtain ⟨p, rfl⟩ := List.getLast?_eq_some_iff.1 hlast
  have hinside := h.inside p (List.prefix_refl _)
  have hcount := h.balanced.2
  simp at hcount hinside
  omega

/-- A whole token without braces holds no slash. -/
theorem Whole.slash_not_mem {t : List Char} (h : Whole t) (hbrace : '{' ∉ t) : '/' ∉ t := by
  intro hslash
  obtain ⟨p, q, rfl⟩ := List.append_of_mem hslash
  have hinside := h.inside p ⟨q, by simp⟩
  have hopen : p.count '{' = 0 :=
    List.count_eq_zero_of_not_mem fun hmem => hbrace (List.mem_append_left _ hmem)
  omega

/-! ### The cut of a text -/

/-- A whole token is not cut. -/
theorem tokensFrom?_of_wholeFrom {depth : Nat} {t : List Char} (h : WholeFrom depth t) :
    tokensFrom? depth t = some [t] := by
  induction depth, t using cutInduction with
  | nil depth =>
      obtain rfl := balancedFrom_nil_iff.1 h.balanced
      rfl
  | opened depth t ih => rw [tokensFrom?_open, ih (wholeFrom_open_iff.1 h)]; rfl
  | unopened t => exact absurd h.balanced (not_balancedFrom_close t)
  | closed depth t ih => rw [tokensFrom?_close_succ, ih (wholeFrom_close_iff.1 h)]; rfl
  | slash t => exact absurd h (not_wholeFrom_slash t)
  | other depth c t ho hc hslash ih =>
      rw [tokensFrom?_other t ho hc hslash, ih ((wholeFrom_cons_iff ho hc hslash).1 h)]
      rfl

/-- A character that does not cut belongs to the first token. -/
theorem exists_of_map_prependChar {depth : Nat} {c : Char} {cs t : List Char}
    {ts : List (List Char)} (h : (tokensFrom? depth cs).map (prependChar c) = some (t :: ts)) :
    ∃ u, t = c :: u ∧ tokensFrom? depth cs = some (u :: ts) := by
  obtain ⟨us, hus, heq⟩ := Option.map_eq_some_iff.1 h
  obtain ⟨u, us, rfl⟩ := List.exists_cons_of_ne_nil (tokensFrom?_ne_nil hus)
  obtain ⟨rfl, rfl⟩ := List.cons.inj heq
  exact ⟨u, rfl, hus⟩

/-- What is cut off is whole, except that the braces at the start are closed in the first token. -/
theorem wholeFrom_of_tokensFrom? {depth : Nat} {cs t : List Char} {ts : List (List Char)}
    (h : tokensFrom? depth cs = some (t :: ts)) : WholeFrom depth t ∧ ∀ u ∈ ts, Whole u := by
  induction depth, cs using cutInduction generalizing t ts with
  | nil depth =>
      cases depth with
      | zero =>
          obtain ⟨rfl, rfl⟩ := List.cons.inj (Option.some.inj h)
          exact ⟨wholeFrom_nil, fun u hu => absurd hu List.not_mem_nil⟩
      | succ d => cases h
  | opened depth cs ih =>
      rw [tokensFrom?_open] at h
      obtain ⟨u, rfl, hu⟩ := exists_of_map_prependChar h
      obtain ⟨hfirst, hothers⟩ := ih hu
      exact ⟨wholeFrom_open_iff.2 hfirst, hothers⟩
  | unopened cs => cases h
  | closed depth cs ih =>
      rw [tokensFrom?_close_succ] at h
      obtain ⟨u, rfl, hu⟩ := exists_of_map_prependChar h
      obtain ⟨hfirst, hothers⟩ := ih hu
      exact ⟨wholeFrom_close_iff.2 hfirst, hothers⟩
  | slash cs ih =>
      rw [tokensFrom?_slash] at h
      obtain ⟨us, hus, heq⟩ := Option.map_eq_some_iff.1 h
      obtain ⟨u, us, rfl⟩ := List.exists_cons_of_ne_nil (tokensFrom?_ne_nil hus)
      obtain ⟨rfl, rfl⟩ := List.cons.inj heq
      obtain ⟨hfirst, hothers⟩ := ih hus
      exact ⟨wholeFrom_nil, List.forall_mem_cons.2 ⟨hfirst, hothers⟩⟩
  | other depth c cs ho hc hslash ih =>
      rw [tokensFrom?_other cs ho hc hslash] at h
      obtain ⟨u, rfl, hu⟩ := exists_of_map_prependChar h
      obtain ⟨hfirst, hothers⟩ := ih hu
      exact ⟨(wholeFrom_cons_iff ho hc hslash).2 hfirst, hothers⟩

/-- A text cut at slashes into whole tokens. -/
structure Cut (cs : List Char) (ts : List (List Char)) : Prop where
  ne_nil : ts ≠ []
  join : Text.joinPieces '/' ts = cs
  whole : ∀ t ∈ ts, Whole t

/-- Whole tokens with slashes between them are cut into these tokens. -/
theorem tokens?_joinPieces {ts : List (List Char)} (hne : ts ≠ []) (h : ∀ t ∈ ts, Whole t) :
    tokens? (Text.joinPieces '/' ts) = some ts := by
  induction ts with
  | nil => exact absurd rfl hne
  | cons t ts ih =>
      obtain ⟨ht, hts⟩ := List.forall_mem_cons.1 h
      cases ts with
      | nil => exact tokensFrom?_of_wholeFrom ht
      | cons u ts =>
          rw [Text.joinPieces, tokens?, tokensFrom?_append_slash (tokensFrom?_of_wholeFrom ht),
            ih (List.cons_ne_nil u ts) hts]
          rfl

/-- **The tokens of a text are its one cut into whole tokens.** -/
theorem tokens?_eq_some_iff {cs : List Char} {ts : List (List Char)} :
    tokens? cs = some ts ↔ Cut cs ts := by
  constructor
  · intro h
    obtain ⟨t, us, rfl⟩ := List.exists_cons_of_ne_nil (tokensFrom?_ne_nil h)
    exact ⟨List.cons_ne_nil t us, joinTokens_of_tokensFrom? h,
      List.forall_mem_cons.2 (wholeFrom_of_tokensFrom? h)⟩
  · rintro ⟨hne, rfl, hwhole⟩
    exact tokens?_joinPieces hne hwhole

theorem Cut.unique {cs : List Char} {ts us : List (List Char)} (h : Cut cs ts) (h' : Cut cs us) :
    ts = us :=
  Option.some.inj ((tokens?_eq_some_iff.2 h).symm.trans (tokens?_eq_some_iff.2 h'))

/-- Behind whole tokens and a slash, the rest of a text is cut on its own. -/
theorem Cut.of_append_slash {ts us : List (List Char)} {ds : List Char} (hne : ts ≠ [])
    (hts : ∀ t ∈ ts, Whole t) (h : Cut (Text.joinPieces '/' ts ++ '/' :: ds) us) :
    ∃ vs, us = ts ++ vs ∧ Cut ds vs := by
  have htokens := tokens?_eq_some_iff.2 h
  rw [tokens?, tokensFrom?_append_slash (tokens?_joinPieces hne hts)] at htokens
  obtain ⟨vs, hvs, rfl⟩ := Option.map_eq_some_iff.1 htokens
  exact ⟨vs, rfl, tokens?_eq_some_iff.1 hvs⟩

/-- A character that neither is a brace nor cuts starts the first token. -/
theorem Cut.exists_cons {c : Char} {cs : List Char} {ts : List (List Char)} (h : Cut (c :: cs) ts)
    (ho : c ≠ '{') (hc : c ≠ '}') (hslash : c ≠ '/') : ∃ t us, ts = (c :: t) :: us := by
  have htokens := tokens?_eq_some_iff.2 h
  rw [tokens?, tokensFrom?_other cs ho hc fun h => hslash h.1] at htokens
  obtain ⟨t, us, rfl⟩ := List.exists_cons_of_ne_nil h.ne_nil
  obtain ⟨v, rfl, -⟩ := exists_of_map_prependChar htokens
  exact ⟨v, us, rfl⟩

/-- A text that is cut has balanced braces. -/
theorem Cut.balanced {cs : List Char} {ts : List (List Char)} (h : Cut cs ts) : Balanced cs := by
  have hsome : tokensFrom? 0 cs = some ts := tokens?_eq_some_iff.2 h
  rw [Balanced, ← isSome_tokensFrom?_iff, hsome]
  rfl

/-- The last token is what the text ends with. -/
theorem Cut.exists_append {cs : List Char} {ts : List (List Char)} {t : List Char}
    (h : Cut cs (ts ++ [t])) (hts : ts ≠ []) : cs = Text.joinPieces '/' ts ++ '/' :: t := by
  rw [← h.join, Text.joinPieces_concat '/' hts]

/-- **A text ends with a slash exactly if its last token is empty**, and not its only one. -/
theorem Cut.getLast?_eq_slash_iff {cs : List Char} {ts : List (List Char)} (h : Cut cs ts) :
    cs.getLast? = some '/' ↔ ∃ us, us ≠ [] ∧ ts = us ++ [[]] := by
  obtain ⟨us, t, rfl⟩ := (List.eq_nil_or_concat' ts).resolve_left h.ne_nil
  have hlast := (h.whole t (by simp)).getLast?_ne_slash
  rcases List.eq_nil_or_concat' us with rfl | ⟨vs, v, rfl⟩
  · have hcs : cs = t := h.join.symm
    refine iff_of_false (hcs ▸ hlast) ?_
    rintro ⟨us, hne, heq⟩
    exact hne (by simpa using (List.append_inj' heq rfl).1.symm)
  · rw [h.exists_append (by simp)]
    cases t with
    | nil => exact iff_of_true (by simp) ⟨vs ++ [v], by simp, rfl⟩
    | cons c t =>
        rw [List.getLast?_append_of_ne_nil _ (List.cons_ne_nil _ _), List.getLast?_cons_cons]
        refine iff_of_false hlast ?_
        rintro ⟨us, -, heq⟩
        simpa using (List.append_inj' heq rfl).2

/-! ### The brace that closes a token -/

theorem splitBrace?_close_succ (depth : Nat) (cs : List Char) :
    splitBrace? (depth + 2) ('}' :: cs) =
      (splitBrace? (depth + 1) cs).map fun p => ('}' :: p.1, p.2) := by
  rw [splitBrace?, if_neg (by simp)]
  rfl

theorem splitBrace?_open (depth : Nat) (cs : List Char) :
    splitBrace? depth ('{' :: cs) =
      (splitBrace? (depth + 1) cs).map fun p => ('{' :: p.1, p.2) := by
  rw [splitBrace?, if_neg (by simp)]
  rfl

theorem splitBrace?_other (depth : Nat) {c : Char} (cs : List Char) (ho : c ≠ '{')
    (hc : c ≠ '}') :
    splitBrace? depth (c :: cs) = (splitBrace? depth cs).map fun p => (c :: p.1, p.2) := by
  simp only [splitBrace?, ho, hc, false_and, if_false]

/-- What holds of a text whose braces are counted holds if every character keeps it. -/
theorem braceInduction {P : Nat → List Char → Prop} (nil : ∀ depth, P depth [])
    (opened : ∀ depth cs, P (depth + 1) cs → P depth ('{' :: cs))
    (unopened : ∀ cs, P 0 ('}' :: cs))
    (closed : ∀ depth cs, P depth cs → P (depth + 1) ('}' :: cs))
    (other : ∀ depth c cs, c ≠ '{' → c ≠ '}' → P depth cs → P depth (c :: cs)) (depth : Nat)
    (cs : List Char) : P depth cs := by
  induction depth, cs using cutInduction with
  | nil depth => exact nil depth
  | opened depth cs ih => exact opened depth cs ih
  | unopened cs => exact unopened cs
  | closed depth cs ih => exact closed depth cs ih
  | slash cs ih => exact other 0 '/' cs (by decide) (by decide) ih
  | other depth c cs ho hc _ ih => exact other depth c cs ho hc ih

/-- Behind balanced braces, a closing brace closes the one that is open. -/
theorem splitBrace?_append {depth : Nat} {inner : List Char} (h : BalancedFrom depth inner)
    (rest : List Char) : splitBrace? (depth + 1) (inner ++ '}' :: rest) = some (inner, rest) := by
  induction depth, inner using braceInduction with
  | nil depth =>
      obtain rfl := balancedFrom_nil_iff.1 h
      rfl
  | opened depth inner ih =>
      rw [List.cons_append, splitBrace?_open, ih (balancedFrom_open_iff.1 h)]
      rfl
  | unopened inner => exact absurd h (not_balancedFrom_close inner)
  | closed depth inner ih =>
      rw [List.cons_append, splitBrace?_close_succ, ih (balancedFrom_close_iff.1 h)]
      rfl
  | other depth c inner ho hc ih =>
      rw [List.cons_append, splitBrace?_other _ _ ho hc, ih ((balancedFrom_cons_iff ho hc).1 h)]
      rfl

/-- A character that closes nothing stands in front of the brace that closes. -/
theorem exists_of_map_cons {c : Char} {parts : Option (List Char × List Char)}
    {inner rest : List Char} (h : (parts.map fun p => (c :: p.1, p.2)) = some (inner, rest)) :
    ∃ front, inner = c :: front ∧ parts = some (front, rest) := by
  obtain ⟨⟨front, back⟩, hparts, heq⟩ := Option.map_eq_some_iff.1 h
  obtain ⟨rfl, rfl⟩ := Prod.mk.inj heq
  exact ⟨front, rfl, hparts⟩

/-- What stands in front of the brace that closes has balanced braces. -/
theorem balancedFrom_of_splitBrace? {depth : Nat} {cs inner rest : List Char}
    (h : splitBrace? (depth + 1) cs = some (inner, rest)) :
    cs = inner ++ '}' :: rest ∧ BalancedFrom depth inner := by
  induction cs generalizing depth inner with
  | nil => cases h
  | cons c cs ih =>
      by_cases ho : c = '{'
      · subst ho
        rw [splitBrace?_open] at h
        obtain ⟨front, rfl, hcs⟩ := exists_of_map_cons h
        obtain ⟨rfl, hfront⟩ := ih hcs
        exact ⟨rfl, balancedFrom_open_iff.2 hfront⟩
      · by_cases hc : c = '}'
        · subst hc
          cases depth with
          | zero =>
              obtain ⟨rfl, rfl⟩ := Prod.mk.inj (Option.some.inj h)
              exact ⟨rfl, balancedFrom_nil_iff.2 rfl⟩
          | succ d =>
              rw [splitBrace?_close_succ] at h
              obtain ⟨front, rfl, hcs⟩ := exists_of_map_cons h
              obtain ⟨rfl, hfront⟩ := ih hcs
              exact ⟨rfl, balancedFrom_close_iff.2 hfront⟩
        · rw [splitBrace?_other _ _ ho hc] at h
          obtain ⟨front, rfl, hcs⟩ := exists_of_map_cons h
          obtain ⟨rfl, hfront⟩ := ih hcs
          exact ⟨rfl, (balancedFrom_cons_iff ho hc).2 hfront⟩

/-- **Where the brace is that closes a token**: behind balanced braces. -/
theorem splitBrace?_eq_some_iff {depth : Nat} {cs inner rest : List Char} :
    splitBrace? (depth + 1) cs = some (inner, rest) ↔
      cs = inner ++ '}' :: rest ∧ BalancedFrom depth inner := by
  constructor
  · exact balancedFrom_of_splitBrace?
  · rintro ⟨rfl, h⟩
    exact splitBrace?_append h rest

/-- Behind balanced braces there is one place only where the brace in front of them is closed. -/
theorem append_close_inj {inner inner' rest rest' : List Char} (h : Balanced inner)
    (h' : Balanced inner') (heq : inner ++ '}' :: rest = inner' ++ '}' :: rest') :
    inner = inner' ∧ rest = rest' := by
  have hsome : some (inner, rest) = some (inner', rest') := by
    rw [← splitBrace?_append h rest, heq, splitBrace?_append h' rest']
  exact Prod.mk.inj (Option.some.inj hsome)

/-- Braces that are open and balanced are closed. -/
theorem isSome_splitBrace? {depth : Nat} {cs : List Char} (h : BalancedFrom depth cs)
    (hdepth : depth ≠ 0) : (splitBrace? depth cs).isSome = true := by
  induction depth, cs using braceInduction with
  | nil depth => exact absurd (balancedFrom_nil_iff.1 h) hdepth
  | opened depth cs ih =>
      rw [splitBrace?_open, Option.isSome_map]
      exact ih (balancedFrom_open_iff.1 h) (Nat.succ_ne_zero depth)
  | unopened cs => exact absurd rfl hdepth
  | closed depth cs ih =>
      cases depth with
      | zero => rfl
      | succ d =>
          rw [splitBrace?_close_succ, Option.isSome_map]
          exact ih (balancedFrom_close_iff.1 h) (Nat.succ_ne_zero d)
  | other depth c cs ho hc ih =>
      rw [splitBrace?_other _ _ ho hc, Option.isSome_map]
      exact ih ((balancedFrom_cons_iff ho hc).1 h) hdepth

/-- **In a whole token the first brace is closed**, and what stands inside is balanced. -/
theorem exists_splitBrace?_of_whole {cs : List Char} (h : Whole ('{' :: cs)) :
    ∃ inner rest, splitBrace? 1 cs = some (inner, rest) ∧ cs = inner ++ '}' :: rest ∧
      Balanced inner := by
  have hopen : BalancedFrom 1 cs := balancedFrom_open_iff.1 h.balanced
  obtain ⟨⟨inner, rest⟩, hcs⟩ := Option.isSome_iff_exists.1 (isSome_splitBrace? hopen (by decide))
  exact ⟨inner, rest, hcs, splitBrace?_eq_some_iff.1 hcs⟩

end Switchyard.Pattern
