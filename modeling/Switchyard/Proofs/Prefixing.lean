import Switchyard.Proofs.Tokens
import Switchyard.Router.Scope

/-!
# Patterns under Nested Prefixes

A route gets the prefixes of all open scopes, one put under the other. The parts may start and end
with any number of slashes, or be empty. This module shows that none of this matters to the
segments: the tokens of the whole are those of the parts, in their order
(`namedTokens_foldl_nestUnder`). Whether the whole ends with a slash is up to the last part that is
neither empty nor a bare slash, since a bare slash stands for the prefix itself
(`trails_foldl_nestUnder`).

## Main results

* `namedTokens_nestUnder`: a pattern under one prefix has the tokens of both.
* `linearize_pattern_tokens`: a route in a stack of scopes has the tokens of all prefixes and its
  own, and the slash at the end of the last part.
-/

namespace Switchyard

open Pattern (namedTokens)

/-! ### A pattern under one prefix -/

/-- Is there nothing in a part of a pattern but at most one slash? -/
def IsBare (part : String) : Prop :=
  part = "" ∨ part = "/"

instance : DecidablePred IsBare := fun _ => inferInstanceAs (Decidable (_ ∨ _))

/-- Does the text end with a slash? -/
def EndsWithSlash (text : String) : Prop :=
  text.toList.getLast? = some '/'

instance : DecidablePred EndsWithSlash := fun _ => inferInstanceAs (Decidable (_ = _))

theorem IsBare.balanced {part : String} (h : IsBare part) : Pattern.Balanced part.toList := by
  rw [Pattern.Balanced, ← Pattern.isSome_tokensFrom?_iff]
  rcases h with rfl | rfl <;> rfl

theorem IsBare.namedTokens {part : String} (h : IsBare part) : namedTokens part.toList = [] := by
  rcases h with rfl | rfl <;> rfl

theorem nestUnder_empty (pattern : String) : nestUnder "" pattern = pattern := by
  rw [nestUnder, if_pos rfl]

theorem nestUnder_of_isBare {stem pattern : String} (hs : stem ≠ "") (hp : IsBare pattern) :
    nestUnder stem pattern = stem := by
  rw [nestUnder, if_neg hs]
  exact if_pos hp

theorem toList_nestUnder {stem pattern : String} (hs : stem ≠ "") (hp : ¬IsBare pattern) :
    (nestUnder stem pattern).toList =
      Text.dropEndWhile (· == '/') stem.toList ++ '/' :: pattern.toList.dropWhile (· == '/') := by
  have hp' : ¬(pattern = "" ∨ pattern = "/") := hp
  rw [nestUnder, if_neg hs, if_neg hp', String.toList_ofList]

/-- A pattern with balanced braces under such a prefix has balanced braces. -/
theorem balanced_nestUnder {stem pattern : String} (hs : Pattern.Balanced stem.toList)
    (hp : Pattern.Balanced pattern.toList) : Pattern.Balanced (nestUnder stem pattern).toList := by
  by_cases hstem : stem = ""
  · rw [hstem, nestUnder_empty]
    exact hp
  · by_cases hbare : IsBare pattern
    · rw [nestUnder_of_isBare hstem hbare]
      exact hs
    · rw [toList_nestUnder hstem hbare]
      exact Pattern.balanced_append_slash (Pattern.balanced_dropEndWhile hs)
        (Pattern.balanced_dropWhile hp)

/-- **A pattern under a prefix has the tokens of both.** -/
theorem namedTokens_nestUnder {stem pattern : String} (hs : Pattern.Balanced stem.toList)
    (hp : Pattern.Balanced pattern.toList) :
    namedTokens (nestUnder stem pattern).toList =
      namedTokens stem.toList ++ namedTokens pattern.toList := by
  by_cases hstem : stem = ""
  · subst hstem
    rw [nestUnder_empty, IsBare.namedTokens (.inl rfl), List.nil_append]
  · by_cases hbare : IsBare pattern
    · rw [nestUnder_of_isBare hstem hbare, hbare.namedTokens, List.append_nil]
    · rw [toList_nestUnder hstem hbare,
        Pattern.namedTokens_append_slash (Pattern.balanced_dropEndWhile hs) _
          (Pattern.balanced_dropWhile hp),
        Pattern.namedTokens_dropEndWhile hs, Pattern.namedTokens_dropWhile]

/-- Slashes at the start of a text do not matter to its last character, if one of them stays. -/
theorem getLast?_slash_dropWhile {cs : List Char} (h : cs ≠ []) :
    ('/' :: cs.dropWhile (· == '/')).getLast? = cs.getLast? := by
  induction cs with
  | nil => exact absurd rfl h
  | cons c cs ih =>
      rw [List.dropWhile_cons]
      split
      · next hc =>
        obtain rfl : c = '/' := by simpa using hc
        cases cs with
        | nil => rfl
        | cons d cs => rw [ih (List.cons_ne_nil d cs), List.getLast?_cons_cons]
      · rw [List.getLast?_cons_cons]

/-- A pattern that is not bare decides whether it ends with a slash, also under a prefix. -/
theorem endsWithSlash_nestUnder_iff {stem pattern : String} (hp : ¬IsBare pattern) :
    EndsWithSlash (nestUnder stem pattern) ↔ EndsWithSlash pattern := by
  by_cases hstem : stem = ""
  · rw [hstem, nestUnder_empty]
  · have hne : pattern.toList ≠ [] := fun h => hp (.inl (String.toList_eq_nil_iff.1 h))
    rw [EndsWithSlash, toList_nestUnder hstem hp,
      List.getLast?_append_of_ne_nil _ (List.cons_ne_nil _ _), getLast?_slash_dropWhile hne,
      EndsWithSlash]

theorem nestUnder_ne_empty {stem pattern : String} (hp : ¬IsBare pattern) :
    nestUnder stem pattern ≠ "" := by
  by_cases hstem : stem = ""
  · rw [hstem, nestUnder_empty]
    exact fun h => hp (.inl h)
  · intro h
    have hnil := congrArg String.toList h
    rw [toList_nestUnder hstem hp] at hnil
    exact List.append_ne_nil_of_right_ne_nil _ (List.cons_ne_nil _ _) hnil

/-! ### A pattern under nested prefixes -/

/-- Parts with balanced braces, each put under those before it, have balanced braces and the tokens
of all parts in their order. -/
theorem namedTokens_foldl_nestUnder {parts : List String}
    (h : ∀ part ∈ parts, Pattern.Balanced part.toList) :
    Pattern.Balanced (parts.foldl nestUnder "").toList ∧
      namedTokens (parts.foldl nestUnder "").toList =
        parts.flatMap fun part => namedTokens part.toList := by
  induction parts using List.reverseRecOn with
  | nil => exact ⟨IsBare.balanced (.inl rfl), rfl⟩
  | append_singleton parts part ih =>
      obtain ⟨hparts, hlast⟩ := List.forall_mem_append.1 h
      obtain ⟨hbalanced, htokens⟩ := ih hparts
      have hpart := hlast part (List.mem_singleton_self part)
      rw [List.foldl_concat, List.flatMap_append, List.flatMap_singleton]
      exact ⟨balanced_nestUnder hbalanced hpart, by
        rw [namedTokens_nestUnder hbalanced hpart, htokens]⟩

/-- The last part that is not bare. -/
def lastWritten? (parts : List String) : Option String :=
  (parts.filter fun part => ¬IsBare part).getLast?

theorem lastWritten?_concat (parts : List String) (part : String) :
    lastWritten? (parts ++ [part]) =
      if IsBare part then lastWritten? parts else some part := by
  rw [lastWritten?, List.filter_append]
  split
  · next h => simp [h, lastWritten?]
  · next h => simp [h]

/-- A text ends as the last part that is not bare does, or it is bare if all parts are. -/
def Trails (parts : List String) (text : String) : Prop :=
  match lastWritten? parts with
  | some last => text ≠ "" ∧ (EndsWithSlash text ↔ EndsWithSlash last)
  | none => IsBare text

/-- **Nested parts end as the last of them that is not bare.** -/
theorem trails_foldl_nestUnder (parts : List String) :
    Trails parts (parts.foldl nestUnder "") := by
  induction parts using List.reverseRecOn with
  | nil => exact .inl rfl
  | append_singleton parts part ih =>
      rw [List.foldl_concat, Trails, lastWritten?_concat]
      by_cases hbare : IsBare part
      · rw [if_pos hbare]
        rw [Trails] at ih
        cases hlast : lastWritten? parts with
        | some last =>
            rw [hlast] at ih
            rw [nestUnder_of_isBare ih.1 hbare]
            exact ih
        | none =>
            rw [hlast] at ih
            by_cases hempty : parts.foldl nestUnder "" = ""
            · rw [hempty, nestUnder_empty]
              exact hbare
            · rw [nestUnder_of_isBare hempty hbare]
              exact ih
      · rw [if_neg hbare]
        exact ⟨nestUnder_ne_empty hbare, endsWithSlash_nestUnder_iff hbare⟩

namespace ScopeStack

variable {σ : Type}

/-- What the pattern of a route is made of: the prefixes of all frames, the outermost first, and its
own pattern. -/
def parts (s : ScopeStack σ) (pattern : String) : List String :=
  s.frames.map (·.stem) ++ [pattern]

theorem linearize_pattern (s : ScopeStack σ) (pattern : String) :
    (s.linearize pattern).pattern = (s.parts pattern).foldl nestUnder "" := by
  rw [parts, List.foldl_concat, List.foldl_map]
  rfl

/-- **Nested prefixes compose segment by segment.** If the braces of all prefixes and of the pattern
of a route are balanced, then so are those of the whole, and the tokens of the whole that are not
empty are those of the prefixes and of the pattern, in their order. If there is one, then not all
parts are bare, and the whole ends with a slash exactly if the last one that is not bare does. -/
theorem linearize_pattern_tokens (s : ScopeStack σ) (pattern : String)
    (h : ∀ part ∈ s.parts pattern, Pattern.Balanced part.toList) :
    Pattern.Balanced (s.linearize pattern).pattern.toList ∧
      namedTokens (s.linearize pattern).pattern.toList =
        (s.parts pattern).flatMap (fun part => namedTokens part.toList) ∧
      (namedTokens (s.linearize pattern).pattern.toList ≠ [] →
        ∃ last, lastWritten? (s.parts pattern) = some last ∧
          (EndsWithSlash (s.linearize pattern).pattern ↔ EndsWithSlash last)) := by
  obtain ⟨hbalanced, htokens⟩ := namedTokens_foldl_nestUnder h
  have htrails := trails_foldl_nestUnder (s.parts pattern)
  rw [linearize_pattern]
  refine ⟨hbalanced, htokens, fun hsome => ?_⟩
  rw [Trails] at htrails
  cases hlast : lastWritten? (s.parts pattern) with
  | some last =>
      rw [hlast] at htrails
      exact ⟨last, rfl, htrails.2⟩
  | none =>
      rw [hlast] at htrails
      exact absurd htrails.namedTokens hsome

/-- Scopes whose prefixes have slashes at both ends, in braces, or nothing else. -/
def slashed : ScopeStack Unit :=
  ((({} : ScopeStack Unit).push "//" false).push "/api/" false).push "\x7bid:a/b\x7d//" false

/-- The slash in the braces does not cut, and the bare slash of the route stands for the prefix,
which ends with a slash. -/
theorem linearize_pattern_tokens_slashed :
    (∀ part ∈ slashed.parts "/", Pattern.Balanced part.toList) ∧
      namedTokens (slashed.linearize "/").pattern.toList =
        ["api".toList, "\x7bid:a/b\x7d".toList] ∧
      EndsWithSlash (slashed.linearize "/").pattern := by
  have hbalanced : ∀ part ∈ slashed.parts "/", Pattern.Balanced part.toList := by
    have hcut : ∀ part ∈ slashed.parts "/", (Pattern.tokensFrom? 0 part.toList).isSome = true := by
      decide +kernel
    exact fun part hpart => Pattern.isSome_tokensFrom?_iff.1 (hcut part hpart)
  obtain ⟨-, htokens, hends⟩ := linearize_pattern_tokens slashed "/" hbalanced
  have hlist : namedTokens (slashed.linearize "/").pattern.toList =
      ["api".toList, "\x7bid:a/b\x7d".toList] := by
    rw [htokens]
    decide +kernel
  obtain ⟨last, hlast, hiff⟩ := hends (by rw [hlist]; exact List.cons_ne_nil _ _)
  have hwritten : lastWritten? (slashed.parts "/") = some "\x7bid:a/b\x7d//" := by decide +kernel
  obtain rfl := Option.some.inj (hwritten.symm.trans hlast)
  exact ⟨hbalanced, hlist, hiff.2 (by decide +kernel)⟩

end ScopeStack

end Switchyard
