import Switchyard.Pattern.Constraint
import Switchyard.Proofs.Bounding

/-!
# Anchors of a Constraint

A constraint shall be met by the segments that its expression matches from the first to the last
character. It is compiled from a text: the text of the expression is put between `^(?:` and `)$`,
and what is accepted and what is matched are decided by that text as a whole. This module says for
which texts it means what the text by itself means (`IsFaithful`).

It does for every expression that leaves the frame as it is, and this is nearly all of them: an
expression by itself closes no group that it did not open, so it stays within the group of the
frame, and the two assertions hold at the ends of the segment only. Two kinds of texts are
different. A text that closes a group too many is no expression by itself, but in the frame it
closes the group of the frame, and if it opens another one behind, it is accepted; then its parts
are anchored at one end each, or at none. An expression that ends in a comment, as the flag `x`
allows, is refused, because the comment takes up the end of the frame. Apart from these the frame
only counts towards the limits: it adds two levels, and its assertions have a weight.

## Main results

* `admits_iff`: an accepted expression is met by whole segments only.
* `fault_of_ofText?`: what is accepted, and is no expression, closes a group too many.
* `isSome_ofText?_iff_fits`: which expressions are accepted.
* `isFaithful_iff`: the texts that mean in the frame what they mean by themselves.
-/

namespace Switchyard.Regex

/-! ### Matches of an anchored expression -/

/-- An anchored expression matches some part of a text exactly if the expression matches all of
it. -/
theorem matchesWithin_anchored_iff {r : Regex} {text : List Char} :
    (seqAll [.look .start, r, .look .stop]).MatchesWithin text ↔ r.MatchesWhole text := by
  constructor
  · rintro ⟨before, part, after, rfl, h⟩
    cases h with
    | seq hstart h =>
        cases hstart with
        | look hbefore =>
            cases h with
            | @seq _ _ _ s t _ h hstop =>
                cases hstop with
                | look hafter =>
                    obtain rfl := List.getLast?_eq_none_iff.1 (Option.isNone_iff_eq_none.1 hbefore)
                    obtain rfl := List.head?_eq_none_iff.1 (Option.isNone_iff_eq_none.1 hafter)
                    simpa [MatchesWhole] using h
  · intro h
    have hstop : Matches (.seq r (.look .stop)) [] (text ++ []) [] := .seq h (.look rfl)
    have hstart : Matches (.seq (.look .start) (.seq r (.look .stop))) [] ([] ++ (text ++ [])) [] :=
      .seq (.look rfl) hstop
    exact ⟨[], [] ++ (text ++ []), [], by simp, hstart⟩

theorem weight_anchored (p : Piece) : p.anchored.expr.weight = p.expr.weight + 64 := by
  show 32 + (p.expr.weight + 32) = p.expr.weight + 64
  omega

end Switchyard.Regex

namespace Switchyard.Constraint

open Regex (parse readPiece depthLimit weightLimit)

theorem toList_anchored (e : String) : (anchored e).toList = Regex.anchoredText e.toList := by
  simp [anchored, Regex.anchoredText]

theorem isSome_ofText?_iff {e : String} :
    (ofText? e).isSome = true ↔ ∃ r, parse (anchored e) = .ok r := by
  unfold ofText?
  split
  · next r h => simp [h]
  · next f h => simp [h]

theorem parse_of_ofText? {e : String} {c : Constraint} (h : ofText? e = some c) :
    parse (anchored e) = .ok c.expr :=
  source_of_ofText? h ▸ c.compiles

/-- An expression that may stand in the frame. The frame adds two levels and two assertions, and
the parenthesis of the frame has to be read as one: in a comment at the end of the expression it
would not close the group. -/
structure Fits (e : String) (p : Regex.Piece) : Prop where
  paren : parse (e ++ ")") = .error .unopenedGroup
  depth : p.depth + 2 ≤ depthLimit
  weight : p.expr.weight + 64 ≤ weightLimit

/-- What is compiled of an expression. -/
theorem parse_anchored_iff {e : String} {p : Regex.Piece} (hp : readPiece e.toList = .ok p)
    {r : Regex} :
    parse (anchored e) = .ok r ↔ Fits e p ∧ p.anchored.expr = r := by
  have hparen : parse (e ++ ")") = readPiece (e.toList ++ [')']) >>= Regex.Piece.bounded := by
    rw [Regex.parse_eq, String.toList_append]
    rfl
  rw [Regex.parse_eq_ok_iff, toList_anchored]
  obtain ⟨hanchored, herror⟩ | ⟨hanchored, hok⟩ := Regex.readPiece_anchored hp
  · rw [hanchored]
    constructor
    · rintro ⟨q, hq, hdepth, hweight, hr⟩
      cases hq
      refine ⟨⟨?_, hdepth, Regex.weight_anchored p ▸ hweight⟩, hr⟩
      rw [hparen, herror]
      rfl
    · rintro ⟨hfits, hr⟩
      exact ⟨_, rfl, hfits.depth, (Regex.weight_anchored p).symm ▸ hfits.weight, hr⟩
  · rw [hanchored]
    constructor
    · rintro ⟨q, hq, -⟩
      cases hq
    · rintro ⟨hfits, -⟩
      have h := hfits.paren
      rw [hparen, hok] at h
      have h : p.bounded = .error .unopenedGroup := h
      unfold Regex.Piece.bounded at h
      split at h
      · cases h
      · split at h <;> cases h

/-- The text is accepted exactly if it is an expression by itself, and then the constraint is met by
the segments that the expression matches from the first to the last character. -/
def IsFaithful (e : String) : Prop :=
  ((ofText? e).isSome = true ↔ ∃ r, parse e = .ok r) ∧
    ∀ c r, ofText? e = some c → parse e = .ok r →
      ∀ segment : String, c.admits segment = true ↔ r.MatchesWhole segment.toList

/-- A constraint whose text is an expression by itself is met by whole segments only. -/
theorem admits_iff {e : String} {c : Constraint} {r : Regex} (hc : ofText? e = some c)
    (hr : parse e = .ok r) (segment : String) :
    c.admits segment = true ↔ r.MatchesWhole segment.toList := by
  obtain ⟨p, hp, -, -, rfl⟩ := Regex.parse_eq_ok_iff.1 hr
  have hparse := parse_of_ofText? hc
  have hexpr := ((parse_anchored_iff hp).1 hparse).2
  rw [admits, Regex.isMatch_iff (Regex.parse_isOrdered hparse), ← hexpr]
  exact Regex.matchesWithin_anchored_iff

/-- The bar does not reach over the anchors. -/
example : (ofText? "a|b").map (fun c => ["a", "b", "ab"].map c.admits) =
    some [true, true, false] := by
  decide +kernel

/-- A text that is accepted, and is no expression by itself, closes a group that it did not open. -/
theorem fault_of_ofText? {e : String} {c : Constraint} {f : Regex.Fault}
    (hc : ofText? e = some c) (hf : parse e = .error f) : f = .unopenedGroup := by
  have hparse := parse_of_ofText? hc
  cases hread : readPiece e.toList with
  | ok p =>
      obtain ⟨hfits, -⟩ := (parse_anchored_iff hread).1 hparse
      have hdepth := hfits.depth
      have hweight := hfits.weight
      have hok := Regex.parse_eq_ok_iff.2 ⟨p, hread, by omega, by omega, rfl⟩
      rw [hf] at hok
      cases hok
  | error f' =>
      rw [Regex.parse_eq, hread] at hf
      cases hf
      obtain ⟨q, hq, -⟩ := Regex.parse_eq_ok_iff.1 hparse
      exact Regex.unopenedGroup_of_readPiece_anchored hread (toList_anchored e ▸ hq)

/-- An expression is accepted exactly if it may stand in the frame. -/
theorem isSome_ofText?_iff_fits {e : String} {r : Regex} (hr : parse e = .ok r) :
    (ofText? e).isSome = true ↔ ∃ p, readPiece e.toList = .ok p ∧ Fits e p := by
  obtain ⟨p, hp, -⟩ := Regex.parse_eq_ok_iff.1 hr
  rw [isSome_ofText?_iff]
  constructor
  · rintro ⟨r', hr'⟩
    exact ⟨p, hp, ((parse_anchored_iff hp).1 hr').1⟩
  · rintro ⟨q, hq, hfits⟩
    exact ⟨_, (parse_anchored_iff hq).2 ⟨hfits, rfl⟩⟩

/-- **A text means in the frame what it means by itself** exactly if, being an expression, it fits
into the frame, and, closing a group too many, it is refused. -/
theorem isFaithful_iff (e : String) :
    IsFaithful e ↔
      (∀ r, parse e = .ok r → ∃ p, readPiece e.toList = .ok p ∧ Fits e p) ∧
        (parse e = .error .unopenedGroup → ofText? e = none) := by
  constructor
  · rintro ⟨hvalid, -⟩
    refine ⟨fun r hr => (isSome_ofText?_iff_fits hr).1 (hvalid.2 ⟨r, hr⟩), fun hf => ?_⟩
    rw [Option.eq_none_iff_forall_ne_some]
    intro c hc
    obtain ⟨r, hr⟩ := hvalid.1 (hc ▸ rfl)
    rw [hf] at hr
    cases hr
  · rintro ⟨hfits, hunopened⟩
    refine ⟨⟨fun h => ?_, fun ⟨r, hr⟩ => (isSome_ofText?_iff_fits hr).2 (hfits r hr)⟩,
      fun c r hc hr => admits_iff hc hr⟩
    obtain ⟨c, hc⟩ := Option.isSome_iff_exists.1 h
    cases hparse : parse e with
    | ok r => exact ⟨r, rfl⟩
    | error f =>
        rw [fault_of_ofText? hc hparse] at hparse
        rw [hunopened hparse] at hc
        cases hc

/-- The text `x)|(?:y` is no expression, but it is accepted, and a segment that only starts with `x`
meets it. The expression `(?x)a#` is refused. -/
theorem isFaithful_fails :
    (parse "x)|(?:y" = .error .unopenedGroup ∧
      (ofText? "x)|(?:y").map (·.admits "xz") = some true ∧ ¬IsFaithful "x)|(?:y") ∧
    (parse "(?x)a#" = .ok (.seq .empty (.chars (.single 'a'))) ∧
      ofText? "(?x)a#" = none ∧ ¬IsFaithful "(?x)a#") := by
  have hescapes : parse "x)|(?:y" = .error .unopenedGroup := by decide +kernel
  have hadmits : (ofText? "x)|(?:y").map (·.admits "xz") = some true := by decide +kernel
  have hcomment : parse "(?x)a#" = .ok (.seq .empty (.chars (.single 'a'))) := by decide +kernel
  have hrefused : ofText? "(?x)a#" = none := by decide +kernel
  refine ⟨⟨hescapes, hadmits, fun h => ?_⟩, hcomment, hrefused, fun h => ?_⟩
  · obtain ⟨c, hc, -⟩ := Option.map_eq_some_iff.1 hadmits
    obtain ⟨r, hr⟩ := h.1.1 (hc ▸ rfl)
    rw [hescapes] at hr
    cases hr
  · have haccepted := h.1.2 ⟨_, hcomment⟩
    rw [hrefused] at haccepted
    cases haccepted

end Switchyard.Constraint
