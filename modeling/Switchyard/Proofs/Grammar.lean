import Mathlib.Data.List.Forall2
import Switchyard.Proofs.Cutting
import Switchyard.Proofs.Matching

/-!
# The Grammar of Patterns

Which texts are patterns, and what they mean, said without reading them: a text is cut into whole
tokens, each token that is not empty has one of six forms (`Writes`), a wildcard is the last token
and no slash follows it, and no variable is declared twice (`Grammatical`). The parser accepts these
texts and no others (`parse_eq_ok_iff`).

The forms with braces leave open what stands inside, slashes, colons, stars and braces included. It
only has to be balanced, and the name ends at the first colon, also at one inside other braces.

## Main results

* `segmentOfToken_eq_ok_iff`: a token is read as the segment that it writes.
* `faultAmong?_eq_none_iff`: which segments may stand together.
* `parse_accepts_grammar`: the parser accepts exactly the grammar.
-/

namespace Switchyard.Pattern

/-! ### Tokens that write a segment -/

/-- A name of a variable in braces: not empty, and without the colon that ends it. -/
def IsName (name : List Char) : Prop :=
  name ≠ [] ∧ ':' ∉ name

/-- The forms of a token, with the segment that each writes. -/
inductive Writes : List Char → Segment → Prop
  /-- a text without braces that does not start with a star -/
  | literal {text : List Char} (hne : text ≠ []) (hstar : text.head? ≠ some '*')
      (hplain : ∀ c ∈ text, isBrace c = false) : Writes text (.literal (String.ofList text))
  /-- a star alone -/
  | star : Writes ['*'] (.wildcard Segment.unnamed)
  /-- a star before a name without braces and stars -/
  | starred {name : List Char} (hne : name ≠ [])
      (hplain : ∀ c ∈ name, isBrace c = false ∧ c ≠ '*') :
      Writes ('*' :: name) (.wildcard (String.ofList name))
  /-- a name in braces -/
  | parameter {name : List Char} (hname : IsName name) (hbalanced : Balanced name) :
      Writes ('{' :: (name ++ ['}'])) (.parameter (String.ofList name))
  /-- a name in braces before a star -/
  | braced {name : List Char} (hname : IsName name) (hbalanced : Balanced name) :
      Writes ('{' :: (name ++ ['}', '*'])) (.wildcard (String.ofList name))
  /-- a name and a constraint in braces -/
  | regex {name expression : List Char} {constraint : Constraint} (hname : IsName name)
      (hbalanced : Balanced (name ++ ':' :: expression))
      (hconstraint : Constraint.ofText? (String.ofList expression) = some constraint) :
      Writes ('{' :: (name ++ ':' :: expression ++ ['}'])) (.regex (String.ofList name) constraint)

theorem Writes.ne_nil {t : List Char} {s : Segment} (h : Writes t s) : t ≠ [] := by
  cases h with
  | literal hne => exact hne
  | _ => exact List.cons_ne_nil _ _

/-- A text in braces that has other text than a star behind it stands for nothing. -/
theorem rest_of_variableSegment {token inner rest : List Char} {s : Segment}
    (h : variableSegment token inner rest = .ok s) : rest = [] ∨ rest = ['*'] := by
  rw [variableSegment] at h
  split at h
  · cases h
  · next hrest => simpa only [not_and_or, not_not] using hrest

/-- A name without a colon stands for a variable, with a star behind it for a wildcard. -/
theorem variableSegment_eq_ok_iff_of_name {token inner rest : List Char} {s : Segment}
    (hcolon : ':' ∉ inner) (hrest : rest = [] ∨ rest = ['*']) :
    variableSegment token inner rest = .ok s ↔
      inner ≠ [] ∧
        s = if rest = [] then .parameter (String.ofList inner)
          else .wildcard (String.ofList inner) := by
  have hallowed : ¬(rest ≠ [] ∧ rest ≠ ['*']) := by simpa only [not_and_or, not_not] using hrest
  rw [variableSegment, if_neg hallowed, Text.splitFirst_eq_none_iff.2 hcolon]
  dsimp only
  split
  · next hname => simp [hname]
  · next hname => rw [Except.ok.injEq, and_iff_right hname, eq_comm]

/-- A name, a colon and an expression stand for a variable with a constraint. -/
theorem variableSegment_eq_ok_iff_of_colon {token name expression rest : List Char} {s : Segment}
    (hcolon : ':' ∉ name) (hrest : rest = [] ∨ rest = ['*']) :
    variableSegment token (name ++ ':' :: expression) rest = .ok s ↔
      name ≠ [] ∧ rest = [] ∧ ∃ c, Constraint.ofText? (String.ofList expression) = some c ∧
        s = .regex (String.ofList name) c := by
  have hallowed : ¬(rest ≠ [] ∧ rest ≠ ['*']) := by simpa only [not_and_or, not_not] using hrest
  rw [variableSegment, if_neg hallowed, Text.splitFirst_append hcolon]
  dsimp only
  split
  · next hname => simp [hname]
  · next hname =>
    split
    · next hstar => simp [hstar]
    · next hnone =>
      rw [not_not] at hnone
      split
      · next c hc => simp [hname, hnone, hc, eq_comm]
      · next hc => simp [hc]

/-- **What stands in braces is read as the segment that it writes** with what follows the braces. -/
theorem variableSegment_eq_ok_iff {token inner rest : List Char} {s : Segment}
    (hinner : Balanced inner) :
    variableSegment token inner rest = .ok s ↔ Writes ('{' :: (inner ++ '}' :: rest)) s := by
  constructor
  · intro h
    have hrest := rest_of_variableSegment h
    cases hsplit : Text.splitFirst ':' inner with
    | none =>
        have hcolon := Text.splitFirst_eq_none_iff.1 hsplit
        obtain ⟨hne, hs⟩ := (variableSegment_eq_ok_iff_of_name hcolon hrest).1 h
        rcases hrest with rfl | rfl
        · exact hs ▸ .parameter ⟨hne, hcolon⟩ hinner
        · exact hs ▸ .braced ⟨hne, hcolon⟩ hinner
    | some parts =>
        obtain ⟨name, expression⟩ := parts
        obtain ⟨rfl, hcolon⟩ := Text.splitFirst_eq_some_iff.1 hsplit
        obtain ⟨hne, rfl, c, hc, rfl⟩ := (variableSegment_eq_ok_iff_of_colon hcolon hrest).1 h
        exact .regex ⟨hne, hcolon⟩ hinner hc
  · intro h
    generalize htoken : '{' :: (inner ++ '}' :: rest) = t at h
    cases h with
    | literal hne hstar hplain => exact absurd (hplain '{' (by simp [← htoken])) (by decide)
    | star => simp at htoken
    | starred hne hplain => simp at htoken
    | parameter hname hbalanced =>
        obtain ⟨rfl, rfl⟩ := append_close_inj hinner hbalanced (List.cons.inj htoken).2
        exact (variableSegment_eq_ok_iff_of_name hname.2 (.inl rfl)).2 ⟨hname.1, rfl⟩
    | braced hname hbalanced =>
        obtain ⟨rfl, rfl⟩ := append_close_inj hinner hbalanced (List.cons.inj htoken).2
        exact (variableSegment_eq_ok_iff_of_name hname.2 (.inr rfl)).2 ⟨hname.1, rfl⟩
    | regex hname hbalanced hconstraint =>
        obtain ⟨rfl, rfl⟩ := append_close_inj hinner hbalanced (List.cons.inj htoken).2
        exact (variableSegment_eq_ok_iff_of_colon hname.2 (.inl rfl)).2
          ⟨hname.1, rfl, _, hconstraint, rfl⟩

/-! ### Reading a token -/

theorem segmentOfToken_starred {name : List Char} (hne : name ≠ []) :
    segmentOfToken ('*' :: name) =
      if name.any fun c => isBrace c || c = '*' then
        .error (.partialSegment (String.ofList ('*' :: name)))
      else .ok (.wildcard (String.ofList name)) := by
  cases name with
  | nil => exact absurd rfl hne
  | cons c name => rfl

theorem segmentOfToken_open (cs : List Char) :
    segmentOfToken ('{' :: cs) =
      ((splitBrace? 1 cs).map fun p => variableSegment ('{' :: cs) p.1 p.2).getD
        (.error (.partialSegment (String.ofList ('{' :: cs)))) := by
  rw [segmentOfToken]
  cases splitBrace? 1 cs <;> rfl

theorem segmentOfToken_other {t : List Char} (hstar : t.head? ≠ some '*')
    (hopen : t.head? ≠ some '{') :
    segmentOfToken t =
      if t.any isBrace then .error (.partialSegment (String.ofList t))
      else .ok (.literal (String.ofList t)) := by
  unfold segmentOfToken
  split
  · exact absurd rfl hstar
  · exact absurd rfl hstar
  · exact absurd rfl hopen
  · rfl

/-- A token that starts with a star is read as the wildcard that it writes. -/
theorem segmentOfToken_star_eq_ok_iff {name : List Char} {s : Segment} :
    segmentOfToken ('*' :: name) = .ok s ↔ Writes ('*' :: name) s := by
  cases name with
  | nil =>
      have hstar : segmentOfToken ['*'] = .ok (.wildcard Segment.unnamed) := rfl
      rw [hstar, Except.ok.injEq]
      constructor
      · rintro rfl
        exact .star
      · intro h
        cases h with
        | literal _ hstar => exact absurd rfl hstar
        | star => rfl
        | starred hne => exact absurd rfl hne
  | cons c name =>
      rw [segmentOfToken_starred (List.cons_ne_nil c name)]
      split
      · next hany =>
        refine iff_of_false (fun h => by cases h) fun h => ?_
        cases h with
        | literal _ hstar => exact absurd rfl hstar
        | starred _ hplain =>
            obtain ⟨d, hd, hbad⟩ := List.any_eq_true.1 hany
            simp [hplain d hd] at hbad
      · next hany =>
        rw [Except.ok.injEq]
        constructor
        · rintro rfl
          refine .starred (List.cons_ne_nil c name) fun d hd => ?_
          have hd := List.any_eq_false.1 (Bool.not_eq_true _ ▸ hany) d hd
          simpa using hd
        · intro h
          cases h with
          | literal _ hstar => exact absurd rfl hstar
          | starred _ _ => rfl

/-- A token that starts with a brace is read as the variable that it writes. -/
theorem segmentOfToken_open_eq_ok_iff {cs : List Char} {s : Segment} :
    segmentOfToken ('{' :: cs) = .ok s ↔ Writes ('{' :: cs) s := by
  rw [segmentOfToken_open]
  cases hsplit : splitBrace? 1 cs with
  | some parts =>
      obtain ⟨inner, rest⟩ := parts
      obtain ⟨rfl, hinner⟩ := splitBrace?_eq_some_iff.1 hsplit
      exact variableSegment_eq_ok_iff hinner
  | none =>
      refine iff_of_false (fun h => by cases h) fun h => ?_
      -- every form with a brace at its start closes it
      have closed {inner rest : List Char} (hinner : Balanced inner)
          (hcs : cs = inner ++ '}' :: rest) : False := by
        rw [hcs, splitBrace?_append hinner] at hsplit
        cases hsplit
      generalize htoken : '{' :: cs = t at h
      cases h with
      | literal _ _ hplain => exact absurd (hplain '{' (by simp [← htoken])) (by decide)
      | star => simp at htoken
      | starred => simp at htoken
      | parameter _ hbalanced => exact closed hbalanced (List.cons.inj htoken).2
      | braced _ hbalanced => exact closed hbalanced (List.cons.inj htoken).2
      | regex _ hbalanced => exact closed hbalanced (List.cons.inj htoken).2

/-- **A token is read as the segment that it writes.** -/
theorem segmentOfToken_eq_ok_iff {t : List Char} {s : Segment} (hne : t ≠ []) :
    segmentOfToken t = .ok s ↔ Writes t s := by
  by_cases hstar : t.head? = some '*'
  · obtain ⟨name, rfl⟩ := List.head?_eq_some_iff.1 hstar
    exact segmentOfToken_star_eq_ok_iff
  · by_cases hopen : t.head? = some '{'
    · obtain ⟨cs, rfl⟩ := List.head?_eq_some_iff.1 hopen
      exact segmentOfToken_open_eq_ok_iff
    · rw [segmentOfToken_other hstar hopen]
      split
      · next hany =>
        refine iff_of_false (fun h => by cases h) fun h => ?_
        obtain ⟨c, hc, hbrace⟩ := List.any_eq_true.1 hany
        cases h with
        | literal _ _ hplain => rw [hplain c hc] at hbrace; cases hbrace
        | star => exact hstar rfl
        | starred => exact hstar rfl
        | _ => exact hopen rfl
      · next hany =>
        rw [Except.ok.injEq]
        constructor
        · rintro rfl
          refine .literal hne hstar fun c hc => ?_
          simpa using List.any_eq_false.1 (Bool.not_eq_true _ ▸ hany) c hc
        · intro h
          cases h with
          | literal => rfl
          | star => exact absurd rfl hstar
          | starred => exact absurd rfl hstar
          | _ => exact absurd rfl hopen

/-- Tokens are read one after the other. -/
theorem segmentsOfTokens_eq_ok_iff {ts : List (List Char)} {segments : List Segment}
    (hne : ∀ t ∈ ts, t ≠ []) :
    segmentsOfTokens ts = .ok segments ↔ List.Forall₂ Writes ts segments := by
  constructor
  · intro h
    induction ts generalizing segments with
    | nil => exact Except.ok.inj h ▸ .nil
    | cons t ts ih =>
        obtain ⟨ht, hts⟩ := List.forall_mem_cons.1 hne
        rw [segmentsOfTokens] at h
        cases hread : segmentOfToken t with
        | error e => rw [hread] at h; cases h
        | ok s =>
            rw [hread] at h
            cases hrest : segmentsOfTokens ts with
            | error e => rw [hrest] at h; cases h
            | ok rest =>
                rw [hrest] at h
                exact Except.ok.inj h ▸ .cons ((segmentOfToken_eq_ok_iff ht).1 hread) (ih hts hrest)
  · intro h
    induction h with
    | nil => rfl
    | cons ht _ ih =>
        rw [segmentsOfTokens, (segmentOfToken_eq_ok_iff ht.ne_nil).2 ht,
          ih (List.forall_mem_cons.1 hne).2]
        rfl

/-! ### Segments that may stand together -/

/-- A wildcard that stands in the last place only, said of all places at once. -/
theorem wildcardLast_iff {p : List Segment} :
    WildcardLast p ↔ ∀ earlier name later, p = earlier ++ .wildcard name :: later → later = [] := by
  induction p with
  | nil => exact iff_of_true trivial fun earlier name later h => by simp at h
  | cons s p ih =>
      rw [WildcardLast, ih]
      constructor
      · rintro ⟨hfirst, hrest⟩ earlier name later h
        cases earlier with
        | nil =>
            obtain ⟨rfl, rfl⟩ := List.cons.inj h
            exact hfirst rfl
        | cons r earlier =>
            obtain ⟨rfl, rfl⟩ := List.cons.inj h
            exact hrest earlier name later rfl
      · intro h
        refine ⟨fun hs => ?_, fun earlier name later hp => h (s :: earlier) name later (hp ▸ rfl)⟩
        cases s with
        | wildcard name => exact h [] name p rfl
        | _ => cases hs

/-- **Segments may stand together** exactly if they are well-formed and declare no variable that
was seen before. -/
theorem faultAmong?_eq_none_iff {seen : List String} {p : List Segment} :
    faultAmong? seen p = none ↔ WellFormed p ∧ ∀ name ∈ boundNames p, name ∉ seen := by
  constructor
  · exact wellFormed_of_faultAmong?
  · rintro ⟨hp, hfresh⟩
    induction p generalizing seen with
    | nil => rfl
    | cons s p ih =>
        -- a parameter and a constrained parameter are checked alike
        have declared {name : String} (hs : s.boundName? = some name) :
            seen.contains name = false ∧ faultAmong? (name :: seen) p = none := by
          rw [boundNames_cons, hs] at hfresh
          obtain ⟨hname, hrest⟩ := List.forall_mem_cons.1 hfresh
          refine ⟨by simpa using hname, ih hp.tail fun n hn hseen => ?_⟩
          rcases List.mem_cons.1 hseen with rfl | hseen
          · exact hp.not_mem_tail hs hn
          · exact hrest n hn hseen
        cases s with
        | literal text => exact ih hp.tail hfresh
        | parameter name =>
            obtain ⟨hname, hrest⟩ := declared rfl
            rw [faultAmong?, hname, if_neg Bool.false_ne_true, hrest]
        | regex name c =>
            obtain ⟨hname, hrest⟩ := declared rfl
            rw [faultAmong?, hname, if_neg Bool.false_ne_true, hrest]
        | wildcard name =>
            obtain ⟨hname, -⟩ := declared rfl
            rw [faultAmong?, hname, if_neg (not_not.2 (hp.wildcardLast.1 rfl)),
              if_neg Bool.false_ne_true]

/-! ### The whole pattern -/

/-- The segment that a slash at the end of a text makes, if there is another segment. -/
def trailing (cs : List Char) (segments : List Segment) : List Segment :=
  if segments ≠ [] ∧ cs.getLast? = some '/' then [.literal ""] else []

theorem withTrailing_eq_append (cs : List Char) (segments : List Segment) :
    withTrailing cs segments = segments ++ trailing cs segments := by
  rw [withTrailing, trailing]
  split
  · rfl
  · rw [List.append_nil]

/-- A text that writes segments, one for each token that is not empty. -/
structure Grammatical (cs : List Char) (segments : List Segment) : Prop where
  balanced : Balanced cs
  written : ∃ ts, Cut cs ts ∧ List.Forall₂ Writes (ts.filter (· ≠ [])) segments
  wildcardLast : ∀ earlier name later, segments = earlier ++ .wildcard name :: later →
    later = [] ∧ cs.getLast? ≠ some '/'
  distinct : (boundNames segments).Nodup

theorem boundNames_withTrailing (cs : List Char) (segments : List Segment) :
    boundNames (withTrailing cs segments) = boundNames segments := by
  rw [withTrailing_eq_append, trailing]
  split
  · simp [boundNames, Segment.boundName?]
  · rw [List.append_nil]

/-- The segment that a slash at the end makes stands behind no wildcard. -/
theorem wildcardLast_withTrailing_iff {cs : List Char} {segments : List Segment} :
    WildcardLast (withTrailing cs segments) ↔
      ∀ earlier name later, segments = earlier ++ .wildcard name :: later →
        later = [] ∧ cs.getLast? ≠ some '/' := by
  rw [wildcardLast_iff, withTrailing_eq_append]
  constructor
  · intro h earlier name later hsegments
    have happend : segments ++ trailing cs segments =
        earlier ++ .wildcard name :: (later ++ trailing cs segments) := by
      rw [← List.cons_append, ← List.append_assoc, ← hsegments]
    obtain ⟨hlater, htrailing⟩ := List.append_eq_nil_iff.1 (h earlier name _ happend)
    refine ⟨hlater, fun hslash => ?_⟩
    rw [trailing, if_pos ⟨by simp [hsegments], hslash⟩] at htrailing
    cases htrailing
  · intro h earlier name later hsegments
    rw [trailing] at hsegments
    split at hsegments
    · next hslash =>
      have hmem : .wildcard name ∈ segments := by
        have : .wildcard name ∈ segments ++ [.literal ""] := by simp [hsegments]
        simpa using this
      obtain ⟨front, back, hback⟩ := List.append_of_mem hmem
      exact absurd hslash.2 (h front name back hback).2
    · rw [List.append_nil] at hsegments
      exact (h earlier name later hsegments).1

/-- **A text is read as the segments that it writes**, with one more if it ends with a slash. -/
theorem readSegments_eq_ok_iff {cs : List Char} {p : List Segment} :
    readSegments cs = .ok p ↔
      ∃ segments, Grammatical cs segments ∧ p = withTrailing cs segments := by
  have hne (ts : List (List Char)) : ∀ t ∈ ts.filter (· ≠ []), t ≠ [] := fun t ht => by
    simpa using (List.mem_filter.1 ht).2
  have hfault (segments : List Segment) : faultAmong? [] (withTrailing cs segments) = none ↔
      WildcardLast (withTrailing cs segments) ∧ (boundNames segments).Nodup := by
    have hnames := boundNames_withTrailing cs segments
    rw [faultAmong?_eq_none_iff]
    exact ⟨fun h => ⟨h.1.wildcardLast, hnames ▸ h.1.nodup⟩,
      fun h => ⟨⟨h.1, hnames ▸ h.2⟩, fun _ _ => List.not_mem_nil⟩⟩
  constructor
  · intro h
    rw [readSegments] at h
    split at h
    · cases h
    · next ts hts =>
      split at h
      · cases h
      · next segments hsegments =>
        split at h
        · cases h
        · next hnone =>
          obtain ⟨hlast, hnodup⟩ := (hfault segments).1 hnone
          have hcut := tokens?_eq_some_iff.1 hts
          refine ⟨segments, ⟨hcut.balanced, ⟨ts, hcut, ?_⟩, ?_, hnodup⟩, (Except.ok.inj h).symm⟩
          · exact (segmentsOfTokens_eq_ok_iff (hne ts)).1 hsegments
          · exact wildcardLast_withTrailing_iff.1 hlast
  · rintro ⟨segments, ⟨-, ⟨ts, hcut, hwritten⟩, hlast, hnodup⟩, rfl⟩
    have hnone := (hfault segments).2 ⟨wildcardLast_withTrailing_iff.2 hlast, hnodup⟩
    rw [readSegments, tokens?_eq_some_iff.2 hcut]
    dsimp only
    rw [(segmentsOfTokens_eq_ok_iff (hne ts)).2 hwritten]
    dsimp only
    rw [hnone]

/-- **A text is a pattern exactly if it is grammatical.** -/
theorem parse_eq_ok_iff {text : String} {p : Pattern} :
    parse text = .ok p ↔ ∃ segments, Grammatical text.toList segments ∧
      p.segments = segments ++ trailing text.toList segments := by
  have hread : parse text = .ok p ↔ readSegments text.toList = .ok p.segments := by
    rw [parse]
    cases readSegments text.toList with
    | error e => exact iff_of_false (fun h => by cases h) (fun h => by cases h)
    | ok segments =>
        rw [Except.ok.injEq, Except.ok.injEq, Pattern.mk.injEq]
  rw [hread, readSegments_eq_ok_iff]
  simp only [withTrailing_eq_append]

/-- No token writes the empty literal. -/
theorem Writes.ne_empty {t : List Char} {s : Segment} (h : Writes t s) : s ≠ .literal "" := by
  cases h with
  | literal hne => simpa using hne
  | _ => exact fun h => by cases h

/-- A segment among those that are written has its token. -/
theorem exists_writes {ts : List (List Char)} {segments : List Segment}
    (h : List.Forall₂ Writes ts segments) {s : Segment} (hs : s ∈ segments) :
    ∃ t ∈ ts, Writes t s := by
  induction h with
  | nil => cases hs
  | @cons t r ts segments ht _ ih =>
      rcases List.mem_cons.1 hs with rfl | hs
      · exact ⟨t, List.mem_cons_self, ht⟩
      · obtain ⟨u, hu, hwrites⟩ := ih hs
        exact ⟨u, List.mem_cons_of_mem t hu, hwrites⟩

/-- An empty literal comes of a slash at the end alone, so it is the last of several segments. -/
theorem empty_literal_last {ts : List (List Char)} {cs : List Char}
    {segments earlier later : List Segment} (hwritten : List.Forall₂ Writes ts segments)
    (h : segments ++ trailing cs segments = earlier ++ .literal "" :: later) :
    earlier ≠ [] ∧ later = [] := by
  have hnone : .literal "" ∉ segments := fun hmem => by
    obtain ⟨t, -, ht⟩ := exists_writes hwritten hmem
    exact ht.ne_empty rfl
  rw [trailing] at h
  split at h
  · next hslash =>
    rcases List.eq_nil_or_concat' later with rfl | ⟨front, last, rfl⟩
    · exact ⟨(List.append_inj' h rfl).1 ▸ hslash.1, rfl⟩
    · rw [← List.cons_append, ← List.append_assoc] at h
      have hsegments := (List.append_inj' h rfl).1
      exact absurd (by simp [hsegments]) hnone
  · rw [List.append_nil] at h
    exact absurd (by simp [h]) hnone

/-- **The parser accepts exactly the grammar.** A text is a pattern exactly if it is grammatical,
and its segments are then those that its tokens write, with an empty literal behind them if there is
a token and the text ends with a slash. So in every pattern a wildcard stands in the last place, no
two variables have one name, and an empty literal stands only in the last place behind another
segment. Of every token that starts with a brace this brace is closed, by the one before which the
braces are balanced. -/
theorem parse_accepts_grammar (text : String) :
    (∀ p, parse text = .ok p ↔ ∃ segments, Grammatical text.toList segments ∧
      p.segments = segments ++ trailing text.toList segments) ∧
    (∀ p, parse text = .ok p →
      (∀ earlier name later, p.segments = earlier ++ .wildcard name :: later → later = []) ∧
        p.variableNames.Nodup ∧
        ∀ earlier later, p.segments = earlier ++ .literal "" :: later →
          earlier ≠ [] ∧ later = []) ∧
    ∀ ts, tokens? text.toList = some ts → ∀ cs, '{' :: cs ∈ ts →
      ∃ inner rest, splitBrace? 1 cs = some (inner, rest) ∧ cs = inner ++ '}' :: rest ∧
        Balanced inner := by
  refine ⟨fun p => parse_eq_ok_iff, fun p h => ?_, fun ts hts cs hmem => ?_⟩
  · have hwell := wellFormed_of_parse h
    obtain ⟨segments, ⟨-, ⟨ts, -, hwritten⟩, -, -⟩, hsegments⟩ := parse_eq_ok_iff.1 h
    exact ⟨wildcardLast_iff.1 hwell.wildcardLast, hwell.nodup,
      fun earlier later hp => empty_literal_last hwritten (hsegments ▸ hp)⟩
  · exact exists_splitBrace?_of_whole ((tokens?_eq_some_iff.1 hts).whole _ hmem)

/-- A pattern with slashes, braces and a colon inside braces. -/
def nestedBraces : String :=
  "//code//\x7bid:[0-9]\x7b2\x7d\x7d/\x7bx/\x7by\x7d\x7d*"

/-- The braces of the last token are closed by the last one, and the name is what stands between. -/
theorem parse_accepts_grammar_nested :
    ∃ p, parse nestedBraces = .ok p ∧ p.variableNames = ["id", "x/\x7by\x7d"] ∧
      (∃ segments, Grammatical nestedBraces.toList segments ∧
        p.segments = segments ++ trailing nestedBraces.toList segments) ∧
      (∀ earlier name later, p.segments = earlier ++ .wildcard name :: later → later = []) ∧
      ∃ inner rest, splitBrace? 1 "x/\x7by\x7d\x7d*".toList = some (inner, rest) ∧
        "x/\x7by\x7d\x7d*".toList = inner ++ '}' :: rest ∧ Balanced inner := by
  obtain ⟨haccepts, hwell, hclosed⟩ := parse_accepts_grammar nestedBraces
  have hrun : (parse nestedBraces).toOption.map variableNames = some ["id", "x/\x7by\x7d"] := by
    decide +kernel
  have hcut : (tokens? nestedBraces.toList).map (·.getLast?) =
      some (some "\x7bx/\x7by\x7d\x7d*".toList) := by
    decide +kernel
  obtain ⟨ts, hts, hlast⟩ := Option.map_eq_some_iff.1 hcut
  cases hparse : parse nestedBraces with
  | error e => rw [hparse] at hrun; cases hrun
  | ok p =>
      rw [hparse] at hrun
      exact ⟨p, rfl, Option.some.inj hrun, (haccepts p).1 hparse, (hwell p hparse).1,
        hclosed ts hts _ (List.mem_of_getLast? hlast)⟩

end Switchyard.Pattern
