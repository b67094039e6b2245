import Switchyard.Proofs.Grammar

/-!
# Patterns in Writing

A pattern is written with a slash before each segment. If it is read again, it is cut at these
slashes, as long as every segment is written as a whole token, and then the segments write
themselves. The two halves meet at the cut of the text into tokens: the written form is put together
from tokens, and the parser takes it apart into the tokens of its only cut.

One kind of segment is not written as it was read. A wildcard may stand as a name in braces before a
star, and such a name may hold slashes, braces and stars; but it is always written as a star before
the name, where none of these may stand. So a pattern is read again exactly if the name of its
wildcard is plain (`parse_text_iff`), and otherwise its written form is no pattern.

## Main results

* `toList_text`: the written form is put together from tokens.
* `Writes.respelled`: a segment is written as a token that writes it.
* `parse_text_iff`: when a written pattern is read again.
-/

namespace Switchyard.Pattern

/-! ### The written form -/

/-- A segment in writing, as a token. -/
def spelled (s : Segment) : List Char :=
  s.text.toList

theorem joinPieces_cons (sep : Char) (t : List Char) (ts : List (List Char)) :
    Text.joinPieces sep (t :: ts) = t ++ ts.flatMap (sep :: ·) := by
  induction ts generalizing t with
  | nil => exact (List.append_nil t).symm
  | cons u ts ih => rw [Text.joinPieces, ih, List.flatMap_cons, List.cons_append]

theorem toList_foldl_text (segments : List Segment) (acc : String) :
    (segments.foldl (fun acc s => acc ++ "/" ++ s.text) acc).toList =
      acc.toList ++ (segments.map spelled).flatMap ('/' :: ·) := by
  induction segments generalizing acc with
  | nil => exact (List.append_nil acc.toList).symm
  | cons s segments ih =>
      rw [List.foldl_cons, ih, List.map_cons, List.flatMap_cons, String.toList_append,
        String.toList_append, spelled, List.append_assoc, List.append_assoc]
      rfl

/-- **The written form of a pattern** is put together from an empty token and its segments. -/
theorem toList_text {p : Pattern} (h : p.segments ≠ []) :
    p.text.toList = Text.joinPieces '/' ([] :: p.segments.map spelled) := by
  have hempty : p.segments.isEmpty = false := by simpa using h
  rw [text, hempty, if_neg Bool.false_ne_true, toList_foldl_text, joinPieces_cons]
  rfl

/-! ### Segments as tokens -/

/-- A name that can stand behind a star: that of a wildcard without a name, or one without braces,
stars and slashes. -/
def IsPlain (name : String) : Prop :=
  name = Segment.unnamed ∨ ∀ c ∈ name.toList, c ≠ '{' ∧ c ≠ '}' ∧ c ≠ '*' ∧ c ≠ '/'

/-- A token without braces and slashes is whole. -/
theorem whole_of_plain {t : List Char} (h : ∀ c ∈ t, c ≠ '{' ∧ c ≠ '}' ∧ c ≠ '/') : Whole t := by
  induction t with
  | nil => exact wholeFrom_nil
  | cons c t ih =>
      obtain ⟨⟨ho, hc, hslash⟩, ht⟩ := List.forall_mem_cons.1 h
      exact (wholeFrom_cons_iff ho hc fun h => hslash h.1).2 (ih ht)

theorem spelled_wildcard {name : String} (h : name ≠ Segment.unnamed) :
    spelled (.wildcard name) = '*' :: name.toList := by
  rw [spelled, Segment.text, if_neg h, String.toList_append]
  rfl

theorem spelled_unnamed : spelled (.wildcard Segment.unnamed) = ['*'] := by
  rw [spelled, Segment.text, if_pos rfl]
  rfl

theorem spelled_parameter (name : String) :
    spelled (.parameter name) = '{' :: (name.toList ++ ['}']) := by
  rw [spelled, Segment.text, String.toList_append, String.toList_append]
  rfl

theorem spelled_regex (name : String) (c : Constraint) :
    spelled (.regex name c) = '{' :: (name.toList ++ ':' :: c.source.toList ++ ['}']) := by
  rw [spelled, Segment.text, String.toList_append, String.toList_append, String.toList_append,
    String.toList_append]
  simp

/-- **A segment is written as a token that writes it**, if it is no wildcard with a name that is not
plain. -/
theorem Writes.respelled {t : List Char} {s : Segment} (h : Writes t s) (ht : Whole t)
    (hplain : ∀ name, s = .wildcard name → IsPlain name) :
    Whole (spelled s) ∧ Writes (spelled s) s := by
  cases h with
  | literal hne hstar hbrace =>
      have hsame : spelled (.literal (String.ofList t)) = t := String.toList_ofList
      rw [hsame]
      exact ⟨ht, .literal hne hstar hbrace⟩
  | star =>
      rw [spelled_unnamed]
      exact ⟨ht, .star⟩
  | @starred name hne hbrace =>
      have hnamed : String.ofList name ≠ Segment.unnamed := fun h => by
        have hname : name = ['*'] := by rw [← String.toList_ofList (l := name), h]; rfl
        exact (hbrace '*' (by simp [hname])).2 rfl
      rw [spelled_wildcard hnamed, String.toList_ofList]
      exact ⟨ht, .starred hne hbrace⟩
  | parameter hname hbalanced =>
      rw [spelled_parameter, String.toList_ofList]
      exact ⟨ht, .parameter hname hbalanced⟩
  | @braced name hname hbalanced =>
      by_cases hnamed : String.ofList name = Segment.unnamed
      · rw [hnamed, spelled_unnamed]
        exact ⟨whole_of_plain (by simp), .star⟩
      · have hchars := (hplain _ rfl).resolve_left hnamed
        rw [String.toList_ofList] at hchars
        rw [spelled_wildcard hnamed, String.toList_ofList]
        refine ⟨whole_of_plain ?_, .starred hname.1 fun c hc => ?_⟩
        · refine List.forall_mem_cons.2 ⟨by decide, fun c hc => ?_⟩
          obtain ⟨ho, hclose, -, hslash⟩ := hchars c hc
          exact ⟨ho, hclose, hslash⟩
        · obtain ⟨ho, hclose, hstar, -⟩ := hchars c hc
          exact ⟨by simp [isBrace, ho, hclose], hstar⟩
  | regex hname hbalanced hconstraint =>
      have hsource := Constraint.source_of_ofText? hconstraint
      rw [spelled_regex, hsource, String.toList_ofList, String.toList_ofList]
      exact ⟨ht, .regex hname hbalanced hconstraint⟩

/-! ### Reading the written form -/

section Respelled

variable {cs : List Char} {segments : List Segment} {p : Pattern}

theorem spelled_empty : spelled (.literal "") = [] := rfl

/-- A segment of a pattern is one that a token wrote, or the empty literal behind them. -/
theorem mem_segments (hp : p.segments = segments ++ trailing cs segments) {s : Segment}
    (hs : s ∈ p.segments) : s ∈ segments ∨ s = .literal "" := by
  rw [hp, List.mem_append, trailing] at hs
  refine hs.imp_right fun hs => ?_
  split at hs
  · exact List.mem_singleton.1 hs
  · cases hs

/-- The written form is cut into the segments in writing. -/
theorem cut_text (hp : p.segments = segments ++ trailing cs segments) (hne : segments ≠ [])
    (hspelled : ∀ s ∈ segments, Whole (spelled s) ∧ Writes (spelled s) s) :
    Cut p.text.toList ([] :: p.segments.map spelled) where
  ne_nil := List.cons_ne_nil _ _
  join := (toList_text (by simp [hp, hne])).symm
  whole := by
    refine List.forall_mem_cons.2 ⟨wholeFrom_nil, List.forall_mem_map.2 fun s hs => ?_⟩
    rcases mem_segments hp hs with hs | rfl
    · exact (hspelled s hs).1
    · exact wholeFrom_nil

/-- The tokens that are not empty are those of the segments that tokens wrote. -/
theorem filter_spelled (hp : p.segments = segments ++ trailing cs segments)
    (hspelled : ∀ s ∈ segments, Whole (spelled s) ∧ Writes (spelled s) s) :
    ([] :: p.segments.map spelled).filter (· ≠ []) = segments.map spelled := by
  have hall : (segments.map spelled).filter (· ≠ []) = segments.map spelled := by
    refine List.filter_eq_self.2 (List.forall_mem_map.2 fun s hs => ?_)
    exact decide_eq_true (hspelled s hs).2.ne_nil
  have htrailing : ((trailing cs segments).map spelled).filter (· ≠ []) = [] := by
    rw [trailing]
    split
    · rfl
    · rfl
  rw [List.filter_cons_of_neg (by simp), hp, List.map_append, List.filter_append, hall, htrailing,
    List.append_nil]

/-- The written form ends with a slash exactly if the text did that was read. -/
theorem getLast?_text_iff (hp : p.segments = segments ++ trailing cs segments)
    (hne : segments ≠ []) (hspelled : ∀ s ∈ segments, Whole (spelled s) ∧ Writes (spelled s) s) :
    p.text.toList.getLast? = some '/' ↔ cs.getLast? = some '/' := by
  rw [(cut_text hp hne hspelled).getLast?_eq_slash_iff, hp, trailing]
  by_cases hslash : cs.getLast? = some '/'
  · rw [if_pos ⟨hne, hslash⟩]
    exact iff_of_true ⟨[] :: segments.map spelled, by simp, by simp [spelled_empty]⟩ hslash
  · rw [if_neg fun h => hslash h.2, List.append_nil]
    refine iff_of_false ?_ hslash
    rintro ⟨us, -, hus⟩
    obtain ⟨front, last, rfl⟩ := (List.eq_nil_or_concat' segments).resolve_left hne
    have hlast := (hspelled last (by simp)).2.ne_nil
    rw [List.map_append, ← List.cons_append] at hus
    exact hlast (by simpa using (List.append_inj' hus rfl).2)

/-- The written form writes the same segments. -/
theorem Grammatical.respelled (h : Grammatical cs segments)
    (hp : p.segments = segments ++ trailing cs segments) (hne : segments ≠ [])
    (hspelled : ∀ s ∈ segments, Whole (spelled s) ∧ Writes (spelled s) s) :
    Grammatical p.text.toList segments where
  balanced := (cut_text hp hne hspelled).balanced
  written := by
    refine ⟨_, cut_text hp hne hspelled, ?_⟩
    rw [filter_spelled hp hspelled, List.forall₂_map_left_iff, List.forall₂_same]
    exact fun s hs => (hspelled s hs).2
  wildcardLast earlier name later hsegments := by
    rw [Ne, getLast?_text_iff hp hne hspelled]
    exact h.wildcardLast earlier name later hsegments
  distinct := h.distinct

end Respelled

/-- Every segment that a token wrote is written as a token again, if wildcards are plain. -/
theorem Grammatical.spelled {cs : List Char} {segments : List Segment} (h : Grammatical cs segments)
    {s : Segment} (hs : s ∈ segments) (hplain : ∀ name, s = .wildcard name → IsPlain name) :
    Whole (Pattern.spelled s) ∧ Writes (Pattern.spelled s) s := by
  obtain ⟨ts, hcut, hwritten⟩ := h.written
  obtain ⟨t, ht, hwrites⟩ := exists_writes hwritten hs
  exact hwrites.respelled (hcut.whole t (List.mem_filter.1 ht).1) hplain

/-- **A written pattern is read again** if the name of its wildcard is plain. -/
theorem parse_text_of_plain {s : String} {p : Pattern} (h : parse s = .ok p)
    (hplain : ∀ name, .wildcard name ∈ p.segments → IsPlain name) : parse p.text = .ok p := by
  obtain ⟨segments, hgrammar, hp⟩ := parse_eq_ok_iff.1 h
  by_cases hne : segments = []
  · have hroot : p = ⟨[]⟩ := by
      rw [trailing, if_neg (by simp [hne]), hne] at hp
      exact congrArg Pattern.mk hp
    rw [hroot]
    rfl
  · have hspelled : ∀ s ∈ segments, Whole (spelled s) ∧ Writes (spelled s) s := fun s hs =>
      hgrammar.spelled hs fun name hname => hplain name (hp ▸ by simp [← hname, hs])
    refine parse_eq_ok_iff.2 ⟨segments, hgrammar.respelled hp hne hspelled, ?_⟩
    simp only [hp, trailing, getLast?_text_iff hp hne hspelled]

/-- What is related to a list is related part by part. -/
theorem exists_of_forall₂_append {α β : Type} {R : α → β → Prop} {as bs : List α} {a : α}
    {cs : List β} (h : List.Forall₂ R (as ++ a :: bs) cs) :
    ∃ ds c es, cs = ds ++ c :: es ∧ R a c ∧ List.Forall₂ R bs es := by
  induction as generalizing cs with
  | nil =>
      obtain ⟨c, es, hac, hes, rfl⟩ := List.forall₂_cons_left_iff.1 h
      exact ⟨[], c, es, rfl, hac, hes⟩
  | cons x as ih =>
      obtain ⟨y, ys, -, hys, rfl⟩ := List.forall₂_cons_left_iff.1 h
      obtain ⟨ds, c, es, rfl, hac, hes⟩ := ih hys
      exact ⟨y :: ds, c, es, rfl, hac, hes⟩

/-- A token that starts with a star is the last one of a grammatical text. -/
theorem Grammatical.last_of_star {cs v : List Char} {segments : List Segment}
    {ts us : List (List Char)} (h : Grammatical cs segments)
    (hcut : Cut cs (ts ++ ('*' :: v) :: us)) :
    us = [] ∧ ∃ name, Writes ('*' :: v) (.wildcard name) := by
  obtain ⟨ts', hcut', hwritten⟩ := h.written
  obtain rfl := hcut'.unique hcut
  rw [List.filter_append, List.filter_cons_of_pos (by simp)] at hwritten
  obtain ⟨front, s, back, rfl, hs, hback⟩ := exists_of_forall₂_append hwritten
  have hwildcard : ∃ name, s = .wildcard name := by
    cases hs with
    | literal _ hstar => exact absurd rfl hstar
    | star => exact ⟨_, rfl⟩
    | starred => exact ⟨_, rfl⟩
  obtain ⟨name, rfl⟩ := hwildcard
  obtain ⟨rfl, hslash⟩ := h.wildcardLast front name back rfl
  refine ⟨?_, name, hs⟩
  -- all tokens behind it are empty, and the last of them would be a slash at the end
  rcases List.eq_nil_or_concat' us with rfl | ⟨others, last, rfl⟩
  · rfl
  · have hempty := List.filter_eq_nil_iff.1 (List.forall₂_nil_right_iff.1 hback) last (by simp)
    obtain rfl : last = [] := by simpa using hempty
    have hends := hcut.getLast?_eq_slash_iff.2 ⟨ts ++ ('*' :: v) :: others, by simp, by simp⟩
    exact absurd hends hslash

/-- A name that can stand behind a star is plain. -/
theorem isPlain_of_writes {v : List Char} {s : Segment} (h : Writes ('*' :: v) s)
    (hwhole : Whole ('*' :: v)) (hne : v ≠ []) : IsPlain (String.ofList v) := by
  cases h with
  | literal _ hstar => exact absurd rfl hstar
  | star => exact absurd rfl hne
  | starred _ hbrace =>
      have hopen : '{' ∉ '*' :: v := by
        refine List.not_mem_cons_of_ne_of_not_mem (by decide) fun hmem => ?_
        exact absurd (hbrace '{' hmem).1 (by decide)
      have hslash := hwhole.slash_not_mem hopen
      refine .inr fun c hc => ?_
      rw [String.toList_ofList] at hc
      obtain ⟨hc', hstar⟩ := hbrace c hc
      refine ⟨?_, ?_, hstar, ?_⟩
      · rintro rfl
        exact absurd hc' (by decide)
      · rintro rfl
        exact absurd hc' (by decide)
      · rintro rfl
        exact hslash (List.mem_cons_of_mem _ hc)

/-- The name of a wildcard is not empty. -/
theorem Writes.name_ne_empty {t : List Char} {name : String} (h : Writes t (.wildcard name)) :
    name ≠ "" := by
  cases h with
  | star => decide
  | starred hne => simpa using hne
  | braced hname => simpa using hname.1

theorem name_ne_empty_of_parse {s : String} {p : Pattern} (h : parse s = .ok p) {name : String}
    (hname : .wildcard name ∈ p.segments) : name ≠ "" := by
  obtain ⟨segments, hgrammar, hsegments⟩ := parse_eq_ok_iff.1 h
  obtain ⟨ts, -, hwritten⟩ := hgrammar.written
  have hmem := (mem_segments hsegments hname).resolve_right (by simp)
  obtain ⟨t, -, ht⟩ := exists_writes hwritten hmem
  exact ht.name_ne_empty

/-- What stands in front of a wildcard is written as whole tokens. -/
theorem whole_spelled_of_parse {s : String} {p : Pattern} (h : parse s = .ok p)
    {earlier : List Segment} {name : String} (hp : p.segments = earlier ++ [.wildcard name])
    {r : Segment} (hr : r ∈ earlier) : Whole (spelled r) := by
  obtain ⟨segments, hgrammar, hsegments⟩ := parse_eq_ok_iff.1 h
  have hlast := wildcardLast_iff.1 (wellFormed_of_parse h).wildcardLast
  rcases mem_segments hsegments (hp ▸ List.mem_append_left _ hr) with hr' | rfl
  · refine (hgrammar.spelled hr' fun n hn => ?_).1
    obtain ⟨front, back, rfl⟩ := List.append_of_mem (hn ▸ hr)
    have hback := hlast front n (back ++ [.wildcard name]) (by rw [hp]; simp)
    simp at hback
  · exact wholeFrom_nil

/-- **A pattern whose wildcard has another name is not read again**, not even as another
pattern. -/
theorem plain_of_parse_text {s : String} {p q : Pattern} (h : parse s = .ok p)
    (hq : parse p.text = .ok q) : ∀ name, .wildcard name ∈ p.segments → IsPlain name := by
  intro name hmem
  by_cases hnamed : name = Segment.unnamed
  · exact .inl hnamed
  obtain ⟨earlier, later, hp⟩ := List.append_of_mem hmem
  obtain rfl := wildcardLast_iff.1 (wellFormed_of_parse h).wildcardLast earlier name later hp
  have hwhole : ∀ t ∈ [] :: earlier.map spelled, Whole t :=
    List.forall_mem_cons.2 ⟨wholeFrom_nil, List.forall_mem_map.2 fun r hr =>
      whole_spelled_of_parse h hp hr⟩
  have htext : p.text.toList =
      Text.joinPieces '/' ([] :: earlier.map spelled) ++ '/' :: '*' :: name.toList := by
    rw [toList_text (List.ne_nil_of_mem hmem), hp, List.map_append, ← List.cons_append,
      List.map_singleton, Text.joinPieces_concat '/' (List.cons_ne_nil _ _),
      spelled_wildcard hnamed]
  -- the star starts a token, which is the last one, and so it is the whole name
  obtain ⟨segments, hgrammar, -⟩ := parse_eq_ok_iff.1 hq
  obtain ⟨us, hcut, -⟩ := hgrammar.written
  rw [htext] at hcut hgrammar
  obtain ⟨vs, rfl, hvs⟩ := hcut.of_append_slash (List.cons_ne_nil _ _) hwhole
  obtain ⟨v, rest, rfl⟩ := hvs.exists_cons (by decide) (by decide) (by decide)
  obtain ⟨rfl, n, hwrites⟩ := hgrammar.last_of_star hcut
  obtain rfl : v = name.toList := (List.cons.inj hvs.join).2
  have hempty : name.toList ≠ [] := fun hnil =>
    name_ne_empty_of_parse h hmem (String.toList_eq_nil_iff.1 hnil)
  have hplain := isPlain_of_writes hwrites (hvs.whole _ List.mem_cons_self) hempty
  rwa [String.ofList_toList] at hplain

/-- **Writing a pattern and reading it again** gives the same pattern exactly if the name of its
wildcard is plain. For every other pattern that was read from a text, the written form is no pattern
at all. -/
theorem parse_text_iff {s : String} {p : Pattern} (h : parse s = .ok p) :
    (parse p.text = .ok p ↔ ∀ name, .wildcard name ∈ p.segments → IsPlain name) ∧
      ((∃ q, parse p.text = .ok q) ↔ ∀ name, .wildcard name ∈ p.segments → IsPlain name) := by
  refine ⟨⟨plain_of_parse_text h, parse_text_of_plain h⟩, ?_, fun hplain => ?_⟩
  · rintro ⟨q, hq⟩
    exact plain_of_parse_text h hq
  · exact ⟨p, parse_text_of_plain h hplain⟩

/-- A pattern whose wildcard has a plain name in braces, behind slashes that are not written
again. -/
def plainBraces : String :=
  "//code//\x7bid:[0-9]\x7b2\x7d/x\x7d/\x7brest\x7d*"

/-- Its written form has single slashes and a star before the name. -/
theorem parse_text_iff_plain :
    ∃ p, parse plainBraces = .ok p ∧ p.text = "/code/\x7bid:[0-9]\x7b2\x7d/x\x7d/*rest" ∧
      parse p.text = .ok p := by
  have hrun : (parse plainBraces).toOption.map (fun p => (p.text, p.segments.getLast?)) =
      some ("/code/\x7bid:[0-9]\x7b2\x7d/x\x7d/*rest", some (.wildcard "rest")) := by
    decide +kernel
  cases hparse : parse plainBraces with
  | error e => rw [hparse] at hrun; cases hrun
  | ok p =>
      rw [hparse] at hrun
      obtain ⟨htext, hlast⟩ := Prod.mk.inj (Option.some.inj hrun)
      refine ⟨p, rfl, htext, (parse_text_iff hparse).1.2 fun name hmem => ?_⟩
      -- the wildcard is the last segment, which is known
      obtain ⟨earlier, later, hp⟩ := List.append_of_mem hmem
      have hwell := wellFormed_of_parse hparse
      obtain rfl := wildcardLast_iff.1 hwell.wildcardLast earlier name later hp
      rw [hp, List.getLast?_concat] at hlast
      cases hlast
      have hchars : "rest".toList = ['r', 'e', 's', 't'] := rfl
      exact .inr (by simp [hchars])

/-- A star in the name of a wildcard is read between braces, but it is written without them. -/
theorem parse_text_fails :
    ∃ p, parse "/\x7ba*b\x7d*" = .ok p ∧ p.text = "/*a*b" ∧
      parse p.text = .error ⟨"/*a*b", .partialSegment "*a*b"⟩ :=
  ⟨⟨[.wildcard "a*b"]⟩, by decide +kernel, by decide +kernel, by decide +kernel⟩

end Switchyard.Pattern
