import Switchyard.Proofs.Refusal
import Switchyard.Proofs.Reordering
import Switchyard.Proofs.Spelling

/-!
# Static Patterns and Paths

A pattern and a request path are cut by two readers. The one counts braces, makes a segment of each
token and adds an empty literal for a slash at the end; the other cuts at every slash and drops what
is empty. On a text without braces, none of whose pieces starts with a star, they see the same
segments, and on no other text does the first one see literals alone (`parse_eq_literals_iff`).

A trie of static patterns has literal children only. A walk through it compares the path with the
patterns segment by segment, wherever they part or end, so what it finds is the last value that was
inserted under the segments of the path (`answer_of_literals`). In a table of static routes this is
the last route of the method whose pattern is cut as the path is.

## Main results

* `Pattern.parse_eq_literals_iff`: which texts are read as the literals that they are cut into.
* `Trie.answer_of_literals`: the answer of literals to a path.
* `RouteTable.resolve_static_routes`: what a table of static routes finds.
-/

namespace Switchyard

namespace Pattern

/-! ### Texts that write literals -/

/-- A text that writes literals alone: without braces, and with no star at the start of a piece
between slashes. -/
structure WritesLiterals (text : String) : Prop where
  plain : ∀ c ∈ text.toList, isBrace c = false
  unstarred : ∀ piece ∈ Text.pieces '/' text.toList, piece.head? ≠ some '*'

theorem subset_joinPieces {t : List Char} {ts : List (List Char)} (h : t ∈ ts) :
    t ⊆ Text.joinPieces '/' ts := by
  cases ts with
  | nil => cases h
  | cons u ts =>
      rw [joinPieces_cons]
      rcases List.mem_cons.1 h with rfl | h
      · exact List.subset_append_left _ _
      · intro c hc
        exact List.mem_append_right _ (List.mem_flatMap.2 ⟨t, h, List.mem_cons_of_mem _ hc⟩)

/-- A character of joined pieces stands in one of them, or is a slash between them. -/
theorem mem_joinPieces {c : Char} {ts : List (List Char)} (h : c ∈ Text.joinPieces '/' ts) :
    c = '/' ∨ ∃ t ∈ ts, c ∈ t := by
  cases ts with
  | nil => cases h
  | cons u ts =>
      rw [joinPieces_cons, List.mem_append, List.mem_flatMap] at h
      rcases h with h | ⟨t, ht, hc⟩
      · exact .inr ⟨u, List.mem_cons_self, h⟩
      · rcases List.mem_cons.1 hc with hslash | hc
        · exact .inl hslash
        · exact .inr ⟨t, List.mem_cons_of_mem u ht, hc⟩

/-- A text without braces is cut at every slash. -/
theorem cut_of_plain {cs : List Char} (h : ∀ c ∈ cs, isBrace c = false) :
    Cut cs (Text.pieces '/' cs) := by
  refine ⟨Text.pieces_ne_nil '/' cs, Text.pieces_join '/' cs, fun t ht => ?_⟩
  have hsubset : t ⊆ cs := Text.pieces_join '/' cs ▸ subset_joinPieces ht
  refine whole_of_plain fun c hc => ?_
  have hbrace := h c (hsubset hc)
  have hslash : c ≠ '/' := ne_of_mem_of_not_mem hc (Text.sep_not_mem_of_mem_pieces ht)
  simp only [isBrace, Bool.or_eq_false_iff, decide_eq_false_iff_not] at hbrace
  exact ⟨hbrace.1, hbrace.2, hslash⟩

/-- What a path is cut into, as literals: one for each piece that is not empty, and one more for a
slash at the end. -/
theorem map_literal_splitPath (text : String) :
    (splitPath text).map Segment.literal =
      ((Text.pieces '/' text.toList).filter (· ≠ [])).map (.literal ∘ String.ofList) ++
        trailing text.toList
          (((Text.pieces '/' text.toList).filter (· ≠ [])).map (.literal ∘ String.ofList)) := by
  rw [splitPath, List.map_append, List.map_map, trailing]
  generalize (Text.pieces '/' text.toList).filter (· ≠ []) = pieces
  congr 1
  by_cases hpieces : pieces = []
  · simp [hpieces]
  · by_cases hends : text.toList.getLast? = some '/' <;> simp [hpieces, hends]

/-- Tokens that write literals have no braces and no star in front. -/
theorem plain_of_writes_literals {ts : List (List Char)} {segments : List Segment}
    (h : List.Forall₂ Writes ts segments) (hliteral : ∀ s ∈ segments, ∃ text, s = .literal text) :
    ∀ t ∈ ts, (∀ c ∈ t, isBrace c = false) ∧ t.head? ≠ some '*' := by
  induction h with
  | nil => exact fun t ht => absurd ht List.not_mem_nil
  | @cons t s ts segments ht _ ih =>
      obtain ⟨⟨text, rfl⟩, hrest⟩ := List.forall_mem_cons.1 hliteral
      refine List.forall_mem_cons.2 ⟨?_, ih hrest⟩
      cases ht with
      | literal hne hstar hplain => exact ⟨hplain, hstar⟩

/-- A text that is cut into tokens without braces is cut at every slash. -/
theorem Cut.eq_pieces_of_plain {cs : List Char} {ts : List (List Char)} (hcut : Cut cs ts)
    (h : ∀ t ∈ ts, ∀ c ∈ t, isBrace c = false) : Text.pieces '/' cs = ts := by
  rw [← hcut.join]
  refine Text.pieces_joinPieces hcut.ne_nil fun t ht => ?_
  refine (hcut.whole t ht).slash_not_mem fun hopen => ?_
  exact absurd (h t ht '{' hopen) (by decide)

/-- What is read as literals writes literals alone. -/
theorem writesLiterals_of_parse {text : String}
    (h : parse text = .ok ⟨(splitPath text).map .literal⟩) : WritesLiterals text := by
  obtain ⟨segments, ⟨-, ⟨ts, hcut, hwritten⟩, -, -⟩, hsegments⟩ := parse_eq_ok_iff.1 h
  have hliteral : ∀ s ∈ segments, ∃ text, s = .literal text := by
    intro s hs
    have hmem : s ∈ segments ++ trailing text.toList segments := List.mem_append_left _ hs
    rw [← hsegments] at hmem
    obtain ⟨x, -, rfl⟩ := List.mem_map.1 hmem
    exact ⟨x, rfl⟩
  have htokens : ∀ t ∈ ts, (∀ c ∈ t, isBrace c = false) ∧ t.head? ≠ some '*' := by
    intro t ht
    by_cases hne : t = []
    · simp [hne]
    · exact plain_of_writes_literals hwritten hliteral t
        (List.mem_filter.2 ⟨ht, by simpa using hne⟩)
  have hpieces := hcut.eq_pieces_of_plain fun t ht => (htokens t ht).1
  refine ⟨fun c hc => ?_, fun piece hpiece => (htokens piece (hpieces ▸ hpiece)).2⟩
  rw [← hcut.join] at hc
  rcases mem_joinPieces hc with rfl | ⟨t, ht, hc⟩
  · decide
  · exact (htokens t ht).1 c hc

/-- A text that writes literals alone is read as the literals that it is cut into. -/
theorem WritesLiterals.parse_eq {text : String} (h : WritesLiterals text) :
    parse text = .ok ⟨(splitPath text).map .literal⟩ := by
  have hcut := cut_of_plain h.plain
  refine parse_eq_ok_iff.2
    ⟨_, ⟨hcut.balanced, ⟨_, hcut, ?_⟩, ?_, ?_⟩, map_literal_splitPath text⟩
  · refine List.forall₂_map_right_iff.2 (List.forall₂_same.2 fun t ht => ?_)
    obtain ⟨hpiece, hne⟩ := List.mem_filter.1 ht
    have hsubset : t ⊆ text.toList := hcut.join ▸ subset_joinPieces hpiece
    exact .literal (by simpa using hne) (h.unstarred t hpiece) fun c hc => h.plain c (hsubset hc)
  -- no literal is a wildcard, and none binds a name
  · intro earlier name later hsegments
    have hmem : .wildcard name ∈ earlier ++ .wildcard name :: later := by simp
    rw [← hsegments] at hmem
    obtain ⟨t, -, ht⟩ := List.mem_map.1 hmem
    cases ht
  · have hnone : boundNames (((Text.pieces '/' text.toList).filter (· ≠ [])).map
        (.literal ∘ String.ofList)) = [] :=
      List.filterMap_eq_nil_iff.2 fun s hs => by
        obtain ⟨t, -, rfl⟩ := List.mem_map.1 hs
        rfl
    rw [hnone]
    exact List.nodup_nil

/-- **A text is read as the literals that it is cut into exactly if** it writes literals alone. -/
theorem parse_eq_literals_iff {text : String} :
    parse text = .ok ⟨(splitPath text).map .literal⟩ ↔ WritesLiterals text :=
  ⟨writesLiterals_of_parse, WritesLiterals.parse_eq⟩

end Pattern

namespace Trie

variable {α : Type}

/-! ### Tries of literals -/

/-- Only a literal leads through its own text. -/
theorem step_eq_literal_iff {s : Segment} {text : String} :
    s.step = .literal text ↔ s = .literal text := by
  cases s <;> simp [Segment.step]

/-- The values that were inserted under exactly these segments. -/
def valuesAt (p : List Segment) (es : List (Entry α)) : List α :=
  es.filterMap fun (q, v) => if q = p then some v else none

theorem ended_eq_valuesAt (es : List (Entry α)) : ended es = valuesAt [] es := by
  refine List.filterMap_congr ?_
  rintro ⟨q, v⟩ -
  cases q <;> rfl

/-- What is left behind a literal stands under one segment less. -/
theorem valuesAt_behind (text : String) (p : List Segment) (es : List (Entry α)) :
    valuesAt p (behind (· = .literal text) es) = valuesAt (.literal text :: p) es := by
  rw [valuesAt, behind, List.filterMap_filterMap]
  refine List.filterMap_congr ?_
  rintro ⟨q, v⟩ -
  cases q with
  | nil => rfl
  | cons s rest =>
      by_cases hs : s = .literal text
      · simp [hs, Segment.step]
      · have hstep := mt step_eq_literal_iff.1 hs
        simp [hs, hstep]

/-- Patterns without variables. -/
def AllLiteral (es : List (Entry α)) : Prop :=
  ∀ e ∈ es, ∀ s ∈ e.1, ∃ text, s = .literal text

theorem AllLiteral.behind {es : List (Entry α)} (h : AllLiteral es)
    (leads : Segment.Step → Bool) : AllLiteral (behind leads es) := by
  rintro ⟨p, v⟩ he s hs
  obtain ⟨r, -, hmem⟩ := mem_behind_iff.1 he
  exact h _ hmem s (List.mem_cons_of_mem r hs)

/-- Literals put no constraint on a slot, and none of them is a wildcard. -/
theorem AllLiteral.nothing_else {es : List (Entry α)} (h : AllLiteral es) :
    slotConstraints es = [] ∧ Trie.behind (· = .rest) es = [] := by
  constructor
  · refine List.eq_nil_iff_forall_not_mem.2 fun c hc => ?_
    obtain ⟨s, p, v, hs, hmem⟩ := mem_slotConstraints_iff.1 hc
    obtain ⟨text, rfl⟩ := h _ hmem s List.mem_cons_self
    cases hs
  · refine List.eq_nil_iff_forall_not_mem.2 fun e he => ?_
    obtain ⟨s, hs, hmem⟩ := mem_behind_iff.1 he
    obtain ⟨text, rfl⟩ := h _ hmem s List.mem_cons_self
    simp [Segment.step] at hs

/-- The choice among literals is the last one under the segments of the path. -/
theorem choose_of_literals {es : List (Entry α)} (h : AllLiteral es) (path : List String) :
    choose es path = (valuesAt (path.map .literal) es).getLast?.map fun v => (v, []) := by
  induction path generalizing es with
  | nil => rw [choose, ended_eq_valuesAt, List.map_nil]
  | cons x path ih =>
      obtain ⟨hslots, hrests⟩ := h.nothing_else
      rw [choose, List.map_cons, ← valuesAt_behind]
      by_cases hl : behind (· = .literal x) es = []
      · rw [if_neg (not_not.2 hl), if_neg fun hslot => hslot.2 hslots, hrests, hl]
        rfl
      · rw [if_pos hl]
        exact ih (h.behind _)

/-- **Literals answer a path with the last value under its segments**, and capture nothing. -/
theorem answer_of_literals {es : List (Entry α)} (h : AllLiteral es) (path : List String) :
    answer es path = (valuesAt (path.map .literal) es).getLast?.map fun v => (v, []) := by
  cases path with
  | cons x rest => exact choose_of_literals h (x :: rest)
  | nil => rw [answer, choose_of_literals h, h.nothing_else.2, List.getLast?_nil, Option.map_none,
      Option.or_none]

end Trie

/-! ### Tables of static routes -/

variable {ρ : Type}

/-- A static route: its pattern was read from its source, and the source writes literals alone. -/
structure Route.IsStatic (route : Route ρ) : Prop where
  literals : Pattern.WritesLiterals route.source
  compiled : Pattern.parse route.source = .ok route.pattern

/-- A static route goes through what its source is cut into. -/
theorem Route.IsStatic.segments {route : Route ρ} (h : route.IsStatic) :
    route.pattern.segments = (splitPath route.source).map .literal := by
  have hparse := h.literals.parse_eq
  rw [h.compiled, Except.ok.injEq] at hparse
  rw [hparse]

namespace RouteTable

open Trie (AllLiteral valuesAt)
open Web (Method)

/-- The routes of a method whose source is cut as the path is, in their order. -/
def declaredAt (routes : List (Route ρ)) (m : Method) (path : String) : List (Route ρ) :=
  routes.filter fun r => m ∈ r.method.expand ∧ splitPath r.source = splitPath path

theorem allLiteral_entriesOf {routes : List (Route ρ)} (h : ∀ r ∈ routes, r.IsStatic)
    (m : Method) : AllLiteral (entriesOf m routes) := by
  intro e he s hs
  obtain ⟨r, hr, -, rfl⟩ := mem_entriesOf_iff.1 he
  rw [(h r hr).segments] at hs
  obtain ⟨x, -, rfl⟩ := List.mem_map.1 hs
  exact ⟨x, rfl⟩

/-- The values under the segments of a path are the routes that were declared at it. -/
theorem valuesAt_entriesOf {routes : List (Route ρ)} (h : ∀ r ∈ routes, r.IsStatic) (m : Method)
    (path : String) :
    valuesAt ((splitPath path).map .literal) (entriesOf m routes) = declaredAt routes m path := by
  have hinj : Function.Injective (List.map Segment.literal) :=
    List.map_injective_iff.2 fun _ _ => Segment.literal.inj
  induction routes with
  | nil => rfl
  | cons r routes ih =>
      obtain ⟨hr, hrest⟩ := List.forall_mem_cons.1 h
      have ih := ih hrest
      rw [valuesAt, entriesOf, declaredAt] at ih ⊢
      by_cases hm : m ∈ r.method.expand
      · rw [List.filter_cons_of_pos (by simpa using hm), List.map_cons, List.filterMap_cons,
          hr.segments]
        by_cases hcut : splitPath r.source = splitPath path
        · rw [List.filter_cons_of_pos (by simp [hm, hcut]), ← ih]
          simp [hcut]
        · rw [List.filter_cons_of_neg (by simp [hcut]), ← ih]
          simp [hinj.eq_iff, hcut]
      · rw [List.filter_cons_of_neg (by simpa using hm), List.filter_cons_of_neg (by simp [hm]), ih]

/-- **A look-up among static routes finds the last one that was declared at the path.** -/
theorem find_of_static {policy : DuplicatePolicy} {routes : List (Route ρ)}
    (hstatic : ∀ r ∈ routes, r.IsStatic)
    (haccepted : ({ policy } : RouteTable ρ).acceptsAll routes = true) (m : Method)
    (path : String) :
    ((({ policy } : RouteTable ρ).insertAll routes).trie m).find (splitPath path) =
      (declaredAt routes m path).getLast?.map fun route => (route, []) := by
  have hagree := pairwise_agree_entriesOf (acceptsAll_iff_pairwise.1 haccepted) m
  rw [trie_of_acceptsAll haccepted, Trie.find_insertAll hagree,
    Trie.answer_of_literals (allLiteral_entriesOf hstatic m), valuesAt_entriesOf hstatic]

/-- What a table of static routes finds is the last one that was declared at the path, without
bindings. -/
theorem resolve_of_static {policy : DuplicatePolicy} {routes : List (Route ρ)}
    (hstatic : ∀ r ∈ routes, r.IsStatic)
    (haccepted : ({ policy } : RouteTable ρ).acceptsAll routes = true) {m : Method}
    {path : String} {route : Route ρ} {b : Bindings} :
    (({ policy } : RouteTable ρ).insertAll routes).resolve m path = .found route b ↔
      (declaredAt routes m path).getLast? = some route ∧ b = {} := by
  have hzip : Bindings.zip route.pattern.variableNames [] = {} :=
    congrArg Bindings.mk List.zip_nil_right
  rw [resolve_eq_found_iff, find_of_static hstatic haccepted]
  constructor
  · rintro ⟨values, hlast, rfl⟩
    obtain ⟨r, hr, heq⟩ := Option.map_eq_some_iff.1 hlast
    obtain ⟨rfl, rfl⟩ := Prod.mk.inj heq
    exact ⟨hr, hzip⟩
  · rintro ⟨hlast, rfl⟩
    exact ⟨[], by rw [hlast]; rfl, hzip.symm⟩

/-- **Static patterns and request paths are cut alike.** A text is a pattern of just the literals
that it is cut into as a path exactly if it has no braces and no star at the start of a piece. So in
a table of static routes, all of them accepted, a path is found for a method exactly if a route for
the method was declared with a pattern that is cut as the path is, and what is found is the last
such route, without bindings. -/
theorem resolve_static_routes :
    (∀ text, Pattern.parse text = .ok ⟨(splitPath text).map .literal⟩ ↔
      Pattern.WritesLiterals text) ∧
    ∀ (policy : DuplicatePolicy) (routes : List (Route ρ)), (∀ r ∈ routes, r.IsStatic) →
      ({ policy } : RouteTable ρ).acceptsAll routes = true → ∀ (m : Method) (path : String),
        ((∃ route b, (({ policy } : RouteTable ρ).insertAll routes).resolve m path =
            .found route b) ↔
          ∃ r ∈ routes, m ∈ r.method.expand ∧ splitPath r.source = splitPath path) ∧
        ∀ route b, (({ policy } : RouteTable ρ).insertAll routes).resolve m path = .found route b ↔
          (declaredAt routes m path).getLast? = some route ∧ b = {} := by
  refine ⟨fun text => Pattern.parse_eq_literals_iff,
    fun policy routes hstatic haccepted m path => ⟨?_, fun route b =>
      resolve_of_static hstatic haccepted⟩⟩
  have hdeclared (r : Route ρ) : r ∈ declaredAt routes m path ↔
      r ∈ routes ∧ m ∈ r.method.expand ∧ splitPath r.source = splitPath path := by
    rw [declaredAt, List.mem_filter, decide_eq_true_eq]
  simp only [resolve_of_static hstatic haccepted, exists_eq_right, ← hdeclared]
  rw [← Option.isSome_iff_exists, List.getLast?_isSome]
  exact ⟨List.exists_mem_of_ne_nil _, fun ⟨r, hr⟩ => List.ne_nil_of_mem hr⟩

theorem isStatic_bare {source : String} (method : Web.RouteMethod)
    (h : Pattern.parse source = .ok ⟨(splitPath source).map .literal⟩) :
    (bare method source).IsStatic :=
  ⟨Pattern.parse_eq_literals_iff.1 h, by rw [bare, h]; rfl⟩

/-- Static routes that are written with slashes to spare. -/
def slashed : List (Route Unit) :=
  [bare (.only .get) "/a/b", bare .any "a//b", bare (.only .get) "/a/b/", bare (.only .get) "/a",
    bare (.only .post) ""]

/-- The second route takes the place of the first; the third, with a slash at its end, has a segment
more; and at the inner node of `/a` nothing is declared for a post. -/
theorem resolve_static_routes_slashed :
    (({ policy := .replace } : RouteTable Unit).insertAll slashed).resolve .get "//a/b" =
        .found (bare .any "a//b") {} ∧
      (({ policy := .replace } : RouteTable Unit).insertAll slashed).resolve .get "a/b//" =
        .found (bare (.only .get) "/a/b/") {} ∧
      (({ policy := .replace } : RouteTable Unit).insertAll slashed).resolve .post "//" =
        .found (bare (.only .post) "") {} ∧
      ¬∃ route b,
        (({ policy := .replace } : RouteTable Unit).insertAll slashed).resolve .post "/a" =
          .found route b := by
  have hstatic : ∀ r ∈ slashed, r.IsStatic := by
    simp only [slashed, List.forall_mem_cons]
    exact ⟨isStatic_bare _ (by rfl), isStatic_bare _ (by rfl), isStatic_bare _ (by rfl),
      isStatic_bare _ (by rfl), isStatic_bare _ (by rfl), fun r hr => absurd hr List.not_mem_nil⟩
  have haccepted : ({ policy := .replace } : RouteTable Unit).acceptsAll slashed = true := by
    decide +kernel
  obtain ⟨-, hresolve⟩ := resolve_static_routes (ρ := Unit)
  have hall := hresolve .replace slashed hstatic haccepted
  refine ⟨((hall .get "//a/b").2 _ _).2 ⟨by rfl, rfl⟩, ((hall .get "a/b//").2 _ _).2 ⟨by rfl, rfl⟩,
    ((hall .post "//").2 _ _).2 ⟨by rfl, rfl⟩, ?_⟩
  rw [(hall .post "/a").1]
  decide +kernel

end RouteTable

end Switchyard
