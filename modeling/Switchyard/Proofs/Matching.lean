import Mathlib.Data.List.Basic
import Switchyard.Pattern.Parser
import Switchyard.Pattern.Path
import Switchyard.Proofs.Insertion
import Switchyard.Table.Bindings

/-!
# Patterns Matched Against Paths

What a trie finds for a path was inserted under a pattern that matches the path. The match is
said here without the trie: `captured?` walks down one pattern and one path side by side, and
what it captures depends on nothing else. So the value that a look-up finds determines the
captures, as far as it determines its pattern.

A pattern that was read from a text has a wildcard in the last place only and declares no
variable twice. For such a pattern the captures are the values of the variables, one for
each, and filling them in gives back the path up to the slashes that cutting it drops.

## Main results

* `find_sound`: a look-up finds a value under a pattern that matches the path.
* `wellFormed_of_parse`: wildcards stand last, and names are distinct.
* `splitPath_filled`: the pattern filled with its bindings is cut as the path was.
-/

namespace Switchyard

open Trie (admits rejoin)

/-! ### One pattern and one path -/

/-- What the variables of a pattern capture of a path that it matches segment by segment. -/
def captured? : List Segment → List String → Option (List String)
  | [], [] => some []
  | [], _ :: _ => none
  | _ :: _, [] => none
  | s :: p, x :: path =>
    match s.step with
    | .literal text => if x = text then captured? p path else none
    | .slot c => if x ≠ "" ∧ admits c x then (captured? p path).map (x :: ·) else none
    | .rest => some [rejoin (x :: path)]

/-- What the variables of a pattern capture of a whole path. A pattern that starts with a
wildcard also matches the root path. -/
def captures? (p : List Segment) (path : List String) : Option (List String) :=
  match p, path with
  | s :: _, [] => if s.step = .rest then some [""] else none
  | p, path => captured? p path

theorem captured?_literal {s : Segment} {text : String} (p : List Segment)
    (path : List String) (h : s.step = .literal text) :
    captured? (s :: p) (text :: path) = captured? p path := by
  simp [captured?, h]

theorem captured?_slot {s : Segment} {x : String} {c : Option Constraint} (p : List Segment)
    (path : List String) (h : s.step = .slot c) (hx : x ≠ "") (hc : admits c x = true) :
    captured? (s :: p) (x :: path) = (captured? p path).map (x :: ·) := by
  simp [captured?, h, hx, hc]

theorem captured?_rest {s : Segment} (x : String) (p : List Segment) (path : List String)
    (h : s.step = .rest) : captured? (s :: p) (x :: path) = some [rejoin (x :: path)] := by
  simp [captured?, h]

/-! ### What a look-up finds -/

namespace Trie

variable {α : Type}

/-- What a walk through the trie finds was inserted under a pattern that matches the path. -/
theorem walk_sound {es : List (Entry α)} {path : List String} {v : α}
    {captured : List String}
    (h : ((empty : Trie α).insertAll es).walk path = some (v, captured)) :
    ∃ p, (p, v) ∈ es ∧ captured? p path = some captured := by
  induction path generalizing es captured with
  | nil =>
      rw [walk_insertAll_nil] at h
      obtain ⟨w, hw, heq⟩ := Option.map_eq_some_iff.1 h
      obtain ⟨rfl, rfl⟩ := Prod.mk.inj heq
      exact ⟨[], mem_ended_iff.1 (List.mem_of_getLast? hw), rfl⟩
  | cons x path ih =>
      by_cases hl : behind (· = .literal x) es = []
      · by_cases hrest : x = "" ∨ slotConstraints es = []
        · rw [walk_insertAll_of_rest path hl hrest] at h
          obtain ⟨⟨p, w⟩, hp, heq⟩ := Option.map_eq_some_iff.1 h
          obtain ⟨rfl, rfl⟩ := Prod.mk.inj heq
          obtain ⟨s, hs, hmem⟩ := mem_behind_iff.1 (List.mem_of_getLast? hp)
          exact ⟨s :: p, hmem, captured?_rest x p path (by simpa using hs)⟩
        · obtain ⟨hx, hslot⟩ := not_or.1 hrest
          obtain ⟨c, cs, hc⟩ := List.exists_cons_of_ne_nil hslot
          rw [walk_insertAll_of_slot path hl hx hc] at h
          by_cases hadmits : admits c x = true
          · rw [if_pos hadmits] at h
            obtain ⟨⟨w, cap⟩, hw, heq⟩ := Option.map_eq_some_iff.1 h
            obtain ⟨rfl, rfl⟩ := Prod.mk.inj heq
            obtain ⟨p, hp, hcap⟩ := ih hw
            obtain ⟨s, hs, hmem⟩ := mem_behind_iff.1 hp
            have hs : s.step = .slot c := by simpa using hs
            exact ⟨s :: p, hmem, by rw [captured?_slot p path hs hx hadmits, hcap]; rfl⟩
          · rw [if_neg hadmits] at h
            cases h
      · rw [walk_insertAll_of_literal path hl] at h
        obtain ⟨p, hp, hcap⟩ := ih h
        obtain ⟨s, hs, hmem⟩ := mem_behind_iff.1 hp
        have hs : s.step = .literal x := by simpa using hs
        exact ⟨s :: p, hmem, (captured?_literal p path hs).trans hcap⟩

/-- **What a look-up finds was inserted under a pattern that matches the path**, and the
captures are those of this match. -/
theorem find_sound {es : List (Entry α)} {path : List String} {v : α}
    {captured : List String}
    (h : ((empty : Trie α).insertAll es).find path = some (v, captured)) :
    ∃ p, (p, v) ∈ es ∧ captures? p path = some captured := by
  cases path with
  | cons x path =>
      obtain ⟨p, hp, hcap⟩ := walk_sound h
      refine ⟨p, hp, ?_⟩
      cases p <;> exact hcap
  | nil =>
      rw [find_nil, takeRest_insertAll, Option.or_eq_some_iff] at h
      rcases h with h | ⟨-, h⟩
      · have hwalk : ((empty : Trie α).insertAll es).walk [] = some (v, captured) := h
        obtain ⟨p, hp, hcap⟩ := walk_sound hwalk
        refine ⟨p, hp, ?_⟩
        cases p with
        | nil => exact hcap
        | cons s p => cases hcap
      · obtain ⟨⟨p, w⟩, hp, heq⟩ := Option.map_eq_some_iff.1 h
        obtain ⟨rfl, rfl⟩ := Prod.mk.inj heq
        obtain ⟨s, hs, hmem⟩ := mem_behind_iff.1 (List.mem_of_getLast? hp)
        exact ⟨s :: p, hmem, if_pos (by simpa using hs)⟩

end Trie

/-! ### Patterns that were read from a text -/

/-- A wildcard stands in the last place only. -/
def WildcardLast : List Segment → Prop
  | [] => True
  | s :: rest => (s.step = .rest → rest = []) ∧ WildcardLast rest

/-- The names of the variables among segments. -/
def boundNames (p : List Segment) : List String :=
  p.filterMap Segment.boundName?

/-- A wildcard stands last, and no variable is declared twice. -/
structure WellFormed (p : List Segment) : Prop where
  wildcardLast : WildcardLast p
  nodup : (boundNames p).Nodup

@[simp] theorem boundNames_nil : boundNames [] = [] := rfl

theorem boundNames_cons (s : Segment) (p : List Segment) :
    boundNames (s :: p) = s.boundName?.toList ++ boundNames p := by
  cases h : s.boundName? <;> simp [boundNames, h]

/-- A fresh variable that is no wildcard in front of well-formed segments. -/
theorem WellFormed.cons {s : Segment} {p : List Segment} (hstep : s.step ≠ .rest)
    (hfresh : ∀ name, s.boundName? = some name → name ∉ boundNames p) (hp : WellFormed p) :
    WellFormed (s :: p) := by
  refine ⟨⟨fun hrest => absurd hrest hstep, hp.wildcardLast⟩, ?_⟩
  rw [boundNames_cons]
  cases hname : s.boundName? with
  | none => exact hp.nodup
  | some name => exact List.nodup_cons.2 ⟨hfresh name hname, hp.nodup⟩

/-- What is left behind the first segment is well-formed as well. -/
theorem WellFormed.tail {s : Segment} {p : List Segment} (h : WellFormed (s :: p)) :
    WellFormed p := by
  refine ⟨h.wildcardLast.2, ?_⟩
  have hnodup := h.nodup
  rw [boundNames_cons] at hnodup
  exact (List.nodup_append.1 hnodup).2.1

/-- The first variable is not declared again. -/
theorem WellFormed.not_mem_tail {s : Segment} {p : List Segment} {name : String}
    (h : WellFormed (s :: p)) (hname : s.boundName? = some name) : name ∉ boundNames p := by
  have hnodup := h.nodup
  rw [boundNames_cons, hname] at hnodup
  exact (List.nodup_cons.1 hnodup).1

/-- Segments without a fault are well-formed, and declare no variable that was seen before. -/
theorem wellFormed_of_faultAmong? {seen : List String} {p : List Segment}
    (h : Pattern.faultAmong? seen p = none) :
    WellFormed p ∧ ∀ name ∈ boundNames p, name ∉ seen := by
  induction p generalizing seen with
  | nil => exact ⟨⟨trivial, List.nodup_nil⟩, fun _ hname => nomatch hname⟩
  | cons s p ih =>
      -- a parameter and a constrained parameter are checked alike
      have declared (name : String) (hs : s.boundName? = some name) (hstep : s.step ≠ .rest)
          (h : (if seen.contains name then some (Pattern.Fault.duplicateParameter name)
            else Pattern.faultAmong? (name :: seen) p) = none) :
          WellFormed (s :: p) ∧ ∀ n ∈ boundNames (s :: p), n ∉ seen := by
        by_cases hseen : name ∈ seen
        · simp [hseen] at h
        · obtain ⟨hp, hfresh⟩ := ih (by simpa [hseen] using h)
          refine ⟨hp.cons hstep fun n hn hmem => ?_, fun n hn hmem => ?_⟩
          · obtain rfl := Option.some.inj (hs.symm.trans hn)
            exact hfresh name hmem List.mem_cons_self
          · rw [boundNames_cons, hs] at hn
            rcases List.mem_cons.1 hn with rfl | hn
            · exact hseen hmem
            · exact hfresh n hn (List.mem_cons_of_mem name hmem)
      cases s with
      | literal text =>
          obtain ⟨hp, hfresh⟩ := ih h
          exact ⟨hp.cons (by simp [Segment.step]) (fun _ hname => nomatch hname), hfresh⟩
      | parameter name => exact declared name rfl (by simp [Segment.step]) h
      | regex name c => exact declared name rfl (by simp [Segment.step]) h
      | wildcard name =>
          rw [Pattern.faultAmong?] at h
          split at h
          · cases h
          · next hlast =>
            obtain rfl : p = [] := not_not.1 hlast
            split at h
            · cases h
            · next hseen =>
              refine ⟨⟨⟨fun _ => rfl, trivial⟩, List.pairwise_singleton _ _⟩, fun n hn => ?_⟩
              obtain rfl := List.mem_singleton.1 hn
              simpa using hseen

/-- **A pattern that was read from a text is well-formed.** -/
theorem wellFormed_of_parse {text : String} {p : Pattern} (h : Pattern.parse text = .ok p) :
    WellFormed p.segments := by
  unfold Pattern.parse Pattern.readSegments at h
  split at h
  · next segments hread =>
    obtain rfl := Except.ok.inj h
    split at hread
    · cases hread
    · split at hread
      · cases hread
      · split at hread
        · cases hread
        · next hfault =>
          obtain rfl := Except.ok.inj hread
          exact (wellFormed_of_faultAmong? hfault).1
  · cases h

/-! ### Filling a pattern with its bindings -/

/-- The segment with the bound value in the place of its variable. -/
def Segment.filled (b : Bindings) (s : Segment) : String :=
  match s with
  | .literal text => text
  | .parameter name | .regex name _ | .wildcard name => (b.get? name).getD ""

/-- The path that a pattern writes with its variables replaced by their values. -/
def Pattern.filled (p : Pattern) (b : Bindings) : String :=
  "/" ++ rejoin (p.segments.map (Segment.filled b))

theorem Segment.filled_of_boundName? {s : Segment} {name : String} (b : Bindings)
    (h : s.boundName? = some name) : s.filled b = (b.get? name).getD "" := by
  cases s <;> cases h <;> rfl

/-- A binding of another variable does not matter. -/
theorem Segment.filled_cons_of_ne {s : Segment} {name : String} (value : String)
    (pairs : List (String × String)) (h : s.boundName? ≠ some name) :
    s.filled ⟨(name, value) :: pairs⟩ = s.filled ⟨pairs⟩ := by
  cases hs : s.boundName? with
  | none => cases s <;> first | rfl | cases hs
  | some n =>
      have hn : n ≠ name := fun heq => h (heq ▸ hs)
      rw [filled_of_boundName? _ hs, filled_of_boundName? _ hs, Bindings.get?, Bindings.get?,
        Association.lookup_cons, if_neg hn]

/-- A pattern that captures goes on through its literal, through its slot, or ends with its
wildcard. -/
theorem captured?_cons_inv {s : Segment} {p : List Segment} {path captured : List String}
    (h : captured? (s :: p) path = some captured) :
    (∃ text rest, s = .literal text ∧ path = text :: rest ∧ captured? p rest = some captured) ∨
      (∃ c name x rest values, s.step = .slot c ∧ s.boundName? = some name ∧
        path = x :: rest ∧ x ≠ "" ∧ admits c x = true ∧ captured? p rest = some values ∧
        captured = x :: values) ∨
      ∃ name x rest, s = .wildcard name ∧ path = x :: rest ∧ captured = [rejoin path] := by
  cases path with
  | nil => cases h
  | cons x rest =>
      have slot (c : Option Constraint) (name : String) (hs : s.step = .slot c)
          (hn : s.boundName? = some name) :
          ∃ c name y tail values, s.step = .slot c ∧ s.boundName? = some name ∧
            x :: rest = y :: tail ∧ y ≠ "" ∧ admits c y = true ∧
            captured? p tail = some values ∧ captured = y :: values := by
        simp only [captured?, hs] at h
        split at h
        · next hx =>
          obtain ⟨values, hv, rfl⟩ := Option.map_eq_some_iff.1 h
          exact ⟨c, name, x, rest, values, hs, hn, rfl, hx.1, hx.2, hv, rfl⟩
        · cases h
      cases s with
      | literal text =>
          simp only [captured?, Segment.step] at h
          split at h
          · next hx => exact .inl ⟨text, rest, rfl, hx ▸ rfl, h⟩
          · cases h
      | parameter name => exact .inr (.inl (slot none name rfl rfl))
      | regex name c => exact .inr (.inl (slot (some c) name rfl rfl))
      | wildcard name => exact .inr (.inr ⟨name, x, rest, rfl, rfl, (Option.some.inj h).symm⟩)

/-- A pattern without segments matches the path without segments only, and the other way. -/
theorem captured?_nil_iff {p : List Segment} {path captured : List String}
    (h : captured? p path = some captured) : p = [] ↔ path = [] := by
  cases p with
  | nil =>
      cases path with
      | nil => simp
      | cons x rest => cases h
  | cons s p =>
      cases path with
      | nil => cases h
      | cons x rest => simp

/-- There is one captured value for each variable. -/
theorem length_captured? {p : List Segment} {path captured : List String}
    (h : captured? p path = some captured) (hp : WellFormed p) :
    captured.length = (boundNames p).length := by
  induction p generalizing path captured with
  | nil =>
      cases path with
      | nil => obtain rfl := Option.some.inj h; rfl
      | cons x rest => cases h
  | cons s p ih =>
      rw [boundNames_cons]
      rcases captured?_cons_inv h with ⟨text, rest, rfl, rfl, hcap⟩ |
        ⟨c, name, x, rest, values, hs, hn, rfl, -, -, hcap, rfl⟩ | ⟨name, x, rest, rfl, rfl, rfl⟩
      · exact ih hcap hp.tail
      · rw [hn]
        exact congrArg (· + 1) (ih hcap hp.tail)
      · rw [hp.wildcardLast.1 rfl]
        rfl

/-- Segments with slashes between them, the first one apart. -/
theorem rejoin_cons_congr (x : String) {l k : List String} (h : rejoin l = rejoin k)
    (hnil : l = [] ↔ k = []) : rejoin (x :: l) = rejoin (x :: k) := by
  cases l with
  | nil => rw [hnil.1 rfl]
  | cons y l =>
      cases k with
      | nil => exact absurd (hnil.2 rfl) (List.cons_ne_nil y l)
      | cons z k =>
          have htail := congrArg String.toList h
          simp only [rejoin, String.toList_ofList, List.map_cons] at htail
          simp only [rejoin, List.map_cons, Text.joinPieces, htail]

theorem rejoin_singleton (x : String) : rejoin [x] = x := by
  simp [rejoin, Text.joinPieces]

/-- The segments filled with what was captured read as the path. -/
theorem rejoin_filled {p : List Segment} {path captured : List String}
    (h : captured? p path = some captured) (hp : WellFormed p) :
    rejoin (p.map (Segment.filled (.zip (boundNames p) captured))) = rejoin path := by
  induction p generalizing path captured with
  | nil =>
      obtain rfl := (captured?_nil_iff h).1 rfl
      rfl
  | cons s p ih =>
      rw [boundNames_cons, List.map_cons]
      rcases captured?_cons_inv h with ⟨text, rest, rfl, rfl, hcap⟩ |
        ⟨c, name, x, rest, values, hs, hn, rfl, -, -, hcap, rfl⟩ | ⟨name, x, rest, rfl, rfl, rfl⟩
      · refine rejoin_cons_congr text (ih hcap hp.tail) ?_
        rw [List.map_eq_nil_iff, captured?_nil_iff hcap]
      · have hhead : s.filled ⟨(name, x) :: (boundNames p).zip values⟩ = x := by
          rw [Segment.filled_of_boundName? _ hn, Bindings.get?, Association.lookup_cons,
            if_pos rfl, Option.getD_some]
        have htail : p.map (Segment.filled ⟨(name, x) :: (boundNames p).zip values⟩) =
            p.map (Segment.filled (.zip (boundNames p) values)) := by
          refine List.map_congr_left fun r hr => Segment.filled_cons_of_ne x _ fun hname => ?_
          exact hp.not_mem_tail hn (List.mem_filterMap.2 ⟨r, hr, hname⟩)
        have hzip : Bindings.zip (s.boundName?.toList ++ boundNames p) (x :: values) =
            ⟨(name, x) :: (boundNames p).zip values⟩ := by
          rw [hn]
          rfl
        rw [hzip, hhead, htail]
        refine rejoin_cons_congr x (ih hcap hp.tail) ?_
        rw [List.map_eq_nil_iff, captured?_nil_iff hcap]
      · rw [hp.wildcardLast.1 rfl, List.map_nil, rejoin_singleton]
        simp [Segment.filled, Segment.boundName?, Bindings.zip, Bindings.get?]

/-- What a slot captured is a segment of the path that meets the constraint of the slot. -/
theorem slot_of_captured? {p : List Segment} {path captured : List String}
    (h : captured? p path = some captured) (hp : WellFormed p) {s : Segment} (hs : s ∈ p)
    {c : Option Constraint} (hstep : s.step = .slot c) {name : String}
    (hname : s.boundName? = some name) :
    ∃ x ∈ path, (Bindings.zip (boundNames p) captured).get? name = some x ∧ x ≠ "" ∧
      admits c x = true := by
  induction p generalizing path captured with
  | nil => cases hs
  | cons r p ih =>
      rw [boundNames_cons]
      rcases captured?_cons_inv h with ⟨text, rest, rfl, rfl, hcap⟩ |
        ⟨d, n, x, rest, values, hr, hn, rfl, hx, hd, hcap, rfl⟩ | ⟨n, x, rest, rfl, rfl, rfl⟩
      · rcases List.mem_cons.1 hs with rfl | hs
        · cases hstep
        · obtain ⟨x, hx, hget⟩ := ih hcap hp.tail hs
          exact ⟨x, List.mem_cons_of_mem text hx, hget⟩
      · rw [hn, Bindings.get?]
        change ∃ y ∈ x :: rest, ((n, x) :: (boundNames p).zip values).lookup name = some y ∧ _
        rw [Association.lookup_cons]
        rcases List.mem_cons.1 hs with rfl | hs
        · obtain rfl := Option.some.inj (hn.symm.trans hname)
          obtain rfl := Segment.Step.slot.inj (hr.symm.trans hstep)
          exact ⟨x, List.mem_cons_self, if_pos rfl, hx, hd⟩
        · have hne : name ≠ n := by
            rintro rfl
            exact hp.not_mem_tail hn (List.mem_filterMap.2 ⟨s, hs, hname⟩)
          rw [if_neg hne]
          obtain ⟨y, hy, hget⟩ := ih hcap hp.tail hs
          exact ⟨y, List.mem_cons_of_mem x hy, hget⟩
      · rw [hp.wildcardLast.1 rfl] at hs
        obtain rfl := List.mem_singleton.1 hs
        cases hstep

/-! ### The path back from its segments -/

/-- The segments of a path hold no slash. -/
theorem slash_not_mem_of_mem_splitPath {path x : String} (h : x ∈ splitPath path) :
    '/' ∉ x.toList := by
  rw [splitPath, List.mem_append] at h
  rcases h with h | h
  · obtain ⟨piece, hpiece, rfl⟩ := List.mem_map.1 h
    rw [String.toList_ofList]
    exact Text.sep_not_mem_of_mem_pieces (List.mem_of_mem_filter hpiece)
  · split at h
    · rw [List.mem_singleton.1 h]
      simp
    · cases h

/-- A path is cut into segments that are not empty, with an empty one behind them where it
ends with a slash. -/
theorem splitPath_cases (path : String) :
    ∃ segments : List String, (∀ x ∈ segments, x ≠ "" ∧ '/' ∉ x.toList) ∧
      (splitPath path = segments ∨ segments ≠ [] ∧ splitPath path = segments ++ [""]) := by
  let pieces := (Text.pieces '/' path.toList).filter (· ≠ [])
  have hpieces : ∀ x ∈ pieces.map String.ofList, x ≠ "" ∧ '/' ∉ x.toList := by
    intro x hx
    obtain ⟨piece, hpiece, rfl⟩ := List.mem_map.1 hx
    obtain ⟨hmem, hne⟩ := List.mem_filter.1 hpiece
    rw [String.toList_ofList]
    refine ⟨fun h => ?_, Text.sep_not_mem_of_mem_pieces hmem⟩
    have hnil := congrArg String.toList h
    rw [String.toList_ofList] at hnil
    simp [hnil] at hne
  refine ⟨pieces.map String.ofList, hpieces, ?_⟩
  by_cases hends : (decide (pieces ≠ []) && path.toList.getLast? == some '/') = true
  · refine .inr ⟨fun h => ?_, ?_⟩
    · rw [List.map_eq_nil_iff] at h
      simp [h] at hends
    · change _ ++ (if _ then _ else _) = _
      rw [if_pos hends]
  · refine .inl ?_
    change _ ++ (if _ then _ else _) = _
    rw [if_neg hends, List.append_nil]

theorem toList_slash_rejoin (segments : List String) :
    ("/" ++ rejoin segments).toList =
      '/' :: Text.joinPieces '/' (segments.map String.toList) := by
  simp [rejoin]

/-- Segments without slashes, written behind one slash each, are cut where they were joined. -/
theorem pieces_rejoin {segments : List String} (h : ∀ x ∈ segments, '/' ∉ x.toList) :
    (Text.pieces '/' ("/" ++ rejoin segments).toList).filter (· ≠ []) =
      (segments.filter (· ≠ "")).map String.toList := by
  have hfilter (l : List String) : (l.map String.toList).filter (· ≠ []) =
      (l.filter (· ≠ "")).map String.toList := by
    rw [List.filter_map]
    congr 2
    funext x
    simp
  cases segments with
  | nil => decide +kernel
  | cons x rest =>
      have hsep : ∀ p ∈ (x :: rest).map String.toList, '/' ∉ p := by
        intro p hp
        obtain ⟨y, hy, rfl⟩ := List.mem_map.1 hp
        exact h y hy
      have hne : (x :: rest).map String.toList ≠ [] := by simp
      rw [toList_slash_rejoin, Text.pieces, if_pos rfl, Text.pieces_joinPieces hne hsep,
        List.filter_cons_of_neg (by simp), hfilter]

/-- A path written from its segments ends with a slash exactly if its last segment is empty. -/
theorem getLast?_rejoin (segments : List String) {x : String} (hx : '/' ∉ x.toList) :
    ("/" ++ rejoin (segments ++ [x])).toList.getLast? = some '/' ↔ x = "" := by
  obtain ⟨front, hfront⟩ : ∃ front,
      ("/" ++ rejoin (segments ++ [x])).toList = front ++ '/' :: x.toList := by
    rw [toList_slash_rejoin, List.map_append]
    cases segments with
    | nil => exact ⟨[], rfl⟩
    | cons y rest =>
        have hne : (y :: rest).map String.toList ≠ [] := by simp
        rw [List.map_singleton, Text.joinPieces_concat '/' hne]
        exact ⟨'/' :: Text.joinPieces '/' ((y :: rest).map String.toList), rfl⟩
  rw [hfront, List.getLast?_append_of_ne_nil _ (List.cons_ne_nil '/' _), List.getLast?_cons]
  constructor
  · intro hlast
    cases hc : x.toList.getLast? with
    | none => exact String.toList_eq_nil_iff.1 (List.getLast?_eq_none_iff.1 hc)
    | some c =>
        rw [hc, Option.getD_some, Option.some_inj] at hlast
        exact absurd (hlast ▸ List.mem_of_getLast? hc) hx
  · rintro rfl
    rfl

/-- **Joining the segments of a path and cutting again changes nothing.** -/
theorem splitPath_rejoin (path : String) :
    splitPath ("/" ++ rejoin (splitPath path)) = splitPath path := by
  have hslash : ∀ x ∈ splitPath path, '/' ∉ x.toList :=
    fun _ hx => slash_not_mem_of_mem_splitPath hx
  have hcut := pieces_rejoin hslash
  obtain ⟨segments, hmem, hpath⟩ := splitPath_cases path
  have hkept : segments.filter (· ≠ "") = segments :=
    List.filter_eq_self.2 fun x hx => by simpa using (hmem x hx).1
  have hread : (segments.map String.toList).map String.ofList = segments := by simp
  rcases hpath with hpath | ⟨hne, hpath⟩
  · rw [hpath] at hcut ⊢
    rw [hkept] at hcut
    rw [splitPath, hcut, hread]
    cases segments.eq_nil_or_concat with
    | inl hnil => rw [hnil]; rfl
    | inr hconcat =>
        obtain ⟨front, x, rfl⟩ := hconcat
        obtain ⟨hx, hxs⟩ := hmem x (by simp)
        have hlast := mt (getLast?_rejoin front hxs).1 hx
        rw [List.concat_eq_append, beq_eq_false_iff_ne.2 hlast]
        simp
  · rw [hpath] at hcut ⊢
    rw [List.filter_append, hkept] at hcut
    have hlast := (getLast?_rejoin segments (x := "") (by simp)).2 rfl
    rw [splitPath, hcut, hlast]
    simp [hne]

/-! ### Matches of whole paths -/

/-- A match is one segment by segment, or that of a lone wildcard with the root path. -/
theorem captures?_cases {p : List Segment} {path captured : List String}
    (h : captures? p path = some captured) (hp : WellFormed p) :
    captured? p path = some captured ∨
      ∃ name, p = [.wildcard name] ∧ path = [] ∧ captured = [""] := by
  unfold captures? at h
  split at h
  · next s rest =>
    split at h
    · next hs =>
      obtain rfl := hp.wildcardLast.1 hs
      obtain rfl := Option.some.inj h
      cases s with
      | wildcard name => exact .inr ⟨name, rfl, rfl, rfl⟩
      | literal text => cases hs
      | parameter name => cases hs
      | regex name c => cases hs
    · cases h
  · exact .inl h

theorem length_captures? {p : List Segment} {path captured : List String}
    (h : captures? p path = some captured) (hp : WellFormed p) :
    captured.length = (boundNames p).length := by
  rcases captures?_cases h hp with h | ⟨name, rfl, -, rfl⟩
  · exact length_captured? h hp
  · rfl

/-- **The value of a slot** is a segment of the path that meets the constraint of the slot. -/
theorem slot_of_captures? {p : List Segment} {path captured : List String}
    (h : captures? p path = some captured) (hp : WellFormed p) {s : Segment} (hs : s ∈ p)
    {c : Option Constraint} (hstep : s.step = .slot c) {name : String}
    (hname : s.boundName? = some name) :
    ∃ x ∈ path, (Bindings.zip (boundNames p) captured).get? name = some x ∧ x ≠ "" ∧
      admits c x = true := by
  rcases captures?_cases h hp with h | ⟨n, rfl, -, -⟩
  · exact slot_of_captured? h hp hs hstep hname
  · obtain rfl := List.mem_singleton.1 hs
    cases hstep

/-- **A pattern filled with its bindings is cut as the path that it matched.** -/
theorem splitPath_filled {p : Pattern} {path : String} {captured : List String}
    (h : captures? p.segments (splitPath path) = some captured) (hp : WellFormed p.segments) :
    splitPath (p.filled (.zip (boundNames p.segments) captured)) = splitPath path := by
  rw [Pattern.filled]
  rcases captures?_cases h hp with h | ⟨name, hsegments, hpath, rfl⟩
  · rw [rejoin_filled h hp, splitPath_rejoin]
  · have hfilled : Segment.filled (.zip (boundNames [.wildcard name]) [""]) (.wildcard name) =
        "" := by
      simp [Segment.filled, boundNames, Segment.boundName?, Bindings.zip, Bindings.get?]
    rw [hsegments, hpath, List.map_singleton, hfilled]
    decide +kernel

end Switchyard
