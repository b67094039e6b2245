/-!
# Cutting and joining text

Text is cut at a separator character, and pieces are put together again. All functions work on
lists of characters, so that the lemmas about them are inductions on the list.

## Main results

* `pieces_join`: joining the pieces with the separator gives the text back.
* `pieces_joinPieces`: cutting gives back pieces that do not hold the separator.
-/

namespace Switchyard.Text

/-- The pieces of a text between the occurrences of `sep`; a text without `sep` is one piece. -/
def pieces (sep : Char) : List Char → List (List Char)
  | [] => [[]]
  | c :: cs =>
    if c = sep then [] :: pieces sep cs
    else
      match pieces sep cs with
      | [] => [[c]]
      | p :: ps => (c :: p) :: ps

/-- The pieces put together with `sep` between neighbours. -/
def joinPieces (sep : Char) : List (List Char) → List Char
  | [] => []
  | [p] => p
  | p :: q :: ps => p ++ sep :: joinPieces sep (q :: ps)

/-- The text before and after the first `sep`, if there is one. -/
def splitFirst (sep : Char) : List Char → Option (List Char × List Char)
  | [] => none
  | c :: cs =>
    if c = sep then some ([], cs)
    else (splitFirst sep cs).map fun (a, b) => (c :: a, b)

/-- The text up to the first `sep`, or all of it. -/
def upTo (sep : Char) (cs : List Char) : List Char :=
  cs.takeWhile (· ≠ sep)

/-- The text without the characters at its end that satisfy `p`. -/
def dropEndWhile (p : Char → Bool) (cs : List Char) : List Char :=
  (cs.reverse.dropWhile p).reverse

/-- The ASCII letters of a text in lower case, all else unchanged. -/
def lowercase (s : String) : String :=
  String.ofList (s.toList.map Char.toLower)

/-- The ASCII letters of a text in upper case, all else unchanged. -/
def uppercase (s : String) : String :=
  String.ofList (s.toList.map Char.toUpper)

/-- The text behind the character that has to stand at its start. -/
def dropChar? (c : Char) : List Char → Option (List Char)
  | [] => none
  | d :: cs => if d = c then some cs else none

/-- Does `stem` begin the text? If so, the rest of it. -/
def dropStem? : List Char → List Char → Option (List Char)
  | [], cs => some cs
  | _ :: _, [] => none
  | s :: ss, c :: cs => if s = c then dropStem? ss cs else none

/-! ### Lemmas -/

theorem pieces_ne_nil (sep : Char) (cs : List Char) : pieces sep cs ≠ [] := by
  induction cs with
  | nil => simp [pieces]
  | cons c cs ih =>
    unfold pieces
    split
    · simp
    · split <;> simp

/-- Cutting loses nothing. -/
theorem pieces_join (sep : Char) (cs : List Char) : joinPieces sep (pieces sep cs) = cs := by
  induction cs with
  | nil => rfl
  | cons c cs ih =>
    unfold pieces
    split
    · next h =>
      cases hp : pieces sep cs with
      | nil => exact absurd hp (pieces_ne_nil sep cs)
      | cons p ps => rw [hp] at ih; simp [joinPieces, h, ih]
    · cases hp : pieces sep cs with
      | nil => exact absurd hp (pieces_ne_nil sep cs)
      | cons p ps =>
        rw [hp] at ih
        cases ps with
        | nil => simp [joinPieces] at ih ⊢; exact ih
        | cons q qs => simp [joinPieces] at ih ⊢; exact ih

/-- No piece holds the separator. -/
theorem sep_not_mem_of_mem_pieces {sep : Char} {cs p : List Char} (h : p ∈ pieces sep cs) :
    sep ∉ p := by
  induction cs generalizing p with
  | nil => simp only [pieces, List.mem_singleton] at h; simp [h]
  | cons c cs ih =>
    unfold pieces at h
    split at h
    · rcases List.mem_cons.1 h with rfl | h
      · exact List.not_mem_nil
      · exact ih h
    · next hc =>
      cases hp : pieces sep cs with
      | nil => exact absurd hp (pieces_ne_nil sep cs)
      | cons q qs =>
        simp only [hp] at h ih
        rcases List.mem_cons.1 h with rfl | h
        · have := ih (List.mem_cons_self (a := q) (l := qs))
          simp [Ne.symm hc, this]
        · exact ih (List.mem_cons_of_mem q h)

/-- A text without the separator is one piece. -/
theorem pieces_of_not_mem {sep : Char} {cs : List Char} (h : sep ∉ cs) : pieces sep cs = [cs] := by
  induction cs with
  | nil => rfl
  | cons c cs ih =>
    obtain ⟨hc, hcs⟩ := List.ne_and_not_mem_of_not_mem_cons h
    simp [pieces, Ne.symm hc, ih hcs]

/-- A separator cuts a text into the pieces before it and the pieces behind it. -/
theorem pieces_append_sep (sep : Char) (cs ds : List Char) :
    pieces sep (cs ++ sep :: ds) = pieces sep cs ++ pieces sep ds := by
  induction cs with
  | nil => simp [pieces]
  | cons c cs ih =>
    by_cases hc : c = sep
    · simp [pieces, hc, ih]
    · cases hp : pieces sep cs with
      | nil => exact absurd hp (pieces_ne_nil sep cs)
      | cons p ps => simp [pieces, hc, ih, hp]

/-- Cutting gives back pieces that were put together. -/
theorem pieces_joinPieces {sep : Char} {ps : List (List Char)} (hne : ps ≠ [])
    (h : ∀ p ∈ ps, sep ∉ p) : pieces sep (joinPieces sep ps) = ps := by
  match ps with
  | [] => exact absurd rfl hne
  | [p] => exact pieces_of_not_mem (h p List.mem_cons_self)
  | p :: q :: ps =>
    have ih : pieces sep (joinPieces sep (q :: ps)) = q :: ps :=
      pieces_joinPieces (List.cons_ne_nil q ps) fun r hr => h r (List.mem_cons_of_mem p hr)
    rw [joinPieces, pieces_append_sep, pieces_of_not_mem (h p List.mem_cons_self), ih]
    rfl

/-- There is nothing to cut exactly if the separator does not occur. -/
theorem splitFirst_eq_none_iff {sep : Char} {cs : List Char} :
    splitFirst sep cs = none ↔ sep ∉ cs := by
  induction cs with
  | nil => simp [splitFirst]
  | cons c cs ih =>
    by_cases hc : c = sep
    · simp [splitFirst, hc]
    · simp [splitFirst, hc, ih, Ne.symm hc]

theorem splitFirst_append {sep : Char} {before : List Char} (h : sep ∉ before)
    (after : List Char) : splitFirst sep (before ++ sep :: after) = some (before, after) := by
  induction before with
  | nil => simp [splitFirst]
  | cons c before ih =>
    obtain ⟨hc, hbefore⟩ := List.ne_and_not_mem_of_not_mem_cons h
    simp [splitFirst, Ne.symm hc, ih hbefore]

/-- A text is cut at the first separator. -/
theorem splitFirst_eq_some_iff {sep : Char} {cs before after : List Char} :
    splitFirst sep cs = some (before, after) ↔ cs = before ++ sep :: after ∧ sep ∉ before := by
  constructor
  · intro h
    induction cs generalizing before with
    | nil => cases h
    | cons c cs ih =>
      by_cases hc : c = sep
      · simp only [splitFirst, hc, if_true, Option.some.injEq, Prod.mk.injEq] at h
        obtain ⟨rfl, rfl⟩ := h
        exact ⟨by rw [hc]; rfl, List.not_mem_nil⟩
      · simp only [splitFirst, hc, if_false] at h
        obtain ⟨⟨front, back⟩, hcs, heq⟩ := Option.map_eq_some_iff.1 h
        obtain ⟨rfl, rfl⟩ := Prod.mk.inj heq
        obtain ⟨rfl, hsep⟩ := ih hcs
        exact ⟨rfl, List.not_mem_cons_of_ne_of_not_mem (Ne.symm hc) hsep⟩
  · rintro ⟨rfl, h⟩
    exact splitFirst_append h after

/-- The last piece stands behind a separator. -/
theorem joinPieces_concat (sep : Char) {ps : List (List Char)} (hne : ps ≠ [])
    (p : List Char) : joinPieces sep (ps ++ [p]) = joinPieces sep ps ++ sep :: p := by
  match ps with
  | [] => exact absurd rfl hne
  | [q] => rfl
  | q :: r :: ps =>
    have ih := joinPieces_concat sep (List.cons_ne_nil r ps) p
    simp only [List.cons_append] at ih
    simp only [List.cons_append, joinPieces, ih, List.append_assoc]

/-- A stem can be dropped exactly if it begins the text. -/
theorem isSome_dropStem?_iff {stem cs : List Char} :
    (dropStem? stem cs).isSome = true ↔ stem <+: cs := by
  induction stem generalizing cs with
  | nil => simp [dropStem?]
  | cons s ss ih =>
    cases cs with
    | nil => simp [dropStem?]
    | cons c cs =>
      by_cases hc : s = c
      · simp [dropStem?, hc, ih]
      · simp [dropStem?, hc]

end Switchyard.Text
