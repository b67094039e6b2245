import Mathlib.Data.List.Infix
import Switchyard.Service.Stub

/-!
# Bodies Filled in One Pass

The body of a static route is filled with one variable after the other, each in a pass of its own
over the text that the passes before have left. This module compares that with the substitution in
one pass (`fillOnce`), which reads the body alone: there a value is never looked at again, and the
order of the variables does not matter.

The two differ when a value brings a placeholder of a later variable, or a part of one that the text
around it completes. A later pass cannot tell this placeholder from one of the body. The relation
`Replaces` says that some occurrences of a part were replaced and how many; the pass replaces all
that there are, the substitution those of the body. So one pass does what it should exactly if the
numbers are equal, or if it replaces a placeholder by itself (`Replaces.eq_replaceAll_iff`).

## Main results

* `fillOnce_perm`: the substitution in one pass does not ask for the order of the variables.
* `fillIn_eq_fillOnce_iff`: bodies are filled as in one pass exactly if no value brings a
  placeholder.
* `fillIn_expands_value`: a value that is a placeholder is replaced in turn.
-/

namespace Switchyard

open Text (replaceAll replaceAll_append replaceAll_cons)

/-! ### Placeholders -/

/-- Variables with names that are distinct and have no braces. -/
structure AreNamed (pairs : List (String × String)) : Prop where
  nodup : (pairs.map Prod.fst).Nodup
  noOpen : ∀ e ∈ pairs, '{' ∉ e.1.toList
  noClose : ∀ e ∈ pairs, '}' ∉ e.1.toList

/-- A placeholder is determined by the text that starts with it. -/
theorem name_eq_of_placeholder_append {name other : String} {rest rest' : List Char}
    (h : '}' ∉ name.toList) (h' : '}' ∉ other.toList)
    (heq : placeholder name ++ rest = placeholder other ++ rest') : name = other := by
  have heq : name.toList ++ '}' :: rest = other.toList ++ '}' :: rest' := by
    simpa [placeholder] using heq
  have hsplit : some (name.toList, rest) = some (other.toList, rest') := by
    rw [← Text.splitFirst_append h rest, heq, Text.splitFirst_append h' rest']
  exact String.toList_inj.1 (Prod.mk.inj (Option.some.inj hsplit)).1

theorem name_eq_of_starts {name other : String} {cs : List Char} (h : '}' ∉ name.toList)
    (h' : '}' ∉ other.toList) (hname : placeholder name <+: cs)
    (hother : placeholder other <+: cs) : name = other := by
  obtain ⟨rest, rfl⟩ := hname
  obtain ⟨rest', heq⟩ := hother
  exact (name_eq_of_placeholder_append h' h heq).symm

theorem placeholder_ne_nil (name : String) : placeholder name ≠ [] := List.cons_ne_nil _ _

/-- A placeholder starts with a brace. -/
theorem not_placeholder_starts {name : String} {c : Char} {cs : List Char} (h : c ≠ '{') :
    ¬placeholder name <+: c :: cs := fun hprefix =>
  h (List.cons_prefix_cons.1 hprefix).1.symm

/-- Behind its first brace, a placeholder opens no other. -/
theorem open_not_mem_tail {name : String} (h : '{' ∉ name.toList) :
    '{' ∉ name.toList ++ ['}'] := by
  simpa using h

/-! ### Occurrences -/

/-- At how many places of the text the part starts. -/
def occurrences (part : List Char) : List Char → Nat
  | [] => 0
  | c :: cs => (if part.isPrefixOf (c :: cs) then 1 else 0) + occurrences part cs

theorem occurrences_of_starts {part : List Char} {c : Char} {cs : List Char}
    (h : part <+: c :: cs) : occurrences part (c :: cs) = occurrences part cs + 1 := by
  rw [occurrences, if_pos (List.isPrefixOf_iff_prefix.2 h), Nat.add_comm]

theorem occurrences_of_not_starts {part : List Char} {c : Char} {cs : List Char}
    (h : ¬part <+: c :: cs) : occurrences part (c :: cs) = occurrences part cs := by
  rw [occurrences, if_neg fun hprefix => h (List.isPrefixOf_iff_prefix.1 hprefix), Nat.zero_add]

/-- No placeholder starts where there is no opening brace. -/
theorem occurrences_append_of_not_mem (name : String) {cs : List Char} (h : '{' ∉ cs)
    (rest : List Char) :
    occurrences (placeholder name) (cs ++ rest) = occurrences (placeholder name) rest := by
  induction cs with
  | nil => rfl
  | cons c cs ih =>
      obtain ⟨hc, hcs⟩ := List.ne_and_not_mem_of_not_mem_cons h
      rw [List.cons_append, occurrences_of_not_starts (not_placeholder_starts hc.symm), ih hcs]

/-- A placeholder at the start is one occurrence more, if it is the one that is counted. -/
theorem occurrences_placeholder_append {name other : String} (h : '{' ∉ other.toList)
    (hclose : '}' ∉ name.toList) (hclose' : '}' ∉ other.toList) (rest : List Char) :
    occurrences (placeholder name) (placeholder other ++ rest) =
      occurrences (placeholder name) rest + if name = other then 1 else 0 := by
  have htail := occurrences_append_of_not_mem name (open_not_mem_tail h) rest
  by_cases hname : name = other
  · subst hname
    rw [if_pos rfl, ← htail]
    exact occurrences_of_starts (List.prefix_append (placeholder name) rest)
  · rw [if_neg hname, Nat.add_zero, ← htail]
    exact occurrences_of_not_starts fun hprefix =>
      hname (name_eq_of_starts hclose hclose' hprefix (List.prefix_append _ rest))

/-! ### Texts with some occurrences replaced -/

/-- `Replaces part new n text out` : `out` is the text with `n` occurrences of the part, none of
which overlap, replaced and all else copied. -/
inductive Replaces (part new : List Char) : Nat → List Char → List Char → Prop where
  | nil : Replaces part new 0 [] []
  | replaced {n text out} : Replaces part new n text out →
      Replaces part new (n + 1) (part ++ text) (new ++ out)
  | copied {n text out} (c : Char) : Replaces part new n text out →
      Replaces part new n (c :: text) (c :: out)

namespace Replaces

variable {name : String} {new : List Char} {n : Nat} {text out : List Char}

theorem append_left {part : List Char} (h : Replaces part new n text out) (cs : List Char) :
    Replaces part new n (cs ++ text) (cs ++ out) := by
  induction cs with
  | nil => exact h
  | cons c cs ih => exact .copied c ih

/-- Replacing a part by itself changes nothing. -/
theorem eq_of_self {part : List Char} (h : Replaces part part n text out) : out = text := by
  induction h with
  | nil => rfl
  | replaced _ ih => rw [ih]
  | copied c _ ih => rw [ih]

theorem length_add {part : List Char} (h : Replaces part new n text out) :
    out.length + n * part.length = text.length + n * new.length := by
  induction h with
  | nil => simp
  | replaced _ ih => simp only [List.length_append, Nat.add_mul]; omega
  | copied c _ ih => simp only [List.length_cons]; omega

/-- Characters before the first opening brace are copied. -/
theorem exists_append (h : Replaces (placeholder name) new n text out) {cs rest : List Char}
    (hcs : '{' ∉ cs) (heq : text = cs ++ rest) :
    ∃ out', out = cs ++ out' ∧ Replaces (placeholder name) new n rest out' := by
  induction cs generalizing n text out with
  | nil => exact ⟨out, rfl, (show text = rest from heq) ▸ h⟩
  | cons c cs ih =>
      cases h with
      | nil => cases heq
      | replaced h =>
          obtain ⟨rfl, -⟩ := List.cons.inj heq
          exact absurd List.mem_cons_self hcs
      | copied d h =>
          obtain ⟨rfl, htext⟩ := List.cons.inj heq
          obtain ⟨out', rfl, h'⟩ := ih h (List.not_mem_of_not_mem_cons hcs) htext
          exact ⟨out', rfl, h'⟩

section

variable (hopen : '{' ∉ name.toList) (hclose : '}' ∉ name.toList)

include hopen hclose

/-- No more can be replaced than there is, and who replaces all does what the pass does. -/
theorem eq_replaceAll_of_all (h : Replaces (placeholder name) new n text out) :
    n ≤ occurrences (placeholder name) text ∧
      (n = occurrences (placeholder name) text → out = replaceAll (placeholder name) new text) := by
  induction h with
  | nil => exact ⟨le_rfl, fun _ => rfl⟩
  | @replaced n text out _ ih =>
      rw [occurrences_placeholder_append hopen hclose hclose, if_pos rfl,
        replaceAll_append (placeholder_ne_nil name)]
      exact ⟨Nat.succ_le_succ ih.1, fun hn => congrArg _ (ih.2 (Nat.succ.inj hn))⟩
  | @copied n text out c _ ih =>
      by_cases hprefix : placeholder name <+: c :: text
      · rw [occurrences_of_starts hprefix]
        exact ⟨Nat.le_succ_of_le ih.1, fun hn => absurd ih.1 (by omega)⟩
      · rw [occurrences_of_not_starts hprefix, replaceAll_cons hprefix]
        exact ⟨ih.1, fun hn => congrArg _ (ih.2 hn)⟩

/-- The pass replaces all occurrences. -/
theorem of_replaceAll (new text : List Char) :
    Replaces (placeholder name) new (occurrences (placeholder name) text) text
      (replaceAll (placeholder name) new text) := by
  induction hlen : text.length using Nat.strong_induction_on generalizing text with
  | _ length ih =>
      cases text with
      | nil => exact .nil
      | cons c text =>
          by_cases hprefix : placeholder name <+: c :: text
          · obtain ⟨rest, hrest⟩ := hprefix
            rw [← hrest, occurrences_placeholder_append hopen hclose hclose, if_pos rfl,
              replaceAll_append (placeholder_ne_nil name)]
            refine .replaced (ih rest.length ?_ rest rfl)
            rw [← hlen, ← hrest, List.length_append]
            exact Nat.lt_add_of_pos_left (List.length_pos_iff.2 (placeholder_ne_nil name))
          · rw [occurrences_of_not_starts hprefix, replaceAll_cons hprefix]
            exact .copied c (ih text.length (by simp [← hlen]) text rfl)

/-- If a replacement is as long as the placeholder, an occurrence that was left shows. -/
theorem all_of_eq_replaceAll (h : Replaces (placeholder name) new n text out)
    (hlength : new.length = (placeholder name).length) (hne : new ≠ placeholder name)
    (heq : out = replaceAll (placeholder name) new text) :
    n = occurrences (placeholder name) text := by
  induction h with
  | nil => rfl
  | @replaced n text out _ ih =>
      rw [replaceAll_append (placeholder_ne_nil name)] at heq
      rw [occurrences_placeholder_append hopen hclose hclose, if_pos rfl,
        ih (List.append_cancel_left heq)]
  | @copied n text out c h ih =>
      by_cases hprefix : placeholder name <+: c :: text
      · obtain ⟨rest, hrest⟩ := hprefix
        rw [← hrest, replaceAll_append (placeholder_ne_nil name)] at heq
        obtain ⟨rfl, htext⟩ := List.cons.inj hrest
        obtain ⟨out', rfl, -⟩ := h.exists_append (open_not_mem_tail hopen) htext.symm
        exact absurd (List.append_inj_left heq.symm hlength) hne
      · rw [replaceAll_cons hprefix] at heq
        rw [occurrences_of_not_starts hprefix, ih (List.cons.inj heq).2]

/-- **Replacing some occurrences is what the pass does exactly if** these are all, or if the
placeholder is replaced by itself. -/
theorem eq_replaceAll_iff (h : Replaces (placeholder name) new n text out) :
    out = replaceAll (placeholder name) new text ↔
      new = placeholder name ∨ n = occurrences (placeholder name) text := by
  constructor
  · intro heq
    by_cases hne : new = placeholder name
    · exact .inl hne
    · refine .inr ?_
      by_cases hlength : new.length = (placeholder name).length
      · exact h.all_of_eq_replaceAll hopen hclose hlength hne heq
      · -- each occurrence that was left changes the length by the same number of characters
        have hsome := h.length_add
        have hall := (of_replaceAll hopen hclose new text).length_add
        obtain ⟨k, hk⟩ := Nat.exists_eq_add_of_le (h.eq_replaceAll_of_all hopen hclose).1
        rw [← heq, hk, Nat.add_mul, Nat.add_mul] at hall
        have hleft : k * new.length = k * (placeholder name).length := by omega
        rcases Nat.eq_zero_or_pos k with rfl | hpos
        · exact hk.symm
        · exact absurd (Nat.eq_of_mul_eq_mul_left hpos hleft) hlength
  · rintro (rfl | hall)
    · rw [h.eq_of_self, (of_replaceAll hopen hclose _ text).eq_of_self]
    · exact (h.eq_replaceAll_of_all hopen hclose).2 hall

end

end Replaces

/-! ### The substitution in one pass -/

/-- The body with the placeholders of the variables replaced by their values in one pass from left
to right, where the first `skip` characters belong to a placeholder that was replaced. -/
def fillFrom (pairs : List (String × String)) : Nat → List Char → List Char
  | _, [] => []
  | skip + 1, _ :: cs => fillFrom pairs skip cs
  | 0, c :: cs =>
    match pairs.find? fun e => (placeholder e.1).isPrefixOf (c :: cs) with
    | some (name, value) => value.toList ++ fillFrom pairs ((placeholder name).length - 1) cs
    | none => c :: fillFrom pairs 0 cs

/-- The simultaneous substitution: what stands in the body is replaced or copied, and values are
not looked at again. -/
def fillOnce (pairs : List (String × String)) (body : List Char) : List Char :=
  fillFrom pairs 0 body

theorem fillFrom_eq_drop (pairs : List (String × String)) (skip : Nat) (cs : List Char) :
    fillFrom pairs skip cs = fillOnce pairs (cs.drop skip) := by
  induction skip generalizing cs with
  | zero => rfl
  | succ skip ih =>
      cases cs with
      | nil => rfl
      | cons c cs => exact ih cs

/-- A character at which no placeholder of a variable starts is copied. -/
theorem fillOnce_cons {pairs : List (String × String)} {c : Char} {cs : List Char}
    (h : ∀ e ∈ pairs, ¬placeholder e.1 <+: c :: cs) :
    fillOnce pairs (c :: cs) = c :: fillOnce pairs cs := by
  have hnone : (pairs.find? fun e => (placeholder e.1).isPrefixOf (c :: cs)) = none :=
    List.find?_eq_none.2 fun e he hprefix => h e he (List.isPrefixOf_iff_prefix.1 hprefix)
  rw [fillOnce, fillFrom, hnone]
  rfl

theorem fillOnce_nil (body : List Char) : fillOnce [] body = body := by
  induction body with
  | nil => rfl
  | cons c cs ih => rw [fillOnce_cons (List.forall_mem_nil _), ih]

/-- Characters without an opening brace are copied. -/
theorem fillOnce_append_of_not_mem (pairs : List (String × String)) {cs : List Char}
    (h : '{' ∉ cs) (rest : List Char) :
    fillOnce pairs (cs ++ rest) = cs ++ fillOnce pairs rest := by
  induction cs with
  | nil => rfl
  | cons c cs ih =>
      obtain ⟨hc, hcs⟩ := List.ne_and_not_mem_of_not_mem_cons h
      rw [List.cons_append, fillOnce_cons fun _ _ => not_placeholder_starts hc.symm, ih hcs,
        List.cons_append]

/-- The placeholder of a name that is no variable's is copied. -/
theorem fillOnce_placeholder_of_not_mem {pairs : List (String × String)} {name : String}
    (hpairs : ∀ e ∈ pairs, '}' ∉ e.1.toList ∧ e.1 ≠ name) (hopen : '{' ∉ name.toList)
    (hclose : '}' ∉ name.toList) (rest : List Char) :
    fillOnce pairs (placeholder name ++ rest) = placeholder name ++ fillOnce pairs rest := by
  have hnone : ∀ e ∈ pairs, ¬placeholder e.1 <+: '{' :: (name.toList ++ ['}'] ++ rest) :=
    fun e he hprefix => (hpairs e he).2 (name_eq_of_starts (hpairs e he).1 hclose hprefix
      (List.prefix_append (placeholder name) rest))
  exact (fillOnce_cons hnone).trans
    (congrArg _ (fillOnce_append_of_not_mem pairs (open_not_mem_tail hopen) rest))

/-- A body is empty, or starts with the placeholder of a variable, or with a character at which
none starts. -/
theorem fillInduction (pairs : List (String × String)) {motive : List Char → Prop} (nil : motive [])
    (value : ∀ name value rest, (name, value) ∈ pairs → motive rest →
      motive (placeholder name ++ rest))
    (copy : ∀ c cs, (∀ e ∈ pairs, ¬placeholder e.1 <+: c :: cs) → motive cs → motive (c :: cs))
    (body : List Char) : motive body := by
  induction hlen : body.length using Nat.strong_induction_on generalizing body with
  | _ length ih =>
      cases body with
      | nil => exact nil
      | cons c cs =>
          by_cases hnone : ∀ e ∈ pairs, ¬placeholder e.1 <+: c :: cs
          · exact copy c cs hnone (ih cs.length (by simp [← hlen]) cs rfl)
          · simp only [not_forall, not_not] at hnone
            obtain ⟨⟨name, v⟩, hmem, rest, hrest⟩ := hnone
            rw [← hrest]
            refine value name v rest hmem (ih rest.length ?_ rest rfl)
            rw [← hlen, ← hrest, List.length_append]
            exact Nat.lt_add_of_pos_left (List.length_pos_iff.2 (placeholder_ne_nil name))

namespace AreNamed

variable {pairs : List (String × String)}

theorem of_append_left {others : List (String × String)} (h : AreNamed (pairs ++ others)) :
    AreNamed pairs where
  nodup := (List.nodup_append.1 (List.map_append ▸ h.nodup)).1
  noOpen e he := h.noOpen e (List.mem_append_left others he)
  noClose e he := h.noClose e (List.mem_append_left others he)

theorem perm {others : List (String × String)} (h : AreNamed pairs) (hperm : others.Perm pairs) :
    AreNamed others where
  nodup := (hperm.map Prod.fst).nodup_iff.2 h.nodup
  noOpen e he := h.noOpen e (hperm.mem_iff.1 he)
  noClose e he := h.noClose e (hperm.mem_iff.1 he)

/-- The placeholder of a variable is replaced by its value, which is copied. -/
theorem fillOnce_placeholder (h : AreNamed pairs) {name value : String}
    (hmem : (name, value) ∈ pairs) (rest : List Char) :
    fillOnce pairs (placeholder name ++ rest) = value.toList ++ fillOnce pairs rest := by
  have hprefix : placeholder name <+: '{' :: (name.toList ++ ['}'] ++ rest) :=
    List.prefix_append (placeholder name) rest
  have hfind : (pairs.find? fun e =>
      (placeholder e.1).isPrefixOf ('{' :: (name.toList ++ ['}'] ++ rest))) =
        some (name, value) := by
    obtain ⟨before, after, rfl⟩ := List.append_of_mem hmem
    refine List.find?_eq_some_iff_append.2
      ⟨List.isPrefixOf_iff_prefix.2 hprefix, before, after, rfl, fun e he => ?_⟩
    -- a variable with this placeholder would have the name of the one behind it
    rw [Bool.not_eq_true', Bool.eq_false_iff, Ne, List.isPrefixOf_iff_prefix]
    intro hother
    have hname := name_eq_of_starts (h.noClose e (List.mem_append_left _ he))
      (h.noClose _ hmem) hother hprefix
    have hnodup := h.nodup
    rw [List.map_append, List.map_cons] at hnodup
    exact (List.nodup_append.1 hnodup).2.2 e.1 (List.mem_map_of_mem he) name List.mem_cons_self
      hname
  have hdrop : (name.toList ++ ['}'] ++ rest).drop ((placeholder name).length - 1) = rest :=
    List.drop_left' (by simp [placeholder])
  show fillFrom pairs 0 ('{' :: (name.toList ++ ['}'] ++ rest)) = _
  rw [fillFrom, hfind, ← hdrop, ← fillFrom_eq_drop, hdrop]

/-- One variable more replaces the occurrences of its placeholder in the body, and no others. -/
theorem replaces_fillOnce {name value : String} (h : AreNamed (pairs ++ [(name, value)]))
    (body : List Char) :
    Replaces (placeholder name) value.toList (occurrences (placeholder name) body)
      (fillOnce pairs body) (fillOnce (pairs ++ [(name, value)]) body) := by
  have hlast : (name, value) ∈ pairs ++ [(name, value)] :=
    List.mem_append_right pairs List.mem_cons_self
  have hopen := h.noOpen _ hlast
  have hclose := h.noClose _ hlast
  have hother : ∀ e ∈ pairs, '}' ∉ e.1.toList ∧ e.1 ≠ name := fun e he =>
    ⟨h.noClose e (List.mem_append_left _ he), fun hname => by
      have hnodup := h.nodup
      rw [List.map_append] at hnodup
      exact (List.nodup_append.1 hnodup).2.2 e.1 (List.mem_map_of_mem he) name
        List.mem_cons_self hname⟩
  induction body using fillInduction (pairs ++ [(name, value)]) with
  | nil => exact .nil
  | value other v rest hmem ih =>
      rw [h.fillOnce_placeholder hmem,
        occurrences_placeholder_append (h.noOpen _ hmem) hclose (h.noClose _ hmem)]
      rcases List.mem_append.1 hmem with hmem | hmem
      · rw [h.of_append_left.fillOnce_placeholder hmem, if_neg (hother _ hmem).2.symm]
        exact ih.append_left v.toList
      · obtain ⟨rfl, rfl⟩ := Prod.mk.inj (List.mem_singleton.1 hmem)
        rw [fillOnce_placeholder_of_not_mem hother hopen hclose, if_pos rfl]
        exact .replaced ih
  | copy c cs hnone ih =>
      rw [fillOnce_cons hnone, fillOnce_cons fun e he => hnone e (List.mem_append_left _ he),
        occurrences_of_not_starts (hnone _ hlast)]
      exact .copied c ih

end AreNamed

/-- The substitution in one pass does not ask for the order of the variables. -/
theorem fillOnce_perm {pairs others : List (String × String)} (h : AreNamed pairs)
    (hperm : others.Perm pairs) (body : List Char) :
    fillOnce others body = fillOnce pairs body := by
  induction body using fillInduction pairs with
  | nil => rfl
  | value name v rest hmem ih =>
      rw [h.fillOnce_placeholder hmem,
        (h.perm hperm).fillOnce_placeholder (hperm.mem_iff.2 hmem), ih]
  | copy c cs hnone ih =>
      rw [fillOnce_cons hnone, fillOnce_cons fun e he => hnone e (hperm.mem_iff.1 he), ih]

/-! ### The passes of a static route -/

theorem fillIn_concat (body : String) (pairs : List (String × String)) (name value : String) :
    (fillIn body ⟨pairs ++ [(name, value)]⟩).toList =
      replaceAll (placeholder name) value.toList (fillIn body ⟨pairs⟩).toList := by
  simp [fillIn, List.foldl_append]

/-- No value brings a placeholder: where the variables in front of one are filled in, its
placeholder occurs as often as in the body, or it stands for itself. -/
def BringsNone (body : List Char) (pairs : List (String × String)) : Prop :=
  ∀ before name value after, pairs = before ++ (name, value) :: after →
    value.toList = placeholder name ∨
      occurrences (placeholder name) body =
        occurrences (placeholder name) (fillOnce before body)

/-- **A static route fills its body as in one pass exactly if no value brings a placeholder.** For
variables with distinct names without braces, whatever the body and the values are, the body is
filled with them and with each initial part of them as in one pass exactly under this condition;
and what one pass makes of it does not depend on the order of the variables. -/
theorem fillIn_eq_fillOnce_iff (body : String) {pairs : List (String × String)}
    (h : AreNamed pairs) :
    ((∀ before, before <+: pairs →
        fillIn body ⟨before⟩ = String.ofList (fillOnce before body.toList)) ↔
      BringsNone body.toList pairs) ∧
      ∀ others, others.Perm pairs → fillOnce others body.toList = fillOnce pairs body.toList := by
  refine ⟨⟨?_, ?_⟩, fun others hperm => fillOnce_perm h hperm body.toList⟩
  · rintro hall before name value after rfl
    have hsplit : before ++ (name, value) :: after = before ++ [(name, value)] ++ after := by simp
    rw [hsplit] at h hall
    have hstep := fillIn_concat body before name value
    rw [hall _ (List.prefix_append _ _),
      hall before ((List.prefix_append before _).trans (List.prefix_append _ after)),
      String.toList_ofList, String.toList_ofList] at hstep
    have hnamed := h.of_append_left
    have hmem : (name, value) ∈ before ++ [(name, value)] := by simp
    exact ((hnamed.replaces_fillOnce body.toList).eq_replaceAll_iff (hnamed.noOpen _ hmem)
      (hnamed.noClose _ hmem)).1 hstep
  · intro hnone before
    induction before using List.reverseRecOn with
    | nil =>
        intro _
        rw [fillOnce_nil, String.ofList_toList]
        exact String.ofList_toList
    | append_singleton before e ih =>
        obtain ⟨name, value⟩ := e
        rintro ⟨after, rfl⟩
        have hnamed := h.of_append_left
        have hmem : (name, value) ∈ before ++ [(name, value)] := by simp
        have hprev := ih ((List.prefix_append before _).trans (List.prefix_append _ after))
        have hiff := (hnamed.replaces_fillOnce body.toList).eq_replaceAll_iff
          (hnamed.noOpen _ hmem) (hnamed.noClose _ hmem)
        rw [← String.toList_inj, fillIn_concat, hprev, String.toList_ofList,
          String.toList_ofList]
        exact (hiff.2 (hnone before name value after (by simp))).symm

/-- The value of `b` is the placeholder of `a`, which has been filled in before. In the other order
the pass for `a` comes upon it. -/
theorem fillIn_eq_fillOnce_iff_ordered :
    AreNamed [("a", "\x7bx\x7d"), ("b", "\x7ba\x7d")] ∧
      fillIn "\x7bb\x7d-\x7ba\x7d" ⟨[("a", "\x7bx\x7d"), ("b", "\x7ba\x7d")]⟩ =
        "\x7ba\x7d-\x7bx\x7d" ∧
      ¬BringsNone "\x7bb\x7d-\x7ba\x7d".toList [("b", "\x7ba\x7d"), ("a", "\x7bx\x7d")] := by
  have hnamed : AreNamed [("a", "\x7bx\x7d"), ("b", "\x7ba\x7d")] :=
    ⟨by simp, by simp, by simp⟩
  obtain ⟨hforward, -⟩ := fillIn_eq_fillOnce_iff "\x7bb\x7d-\x7ba\x7d" hnamed
  obtain ⟨hbackward, -⟩ := fillIn_eq_fillOnce_iff "\x7bb\x7d-\x7ba\x7d"
    (hnamed.perm (List.Perm.swap _ _ []))
  have hnone : BringsNone "\x7bb\x7d-\x7ba\x7d".toList
      [("a", "\x7bx\x7d"), ("b", "\x7ba\x7d")] := by
    intro before name value after heq
    rcases before with _ | ⟨e, _ | ⟨e', before⟩⟩
    · obtain ⟨⟨rfl, rfl⟩, -⟩ := by simpa using heq
      exact .inr (by decide +kernel)
    · obtain ⟨rfl, ⟨rfl, rfl⟩, -⟩ := by simpa using heq
      exact .inr (by decide +kernel)
    · simp at heq
  refine ⟨hnamed, (hforward.2 hnone _ List.prefix_rfl).trans (by decide +kernel), fun hbrings => ?_⟩
  have hfilled := hbackward.2 hbrings _ List.prefix_rfl
  revert hfilled
  decide +kernel

/-- **A value that is a placeholder is replaced in turn.** The first variable is bound to the
placeholder of the second, and the text has the second value in both places; filled in the other
order, or in one pass, the first value stands there as it is. -/
theorem fillIn_expands_value :
    fillIn "\x7ba\x7d \x7bb\x7d" ⟨[("a", "\x7bb\x7d"), ("b", "7")]⟩ = "7 7" ∧
      fillIn "\x7ba\x7d \x7bb\x7d" ⟨[("b", "7"), ("a", "\x7bb\x7d")]⟩ = "\x7bb\x7d 7" ∧
      String.ofList (fillOnce [("a", "\x7bb\x7d"), ("b", "7")] "\x7ba\x7d \x7bb\x7d".toList) =
        "\x7bb\x7d 7" := by
  decide +kernel

end Switchyard
