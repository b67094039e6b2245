import Switchyard.Text.Split

/-!
# Replacing parts of a text

## Main results

* `replaceAll_append`, `replaceAll_cons`: what a pass does at the start of a text.
-/

namespace Switchyard.Text

/-- The text with every occurrence of `part` replaced, from left to right, where the first `skip`
characters belong to an occurrence that has been replaced. -/
def replaceFrom (part new : List Char) : Nat → List Char → List Char
  | _, [] => []
  | skip + 1, _ :: cs => replaceFrom part new skip cs
  | 0, c :: cs =>
    if (dropStem? part (c :: cs)).isSome then new ++ replaceFrom part new (part.length - 1) cs
    else c :: replaceFrom part new 0 cs

/-- The text with every occurrence of `part`, which is not empty, replaced from left to right. -/
def replaceAll (part new cs : List Char) : List Char :=
  replaceFrom part new 0 cs

/-! ### Lemmas -/

theorem replaceFrom_eq_drop (part new : List Char) (skip : Nat) (cs : List Char) :
    replaceFrom part new skip cs = replaceAll part new (cs.drop skip) := by
  induction skip generalizing cs with
  | zero => rfl
  | succ skip ih =>
    cases cs with
    | nil => rfl
    | cons c cs => exact ih cs

/-- A part at the start is replaced, and the pass goes on behind it. -/
theorem replaceAll_append {part : List Char} (h : part ≠ []) (new rest : List Char) :
    replaceAll part new (part ++ rest) = new ++ replaceAll part new rest := by
  cases part with
  | nil => exact absurd rfl h
  | cons p ps =>
    have hstem : (dropStem? (p :: ps) (p :: (ps ++ rest))).isSome = true :=
      isSome_dropStem?_iff.2 (List.prefix_append (p :: ps) rest)
    rw [List.cons_append, replaceAll, replaceFrom, if_pos hstem, replaceFrom_eq_drop,
      List.length_cons, Nat.add_sub_cancel, List.drop_left]

/-- A character at which no part starts is copied. -/
theorem replaceAll_cons {part : List Char} {c : Char} {cs : List Char} (h : ¬part <+: c :: cs)
    (new : List Char) : replaceAll part new (c :: cs) = c :: replaceAll part new cs := by
  rw [replaceAll, replaceFrom, if_neg fun hstem => h (isSome_dropStem?_iff.1 hstem), replaceAll]

end Switchyard.Text
