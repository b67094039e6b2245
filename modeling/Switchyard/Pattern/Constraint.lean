import Switchyard.Regex.Matcher
import Switchyard.Regex.Parser

/-!
# Constraints on a segment

A constraint is a regular expression that a path segment has to match. The expression is put into
a frame that anchors it at both ends of the segment, and the framed text is what is compiled.

## Main results

* `Constraint.ext_source`: a constraint is determined by its text.
-/

namespace Switchyard

/-- The expression in the frame that anchors it at both ends. -/
def Constraint.anchored (source : String) : String :=
  "^(?:" ++ source ++ ")$"

/-- A constraint: its text as it is written in a pattern, and the compiled expression. -/
structure Constraint where
  source : String
  expr : Regex
  compiles : Regex.parse (Constraint.anchored source) = .ok expr

namespace Constraint

/-- The constraint with this text, if the text is a regular expression. -/
def ofText? (source : String) : Option Constraint :=
  match h : Regex.parse (anchored source) with
  | .ok expr => some ⟨source, expr, h⟩
  | .error _ => none

/-- Does the segment meet the constraint? -/
def admits (c : Constraint) (segment : String) : Bool :=
  c.expr.isMatch segment

/-! ### Lemmas -/

/-- Constraints with one text are equal. -/
theorem ext_source {a b : Constraint} (h : a.source = b.source) : a = b := by
  obtain ⟨s, e, he⟩ := a
  obtain ⟨t, f, hf⟩ := b
  cases h
  cases he.symm.trans hf
  rfl

instance : DecidableEq Constraint := fun a b =>
  if h : a.source = b.source then .isTrue (ext_source h)
  else .isFalse fun e => h (congrArg source e)

theorem source_of_ofText? {source : String} {c : Constraint} (h : ofText? source = some c) :
    c.source = source := by
  unfold ofText? at h
  split at h
  · exact (Option.some.inj h) ▸ rfl
  · cases h

end Constraint

end Switchyard
