import Switchyard.Unicode.Lookup

/-!
# Sets of characters

A set is kept as the expression that built it; membership is read off the expression.

## Main results

* `contains_compl`, `contains_union`, `contains_inter`: membership in the composed sets.
-/

namespace Switchyard

/-- A set of characters. `variants s` holds the case variants of the members of `s`. -/
inductive CharSet where
  | ranges (rs : List (Nat × Nat))
  | union (a b : CharSet)
  | inter (a b : CharSet)
  | compl (a : CharSet)
  | variants (a : CharSet)
  deriving Repr, DecidableEq

namespace CharSet

/-- Is the code point a member? -/
def holds : CharSet → Nat → Bool
  | ranges rs, n => Unicode.inRanges rs n
  | union a b, n => a.holds n || b.holds n
  | inter a b, n => a.holds n && b.holds n
  | compl a, n => !a.holds n
  | variants a, n => (Unicode.caseVariants n).any a.holds

/-- Is the character a member? -/
def contains (s : CharSet) (c : Char) : Bool :=
  s.holds c.toNat

def empty : CharSet := .ranges []

def single (c : Char) : CharSet := .ranges [(c.toNat, c.toNat)]

def all : CharSet := .ranges [(0, 0x10FFFF)]

/-- The members of `a` that are not in `b`. -/
def diff (a b : CharSet) : CharSet := .inter a (.compl b)

/-- The members of exactly one of the sets. -/
def symmDiff (a b : CharSet) : CharSet := .union (diff a b) (diff b a)

/-- Has the set no member from 128 to 255? -/
def isAscii (s : CharSet) : Bool :=
  (List.range 128).all fun i => !s.holds (128 + i)

/-- The number of ranges that the set was built from. -/
def size : CharSet → Nat
  | ranges rs => rs.length
  | union a b => a.size + b.size
  | inter a b => a.size + b.size
  | compl a => a.size + 1
  | variants a => a.size

/-! ### Lemmas -/

@[simp] theorem contains_union (a b : CharSet) (c : Char) :
    (union a b).contains c = (a.contains c || b.contains c) := rfl

@[simp] theorem contains_inter (a b : CharSet) (c : Char) :
    (inter a b).contains c = (a.contains c && b.contains c) := rfl

@[simp] theorem contains_compl (a : CharSet) (c : Char) :
    (compl a).contains c = !a.contains c := rfl

end CharSet

end Switchyard
