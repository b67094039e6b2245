import Switchyard.Association

/-!
# Bindings of path variables

The values of the variables of a pattern, in the order in which the pattern declares them.

## Main results

* `Bindings.get?_insert_self`, `Bindings.get?_insert_of_ne`: what a binding that is put in place
  does to look-ups.
-/

namespace Switchyard

/-- Names with their values. -/
structure Bindings where
  pairs : List (String × String) := []
  deriving Repr, DecidableEq, Inhabited

namespace Bindings

/-- Names and values side by side, as many as there are of both. -/
def zip (names values : List String) : Bindings :=
  ⟨names.zip values⟩

/-- The first value of a name. -/
def get? (b : Bindings) (name : String) : Option String :=
  b.pairs.lookup name

/-- The bindings with a value in the place of its name, or behind all others. -/
def insert (b : Bindings) (name value : String) : Bindings :=
  ⟨Association.put name value b.pairs⟩

def size (b : Bindings) : Nat := b.pairs.length

def isEmpty (b : Bindings) : Bool := b.pairs.isEmpty

/-! ### Lemmas -/

@[simp] theorem get?_insert_self (b : Bindings) (name value : String) :
    (b.insert name value).get? name = some value :=
  Association.lookup_put_self name value b.pairs

theorem get?_insert_of_ne (b : Bindings) {name n : String} (value : String) (h : n ≠ name) :
    (b.insert name value).get? n = b.get? n :=
  Association.lookup_put_of_ne value b.pairs h

end Bindings

end Switchyard
