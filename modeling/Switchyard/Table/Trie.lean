import Switchyard.Association
import Switchyard.Pattern.Segment

/-!
# Tries of patterns

A trie holds one value for each shape of a pattern. At every node there are literal children, one
slot for a variable with the constraint that all patterns through it share, a value for a wildcard
and a value for a pattern that ends here.

A request path is resolved without going back: at each node a literal child comes first, then the
slot, then the wildcard, and a branch that has been taken is not left again.

## Main results

* `Trie.valueAt?_insert_self`: a value that was inserted stands at its pattern.
-/

namespace Switchyard

/-- A trie with values of type `α`. -/
inductive Trie (α : Type) where
  | node (literals : List (String × Trie α)) (slot : Option (Option Constraint × Trie α))
      (wildcard : Option α) (value : Option α)

/-- Two patterns put different constraints on one slot. -/
structure SlotConflict where
  existing : Option Constraint
  incoming : Option Constraint
  deriving DecidableEq

namespace SlotConflict

/-- A constraint in a report. -/
def describe : Option Constraint → String
  | some c => c.source
  | none => "<none>"

def existingText (c : SlotConflict) : String := describe c.existing
def incomingText (c : SlotConflict) : String := describe c.incoming

end SlotConflict

namespace Trie

variable {α : Type}

/-- The trie without values. -/
def empty : Trie α := .node [] none none none

instance : Inhabited (Trie α) := ⟨empty⟩

/-- The literal children. -/
def literals : Trie α → List (String × Trie α)
  | .node l _ _ _ => l

/-- The slot for a variable: the constraint that patterns share, and the trie behind it. -/
def slot : Trie α → Option (Option Constraint × Trie α)
  | .node _ s _ _ => s

/-- The value of a wildcard that stands here. -/
def wildcard : Trie α → Option α
  | .node _ _ w _ => w

/-- The value of a pattern that ends here. -/
def value : Trie α → Option α
  | .node _ _ _ v => v

/-- The child of a literal. -/
def literal? (t : Trie α) (text : String) : Option (Trie α) :=
  t.literals.lookup text

def withLiteral (t : Trie α) (text : String) (child : Trie α) : Trie α :=
  .node (Association.put text child t.literals) t.slot t.wildcard t.value

def withSlot (t : Trie α) (constraint : Option Constraint) (child : Trie α) : Trie α :=
  .node t.literals (some (constraint, child)) t.wildcard t.value

def withWildcard (t : Trie α) (v : α) : Trie α :=
  .node t.literals t.slot (some v) t.value

def withValue (t : Trie α) (v : α) : Trie α :=
  .node t.literals t.slot t.wildcard (some v)

/-- The trie behind the slot for a constraint; a slot that is not there yet is empty. -/
def behindSlot (t : Trie α) (constraint : Option Constraint) : Except SlotConflict (Trie α) :=
  match t.slot with
  | none => .ok empty
  | some (existing, child) =>
    if existing = constraint then .ok child else .error ⟨existing, constraint⟩

/-- What becomes of the trie when a value is put at a pattern, and the value that stood there
before, or the conflict at which the insertion ended. -/
def insert (t : Trie α) (v : α) : List Segment → Trie α × Except SlotConflict (Option α)
  | [] => (t.withValue v, .ok t.value)
  | s :: rest =>
    match s.step with
    | .literal text =>
      let (child, result) := ((t.literal? text).getD empty).insert v rest
      (t.withLiteral text child, result)
    | .slot constraint =>
      match t.behindSlot constraint with
      | .error c => (t, .error c)
      | .ok child =>
        let (child, result) := child.insert v rest
        (t.withSlot constraint child, result)
    | .rest => (t.withWildcard v, .ok t.wildcard)

/-- The value at a pattern, whatever the constraints and the names of its variables are. -/
def valueAt? (t : Trie α) : List Segment → Option α
  | [] => t.value
  | s :: rest =>
    match s.step with
    | .literal text => (t.literal? text).bind fun child => child.valueAt? rest
    | .slot _ => t.slot.bind fun (_, child) => child.valueAt? rest
    | .rest => t.wildcard

/-- Does the segment meet the constraint, if there is one? -/
def admits (constraint : Option Constraint) (segment : String) : Bool :=
  match constraint with
  | none => true
  | some c => c.admits segment

/-- The segments with slashes between them. -/
def rejoin (segments : List String) : String :=
  String.ofList (Text.joinPieces '/' (segments.map String.toList))

/-- The wildcard, which captures all that is left of a path. -/
def takeRest (t : Trie α) (segments : List String) : Option (α × List String) :=
  t.wildcard.map fun v => (v, [rejoin segments])

/-- The value that the segments of a path lead to, and what the variables capture. -/
def walk (t : Trie α) : List String → Option (α × List String)
  | [] => t.value.map fun v => (v, [])
  | s :: rest =>
    match t.literal? s with
    | some child => child.walk rest
    | none =>
      match (if s = "" then none else t.slot) with
      | some (constraint, child) =>
        if admits constraint s then
          (child.walk rest).map fun (v, captured) => (v, s :: captured)
        else none
      | none => t.takeRest (s :: rest)

/-- The value for a path. A wildcard at the root also takes the root path, which has no
segments. -/
def find (t : Trie α) (segments : List String) : Option (α × List String) :=
  match segments, t.value with
  | [], none => t.takeRest []
  | _, _ => t.walk segments

/-! ### Lemmas -/

@[simp] theorem literals_node (l s w v) : (Trie.node l s w v : Trie α).literals = l := rfl
@[simp] theorem slot_node (l s w v) : (Trie.node l s w v : Trie α).slot = s := rfl
@[simp] theorem wildcard_node (l s w v) : (Trie.node l s w v : Trie α).wildcard = w := rfl
@[simp] theorem value_node (l s w v) : (Trie.node l s w v : Trie α).value = v := rfl

@[simp] theorem literal?_withLiteral_self (t : Trie α) (text : String) (child : Trie α) :
    (t.withLiteral text child).literal? text = some child :=
  Association.lookup_put_self text child t.literals

theorem literal?_withLiteral_of_ne (t : Trie α) {text s : String} (child : Trie α)
    (h : s ≠ text) : (t.withLiteral text child).literal? s = t.literal? s :=
  Association.lookup_put_of_ne child t.literals h

@[simp] theorem slot_withLiteral (t : Trie α) (text : String) (child : Trie α) :
    (t.withLiteral text child).slot = t.slot := rfl

@[simp] theorem slot_withWildcard (t : Trie α) (v : α) : (t.withWildcard v).slot = t.slot := rfl

@[simp] theorem slot_withSlot (t : Trie α) (c : Option Constraint) (child : Trie α) :
    (t.withSlot c child).slot = some (c, child) := rfl

@[simp] theorem insert_nil (t : Trie α) (v : α) :
    t.insert v [] = (t.withValue v, .ok t.value) := rfl

/-- An insertion through a literal goes on in the child of the literal. -/
theorem insert_of_literal (t : Trie α) (v : α) {s : Segment} (rest : List Segment)
    {text : String} (h : s.step = .literal text) :
    t.insert v (s :: rest) =
      (t.withLiteral text (((t.literal? text).getD empty).insert v rest).1,
        (((t.literal? text).getD empty).insert v rest).2) := by
  rw [insert, h]

/-- An insertion through a slot goes on behind the slot. -/
theorem insert_of_slot {t child : Trie α} (v : α) {s : Segment} (rest : List Segment)
    {c : Option Constraint} (h : s.step = .slot c) (hb : t.behindSlot c = .ok child) :
    t.insert v (s :: rest) =
      (t.withSlot c (child.insert v rest).1, (child.insert v rest).2) := by
  rw [insert, h]
  simp only [hb]

/-- An insertion that another constraint meets at the slot ends there. -/
theorem insert_of_conflict {t : Trie α} (v : α) {s : Segment} (rest : List Segment)
    {c : Option Constraint} {e : SlotConflict} (h : s.step = .slot c)
    (hb : t.behindSlot c = .error e) : t.insert v (s :: rest) = (t, .error e) := by
  rw [insert, h]
  simp only [hb]

/-- An insertion of a wildcard ends at the node. -/
theorem insert_of_rest (t : Trie α) (v : α) {s : Segment} (rest : List Segment)
    (h : s.step = .rest) : t.insert v (s :: rest) = (t.withWildcard v, .ok t.wildcard) := by
  rw [insert, h]

theorem behindSlot_of_none {t : Trie α} (c : Option Constraint) (h : t.slot = none) :
    t.behindSlot c = .ok empty := by
  rw [behindSlot, h]

theorem behindSlot_of_some {t child : Trie α} {existing : Option Constraint}
    (c : Option Constraint) (h : t.slot = some (existing, child)) :
    t.behindSlot c = if existing = c then .ok child else .error ⟨existing, c⟩ := by
  rw [behindSlot, h]

theorem valueAt?_of_literal (t : Trie α) {s : Segment} (rest : List Segment) {text : String}
    (h : s.step = .literal text) :
    t.valueAt? (s :: rest) = (t.literal? text).bind fun child => child.valueAt? rest := by
  rw [valueAt?, h]

theorem valueAt?_of_slot (t : Trie α) {s : Segment} (rest : List Segment)
    {c : Option Constraint} (h : s.step = .slot c) :
    t.valueAt? (s :: rest) = t.slot.bind fun (_, child) => child.valueAt? rest := by
  rw [valueAt?, h]

theorem valueAt?_of_rest (t : Trie α) {s : Segment} (rest : List Segment) (h : s.step = .rest) :
    t.valueAt? (s :: rest) = t.wildcard := by
  rw [valueAt?, h]

theorem valueAt?_empty (p : List Segment) : (empty : Trie α).valueAt? p = none := by
  cases p with
  | nil => rfl
  | cons s rest =>
    cases hs : s.step with
    | literal text => rw [valueAt?_of_literal _ rest hs]; rfl
    | slot c => rw [valueAt?_of_slot _ rest hs]; rfl
    | rest => rw [valueAt?_of_rest _ rest hs]; rfl

/-- The value that was inserted stands at its pattern. -/
theorem valueAt?_insert_self {t : Trie α} {v : α} {old : Option α} {p : List Segment}
    (h : (t.insert v p).2 = .ok old) : (t.insert v p).1.valueAt? p = some v := by
  induction p generalizing t with
  | nil => rfl
  | cons s rest ih =>
    unfold valueAt?
    cases hs : s.step with
    | literal text =>
      rw [insert_of_literal t v rest hs] at h ⊢
      simp only [literal?_withLiteral_self]
      exact ih h
    | slot constraint =>
      cases hb : t.behindSlot constraint with
      | error c => rw [insert_of_conflict v rest hs hb] at h; cases h
      | ok child =>
        rw [insert_of_slot v rest hs hb] at h ⊢
        exact ih h
    | rest => rw [insert_of_rest t v rest hs]; rfl

/-- A walk goes on in the child of the literal, if there is one. -/
theorem walk_of_literal {t child : Trie α} {s : String} (rest : List String)
    (h : t.literal? s = some child) : t.walk (s :: rest) = child.walk rest := by
  rw [walk, h]

/-- A walk goes on behind the slot if there is no literal child for the segment. -/
theorem walk_of_slot {t child : Trie α} {s : String} {c : Option Constraint}
    (rest : List String) (hl : t.literal? s = none) (hs : s ≠ "") (h : t.slot = some (c, child)) :
    t.walk (s :: rest) =
      if admits c s then (child.walk rest).map fun (v, captured) => (v, s :: captured)
      else none := by
  rw [walk, hl]
  simp only [if_neg hs, h]

/-- A walk ends at the wildcard if neither a literal nor the slot leads on. -/
theorem walk_of_rest {t : Trie α} {s : String} (rest : List String) (hl : t.literal? s = none)
    (h : s = "" ∨ t.slot = none) : t.walk (s :: rest) = t.takeRest (s :: rest) := by
  rw [walk, hl]
  rcases h with h | h <;> simp [h]

/-- The root path goes to the value at the root, else to the wildcard there. -/
theorem find_nil (t : Trie α) :
    t.find [] = (t.value.map fun v => (v, [])).or (t.takeRest []) := by
  cases h : t.value <;> simp [find, walk, h]

end Trie

end Switchyard
