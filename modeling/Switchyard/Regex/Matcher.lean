import Switchyard.Regex.Expr

/-!
# Searching a text

All places at which a match may end are followed at once: a set of places is a list of indices
into the text without repetitions. The search stops as soon as a round of a repetition adds no
place, so it ends after at most one round for each place.

## Main results

* `mem_merge`: which places two sets of places have together.
-/

namespace Switchyard.Regex

/-- The places of both lists, each once. -/
def merge (places more : List Nat) : List Nat :=
  more.foldl (fun acc i => if acc.contains i then acc else i :: acc) places

/-- The character before a place. -/
def charBefore? (text : Array Char) (i : Nat) : Option Char :=
  if i = 0 then none else text[i - 1]?

/-- A step done `n` times, or until it leads nowhere or changes nothing. -/
def iterate (step : List Nat → List Nat) : Nat → List Nat → List Nat
  | 0, places => places
  | n + 1, places =>
    if places.isEmpty then []
    else
      let next := step places
      if next == places then places else iterate step n next

/-- All places that some number of steps leads to, at most `rounds` of them. `seen` are the
places found, `fresh` those that the last step added. -/
def closure (step : List Nat → List Nat) : Nat → List Nat → List Nat → List Nat
  | 0, seen, _ => seen
  | rounds + 1, seen, fresh =>
    let new := (step fresh).filter fun i => !seen.contains i
    if new.isEmpty then seen else closure step rounds (merge seen new) new

/-- The places at which a match may end that starts at one of `places`. -/
def ends (text : Array Char) : Regex → List Nat → List Nat
  | .empty, places => places
  | .chars set, places =>
    places.filterMap fun i =>
      match text[i]? with
      | some c => if set.contains c then some (i + 1) else none
      | none => none
  | .look condition, places =>
    places.filter fun i => condition.holds (charBefore? text i) text[i]?
  | .seq a b, places => ends text b (ends text a places)
  | .alt a b, places => merge (ends text a places) (ends text b places)
  | .rep e least most, places =>
    let start := iterate (ends text e) least places
    match most with
    | none => closure (ends text e) (text.size + 1) start start
    | some m => closure (ends text e) (m - least) start start

/-- Does the expression match some part of the text? -/
def isMatch (e : Regex) (text : String) : Bool :=
  let cs := text.toList.toArray
  !(ends cs e (List.range (cs.size + 1))).isEmpty

/-! ### Lemmas -/

/-- The places of both lists, and no others. -/
theorem mem_merge {places more : List Nat} {i : Nat} :
    i ∈ merge places more ↔ i ∈ places ∨ i ∈ more := by
  unfold merge
  induction more generalizing places with
  | nil => simp
  | cons j more ih =>
    rw [List.foldl_cons, ih]
    by_cases hj : places.contains j
    · have : j ∈ places := List.contains_iff_mem.1 hj
      simp only [hj, if_true, List.mem_cons]
      constructor
      · rintro (h | h)
        · exact .inl h
        · exact .inr (.inr h)
      · rintro (h | rfl | h)
        · exact .inl h
        · exact .inl this
        · exact .inr h
    · simp only [hj, Bool.false_eq_true, if_false, List.mem_cons]
      constructor
      · rintro ((rfl | h) | h)
        · exact .inr (.inl rfl)
        · exact .inl h
        · exact .inr (.inr h)
      · rintro (h | rfl | h)
        · exact .inl (.inr h)
        · exact .inl (.inl rfl)
        · exact .inr h

end Switchyard.Regex
