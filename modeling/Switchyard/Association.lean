/-!
# Association lists

Keys with their values, in the order in which the keys came first.

## Main results

* `Association.lookup_put`: what a value that is put in place does to look-ups.
-/

namespace Switchyard.Association

variable {κ ν : Type} [DecidableEq κ]

/-- A value put in the place of its key, or behind all others. -/
def put (key : κ) (value : ν) : List (κ × ν) → List (κ × ν)
  | [] => [(key, value)]
  | (k, v) :: rest => if k = key then (key, value) :: rest else (k, v) :: put key value rest

/-! ### Lemmas -/

/-- The first pair with a key decides. -/
theorem lookup_cons (key k : κ) (value : ν) (l : List (κ × ν)) :
    ((key, value) :: l).lookup k = if k = key then some value else l.lookup k := by
  rw [List.lookup_cons]
  by_cases h : k = key
  · simp [h]
  · simp [h, beq_false_of_ne]

/-- The key that was put in place has its value, and no other key is touched. -/
theorem lookup_put (key k : κ) (value : ν) (l : List (κ × ν)) :
    (put key value l).lookup k = if k = key then some value else l.lookup k := by
  induction l with
  | nil => rw [put, lookup_cons]
  | cons p l ih =>
    obtain ⟨m, v⟩ := p
    unfold put
    by_cases hm : m = key
    · rw [if_pos hm, lookup_cons, lookup_cons, hm]
      by_cases hk : k = key <;> simp [hk]
    · rw [if_neg hm, lookup_cons, lookup_cons, ih]
      by_cases hk : k = m
      · simp [hk, hm]
      · simp [hk]

@[simp] theorem lookup_put_self (key : κ) (value : ν) (l : List (κ × ν)) :
    (put key value l).lookup key = some value := by
  rw [lookup_put, if_pos rfl]

theorem lookup_put_of_ne {key k : κ} (value : ν) (l : List (κ × ν)) (h : k ≠ key) :
    (put key value l).lookup k = l.lookup k := by
  rw [lookup_put, if_neg h]

/-- Putting the value that a key already has changes nothing. -/
theorem put_of_lookup {key : κ} {value : ν} {l : List (κ × ν)}
    (h : l.lookup key = some value) : put key value l = l := by
  induction l with
  | nil => cases h
  | cons p l ih =>
    obtain ⟨m, v⟩ := p
    rw [lookup_cons] at h
    unfold put
    by_cases hm : key = m
    · rw [if_pos hm, Option.some.injEq] at h
      rw [if_pos hm.symm, hm, h]
    · rw [if_neg hm] at h
      rw [if_neg (Ne.symm hm), ih h]

/-- A key keeps its place; a new one comes behind all others. -/
theorem keys_put (key : κ) (value : ν) (l : List (κ × ν)) :
    (put key value l).map Prod.fst =
      if key ∈ l.map Prod.fst then l.map Prod.fst else l.map Prod.fst ++ [key] := by
  induction l with
  | nil => simp [put]
  | cons p l ih =>
    obtain ⟨m, v⟩ := p
    unfold put
    by_cases hm : m = key
    · simp [hm]
    · by_cases hk : key ∈ l.map Prod.fst
      · simp only [hm, if_false, List.map_cons, ih, hk, if_true, List.mem_cons, or_true]
      · simp only [hm, if_false, List.map_cons, ih, hk, List.mem_cons, Ne.symm hm, or_self,
          List.cons_append]

/-- Where each key is met once, a look-up finds exactly the pairs of the list. -/
theorem lookup_eq_some_iff_mem {key : κ} {value : ν} {l : List (κ × ν)}
    (h : (l.map Prod.fst).Nodup) : l.lookup key = some value ↔ (key, value) ∈ l := by
  induction l with
  | nil => simp
  | cons p l ih =>
    obtain ⟨k, v⟩ := p
    obtain ⟨hk, hl⟩ := List.nodup_cons.1 h
    rw [lookup_cons, List.mem_cons]
    by_cases hkey : key = k
    · have hnot : (k, value) ∉ l := fun hmem => hk (List.mem_map.2 ⟨(k, value), hmem, rfl⟩)
      simp [hkey, hnot, eq_comm]
    · simp [hkey, ih hl]

end Switchyard.Association
