import Mathlib.Data.Finset.Card
import Mathlib.Data.Finset.Range
import Mathlib.Order.Basic
import Switchyard.Regex.Matcher

/-!
# What a Search Finds

A search follows all places of a text at which a match may end, as a list of indices. This module
equates it with the relation `Matches`, which knows the parts of the text and no indices. `Spans` is
between the two: it says that an expression matches from one index of a text to another, and each
form of expressions has one equation for it.

Repetitions are where the search does more than the relation says. It stops early when a round
changes nothing or finds no new place. A round that changes nothing would not change anything
later (`mem_iterate`). A round that finds no new place shows that the places found are closed under
the step; the invariant for this is that whatever a place leads to has been found, or is led to by a
place of the last round (`Frontier`). As every other round finds a new place of the text, there are
as many rounds as an unbounded repetition can use (`mem_closure_unbounded_iff`).

## Main results

* `mem_ends_iff`: the places that a search reaches are those to which a match leads.
* `isMatch_iff`: a search succeeds exactly if the expression matches some part of the text.
-/

namespace Switchyard.Regex

/-! ### Chains of steps -/

/-- `Chain r n i j` : the relation leads from `i` to `j` in `n` steps. -/
def Chain (r : Nat → Nat → Prop) : Nat → Nat → Nat → Prop
  | 0, i, j => i = j
  | n + 1, i, j => ∃ k, r i k ∧ Chain r n k j

theorem chain_add_iff {r : Nat → Nat → Prop} {m n i j : Nat} :
    Chain r (m + n) i j ↔ ∃ k, Chain r m i k ∧ Chain r n k j := by
  induction m generalizing i with
  | zero => simp [Chain]
  | succ m ih =>
      rw [Nat.succ_add]
      simp only [Chain, ih]
      constructor
      · rintro ⟨k, hk, l, hl, hn⟩
        exact ⟨l, ⟨k, hk, hl⟩, hn⟩
      · rintro ⟨l, ⟨k, hk, hl⟩, hn⟩
        exact ⟨k, hk, l, hl, hn⟩

theorem chain_one_iff {r : Nat → Nat → Prop} {i j : Nat} : Chain r 1 i j ↔ r i j := by
  simp [Chain]

/-- Places that are closed under the relation are not left. -/
theorem Chain.mem_of_closed {r : Nat → Nat → Prop} {places : List Nat}
    (hclosed : ∀ i ∈ places, ∀ j, r i j → j ∈ places) {n i j : Nat} (h : Chain r n i j)
    (hi : i ∈ places) : j ∈ places := by
  induction n generalizing i with
  | zero => exact (show i = j from h) ▸ hi
  | succ n ih =>
      obtain ⟨k, hk, hn⟩ := h
      exact ih hn (hclosed i hi k hk)

/-! ### Steps of sets of places -/

/-- The step takes the places up to `size` to those that the relation leads to. -/
structure StepsBy (step : List Nat → List Nat) (r : Nat → Nat → Prop) (size : Nat) : Prop where
  mem_iff : ∀ places : List Nat, (∀ i ∈ places, i ≤ size) →
    ∀ j, j ∈ step places ↔ ∃ i ∈ places, r i j
  le : ∀ i j, r i j → j ≤ size

namespace StepsBy

variable {step : List Nat → List Nat} {r : Nat → Nat → Prop} {size : Nat}

theorem le_of_mem (h : StepsBy step r size) {places : List Nat} (hle : ∀ i ∈ places, i ≤ size) :
    ∀ j ∈ step places, j ≤ size := by
  intro j hj
  obtain ⟨i, -, hij⟩ := (h.mem_iff places hle j).1 hj
  exact h.le i j hij

/-- Places that one step does not change are not changed by more steps. -/
theorem mem_iff_of_fixed (h : StepsBy step r size) {places : List Nat}
    (hle : ∀ i ∈ places, i ≤ size) (hfixed : step places = places) (n j : Nat) :
    j ∈ places ↔ ∃ i ∈ places, Chain r n i j := by
  induction n with
  | zero => simp [Chain]
  | succ n ih =>
      rw [ih]
      constructor
      · rintro ⟨k, hk, hn⟩
        rw [← hfixed] at hk
        obtain ⟨i, hi, hik⟩ := (h.mem_iff places hle k).1 hk
        exact ⟨i, hi, k, hik, hn⟩
      · rintro ⟨i, hi, k, hik, hn⟩
        have hk := (h.mem_iff places hle k).2 ⟨i, hi, hik⟩
        rw [hfixed] at hk
        exact ⟨k, hk, hn⟩

/-- A number of steps leads to the places at the ends of chains of this length. -/
theorem mem_iterate (h : StepsBy step r size) {places : List Nat} (hle : ∀ i ∈ places, i ≤ size)
    (n j : Nat) : j ∈ iterate step n places ↔ ∃ i ∈ places, Chain r n i j := by
  induction n generalizing places with
  | zero => simp [iterate, Chain]
  | succ n ih =>
      rw [iterate]
      by_cases hempty : places.isEmpty = true
      · rw [if_pos hempty, List.isEmpty_iff.1 hempty]
        simp
      · rw [if_neg hempty]
        by_cases hfixed : step places = places
        · simp only [hfixed, beq_self_eq_true, if_true]
          exact h.mem_iff_of_fixed hle hfixed (n + 1) j
        · simp only [beq_iff_eq, hfixed, if_false]
          rw [ih (h.le_of_mem hle)]
          constructor
          · rintro ⟨k, hk, hn⟩
            obtain ⟨i, hi, hik⟩ := (h.mem_iff places hle k).1 hk
            exact ⟨i, hi, k, hik, hn⟩
          · rintro ⟨i, hi, k, hik, hn⟩
            exact ⟨k, (h.mem_iff places hle k).2 ⟨i, hi, hik⟩, hn⟩

theorem iterate_le (h : StepsBy step r size) {places : List Nat} (hle : ∀ i ∈ places, i ≤ size)
    (n : Nat) : ∀ j ∈ iterate step n places, j ≤ size := by
  intro j hj
  obtain ⟨i, hi, hij⟩ := (h.mem_iterate hle n j).1 hj
  cases n with
  | zero => exact (show i = j from hij) ▸ hle i hi
  | succ n =>
      obtain ⟨k, -, hk⟩ := chain_add_iff.1 hij
      exact h.le k j (chain_one_iff.1 hk)

end StepsBy

/-! ### The closure under a step -/

/-- What holds of the places that were found (`seen`) and of those that the last round added
(`fresh`): where a place leads to was found, or a fresh place leads there as well. -/
structure Frontier (r : Nat → Nat → Prop) (size : Nat) (seen fresh : List Nat) : Prop where
  fresh_mem : ∀ i ∈ fresh, i ∈ seen
  le : ∀ i ∈ seen, i ≤ size
  found : ∀ i ∈ seen, ∀ j, r i j → j ∈ seen ∨ ∃ f ∈ fresh, r f j

namespace Frontier

variable {step : List Nat → List Nat} {r : Nat → Nat → Prop} {size : Nat} {seen fresh : List Nat}

theorem self {places : List Nat} (hle : ∀ i ∈ places, i ≤ size) : Frontier r size places places :=
  ⟨fun _ hi => hi, hle, fun i hi _ hij => .inr ⟨i, hi, hij⟩⟩

/-- The places that are new in a round. -/
theorem mem_new_iff (h : Frontier r size seen fresh) (hstep : StepsBy step r size) {j : Nat} :
    j ∈ (step fresh).filter (fun i => !seen.contains i) ↔ (∃ f ∈ fresh, r f j) ∧ j ∉ seen := by
  rw [List.mem_filter, hstep.mem_iff fresh (fun i hi => h.le i (h.fresh_mem i hi)),
    Bool.not_eq_true', List.contains_eq_mem, decide_eq_false_iff_not]

/-- Without a new place, the places that were found are closed. -/
theorem closed_of_new_eq_nil (h : Frontier r size seen fresh) (hstep : StepsBy step r size)
    (hnew : (step fresh).filter (fun i => !seen.contains i) = []) :
    ∀ i ∈ seen, ∀ j, r i j → j ∈ seen := by
  intro i hi j hij
  by_contra hj
  have hmem := (h.mem_new_iff hstep).2 ⟨(h.found i hi j hij).resolve_left hj, hj⟩
  rw [hnew] at hmem
  cases hmem

/-- A round keeps the invariant. -/
theorem next (h : Frontier r size seen fresh) (hstep : StepsBy step r size) :
    Frontier r size (merge seen ((step fresh).filter fun i => !seen.contains i))
      ((step fresh).filter fun i => !seen.contains i) where
  fresh_mem i hi := mem_merge.2 (.inr hi)
  le i hi := by
    rcases mem_merge.1 hi with hi | hi
    · exact h.le i hi
    · obtain ⟨⟨f, -, hf⟩, -⟩ := (h.mem_new_iff hstep).1 hi
      exact hstep.le f i hf
  found i hi j hij := by
    rcases mem_merge.1 hi with hi | hi
    · by_cases hj : j ∈ seen
      · exact .inl (mem_merge.2 (.inl hj))
      · exact .inl (mem_merge.2 (.inr ((h.mem_new_iff hstep).2
          ⟨(h.found i hi j hij).resolve_left hj, hj⟩)))
    · exact .inr ⟨i, hi, hij⟩

/-- **After a number of rounds**, the places are found to which a chain leads that is no longer than
the rounds that were made. -/
theorem mem_closure_iff (h : Frontier r size seen fresh) (hstep : StepsBy step r size)
    {start : List Nat} {d : Nat}
    (hseen : ∀ j, j ∈ seen ↔ ∃ k ≤ d, ∃ i ∈ start, Chain r k i j) (rounds j : Nat) :
    j ∈ closure step rounds seen fresh ↔ ∃ k ≤ d + rounds, ∃ i ∈ start, Chain r k i j := by
  induction rounds generalizing seen fresh d with
  | zero => exact hseen j
  | succ rounds ih =>
      rw [closure]
      by_cases hnew : (step fresh).filter (fun i => !seen.contains i) = []
      · rw [if_pos (List.isEmpty_iff.2 hnew)]
        constructor
        · intro hj
          obtain ⟨k, hk, hchain⟩ := (hseen j).1 hj
          exact ⟨k, by omega, hchain⟩
        · rintro ⟨k, -, i, hi, hchain⟩
          have hstart : i ∈ seen := (hseen i).2 ⟨0, Nat.zero_le d, i, hi, rfl⟩
          exact hchain.mem_of_closed (h.closed_of_new_eq_nil hstep hnew) hstart
      · have hnext : ∀ j, j ∈ merge seen ((step fresh).filter fun i => !seen.contains i) ↔
            ∃ k ≤ d + 1, ∃ i ∈ start, Chain r k i j := by
          intro j
          rw [mem_merge, h.mem_new_iff hstep]
          constructor
          · rintro (hj | ⟨⟨f, hf, hfj⟩, -⟩)
            · obtain ⟨k, hk, hchain⟩ := (hseen j).1 hj
              exact ⟨k, by omega, hchain⟩
            · obtain ⟨k, hk, i, hi, hchain⟩ := (hseen f).1 (h.fresh_mem f hf)
              exact ⟨k + 1, by omega, i, hi, chain_add_iff.2 ⟨f, hchain, chain_one_iff.2 hfj⟩⟩
          · rintro ⟨k, hk, i, hi, hchain⟩
            by_cases hj : j ∈ seen
            · exact .inl hj
            · refine .inr ⟨?_, hj⟩
              cases k with
              | zero => exact absurd ((hseen j).2 ⟨0, Nat.zero_le d, i, hi, hchain⟩) hj
              | succ k =>
                  obtain ⟨m, hm, hmj⟩ := chain_add_iff.1 hchain
                  have hmem : m ∈ seen := (hseen m).2 ⟨k, by omega, i, hi, hm⟩
                  exact (h.found m hmem j (chain_one_iff.1 hmj)).resolve_left hj
        rw [if_neg fun he => hnew (List.isEmpty_iff.1 he), ih (h.next hstep) hnext,
          Nat.add_right_comm]
        rfl

/-- As many rounds as places are missing find all of them, so what was found then is closed. -/
theorem closed_closure (h : Frontier r size seen fresh) (hstep : StepsBy step r size) {rounds : Nat}
    (hrounds : (Finset.range (size + 1) \ seen.toFinset).card ≤ rounds) :
    ∀ i ∈ closure step rounds seen fresh, ∀ j, r i j → j ∈ closure step rounds seen fresh := by
  induction rounds generalizing seen fresh with
  | zero =>
      have hall := Finset.sdiff_eq_empty_iff_subset.1
        (Finset.card_eq_zero.1 (Nat.le_zero.1 hrounds))
      intro i _ j hij
      have hj := hall (Finset.mem_range.2 (Nat.lt_succ_of_le (hstep.le i j hij)))
      simpa [closure] using hj
  | succ rounds ih =>
      rw [closure]
      by_cases hnew : (step fresh).filter (fun i => !seen.contains i) = []
      · rw [if_pos (List.isEmpty_iff.2 hnew)]
        exact h.closed_of_new_eq_nil hstep hnew
      · rw [if_neg fun he => hnew (List.isEmpty_iff.1 he)]
        refine ih (h.next hstep) (Nat.le_of_lt_succ (lt_of_lt_of_le ?_ hrounds))
        -- a new place is missing no longer
        obtain ⟨j, hj⟩ := List.exists_mem_of_ne_nil _ hnew
        have hle := (h.next hstep).le j (mem_merge.2 (.inr hj))
        have hj' := ((h.mem_new_iff hstep).1 hj).2
        refine Finset.card_lt_card (Finset.ssubset_iff_of_subset ?_ |>.2 ⟨j, ?_, ?_⟩)
        · intro i hi
          simp only [Finset.mem_sdiff, Finset.mem_range, List.mem_toFinset, mem_merge,
            not_or] at hi ⊢
          exact ⟨hi.1, hi.2.1⟩
        · simp only [Finset.mem_sdiff, Finset.mem_range, List.mem_toFinset]
          exact ⟨by omega, hj'⟩
        · simp only [Finset.mem_sdiff, List.mem_toFinset, mem_merge, not_and, not_not]
          exact fun _ => .inr hj

end Frontier

/-- A bounded repetition of a step. -/
theorem StepsBy.mem_closure_self_iff {step : List Nat → List Nat} {r : Nat → Nat → Prop}
    {size : Nat} (h : StepsBy step r size) {places : List Nat} (hle : ∀ i ∈ places, i ≤ size)
    (rounds j : Nat) :
    j ∈ closure step rounds places places ↔ ∃ k ≤ rounds, ∃ i ∈ places, Chain r k i j := by
  have hseen : ∀ j, j ∈ places ↔ ∃ k ≤ 0, ∃ i ∈ places, Chain r k i j := by simp [Chain]
  rw [(Frontier.self hle).mem_closure_iff h hseen, Nat.zero_add]

/-- An unbounded repetition of a step: one round for each place is enough. -/
theorem StepsBy.mem_closure_unbounded_iff {step : List Nat → List Nat} {r : Nat → Nat → Prop}
    {size : Nat} (h : StepsBy step r size) {places : List Nat} (hle : ∀ i ∈ places, i ≤ size)
    (j : Nat) :
    j ∈ closure step (size + 1) places places ↔ ∃ k, ∃ i ∈ places, Chain r k i j := by
  constructor
  · intro hj
    obtain ⟨k, -, hchain⟩ := (h.mem_closure_self_iff hle (size + 1) j).1 hj
    exact ⟨k, hchain⟩
  · rintro ⟨k, i, hi, hchain⟩
    have hrounds : (Finset.range (size + 1) \ places.toFinset).card ≤ size + 1 :=
      (Finset.card_le_card Finset.sdiff_subset).trans (Finset.card_range (size + 1)).le
    exact hchain.mem_of_closed ((Frontier.self hle).closed_closure h hrounds)
      ((h.mem_closure_self_iff hle (size + 1) i).2 ⟨0, Nat.zero_le _, i, hi, rfl⟩)

/-- A number of steps that is at least the least one: this one first, and then some more. -/
theorem StepsBy.chain_iterate_iff {step : List Nat → List Nat} {r : Nat → Nat → Prop}
    {size : Nat} (h : StepsBy step r size) {places : List Nat} (hle : ∀ i ∈ places, i ≤ size)
    (least j : Nat) (more : Nat → Prop) :
    (∃ k, more k ∧ ∃ i ∈ iterate step least places, Chain r k i j) ↔
      ∃ i ∈ places, ∃ n, least ≤ n ∧ more (n - least) ∧ Chain r n i j := by
  constructor
  · rintro ⟨k, hk, l, hl, hchain⟩
    obtain ⟨i, hi, hstart⟩ := (h.mem_iterate hle least l).1 hl
    exact ⟨i, hi, least + k, Nat.le_add_right least k,
      by rwa [Nat.add_sub_cancel_left], chain_add_iff.2 ⟨l, hstart, hchain⟩⟩
  · rintro ⟨i, hi, n, hn, hmore, hchain⟩
    rw [← Nat.add_sub_cancel' hn] at hchain
    obtain ⟨l, hstart, hrest⟩ := chain_add_iff.1 hchain
    exact ⟨n - least, hmore, l, (h.mem_iterate hle least l).2 ⟨i, hi, hstart⟩, hrest⟩

/-! ### Matches between two places of a text -/

/-- `Spans cs e i j` : in the text `cs` the expression matches what stands between the places `i`
and `j`. -/
def Spans (cs : List Char) (e : Regex) (i j : Nat) : Prop :=
  ∃ before part after, cs = before ++ part ++ after ∧ before.length = i ∧
    (before ++ part).length = j ∧ Matches e before part after

variable {cs : List Char} {a b e : Regex} {i j : Nat}

theorem Spans.le (h : Spans cs e i j) : j ≤ cs.length := by
  obtain ⟨before, part, after, rfl, -, rfl, -⟩ := h
  simp

theorem spans_empty_iff : Spans cs .empty i j ↔ i = j ∧ i ≤ cs.length := by
  constructor
  · rintro ⟨before, part, after, rfl, rfl, rfl, h⟩
    cases h
    simp
  · rintro ⟨rfl, hi⟩
    refine ⟨cs.take i, [], cs.drop i, by simp, by simpa using hi, by simpa using hi, .empty⟩

theorem spans_chars_iff {set : CharSet} :
    Spans cs (.chars set) i j ↔ ∃ c, cs[i]? = some c ∧ set.contains c = true ∧ j = i + 1 := by
  constructor
  · rintro ⟨before, part, after, rfl, rfl, rfl, h⟩
    cases h with
    | chars hc => exact ⟨_, by simp, hc, by simp⟩
  · rintro ⟨c, hc, hset, rfl⟩
    obtain ⟨hi, hget⟩ := List.getElem?_eq_some_iff.1 hc
    refine ⟨cs.take i, [c], cs.drop (i + 1), ?_, ?_, ?_, .chars hset⟩
    · rw [List.append_assoc, List.singleton_append, ← hget, List.getElem_cons_drop,
        List.take_append_drop]
    · rw [List.length_take, Nat.min_eq_left hi.le]
    · rw [List.length_append, List.length_take, Nat.min_eq_left hi.le]
      rfl

theorem spans_look_iff {condition : Look} :
    Spans cs (.look condition) i j ↔ i = j ∧ i ≤ cs.length ∧
      condition.holds (charBefore? cs.toArray i) cs[i]? = true := by
  have hbefore : ∀ before after : List Char,
      charBefore? (before ++ after).toArray before.length = before.getLast? := by
    intro before after
    rw [charBefore?, List.getLast?_eq_getElem?]
    cases before with
    | nil => rfl
    | cons c before =>
        rw [if_neg (by simp), List.getElem?_toArray, List.getElem?_append_left (by simp)]
  constructor
  · rintro ⟨before, part, after, rfl, rfl, rfl, h⟩
    cases h with
    | look hholds =>
        rw [List.append_nil, hbefore, List.getElem?_append_right le_rfl, Nat.sub_self,
          ← List.head?_eq_getElem?]
        exact ⟨rfl, by simp, hholds⟩
  · rintro ⟨rfl, hi, hholds⟩
    have hlength : (cs.take i).length = i := by rw [List.length_take, Nat.min_eq_left hi]
    refine ⟨cs.take i, [], cs.drop i, by simp, hlength, by rwa [List.append_nil], .look ?_⟩
    have hlast := hbefore (cs.take i) (cs.drop i)
    rw [List.take_append_drop, hlength] at hlast
    rwa [← hlast, List.head?_drop]

theorem spans_seq_iff : Spans cs (.seq a b) i j ↔ ∃ k, Spans cs a i k ∧ Spans cs b k j := by
  constructor
  · rintro ⟨before, part, after, rfl, rfl, rfl, h⟩
    cases h with
    | @seq _ _ _ s t _ hs ht =>
        exact ⟨(before ++ s).length, ⟨before, s, t ++ after, by simp, rfl, rfl, hs⟩,
          ⟨before ++ s, t, after, by simp, rfl, by simp, ht⟩⟩
  · rintro ⟨k, ⟨before, s, rest, rfl, rfl, rfl, hs⟩, ⟨before', t, after, heq, hk, rfl, ht⟩⟩
    obtain ⟨rfl, rfl⟩ := List.append_inj (heq.trans (List.append_assoc _ _ _)) hk.symm
    exact ⟨before, s ++ t, after, by simp, rfl, by simp, .seq hs ht⟩

theorem spans_alt_iff : Spans cs (.alt a b) i j ↔ Spans cs a i j ∨ Spans cs b i j := by
  constructor
  · rintro ⟨before, part, after, rfl, rfl, rfl, h⟩
    cases h with
    | altLeft h => exact .inl ⟨before, part, after, rfl, rfl, rfl, h⟩
    | altRight h => exact .inr ⟨before, part, after, rfl, rfl, rfl, h⟩
  · rintro (⟨before, part, after, rfl, rfl, rfl, h⟩ | ⟨before, part, after, rfl, rfl, rfl, h⟩)
    · exact ⟨before, part, after, rfl, rfl, rfl, .altLeft h⟩
    · exact ⟨before, part, after, rfl, rfl, rfl, .altRight h⟩

/-- A number of matches, one behind the other, is a chain of them. -/
theorem matchesTimes_iff_chain {n : Nat} :
    (∃ before part after, cs = before ++ part ++ after ∧ before.length = i ∧
      (before ++ part).length = j ∧ MatchesTimes e n before part after) ↔
        i ≤ cs.length ∧ Chain (Spans cs e) n i j := by
  induction n generalizing i with
  | zero =>
      constructor
      · rintro ⟨before, part, after, rfl, rfl, rfl, h⟩
        cases h
        simp [Chain]
      · rintro ⟨hi, hij⟩
        obtain rfl : i = j := hij
        exact ⟨cs.take i, [], cs.drop i, by simp, by simpa using hi, by simpa using hi, .none⟩
  | succ n ih =>
      constructor
      · rintro ⟨before, part, after, rfl, rfl, rfl, h⟩
        cases h with
        | @next _ _ _ s t _ hs ht =>
            refine ⟨by simp, (before ++ s).length, ?_, ?_⟩
            · exact ⟨before, s, t ++ after, by simp, rfl, rfl, hs⟩
            · exact (ih.1 ⟨before ++ s, t, after, by simp, rfl, by simp, ht⟩).2
      · rintro ⟨-, k, hk, hchain⟩
        obtain ⟨before', t, after, heq, hlength, rfl, ht⟩ := ih.2 ⟨hk.le, hchain⟩
        obtain ⟨before, s, rest, rfl, rfl, rfl, hs⟩ := hk
        obtain ⟨rfl, rfl⟩ := List.append_inj (heq.trans (List.append_assoc _ _ _)) hlength.symm
        exact ⟨before, s ++ t, after, by simp, rfl, by simp, .next hs ht⟩

theorem spans_rep_iff {least : Nat} {most : Option Nat} :
    Spans cs (.rep e least most) i j ↔ i ≤ cs.length ∧
      ∃ n, least ≤ n ∧ (∀ m, most = some m → n ≤ m) ∧ Chain (Spans cs e) n i j := by
  constructor
  · rintro ⟨before, part, after, rfl, rfl, rfl, h⟩
    cases h with
    | rep hleast hmost h =>
        obtain ⟨hi, hchain⟩ := matchesTimes_iff_chain.1 ⟨before, part, after, rfl, rfl, rfl, h⟩
        exact ⟨hi, _, hleast, hmost, hchain⟩
  · rintro ⟨hi, n, hleast, hmost, hchain⟩
    obtain ⟨before, part, after, rfl, rfl, rfl, h⟩ := matchesTimes_iff_chain.2 ⟨hi, hchain⟩
    exact ⟨before, part, after, rfl, rfl, rfl, .rep hleast hmost h⟩

/-! ### The search -/

/-- No repetition asks for more copies than it allows. -/
def IsOrdered : Regex → Prop
  | .empty => True
  | .chars _ => True
  | .look _ => True
  | .seq a b => a.IsOrdered ∧ b.IsOrdered
  | .alt a b => a.IsOrdered ∧ b.IsOrdered
  | .rep e least most => e.IsOrdered ∧ ∀ m, most = some m → least ≤ m

/-- The places behind a repetition, if those behind its expression are known. -/
theorem mem_ends_rep_iff (h : StepsBy (ends cs.toArray e) (Spans cs e) cs.length) {least : Nat}
    {most : Option Nat} (hmost : ∀ m, most = some m → least ≤ m) {places : List Nat}
    (hle : ∀ i ∈ places, i ≤ cs.length) (j : Nat) :
    j ∈ ends cs.toArray (.rep e least most) places ↔
      ∃ i ∈ places, Spans cs (.rep e least most) i j := by
  have hiterate := h.iterate_le hle least
  simp only [spans_rep_iff]
  cases most with
  | none =>
      rw [ends, List.size_toArray, h.mem_closure_unbounded_iff hiterate]
      have hcopies := h.chain_iterate_iff hle least j fun _ => True
      simp only [true_and] at hcopies
      rw [hcopies]
      constructor
      · rintro ⟨i, hi, n, hn, hchain⟩
        exact ⟨i, hi, hle i hi, n, hn, by simp, hchain⟩
      · rintro ⟨i, hi, -, n, hn, -, hchain⟩
        exact ⟨i, hi, n, hn, hchain⟩
  | some m =>
      have hbound : ∀ n, least ≤ n → (n - least ≤ m - least ↔ n ≤ m) := by
        intro n hn
        have := hmost m rfl
        omega
      rw [ends, h.mem_closure_self_iff hiterate, h.chain_iterate_iff hle least j (· ≤ m - least)]
      constructor
      · rintro ⟨i, hi, n, hn, hmore, hchain⟩
        have hnm := (hbound n hn).1 hmore
        exact ⟨i, hi, hle i hi, n, hn, fun _ hm => Option.some.inj hm ▸ hnm, hchain⟩
      · rintro ⟨i, hi, -, n, hn, hnm, hchain⟩
        exact ⟨i, hi, n, hn, (hbound n hn).2 (hnm m rfl), hchain⟩

/-- **The places that a search reaches** from some places of a text are those to which a match leads
that starts at one of them. -/
theorem mem_ends_iff (h : e.IsOrdered) {places : List Nat} (hle : ∀ i ∈ places, i ≤ cs.length)
    (j : Nat) : j ∈ ends cs.toArray e places ↔ ∃ i ∈ places, Spans cs e i j := by
  induction e generalizing places j with
  | empty =>
      simp only [ends, spans_empty_iff]
      exact ⟨fun hj => ⟨j, hj, rfl, hle j hj⟩, fun ⟨i, hi, hij, _⟩ => hij ▸ hi⟩
  | chars set =>
      simp only [ends, spans_chars_iff, List.mem_filterMap, List.getElem?_toArray]
      constructor
      · rintro ⟨i, hi, hj⟩
        cases hc : cs[i]? with
        | none => simp [hc] at hj
        | some c =>
            simp only [hc, Option.ite_none_right_eq_some, Option.some.injEq] at hj
            exact ⟨i, hi, c, hc, hj.1, hj.2.symm⟩
      · rintro ⟨i, hi, c, hc, hset, rfl⟩
        exact ⟨i, hi, by simp [hc, hset]⟩
  | look condition =>
      simp only [ends, spans_look_iff, List.mem_filter]
      constructor
      · rintro ⟨hj, hholds⟩
        exact ⟨j, hj, rfl, hle j hj, by simpa using hholds⟩
      · rintro ⟨i, hi, rfl, -, hholds⟩
        exact ⟨hi, by simpa using hholds⟩
  | seq a b iha ihb =>
      have hstart : ∀ k ∈ ends cs.toArray a places, k ≤ cs.length := by
        intro k hk
        obtain ⟨i, -, hspans⟩ := (iha h.1 hle k).1 hk
        exact hspans.le
      simp only [ends, spans_seq_iff]
      rw [ihb h.2 hstart]
      constructor
      · rintro ⟨k, hk, hkj⟩
        obtain ⟨i, hi, hik⟩ := (iha h.1 hle k).1 hk
        exact ⟨i, hi, k, hik, hkj⟩
      · rintro ⟨i, hi, k, hik, hkj⟩
        exact ⟨k, (iha h.1 hle k).2 ⟨i, hi, hik⟩, hkj⟩
  | alt a b iha ihb =>
      simp only [ends, spans_alt_iff, mem_merge]
      rw [iha h.1 hle, ihb h.2 hle]
      constructor
      · rintro (⟨i, hi, hij⟩ | ⟨i, hi, hij⟩)
        · exact ⟨i, hi, .inl hij⟩
        · exact ⟨i, hi, .inr hij⟩
      · rintro ⟨i, hi, hij | hij⟩
        · exact .inl ⟨i, hi, hij⟩
        · exact .inr ⟨i, hi, hij⟩
  | rep e least most ih =>
      have hstep : StepsBy (ends cs.toArray e) (Spans cs e) cs.length :=
        ⟨fun places hle j => ih h.1 hle j, fun i j hij => hij.le⟩
      exact mem_ends_rep_iff hstep h.2 hle j

/-- **A search succeeds exactly if** the expression matches some part of the text. -/
theorem isMatch_iff (h : e.IsOrdered) (text : String) :
    e.isMatch text = true ↔ e.MatchesWithin text.toList := by
  have hle : ∀ i ∈ List.range (text.toList.length + 1), i ≤ text.toList.length := by
    intro i hi
    exact Nat.le_of_lt_succ (List.mem_range.1 hi)
  rw [isMatch, Bool.not_eq_true', List.isEmpty_eq_false_iff_exists_mem, List.size_toArray]
  constructor
  · rintro ⟨j, hj⟩
    obtain ⟨i, -, before, part, after, heq, -, -, hmatch⟩ := (mem_ends_iff h hle j).1 hj
    exact ⟨before, part, after, heq, hmatch⟩
  · rintro ⟨before, part, after, heq, hmatch⟩
    refine ⟨(before ++ part).length, (mem_ends_iff h hle _).2
      ⟨before.length, List.mem_range.2 ?_, before, part, after, heq, rfl, rfl, hmatch⟩⟩
    rw [heq, List.append_assoc, List.length_append]
    omega

end Switchyard.Regex
