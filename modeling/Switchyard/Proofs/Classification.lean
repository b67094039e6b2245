import Mathlib.Data.Finset.Card
import Mathlib.Data.Finset.Insert
import Mathlib.Data.List.Induction
import Switchyard.Router.Classifier

/-!
# Classification by the History of Registrations

A classifier keeps one rule for each kind that was registered, in the place of its first
registration and with the status of its last one, and one rule for each predicate. This module says
what the status of a failure is by the history alone: which entry of it decides on an error
(`Classifier.Decides`), and which error of a failure is decided on (`Classifier.Classified`).

The rules are not compared with the history as a whole. What counts is the first rule that accepts
an error, and this is the first entry of the history that accepts it, with what later entries make
of it (`find?_rules_ofHistory`). Entries that accept no error of a failure are not found and make
nothing of those that do, and so they do not matter to its status (`classify_congr`).

## Main results

* `Classifier.ruled?_eq_some_iff`: the entry that decides on an error.
* `Classifier.classify_eq_iff`: the status of a failure.
* `Classifier.length_rules_ofHistory`: the number of rules.
* `Classifier.classify_by_history`: what a history says about failures.
-/

namespace Switchyard

open Web (Status)

/-! ### Rules -/

namespace Rule

/-- The kind that a rule is for, if it is for one. -/
def kind? : Rule → Option CauseKind
  | kind k _ => some k
  | _ => none

/-- What becomes of a rule when another one is registered: if both are for one kind, the later one
takes its place. -/
def replacedBy (r later : Rule) : Rule :=
  if later.kind?.isSome ∧ r.kind? = later.kind? then later else r

/-- What becomes of a rule in a history. -/
def settled (history : List Rule) (r : Rule) : Rule :=
  history.foldl replacedBy r

theorem accepts_kind_iff {k : CauseKind} {s : Status} {e : Failure} :
    (Rule.kind k s).accepts e = true ↔ e.cause.kind = k :=
  beq_iff_eq

theorem accepts_kind_of_ne {k : CauseKind} {e : Failure} (h : e.cause.kind ≠ k) (s : Status) :
    (Rule.kind k s).accepts e = false :=
  beq_eq_false_iff_ne.2 h

/-- Rules for one kind accept the same errors. -/
theorem accepts_eq_of_kind?_eq {q r : Rule} (hkind : q.kind?.isSome) (h : r.kind? = q.kind?) :
    r.accepts = q.accepts := by
  cases q with
  | accepting p s => cases hkind
  | kind k s =>
      cases r with
      | accepting p t => cases h
      | kind l t =>
          obtain rfl : l = k := Option.some.inj h
          rfl

theorem replacedBy_accepting (r : Rule) (p : Failure → Bool) (s : Status) :
    r.replacedBy (.accepting p s) = r :=
  if_neg fun h => by simp [kind?] at h

theorem accepting_replacedBy (p : Failure → Bool) (s : Status) (later : Rule) :
    (Rule.accepting p s).replacedBy later = .accepting p s := by
  refine if_neg fun h => ?_
  rw [← h.2] at h
  simp [kind?] at h

theorem kind_replacedBy_kind (k l : CauseKind) (s t : Status) :
    (Rule.kind l t).replacedBy (.kind k s) = if l = k then .kind k s else .kind l t := by
  simp [replacedBy, kind?]

theorem settled_concat (history : List Rule) (q r : Rule) :
    settled (history ++ [q]) r = (settled history r).replacedBy q :=
  List.foldl_concat ..

/-- A rule for a kind stays one for this kind. -/
theorem exists_settled_kind (history : List Rule) (k : CauseKind) (t : Status) :
    ∃ s, settled history (.kind k t) = .kind k s := by
  induction history using List.reverseRecOn with
  | nil => exact ⟨t, rfl⟩
  | append_singleton history q ih =>
      obtain ⟨s, hs⟩ := ih
      rw [settled_concat, hs]
      cases q with
      | kind l u =>
          rw [kind_replacedBy_kind]
          split
          · next hkl => exact ⟨u, by rw [hkl]⟩
          · exact ⟨s, rfl⟩
      | accepting p u => exact ⟨s, replacedBy_accepting _ p u⟩

theorem settled_accepting (history : List Rule) (p : Failure → Bool) (s : Status) :
    settled history (.accepting p s) = .accepting p s := by
  induction history using List.reverseRecOn with
  | nil => rfl
  | append_singleton history q ih => rw [settled_concat, ih, accepting_replacedBy]

/-- A rule for a kind is left alone where the kind is not registered. -/
theorem settled_kind_of_not_mem {history : List Rule} {k : CauseKind} (s : Status)
    (h : ∀ u, Rule.kind k u ∉ history) : settled history (.kind k s) = .kind k s := by
  induction history using List.reverseRecOn with
  | nil => rfl
  | append_singleton history q ih =>
      have hrest : ∀ u, Rule.kind k u ∉ history := fun u hmem =>
        h u (List.mem_append_left _ hmem)
      rw [settled_concat, ih hrest]
      cases q with
      | kind l u =>
          have hne : k ≠ l := by
            rintro rfl
            exact h u (List.mem_append_right _ (List.mem_singleton_self _))
          rw [kind_replacedBy_kind, if_neg hne]
      | accepting p u => exact replacedBy_accepting _ p u

end Rule

namespace Classifier

/-! ### What a history says -/

/-- The status of an entry of a history. A kind has the one that was registered last. -/
inductive StatusOf (history : List Rule) : Rule → Status → Prop
  | kind {k : CauseKind} {s t : Status} {earlier later : List Rule} :
      history = earlier ++ .kind k s :: later → (∀ u, Rule.kind k u ∉ later) →
        StatusOf history (.kind k t) s
  | accepting {p : Failure → Bool} {s : Status} : StatusOf history (.accepting p s) s

/-- The first entry that accepts an error decides on it. For a kind this is the place where the kind
was registered first. -/
def Decides (history : List Rule) (e : Failure) (s : Status) : Prop :=
  ∃ earlier r later, history = earlier ++ r :: later ∧ (∀ q ∈ earlier, q.accepts e = false) ∧
    r.accepts e = true ∧ StatusOf history r s

/-- Does an entry of the history accept the error? -/
def Accepted (history : List Rule) (e : Failure) : Prop :=
  ∃ r ∈ history, r.accepts e = true

/-- The statuses that causes have without any rule. -/
inductive OwnStatus : Cause → Status → Prop
  | carried (s : Status) (detail : String) : OwnStatus (.status s detail) s
  | argument (detail : String) : OwnStatus (.invalidArgument detail) .badRequest
  | missing (name : String) : OwnStatus (.missingValue name) .badRequest
  | integer (fault : Number.IntegerFault) : OwnStatus (.integer fault) .badRequest
  | real (fault : Number.Binary64.Fault) : OwnStatus (.real fault) .badRequest
  | boolean : OwnStatus .boolean .badRequest
  | text (fault : Text.Utf8.Fault) (owned : Bool) : OwnStatus (.text fault owned) .badRequest
  | malformed (error : Json.Error) : OwnStatus (.json (.malformed error)) .badRequest
  | keyNotText : OwnStatus (.json .keyNotText) .badRequest
  | resource (detail : String) : OwnStatus (.resourceNotFound detail) .notFound
  | notFound (detail : String) : OwnStatus (.io .notFound detail) .notFound
  | invalidInput (detail : String) : OwnStatus (.io .invalidInput detail) .badRequest
  | invalidData (detail : String) : OwnStatus (.io .invalidData detail) .badRequest

/-- The status of a failure. An outermost cause that carries a status has it. Otherwise the
outermost error that is accepted decides, or else the outermost cause with a status of its own. -/
inductive Classified (history : List Rule) (f : Failure) : Status → Prop
  | carried {s : Status} {detail : String} : f.cause = .status s detail → Classified history f s
  | ruled {s : Status} {outer inner : List Failure} {e : Failure} :
      (∀ t detail, f.cause ≠ .status t detail) → f.errors = outer ++ e :: inner →
        (∀ x ∈ outer, ¬Accepted history x) → Decides history e s → Classified history f s
  | own {s : Status} {outer inner : List Cause} {c : Cause} :
      (∀ t detail, f.cause ≠ .status t detail) → (∀ x ∈ f.errors, ¬Accepted history x) →
        f.chain = outer ++ c :: inner → (∀ x ∈ outer, ∀ t, ¬OwnStatus x t) → OwnStatus c s →
          Classified history f s
  | unknown :
      (∀ x ∈ f.errors, ¬Accepted history x) → (∀ x ∈ f.chain, ∀ t, ¬OwnStatus x t) →
        Classified history f .internalServerError

/-! ### The rules by their history -/

theorem ofHistory_concat (history : List Rule) (q : Rule) :
    ofHistory (history ++ [q]) = (ofHistory history).add q :=
  List.foldl_concat ..

/-- The first rule that accepts an error, with a kind registered: a rule for this kind is replaced,
and if no rule accepts the error, the kind may do so. -/
theorem find?_putKind (k : CauseKind) (s : Status) (e : Failure) (rules : List Rule) :
    (putKind k s rules).find? (·.accepts e) =
      ((rules.find? (·.accepts e)).map (·.replacedBy (.kind k s))).or
        (if e.cause.kind = k then some (.kind k s) else none) := by
  -- a rule that accepts an error of another kind is not replaced
  have hother (found : Option Rule) (h : e.cause.kind ≠ k)
      (hfound : ∀ r ∈ found, r.accepts e = true) :
      found.map (·.replacedBy (.kind k s)) = found := by
    cases found with
    | none => rfl
    | some r =>
        have haccepts := hfound r rfl
        cases r with
        | kind l t =>
            have hne : l ≠ k := Rule.accepts_kind_iff.1 haccepts ▸ h
            rw [Option.map_some, Rule.kind_replacedBy_kind, if_neg hne]
        | accepting p t => rw [Option.map_some, Rule.accepting_replacedBy]
  induction rules with
  | nil =>
      rw [putKind, List.find?_cons, List.find?_nil]
      by_cases hk : e.cause.kind = k
      · rw [Rule.accepts_kind_iff.2 hk, if_pos hk]
        rfl
      · rw [Rule.accepts_kind_of_ne hk, if_neg hk]
        rfl
  | cons r rules ih =>
      cases r with
      | accepting p t =>
          rw [putKind, List.find?_cons, List.find?_cons, ih]
          cases hp : (Rule.accepting p t).accepts e with
          | true => rw [Option.map_some, Rule.accepting_replacedBy, Option.some_or]
          | false => rfl
      | kind l t =>
          rw [putKind]
          by_cases hl : l = k
          · subst hl
            rw [if_pos rfl, List.find?_cons, List.find?_cons]
            by_cases hk : e.cause.kind = l
            · rw [Rule.accepts_kind_iff.2 hk, Rule.accepts_kind_iff.2 hk, Option.map_some,
                Rule.kind_replacedBy_kind, if_pos rfl, Option.some_or]
            · have hfound : ∀ r ∈ rules.find? (·.accepts e), r.accepts e = true :=
                fun r hr => (List.find?_eq_some_iff_append.1 hr).1
              rw [Rule.accepts_kind_of_ne hk, Rule.accepts_kind_of_ne hk, if_neg hk, Option.or_none]
              exact (hother _ hk hfound).symm
          · rw [if_neg hl, List.find?_cons, List.find?_cons, ih]
            cases hacc : (Rule.kind l t).accepts e with
            | true =>
                rw [Option.map_some, Rule.kind_replacedBy_kind, if_neg hl, Option.some_or]
            | false => rfl

/-- **The first rule that accepts an error** is the first entry of the history that does, as later
entries have left it. -/
theorem find?_rules_ofHistory (history : List Rule) (e : Failure) :
    (ofHistory history).rules.find? (·.accepts e) =
      (history.find? (·.accepts e)).map (Rule.settled history) := by
  induction history using List.reverseRecOn with
  | nil => rfl
  | append_singleton history q ih =>
      have hsettled (found : Option Rule) : found.map (Rule.settled (history ++ [q])) =
          (found.map (Rule.settled history)).map (·.replacedBy q) := by
        rw [Option.map_map]
        exact congrArg (found.map ·) (funext (Rule.settled_concat history q))
      rw [ofHistory_concat, List.find?_append, Option.map_or, hsettled, ← ih]
      cases q with
      | kind k s =>
          rw [add, register, find?_putKind, List.find?_cons, List.find?_nil]
          obtain ⟨t, ht⟩ := Rule.exists_settled_kind history k s
          by_cases hk : e.cause.kind = k
          · rw [if_pos hk, Rule.accepts_kind_iff.2 hk, Option.map_some, Rule.settled_concat, ht,
              Rule.kind_replacedBy_kind, if_pos rfl]
          · rw [if_neg hk, Rule.accepts_kind_of_ne hk, Option.map_none]
      | accepting p s =>
          have hid (found : Option Rule) :
              found.map (·.replacedBy (.accepting p s)) = found := by
            simp only [Rule.replacedBy_accepting, Option.map_id_fun', id_eq]
          rw [add, registerRule, List.find?_append, hid, List.find?_cons, List.find?_nil]
          cases (Rule.accepting p s).accepts e with
          | true => rw [Option.map_some, Rule.settled_accepting]
          | false => rfl

/-- A kind that was registered was registered a last time. -/
theorem exists_last_kind {history : List Rule} {k : CauseKind} {t : Status}
    (h : Rule.kind k t ∈ history) :
    ∃ earlier s later, history = earlier ++ .kind k s :: later ∧ ∀ u, Rule.kind k u ∉ later := by
  induction history generalizing t with
  | nil => exact absurd h List.not_mem_nil
  | cons q history ih =>
      by_cases hlater : ∃ u, Rule.kind k u ∈ history
      · obtain ⟨u, hu⟩ := hlater
        obtain ⟨earlier, s, later, rfl, hlast⟩ := ih hu
        exact ⟨q :: earlier, s, later, rfl, hlast⟩
      · have hnone := not_exists.1 hlater
        obtain rfl : Rule.kind k t = q := (List.mem_cons.1 h).resolve_right (hnone t)
        exact ⟨[], t, history, rfl, hnone⟩

/-- The status that later entries leave an entry with. -/
theorem statusOf_iff {history : List Rule} {r : Rule} {s : Status} (h : r ∈ history) :
    StatusOf history r s ↔ (r.settled history).status = s := by
  cases r with
  | accepting p t =>
      rw [Rule.settled_accepting]
      constructor
      · rintro ⟨⟩
        rfl
      · rintro rfl
        exact .accepting
  | kind k t =>
      -- behind the last registration of the kind, nothing replaces the rule
      have hlast {earlier later : List Rule} {u : Status}
          (hhistory : history = earlier ++ .kind k u :: later)
          (hlater : ∀ v, Rule.kind k v ∉ later) :
          (Rule.kind k t).settled history = .kind k u := by
        obtain ⟨v, hv⟩ := Rule.exists_settled_kind earlier k t
        calc (Rule.kind k t).settled history
            = (((Rule.kind k t).settled earlier).replacedBy (.kind k u)).settled later := by
              rw [hhistory]
              exact List.foldl_append ..
          _ = (Rule.kind k u).settled later := by rw [hv, Rule.kind_replacedBy_kind, if_pos rfl]
          _ = .kind k u := Rule.settled_kind_of_not_mem u hlater
      constructor
      · rintro ⟨hhistory, hlater⟩
        rw [hlast hhistory hlater]
        rfl
      · rintro rfl
        obtain ⟨earlier, u, later, hhistory, hlater⟩ := exists_last_kind h
        rw [hlast hhistory hlater]
        exact .kind hhistory hlater

/-- **The entry of the history that decides on an error.** -/
theorem ruled?_eq_some_iff {history : List Rule} {e : Failure} {s : Status} :
    (ofHistory history).ruled? e = some s ↔ Decides history e s := by
  rw [ruled?, find?_rules_ofHistory, Option.map_map, Option.map_eq_some_iff]
  constructor
  · rintro ⟨r, hfind, hstatus⟩
    obtain ⟨haccepts, earlier, later, hhistory, hearlier⟩ := List.find?_eq_some_iff_append.1 hfind
    have hmem : r ∈ history := List.mem_of_find?_eq_some hfind
    exact ⟨earlier, r, later, hhistory, fun q hq => by simpa using hearlier q hq, haccepts,
      (statusOf_iff hmem).2 hstatus⟩
  · rintro ⟨earlier, r, later, hhistory, hearlier, haccepts, hstatus⟩
    have hmem : r ∈ history := hhistory ▸ List.mem_append_right _ List.mem_cons_self
    refine ⟨r, List.find?_eq_some_iff_append.2 ⟨haccepts, earlier, later, hhistory, ?_⟩,
      (statusOf_iff hmem).1 hstatus⟩
    intro q hq
    simp [hearlier q hq]

theorem ruled?_eq_none_iff {history : List Rule} {e : Failure} :
    (ofHistory history).ruled? e = none ↔ ¬Accepted history e := by
  rw [ruled?, find?_rules_ofHistory, Option.map_eq_none_iff, Option.map_eq_none_iff,
    List.find?_eq_none, Accepted]
  simp

/-! ### The status of a failure -/

theorem ownStatus?_eq_some_iff {c : Cause} {s : Status} :
    c.ownStatus? = some s ↔ OwnStatus c s := by
  constructor
  · intro h
    cases c with
    | json fault => cases fault <;> cases h <;> constructor
    | io kind detail => cases kind <;> cases h <;> constructor
    | _ => cases h <;> constructor
  · rintro ⟨⟩ <;> rfl

theorem ownStatus?_eq_none_iff {c : Cause} : c.ownStatus? = none ↔ ∀ s, ¬OwnStatus c s := by
  rw [Option.eq_none_iff_forall_ne_some]
  exact forall_congr' fun s => not_congr ownStatus?_eq_some_iff

/-- Where the outermost cause carries no status, the rules come first and then the causes. -/
theorem classify_of_not_carried (c : Classifier) {f : Failure}
    (h : ∀ t detail, f.cause ≠ .status t detail) :
    c.classify f = (f.errors.findSome? c.ruled?).getD
      ((f.chain.findSome? Cause.ownStatus?).getD .internalServerError) := by
  rw [classify]
  split
  · next s detail hcause => exact absurd hcause (h s detail)
  · cases f.errors.findSome? c.ruled? <;> rfl

theorem Classified.classify_eq {history : List Rule} {f : Failure} {s : Status}
    (h : Classified history f s) : (ofHistory history).classify f = s := by
  have hruled {es : List Failure} (hes : ∀ x ∈ es, ¬Accepted history x) :
      ∀ x ∈ es, (ofHistory history).ruled? x = none := fun x hx => ruled?_eq_none_iff.2 (hes x hx)
  have hown {cs : List Cause} (hcs : ∀ x ∈ cs, ∀ t, ¬OwnStatus x t) :
      ∀ x ∈ cs, x.ownStatus? = none := fun x hx => ownStatus?_eq_none_iff.2 (hcs x hx)
  cases h with
  | carried hcause =>
      obtain ⟨cause, sources⟩ := f
      obtain rfl := hcause
      rfl
  | ruled hplain herrors houter hdecides =>
      have hfound := List.findSome?_eq_some_iff.2
        ⟨_, _, _, herrors, ruled?_eq_some_iff.2 hdecides, hruled houter⟩
      rw [classify_of_not_carried _ hplain, hfound, Option.getD_some]
  | own hplain hnone hchain houter hstatus =>
      have hrules := List.findSome?_eq_none_iff.2 (hruled hnone)
      have hfound := List.findSome?_eq_some_iff.2
        ⟨_, _, _, hchain, ownStatus?_eq_some_iff.2 hstatus, hown houter⟩
      rw [classify_of_not_carried _ hplain, hrules, hfound, Option.getD_none, Option.getD_some]
  | unknown hnone hchain =>
      have hplain : ∀ t detail, f.cause ≠ .status t detail := by
        intro t detail hcause
        exact hchain f.cause List.mem_cons_self t (hcause ▸ .carried t detail)
      have hrules := List.findSome?_eq_none_iff.2 (hruled hnone)
      have hcauses := List.findSome?_eq_none_iff.2 (hown hchain)
      rw [classify_of_not_carried _ hplain, hrules, hcauses, Option.getD_none, Option.getD_none]

/-- Every failure has a status by the history: the searches through the errors and the causes either
find one or pass all of them. -/
theorem exists_classified (history : List Rule) (f : Failure) : ∃ s, Classified history f s := by
  by_cases hcarried : ∃ s detail, f.cause = .status s detail
  · obtain ⟨s, detail, hcause⟩ := hcarried
    exact ⟨s, .carried hcause⟩
  have hplain : ∀ t detail, f.cause ≠ .status t detail := by
    intro t detail hcause
    exact hcarried ⟨t, detail, hcause⟩
  cases hrules : f.errors.findSome? (ofHistory history).ruled? with
  | some s =>
      obtain ⟨outer, e, inner, herrors, hdecides, houter⟩ := List.findSome?_eq_some_iff.1 hrules
      exact ⟨s, .ruled hplain herrors (fun x hx => ruled?_eq_none_iff.1 (houter x hx))
        (ruled?_eq_some_iff.1 hdecides)⟩
  | none =>
      have hnone : ∀ x ∈ f.errors, ¬Accepted history x := fun x hx =>
        ruled?_eq_none_iff.1 (List.findSome?_eq_none_iff.1 hrules x hx)
      cases hcauses : f.chain.findSome? Cause.ownStatus? with
      | some s =>
          obtain ⟨outer, c, inner, hchain, hstatus, houter⟩ := List.findSome?_eq_some_iff.1 hcauses
          exact ⟨s, .own hplain hnone hchain (fun x hx => ownStatus?_eq_none_iff.1 (houter x hx))
            (ownStatus?_eq_some_iff.1 hstatus)⟩
      | none =>
          exact ⟨_, .unknown hnone fun x hx =>
            ownStatus?_eq_none_iff.1 (List.findSome?_eq_none_iff.1 hcauses x hx)⟩

/-- **The status of a failure by the history.** -/
theorem classify_eq_iff {history : List Rule} {f : Failure} {s : Status} :
    (ofHistory history).classify f = s ↔ Classified history f s := by
  constructor
  · rintro rfl
    obtain ⟨s, h⟩ := exists_classified history f
    rwa [h.classify_eq]
  · exact Classified.classify_eq

/-! ### Entries that do not matter -/

/-- Does the rule accept an error of the failure? -/
def concerns (f : Failure) (r : Rule) : Bool :=
  f.errors.any r.accepts

/-- What later entries make of a rule that accepts an error of a failure is a matter of those among
them that do so as well. An entry for the same kind is one of them. -/
theorem settled_filter {f : Failure} {r : Rule} (h : concerns f r = true) (history : List Rule) :
    r.settled (history.filter (concerns f)) = r.settled history := by
  induction history generalizing r with
  | nil => rfl
  | cons q history ih =>
      cases hq : concerns f q with
      | true =>
          have hreplaced : concerns f (r.replacedBy q) = true := by
            rw [Rule.replacedBy]
            split
            · exact hq
            · exact h
          rw [List.filter_cons_of_pos hq]
          exact ih hreplaced
      | false =>
          have hkept : r.replacedBy q = r := by
            refine if_neg fun hsame => ?_
            rw [concerns, Rule.accepts_eq_of_kind?_eq hsame.1 hsame.2, ← concerns, hq] at h
            cases h
          calc r.settled ((q :: history).filter (concerns f))
              = r.settled (history.filter (concerns f)) := by
                rw [List.filter_cons_of_neg (by simp [hq])]
            _ = (r.replacedBy q).settled history := by rw [ih h, hkept]

/-- Which rule accepts an error of a failure, and with which status, is said by the entries that
accept some error of it. -/
theorem ruled?_filter {f : Failure} {e : Failure} (he : e ∈ f.errors) (history : List Rule) :
    (ofHistory (history.filter (concerns f))).ruled? e = (ofHistory history).ruled? e := by
  have hconcerns {r : Rule} (h : r.accepts e = true) : concerns f r = true :=
    List.any_eq_true.2 ⟨e, he, h⟩
  have hfind : (history.filter (concerns f)).find? (·.accepts e) =
      history.find? (·.accepts e) := by
    rw [List.find?_filter]
    refine congrArg (history.find? ·) (funext fun r => ?_)
    cases haccepts : r.accepts e with
    | true => simp [hconcerns haccepts]
    | false => simp
  rw [ruled?, ruled?, find?_rules_ofHistory, find?_rules_ofHistory, hfind]
  cases hfound : history.find? (·.accepts e) with
  | none => rfl
  | some r =>
      have haccepts : r.accepts e = true := (List.find?_eq_some_iff_append.1 hfound).1
      rw [Option.map_some, Option.map_some, settled_filter (hconcerns haccepts)]
      rfl

/-- **Entries that accept no error of a failure** do not matter to its status. -/
theorem classify_filter (history : List Rule) (f : Failure) :
    (ofHistory (history.filter (concerns f))).classify f = (ofHistory history).classify f := by
  have hruled : ∀ es ⊆ f.errors,
      es.findSome? (ofHistory (history.filter (concerns f))).ruled? =
        es.findSome? (ofHistory history).ruled? := by
    intro es hes
    induction es with
    | nil => rfl
    | cons e es ih =>
        obtain ⟨he, hrest⟩ := List.cons_subset.1 hes
        rw [List.findSome?_cons, List.findSome?_cons, ruled?_filter he, ih hrest]
  rw [classify, classify, hruled _ (List.Subset.refl _)]

/-! ### The number of rules -/

/-- The kinds that rules are for. -/
def kinds (rules : List Rule) : List CauseKind :=
  rules.filterMap Rule.kind?

theorem kinds_cons_kind (k : CauseKind) (s : Status) (rules : List Rule) :
    kinds (.kind k s :: rules) = k :: kinds rules := rfl

theorem kinds_cons_accepting (p : Failure → Bool) (s : Status) (rules : List Rule) :
    kinds (.accepting p s :: rules) = kinds rules := rfl

theorem kinds_append (rules later : List Rule) :
    kinds (rules ++ later) = kinds rules ++ kinds later :=
  List.filterMap_append

theorem length_putKind (k : CauseKind) (s : Status) (rules : List Rule) :
    (putKind k s rules).length = if k ∈ kinds rules then rules.length else rules.length + 1 := by
  induction rules with
  | nil => rfl
  | cons r rules ih =>
      cases r with
      | accepting p t =>
          rw [putKind, List.length_cons, List.length_cons, ih, kinds_cons_accepting]
          split <;> rfl
      | kind l t =>
          rw [putKind, kinds_cons_kind]
          by_cases hl : l = k
          · rw [if_pos hl, if_pos (hl ▸ List.mem_cons_self)]
            rfl
          · have hmem : k ∈ l :: kinds rules ↔ k ∈ kinds rules := by
              rw [List.mem_cons, or_iff_right (Ne.symm hl)]
            rw [if_neg hl, List.length_cons, List.length_cons, ih]
            simp only [hmem]
            split <;> rfl

theorem mem_kinds_putKind {k l : CauseKind} {s : Status} {rules : List Rule} :
    l ∈ kinds (putKind k s rules) ↔ l = k ∨ l ∈ kinds rules := by
  induction rules with
  | nil => rw [putKind, kinds_cons_kind, List.mem_cons]
  | cons r rules ih =>
      cases r with
      | accepting p t => rw [putKind, kinds_cons_accepting, kinds_cons_accepting, ih]
      | kind m t =>
          rw [putKind]
          by_cases hm : m = k
          · subst hm
            rw [if_pos rfl, kinds_cons_kind, kinds_cons_kind, List.mem_cons, or_self_left]
          · rw [if_neg hm, kinds_cons_kind, kinds_cons_kind, List.mem_cons, List.mem_cons, ih,
              or_left_comm]

/-- A classifier has rules for the kinds that were registered. -/
theorem mem_kinds_ofHistory {history : List Rule} {k : CauseKind} :
    k ∈ kinds (ofHistory history).rules ↔ k ∈ kinds history := by
  induction history using List.reverseRecOn with
  | nil => rfl
  | append_singleton history q ih =>
      rw [ofHistory_concat, kinds_append, List.mem_append]
      cases q with
      | kind l s =>
          have hkinds : kinds [Rule.kind l s] = [l] := rfl
          rw [add, register, mem_kinds_putKind, ih, hkinds, List.mem_singleton, or_comm]
      | accepting p s => rw [add, registerRule, kinds_append, List.mem_append, ih]

/-- **The number of rules** is that of the different kinds that were registered, and of the
predicates. -/
theorem length_rules_ofHistory (history : List Rule) :
    (ofHistory history).rules.length =
      (kinds history).toFinset.card + (history.filter (·.kind?.isNone)).length := by
  induction history using List.reverseRecOn with
  | nil => rfl
  | append_singleton history q ih =>
      rw [ofHistory_concat, kinds_append, List.filter_append, List.length_append]
      cases q with
      | accepting p s =>
          rw [add, registerRule, List.length_append, ih, kinds_cons_accepting]
          simp [kinds, Rule.kind?, Nat.add_assoc]
      | kind k s =>
          have hkinds : (kinds history ++ kinds [Rule.kind k s]).toFinset =
              insert k (kinds history).toFinset := by
            rw [List.toFinset_append, Finset.union_comm]
            rfl
          rw [add, register, length_putKind, ih, hkinds]
          by_cases hk : k ∈ kinds history
          · rw [if_pos (mem_kinds_ofHistory.2 hk), Finset.insert_eq_of_mem (List.mem_toFinset.2 hk)]
            rfl
          · have hfresh : k ∉ (kinds history).toFinset := fun h => hk (List.mem_toFinset.1 h)
            rw [if_neg fun h => hk (mem_kinds_ofHistory.1 h), Finset.card_insert_of_notMem hfresh,
              Nat.add_right_comm]
            rfl

/-- **What a history of registrations says about failures.** The status of a failure is the one that
it carries outermost. Otherwise it is that of the outermost error which an entry accepts, by the
first entry that accepts it, where a kind has the status that was registered last. If no error is
accepted, it is the outermost status that a cause has of its own, or else an internal error. So only
the entries that accept an error of the failure matter: others may be added, changed or left out.
There are as many rules as different kinds and predicates were registered. -/
theorem classify_by_history (history : List Rule) (f : Failure) :
    (∀ s, (ofHistory history).classify f = s ↔ Classified history f s) ∧
      (∀ history' : List Rule, history'.filter (concerns f) = history.filter (concerns f) →
        (ofHistory history').classify f = (ofHistory history).classify f) ∧
      (ofHistory history).rules.length =
        (kinds history).toFinset.card + (history.filter (·.kind?.isNone)).length := by
  refine ⟨fun s => classify_eq_iff, fun history' h => ?_, length_rules_ofHistory history⟩
  rw [← classify_filter history', h, classify_filter]

/-- A kind that is registered twice. A predicate between accepts some of its errors. -/
def requota : List Rule :=
  [.kind (.application "Quota") .notFound, .accepting (fun e => e.message == "over") .badRequest,
    .kind .json .notAcceptable, .kind (.application "Quota") .requestTimeout]

/-- The second of three errors is accepted, by the kind and by the predicate. -/
def overQuota : Failure :=
  ⟨.application "Billing" "", [.application "Quota" "over", .resourceNotFound ""]⟩

/-- The kind decides with its last status, and one more entry for another kind makes no difference,
nor does it if that kind gets another status. -/
theorem classify_by_history_requota :
    (ofHistory requota).classify overQuota = .requestTimeout ∧
      (ofHistory (.kind .integer .notFound :: requota)).classify overQuota = .requestTimeout ∧
      (ofHistory (requota ++ [.kind .json .notFound])).classify overQuota = .requestTimeout ∧
      (ofHistory requota).rules.length = 3 := by
  obtain ⟨hstatus, hsame, hlength⟩ := classify_by_history requota overQuota
  have hlast : requota =
      requota.take 3 ++ .kind (.application "Quota") .requestTimeout :: [] := rfl
  have hdecides : Decides requota ⟨.application "Quota" "over", [.resourceNotFound ""]⟩
      .requestTimeout :=
    ⟨[], _, _, rfl, by simp, by decide, .kind hlast (by simp)⟩
  have herrors : overQuota.errors = [overQuota] ++ ⟨.application "Quota" "over",
      [.resourceNotFound ""]⟩ :: [⟨.resourceNotFound "", []⟩] := rfl
  have hrejects : ∀ r ∈ requota, r.accepts overQuota = false := by decide
  have houter : ∀ x ∈ [overQuota], ¬Accepted requota x := by
    rintro x hx ⟨r, hr, haccepts⟩
    obtain rfl := List.mem_singleton.1 hx
    rw [hrejects r hr] at haccepts
    cases haccepts
  have hruled : Classified requota overQuota .requestTimeout :=
    .ruled (by simp [overQuota]) herrors houter hdecides
  have hclassify := (hstatus _).2 hruled
  have hadded := hsame (.kind .integer .notFound :: requota) rfl
  have hchanged := hsame (requota ++ [.kind .json .notFound]) rfl
  have hcount : (kinds requota).toFinset.card + (requota.filter (·.kind?.isNone)).length = 3 := rfl
  exact ⟨hclassify, hadded.trans hclassify, hchanged.trans hclassify, hlength.trans hcount⟩

end Classifier

end Switchyard
