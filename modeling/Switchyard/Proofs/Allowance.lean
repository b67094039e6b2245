import Mathlib.Data.List.Perm.Basic
import Switchyard.Proofs.HeaderText
import Switchyard.Proofs.Resolution
import Switchyard.Service.Reply

/-!
# The Methods Allowed for a Path

A look-up asks the trie of one method; the list of allowed methods asks them all. This module
shows that the list decides what a look-up answers: a path is resolved for the methods of the
list and no others, and a look-up for any other method reports the list, or nothing if it is
empty. The list itself depends on the registrations alone. It is sorted by a linear order without
repetitions, so it does not show in which order the tries are kept.

The reply to a method that is not allowed names the list. A method is a token, whose characters
are visible ASCII, so the list can always be written as the value of a header field.

## Main results

* `Method.eq_append_of_sorted`: a sorted list has the standard methods first, in their own order.
* `HeaderValue.ofText?_of_visible`: visible text is a header value that reads as this text.
* `get?_allow_ofAllowed`: the reply lists the allowed methods.
* `resolve_by_allowed`: look-ups split by the allowed methods.
-/

namespace Switchyard

/-! ### The order of methods -/

namespace Web.Method

/-- Standard methods stand before all others. -/
theorem before_of_mem_standard {a b : Method} (ha : a ∈ standard) (hb : b ∉ standard) :
    a.before b = true := by
  have hrank : a.rank < b.rank :=
    lt_of_lt_of_eq (List.idxOf_lt_length_iff.2 ha) (List.idxOf_eq_length_iff.2 hb).symm
  simp [before, hrank]

/-- Other methods follow in the order of their names. -/
theorem name_le_of_before {a b : Method} (ha : a ∉ standard) (hb : b ∉ standard)
    (h : a.before b = true) : a.name ≤ b.name := by
  have hrank : a.rank = b.rank :=
    (List.idxOf_eq_length_iff.2 ha).trans (List.idxOf_eq_length_iff.2 hb).symm
  simpa [before, hrank] using h

/-- **A sorted list has the standard methods first**, in their own order, and then all others. -/
theorem eq_append_of_sorted {ms : List Method} (hs : ms.Pairwise fun a b => a.before b = true)
    (hn : ms.Nodup) : ms = standard.filter (· ∈ ms) ++ ms.filter (· ∉ standard) := by
  have hsorted : (standard.filter (· ∈ ms) ++ ms.filter (· ∉ standard)).Pairwise
      fun a b => a.before b = true := by
    have hstandard : standard.Pairwise fun a b => a.before b = true := by decide
    refine List.pairwise_append.2 ⟨hstandard.filter _, hs.filter _, fun a ha b hb => ?_⟩
    have hb' : b ∉ standard := by simpa using (List.mem_filter.1 hb).2
    exact before_of_mem_standard (List.mem_filter.1 ha).1 hb'
  have hnodup : (standard.filter (· ∈ ms) ++ ms.filter (· ∉ standard)).Nodup := by
    have hstandard : standard.Nodup := by decide
    refine List.nodup_append.2 ⟨hstandard.filter _, hn.filter _, fun a ha b hb hab => ?_⟩
    have hb' : b ∉ standard := by simpa using (List.mem_filter.1 hb).2
    exact hb' (hab ▸ (List.mem_filter.1 ha).1)
  have hmem (m : Method) :
      m ∈ ms ↔ m ∈ standard.filter (· ∈ ms) ++ ms.filter (· ∉ standard) := by
    by_cases hm : m ∈ standard <;> simp [hm]
  calc ms = sort ms := (List.mergeSort_of_pairwise hs).symm
    _ = sort (standard.filter (· ∈ ms) ++ ms.filter (· ∉ standard)) := sort_eq_sort hn hnodup hmem
    _ = _ := List.mergeSort_of_pairwise hsorted

/-- The others stand in the strict order of their names. -/
theorem pairwise_name_lt_of_sorted {ms : List Method} (hs : ms.Pairwise fun a b => a.before b)
    (hn : ms.Nodup) : (ms.filter (· ∉ standard)).Pairwise fun a b => a.name < b.name := by
  have hboth := (hs.and hn).filter (fun m => decide (m ∉ standard))
  refine hboth.imp_of_mem fun {a b} ha hb hab => ?_
  have ha' : a ∉ standard := by simpa using (List.mem_filter.1 ha).2
  have hb' : b ∉ standard := by simpa using (List.mem_filter.1 hb).2
  refine Std.lt_of_le_of_ne (name_le_of_before ha' hb' hab.1) fun hname => hab.2 ?_
  cases a
  cases b
  cases hname
  rfl

end Web.Method

/-! ### Methods in a header field -/

namespace Web

/-- A visible character of ASCII, or the blank. -/
def IsVisible (c : Char) : Prop :=
  32 ≤ c.toNat ∧ c.toNat < 127

/-- The characters of tokens are visible. -/
theorem isVisible_of_isTokenChar {c : Char} (h : isTokenChar c = true) : IsVisible c := by
  have hascii : c.toNat < 128 := by
    rw [isTokenChar, Bool.or_eq_true] at h
    rcases h with h | h
    · exact toNat_lt_of_isAlphanum h
    · have hspecial : ∀ d ∈ "!#$%&'*+-.^_`|~".toList, d.toNat < 128 := by simp
      exact hspecial c (List.contains_iff_mem.1 h)
  have hall : ∀ n < 128, isTokenChar (Char.ofNat n) = true → 32 ≤ n ∧ n < 127 := by
    decide +kernel
  exact hall c.toNat hascii (by rwa [Char.ofNat_toNat])

theorem Method.isVisible_of_mem_name {m : Method} {c : Char} (h : c ∈ m.name.toList) :
    IsVisible c := by
  have htoken := m.isToken
  rw [Web.isToken, Bool.and_eq_true, List.all_eq_true] at htoken
  exact isVisible_of_isTokenChar (htoken.2 c h)

/-- The bytes of visible text are the numbers of its characters. -/
theorem toUTF8_of_visible {s : String} (h : ∀ c ∈ s.toList, IsVisible c) :
    s.toUTF8.toList = s.toList.map fun c => UInt8.ofNat c.toNat := by
  rw [toList_toUTF8, List.map_eq_flatMap]
  refine List.flatMap_congr fun c hc => utf8EncodeChar_of_ascii ?_
  have hlt := (h c hc).2
  omega

/-- **Visible text is a header value** that reads as this text. -/
theorem HeaderValue.ofText?_of_visible {s : String} (h : ∀ c ∈ s.toList, IsVisible c) :
    ∃ v, HeaderValue.ofText? s = some v ∧ v.text? = some s := by
  have hsendable : ∀ c ∈ s.toList, IsSendable c :=
    fun c hc => .inr ⟨(h c hc).1, Nat.ne_of_lt (h c hc).2⟩
  have hreadable : (HeaderValue.ofReadable s).IsReadable := by
    have hbyte : ∀ n < 127, 32 ≤ n → isReadable (UInt8.ofNat n) = true := by decide
    rw [IsReadable, ofReadable, toUTF8_of_visible h, List.forall_mem_map]
    exact fun c hc => hbyte c.toNat (h c hc).2 (h c hc).1
  exact ⟨.ofReadable s, ofText?_eq_some_iff.2 ⟨hsendable, rfl⟩,
    text?_eq_some_iff.2 ⟨hreadable, rfl⟩⟩

/-- A list of methods is visible in writing. -/
theorem Method.isVisible_of_mem_intercalate {ms : List Method} {c : Char}
    (h : c ∈ (", ".intercalate (ms.map (·.name))).toList) : IsVisible c := by
  induction ms with
  | nil => cases h
  | cons m ms ih =>
      cases ms with
      | nil => exact isVisible_of_mem_name (m := m) (by simpa using h)
      | cons n ms =>
          rw [List.map_cons, List.map_cons, String.intercalate_cons_cons, ← List.map_cons,
            String.toList_append, String.toList_append, List.mem_append, List.mem_append] at h
          rcases h with (h | h) | h
          · exact isVisible_of_mem_name h
          · have hsep : ∀ d ∈ ", ".toList, 32 ≤ d.toNat ∧ d.toNat < 127 := by simp
            exact hsep c h
          · exact ih h

end Web

open Web (Headers HeaderValue Method Status)

/-- **The reply to a method that is not allowed** always has a field that lists the allowed
methods, in the order in which they are given. -/
theorem Reply.get?_allow_ofAllowed (allowed : List Method) :
    (ofAllowed allowed).status = .methodNotAllowed ∧
      ∃ v, (ofAllowed allowed).headers.get? .allow = some v ∧
        v.text? = some (", ".intercalate (allowed.map (·.name))) := by
  obtain ⟨v, hv, htext⟩ := HeaderValue.ofText?_of_visible
    (fun c hc => Method.isVisible_of_mem_intercalate hc)
  rw [ofAllowed, hv]
  exact ⟨rfl, v, Headers.get?_insert_self _ _ _, htext⟩

namespace RouteTable

variable {ρ : Type}

/-! ### Look-ups and the list of allowed methods -/

/-- The order in which the tries are kept does not matter to look-ups in them. -/
theorem trie_of_perm {t : RouteTable ρ} (h : (t.tries.map Prod.fst).Nodup)
    {tries : List (Method × Trie (Route ρ))} (hperm : t.tries.Perm tries) (m : Method) :
    ({ t with tries } : RouteTable ρ).trie m = t.trie m := by
  have hkeys : (tries.map Prod.fst).Nodup := (hperm.map Prod.fst).nodup_iff.1 h
  have hlookup : tries.lookup m = t.tries.lookup m := by
    refine Option.ext fun trie => ?_
    rw [Association.lookup_eq_some_iff_mem hkeys, Association.lookup_eq_some_iff_mem h,
      hperm.mem_iff]
  rw [RouteTable.trie, RouteTable.trie, hlookup]

/-- A method is allowed exactly if its look-up finds a route. -/
theorem mem_allowed_iff_found {t : RouteTable ρ} (h : (t.tries.map Prod.fst).Nodup) {m : Method}
    {path : String} :
    m ∈ t.allowed path ↔ ∃ route b, t.resolve m path = .found route b := by
  rw [mem_allowed_iff h, Option.isSome_iff_exists]
  constructor
  · rintro ⟨⟨route, values⟩, hfind⟩
    exact ⟨route, _, resolve_of_find hfind⟩
  · rintro ⟨route, b, hfound⟩
    obtain ⟨values, hfind, -⟩ := resolve_eq_found_iff.1 hfound
    exact ⟨(route, values), hfind⟩

/-- A look-up for a method that is not allowed reports the list, or nothing if it is empty. -/
theorem resolve_of_not_mem_allowed {t : RouteTable ρ} (h : (t.tries.map Prod.fst).Nodup)
    {m : Method} {path : String} (hm : m ∉ t.allowed path) :
    t.resolve m path =
      if t.allowed path = [] then .notFound else .methodNotAllowed (t.allowed path) := by
  rw [mem_allowed_iff h, Bool.not_eq_true, Option.isSome_eq_false_iff, Option.isNone_iff_eq_none]
    at hm
  rw [resolve, hm]
  cases t.allowed path <;> rfl

theorem resolve_eq_methodNotAllowed_iff {t : RouteTable ρ} (h : (t.tries.map Prod.fst).Nodup)
    {m : Method} {path : String} {allowed : List Method} :
    t.resolve m path = .methodNotAllowed allowed ↔
      m ∉ t.allowed path ∧ t.allowed path ≠ [] ∧ allowed = t.allowed path := by
  by_cases hm : m ∈ t.allowed path
  · obtain ⟨route, b, hfound⟩ := (mem_allowed_iff_found h).1 hm
    simp [hfound, hm]
  · rw [resolve_of_not_mem_allowed h hm]
    by_cases hnil : t.allowed path = []
    · simp [hnil]
    · simp [hnil, hm, eq_comm]

theorem resolve_eq_notFound_iff {t : RouteTable ρ} (h : (t.tries.map Prod.fst).Nodup)
    {m : Method} {path : String} :
    t.resolve m path = .notFound ↔ t.allowed path = [] := by
  by_cases hm : m ∈ t.allowed path
  · obtain ⟨route, b, hfound⟩ := (mem_allowed_iff_found h).1 hm
    simp [hfound, List.ne_nil_of_mem hm]
  · rw [resolve_of_not_mem_allowed h hm]
    by_cases hnil : t.allowed path = [] <;> simp [hnil]

/-- **Look-ups split by the allowed methods.** In a table that was filled by registrations, the
methods allowed for a path are those whose look-up finds a route. They are listed once each, the
standard ones first and in their order, the others behind them in the order of their names,
in whatever order the tries are kept. A look-up finds a route, reports the list, or finds nothing
exactly if its method is in the list, is not in it although the list is not empty, or the list
is empty. The reply to a method that is not allowed names the methods of the list in this order. -/
theorem resolve_by_allowed {policy : DuplicatePolicy} {history : List (Route ρ)}
    {t : RouteTable ρ} (ht : t = ({ policy } : RouteTable ρ).insertAll history) (path : String) :
    ((t.allowed path).Nodup ∧
      (∃ others, t.allowed path = Method.standard.filter (· ∈ t.allowed path) ++ others ∧
        others.Pairwise (fun a b => a.name < b.name) ∧ ∀ m ∈ others, m ∉ Method.standard) ∧
      ∀ tries, t.tries.Perm tries →
        ({ t with tries } : RouteTable ρ).allowed path = t.allowed path ∧
          ∀ m, ({ t with tries } : RouteTable ρ).resolve m path = t.resolve m path) ∧
    ∀ m,
      ((∃ route b, t.resolve m path = .found route b) ↔ m ∈ t.allowed path) ∧
      (∀ allowed, t.resolve m path = .methodNotAllowed allowed ↔
        m ∉ t.allowed path ∧ t.allowed path ≠ [] ∧ allowed = t.allowed path) ∧
      (t.resolve m path = .notFound ↔ t.allowed path = []) ∧
      ∀ (σ : Type) (ctx : Context) (allowed : List Method),
        t.resolve m path = .methodNotAllowed allowed →
          ∃ reply v, Reply.ofDispatch ctx (.methodNotAllowed allowed : Dispatch σ) = some reply ∧
            reply.status = .methodNotAllowed ∧ reply.headers.get? .allow = some v ∧
            v.text? = some (", ".intercalate ((t.allowed path).map (·.name))) := by
  have hkeys : (t.tries.map Prod.fst).Nodup := by
    rw [ht]
    exact nodup_keys_insertAll history List.nodup_nil
  have hsorted : (t.allowed path).Pairwise fun a b => a.before b = true := Method.pairwise_sort _
  refine ⟨⟨nodup_allowed hkeys path, ?_, fun tries hperm => ?_⟩, fun m =>
    ⟨(mem_allowed_iff_found hkeys).symm, fun allowed => resolve_eq_methodNotAllowed_iff hkeys,
      resolve_eq_notFound_iff hkeys, fun σ ctx allowed hresolve => ?_⟩⟩
  · refine ⟨_, Method.eq_append_of_sorted hsorted (nodup_allowed hkeys path),
      Method.pairwise_name_lt_of_sorted hsorted (nodup_allowed hkeys path), fun m hm => ?_⟩
    simpa using (List.mem_filter.1 hm).2
  · have htrie := trie_of_perm hkeys hperm
    have hkeys' : (tries.map Prod.fst).Nodup := (hperm.map Prod.fst).nodup_iff.1 hkeys
    have hallowed : ({ t with tries } : RouteTable ρ).allowed path = t.allowed path :=
      allowed_congr hkeys' hkeys fun m => by rw [htrie m]
    exact ⟨hallowed, resolve_congr (fun m => by rw [htrie m]) hallowed⟩
  · obtain ⟨-, -, rfl⟩ := (resolve_eq_methodNotAllowed_iff hkeys).1 hresolve
    obtain ⟨hstatus, v, hv, htext⟩ := Reply.get?_allow_ofAllowed (t.allowed path)
    exact ⟨_, v, rfl, hstatus, hv, htext⟩

/-- A table in which one path is known under two standard methods and two others. -/
def extended : RouteTable Unit :=
  ({ policy := .replace } : RouteTable Unit).insertAll
    [{ id := 0, method := .only { name := "PURGE" }, pattern := ⟨[.literal "a"]⟩, source := "/a",
       pipeline := () },
      { id := 1, method := .only .delete, pattern := ⟨[.parameter "x"]⟩, source := "/{x}",
        pipeline := () },
      { id := 2, method := .only { name := "ACL" }, pattern := ⟨[.wildcard "*"]⟩, source := "/*",
        pipeline := () },
      { id := 3, method := .only .get, pattern := ⟨[.literal "a"]⟩, source := "/a",
        pipeline := () }]

/-- The reply to a method that is not among them lists the four methods in their order. -/
theorem resolve_by_allowed_extended :
    ∃ allowed reply v, extended.resolve .post "/a" = .methodNotAllowed allowed ∧
      Reply.ofDispatch {} (.methodNotAllowed allowed : Dispatch Unit) = some reply ∧
      reply.headers.get? .allow = some v ∧ v.text? = some "GET, DELETE, ACL, PURGE" := by
  have hmet : (extended.tries.filter fun (_, trie) => (trie.find (splitPath "/a")).isSome).map
      Prod.fst = [{ name := "PURGE" }, .delete, { name := "ACL" }, .get] := by
    decide +kernel
  have hsort : Method.sort [{ name := "PURGE" }, .delete, { name := "ACL" }, .get] =
      Method.sort [.get, .delete, { name := "ACL" }, { name := "PURGE" }] :=
    Method.sort_eq_sort (by decide) (by decide) fun m => by simp; tauto
  have hallowed : extended.allowed "/a" =
      [.get, .delete, { name := "ACL" }, { name := "PURGE" }] :=
    ((congrArg Method.sort hmet).trans hsort).trans (List.mergeSort_of_pairwise (by decide))
  obtain ⟨-, hlookup⟩ := resolve_by_allowed (t := extended) rfl "/a"
  obtain ⟨-, hmissed, -, hreply⟩ := hlookup .post
  have hresolve := (hmissed (extended.allowed "/a")).2 (by rw [hallowed]; decide)
  obtain ⟨reply, v, hof, -, hget, htext⟩ := hreply Unit {} _ hresolve
  rw [hallowed] at htext
  exact ⟨_, reply, v, hresolve, hof, hget, htext⟩

end RouteTable

end Switchyard
