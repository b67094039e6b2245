import Mathlib.Data.Set.Basic
import Switchyard.Proofs.Dismissing
import Switchyard.Proofs.HeaderText

/-!
# Negotiating Media Types

A route may declare which types of content it takes and which it offers. A request says what it
brings in one header and what it accepts in another. Two things stand between these headers and the
check of a router.

Headers are bytes, and the check is made on text. Only visible ASCII, blanks and tabs are read as
text; a value with any other byte counts as absent, even if it is UTF-8. A request without a content
type fits every route, and so does one whose content type cannot be read, whatever it names.

The accepted types are a list in a text, and the offered ones are a list in the order of their
declaration. This module says what is chosen without either of the loops over them
(`Router.Picks`): the accepted types enter as a set.

## Main results

* `Router.dispatch_refuses_content`: which contents a route refuses.
* `Router.dispatch_accepting`: what becomes of a request that says what it accepts; requests that
  accept the same types are treated alike.
-/

namespace Switchyard.Web

/-! ### Types in a content type -/

/-- Does the value name a media type that one of these matches? It is read as UTF-8. -/
def HeaderValue.NamesOneOf (v : HeaderValue) (types : List MediaType) : Prop :=
  ∃ text : String, v.bytes = text.toUTF8.toList ∧
    ∃ m, MediaType.ofText? text = some m ∧ ∃ c ∈ types, c.accepts m = true

/-- What a value names is read off the one text that has its bytes. -/
theorem HeaderValue.namesOneOf_iff {v : HeaderValue} {text : String}
    (h : v.bytes = text.toUTF8.toList) {types : List MediaType} :
    v.NamesOneOf types ↔
      ((MediaType.ofText? text).any fun m => types.any fun c => c.accepts m) = true := by
  have hany : ((MediaType.ofText? text).any fun m => types.any fun c => c.accepts m) = true ↔
      ∃ m, MediaType.ofText? text = some m ∧ ∃ c ∈ types, c.accepts m = true := by
    simp [Option.any_eq_true]
  rw [hany]
  refine ⟨?_, fun hnamed => ⟨text, h, hnamed⟩⟩
  rintro ⟨text', h', hnamed⟩
  obtain rfl := toList_toUTF8_injective (h.symm.trans h')
  exact hnamed

/-- The first content type is looked up under its name. -/
theorem Headers.read?_contentType (hs : Headers) :
    hs.read? "content-type" = (hs.get? .contentType).bind HeaderValue.text? := by
  have hname : HeaderName.ofText? "content-type" = some .contentType := by decide +kernel
  rw [read?, hname]
  rfl

/-! ### Types in a list -/

/-- The media types that the entries of a list with commas name. -/
def MediaType.namedIn (list : String) : Set MediaType :=
  {m | ∃ entry ∈ Text.pieces ',' list.toList, ofText? (String.ofList entry) = some m}

theorem MediaType.mem_ofList {list : String} {m : MediaType} :
    m ∈ ofList list ↔ m ∈ namedIn list :=
  List.mem_filterMap

theorem MediaType.ofList_eq_nil_iff {list : String} : ofList list = [] ↔ namedIn list = ∅ := by
  rw [List.eq_nil_iff_forall_not_mem, Set.eq_empty_iff_forall_notMem]
  exact forall_congr' fun m => not_congr mem_ofList

theorem MediaType.any_accepts_iff {list : String} {p : MediaType} :
    ((ofList list).any fun a => a.accepts p) = true ↔ ∃ a ∈ namedIn list, a.accepts p = true := by
  rw [List.any_eq_true]
  exact exists_congr fun a => and_congr_left' mem_ofList

theorem MediaType.any_accepts_eq_false_iff {list : String} {p : MediaType} :
    ((ofList list).any fun a => a.accepts p) = false ↔
      ∀ a ∈ namedIn list, a.accepts p = false := by
  rw [List.any_eq_false]
  refine forall_congr' fun a => ?_
  rw [mem_ofList, Bool.not_eq_true]

end Switchyard.Web

namespace Switchyard

open Web (HeaderValue MediaType Status)

variable {σ : Type}

/-- The context with a media type as its content type, unless it has one, or the media type stands
for several or cannot be sent. -/
def Context.preset (ctx : Context) (m : MediaType) : Context :=
  if m.isWildcard || ctx.response.headers.contains .contentType then ctx
  else (HeaderValue.ofText? m.text).elim ctx (ctx.putHeader .contentType)

/-- A media type that was read becomes the content type. -/
theorem Context.get?_preset {ctx : Context} {m : MediaType}
    (hfree : ctx.response.headers.contains .contentType = false) (hwildcard : m.isWildcard = false)
    {text : String} (hread : MediaType.ofText? text = some m) :
    (ctx.preset m).response.headers.get? .contentType = some (.ofReadable m.text) := by
  rw [preset, hfree, hwildcard, MediaType.ofText?_text hread]
  exact Web.Headers.get?_insert_self _ _ _

/-- Choosing a type sends nothing. -/
theorem Context.isCommitted_preset (ctx : Context) (m : MediaType) :
    (ctx.preset m).isCommitted = ctx.isCommitted := by
  rw [preset]
  split
  · rfl
  · cases HeaderValue.ofText? m.text <;> rfl

/-! ### What a route takes -/

namespace Router

/-- Only a readable value can be refused, and it is if it names no type that the route takes. -/
theorem takesContent_eq_false_iff {consumes : List MediaType} (hconsumes : consumes ≠ [])
    {ctx : Context} {v : HeaderValue} (hvalue : ctx.request.headers.get? .contentType = some v) :
    takesContent consumes ctx = false ↔ v.IsReadable ∧ ¬v.NamesOneOf consumes := by
  rw [takesContent, List.isEmpty_eq_false_iff.2 hconsumes, Bool.false_or, Context.header?,
    Web.Headers.read?_contentType, hvalue, Option.bind_some]
  cases htext : v.text? with
  | none =>
      -- what cannot be read counts as absent, and what is absent fits
      have hunreadable := HeaderValue.text?_eq_none_iff.1 htext
      exact iff_of_false (by simp) fun h => hunreadable h.1
  | some text =>
      obtain ⟨hreadable, hbytes⟩ := HeaderValue.text?_eq_some_iff.1 htext
      rw [HeaderValue.namesOneOf_iff hbytes, and_iff_right hreadable]
      cases htype : MediaType.ofText? text with
      | none => simp [htype]
      | some m => simp [htype]

/-- What comes of checking the media types, with the exits in their order. -/
theorem negotiate_eq (route : RouteInfo) (ctx : Context) :
    (negotiate route).run ctx =
      if takesContent route.consumes ctx = false then (.error .unsupportedMediaType, ctx)
      else if route.produces = [] then (.ok (), ctx)
      else (chosenType? route.produces ctx).elim (.error .notAcceptable, ctx)
        fun m => (.ok (), ctx.preset m) := by
  rw [run_negotiate]
  congr 2
  cases chosenType? route.produces ctx with
  | none => rfl
  | some m =>
      dsimp only [Option.elim_some]
      rw [Context.preset, Context.setDefaultContentType, Context.setContentType]
      cases hwildcard : m.isWildcard with
      | true => rfl
      | false =>
          cases hcontains : ctx.response.headers.contains .contentType with
          | true => rfl
          -- a type that cannot be sent is left out without a failure
          | false => cases HeaderValue.ofText? m.text <;> rfl

/-- A router that checks media types refuses a content exactly if the route does not take it. -/
theorem negotiated_unsupported_iff {r : Router σ}
    (henforce : r.settings.enforceMediaTypes = true) {route : RouteInfo} {ctx : Context} :
    (r.negotiated route ctx).1 = .error .unsupportedMediaType ↔
      takesContent route.consumes ctx = false := by
  rw [negotiated, if_pos henforce, negotiate_eq]
  by_cases htakes : takesContent route.consumes ctx = false
  · simp [htakes]
  · rw [if_neg htakes]
    have hstatus : Status.notAcceptable ≠ .unsupportedMediaType := by decide
    refine iff_of_false ?_ htakes
    split
    · simp
    · cases chosenType? route.produces ctx with
      | none => simpa using hstatus
      | some m => simp

/-- If the route takes the content, the types that it offers decide. -/
theorem negotiated_of_takes {r : Router σ} (henforce : r.settings.enforceMediaTypes = true)
    {route : RouteInfo} {ctx : Context} (htakes : takesContent route.consumes ctx = true)
    (hproduces : route.produces ≠ []) :
    r.negotiated route ctx =
      (chosenType? route.produces ctx).elim (.error .notAcceptable, ctx)
        fun m => (.ok (), ctx.preset m) := by
  rw [negotiated, if_pos henforce, negotiate_eq, if_neg (by simp [htakes]), if_neg hproduces]

/-- A request for a route is rejected exactly if its media types do not fit. -/
theorem ending_eq_rejected_iff {r : Router σ} {ctx : Context} {route : Route (Pipeline σ)}
    {b : Bindings} (hfound : r.table.resolve ctx.request.method ctx.request.path = .found route b)
    {here : Option Executor} {w : σ} {status : Status} :
    (r.dispatch here ctx w).ending = .done (.rejected status) ↔
      (r.negotiated route.toRouteInfo ctx).1 = .error status := by
  rw [← Dismissal.outcome, ending_eq_outcome_iff, dismisses_of_found hfound]
  simp

/-- **A content is refused exactly if it can be read and names no type that the route takes.** So a
route refuses what it does not take exactly if the value of the content type is readable or names
a type that it takes. A request that is refused changes nothing, and no code runs on it. -/
theorem dispatch_refuses_content {r : Router σ} {ctx : Context} {route : Route (Pipeline σ)}
    {b : Bindings} {v : HeaderValue} (henforce : r.settings.enforceMediaTypes = true)
    (hfound : r.table.resolve ctx.request.method ctx.request.path = .found route b)
    (hconsumes : route.consumes ≠ [])
    (hvalue : ctx.request.headers.get? .contentType = some v) (here : Option Executor) (w : σ) :
    ((r.dispatch here ctx w).ending = .done (.rejected .unsupportedMediaType) ↔
      v.IsReadable ∧ ¬v.NamesOneOf route.consumes) ∧
    (((r.dispatch here ctx w).ending = .done (.rejected .unsupportedMediaType) ↔
      ¬v.NamesOneOf route.consumes) ↔ v.IsReadable ∨ v.NamesOneOf route.consumes) ∧
    ((r.dispatch here ctx w).ending = .done (.rejected .unsupportedMediaType) →
      r.dispatch here ctx w =
        { ending := .done (.rejected .unsupportedMediaType), context := ctx, world := w }) := by
  have hrefused : (r.dispatch here ctx w).ending = .done (.rejected .unsupportedMediaType) ↔
      v.IsReadable ∧ ¬v.NamesOneOf route.consumes := by
    rw [ending_eq_rejected_iff hfound, negotiated_unsupported_iff henforce,
      takesContent_eq_false_iff hconsumes hvalue]
  refine ⟨hrefused, ?_, fun hending => ?_⟩
  · rw [hrefused, and_iff_right_iff_imp, Classical.or_iff_not_imp_right]
  · rw [dispatch_of_found hfound, negotiated_of_refused ((ending_eq_rejected_iff hfound).1 hending)]

/-- A route that takes JSON, with a handler that writes down that it runs. -/
def filing : Route (Pipeline (List String)) :=
  { id := 0, method := .only .post, pattern := ⟨[.literal "x"]⟩, source := "/x"
    consumes := [⟨"application", "json"⟩], pipeline := .compose noticed [] [] false }

/-- A request that brings a content of some type. -/
def filed (contentType : String) : Context :=
  .ofRequest
    { method := .post, path := "/x", headers := ⟨[(.contentType, .ofReadable contentType)]⟩ }

/-- A table is refused, and the handler does not run; JSON is taken, however it is spelled. -/
theorem dispatch_refuses_content_filed :
    (sole filing).dispatch none (filed "text/csv") ["up"] =
        { ending := .done (.rejected .unsupportedMediaType), context := filed "text/csv"
          world := ["up"] } ∧
      ((sole filing).dispatch none (filed "Application/JSON; q=1") ["up"]).ending ≠
        .done (.rejected .unsupportedMediaType) := by
  have hreadable : (HeaderValue.ofReadable "text/csv").IsReadable := by decide +kernel
  have hcsv : ¬(HeaderValue.ofReadable "text/csv").NamesOneOf filing.consumes :=
    fun h => absurd ((HeaderValue.namesOneOf_iff rfl).1 h) (by decide +kernel)
  have hjson : (HeaderValue.ofReadable "Application/JSON; q=1").NamesOneOf filing.consumes :=
    (HeaderValue.namesOneOf_iff rfl).2 (by decide +kernel)
  have hconsumes : filing.consumes ≠ [] := by decide
  have hvalue (contentType : String) : (filed contentType).request.headers.get? .contentType =
      some (.ofReadable contentType) := rfl
  obtain ⟨hrefused, -, hframe⟩ := dispatch_refuses_content (r := sole filing) rfl rfl hconsumes
    (hvalue "text/csv") none ["up"]
  obtain ⟨htaken, -⟩ := dispatch_refuses_content (r := sole filing) rfl rfl hconsumes
    (hvalue "Application/JSON; q=1") none ["up"]
  exact ⟨hframe (hrefused.2 ⟨hreadable, hcsv⟩), fun h => (htaken.1 h).2 hjson⟩

/-- A content type that is UTF-8 and no media type at all gets past the check, since it is not
ASCII. -/
theorem dispatch_takes_accented :
    (sole filing).settings.enforceMediaTypes = true ∧
      (sole filing).table.resolve .post "/x" = .found filing {} ∧
      (filed "text/é").request.headers.get? .contentType = some (.ofReadable "text/é") ∧
      ¬(HeaderValue.ofReadable "text/é").NamesOneOf filing.consumes ∧
      ((sole filing).dispatch none (filed "text/é") []).ending = .done .completed ∧
      ((sole filing).dispatch none (filed "text/é") []).world = ["handler"] := by
  have hnamed : ¬(HeaderValue.ofReadable "text/é").NamesOneOf filing.consumes :=
    fun h => absurd ((HeaderValue.namesOneOf_iff rfl).1 h) (by decide +kernel)
  have htakes : takesContent filing.consumes (filed "text/é") = true := by decide +kernel
  have henforce : (sole filing).settings.enforceMediaTypes = true := rfl
  have hproduces : filing.produces = [] := rfl
  have hnegotiated : (sole filing).negotiated filing.toRouteInfo (filed "text/é") =
      (.ok (), filed "text/é") := by
    rw [negotiated, if_pos henforce, negotiate_eq, if_neg (by simp [htakes]), if_pos hproduces]
  refine ⟨rfl, rfl, rfl, hnamed, ?_, ?_⟩
  · rw [dispatch_of_found rfl, hnegotiated]
    rfl
  · rw [dispatch_of_found rfl, hnegotiated]
    rfl

/-! ### What a route offers -/

/-- What a route answers with, out of the types that it offers in their order, to a request that
accepts a set of types: the first one that an accepted type matches, and the first of all if the
request names no type. -/
inductive Picks (produces : List MediaType) (accepted : Set MediaType) : MediaType → Prop where
  | first {m : MediaType} {rest : List MediaType} (hnone : accepted = ∅)
      (hproduces : produces = m :: rest) : Picks produces accepted m
  | accepted {a m : MediaType} {front back : List MediaType}
      (hproduces : produces = front ++ m :: back)
      (hfront : ∀ p ∈ front, ∀ a ∈ accepted, a.accepts p = false) (hmem : a ∈ accepted)
      (haccepts : a.accepts m = true) : Picks produces accepted m

/-- The type that is chosen for a request that says what it accepts. -/
theorem chosenType?_of_accept {ctx : Context} {accept : String}
    (haccept : ctx.header? "accept" = some accept) (produces : List MediaType) :
    chosenType? produces ctx =
      if MediaType.namedIn accept = ∅ then produces.head?
      else produces.find? fun p => (MediaType.ofList accept).any fun a => a.accepts p := by
  rw [chosenType?, haccept, Option.map_some, Option.getD_some]
  split
  · next hnone => rw [if_pos (MediaType.ofList_eq_nil_iff.1 hnone)]
  · next hsome => rw [if_neg fun hnone => hsome (MediaType.ofList_eq_nil_iff.2 hnone)]

/-- What is chosen is what the route picks. -/
theorem chosenType?_eq_some_iff {ctx : Context} {accept : String}
    (haccept : ctx.header? "accept" = some accept) {produces : List MediaType} {m : MediaType} :
    chosenType? produces ctx = some m ↔ Picks produces (MediaType.namedIn accept) m := by
  rw [chosenType?_of_accept haccept]
  by_cases hnone : MediaType.namedIn accept = ∅
  · rw [if_pos hnone, List.head?_eq_some_iff]
    constructor
    · rintro ⟨rest, hproduces⟩
      exact .first hnone hproduces
    · rintro (⟨-, hproduces⟩ | ⟨-, -, hmem, -⟩)
      · exact ⟨_, hproduces⟩
      · rw [hnone] at hmem
        cases hmem
  · rw [if_neg hnone, List.find?_eq_some_iff_append]
    simp only [Bool.not_eq_true', MediaType.any_accepts_eq_false_iff, MediaType.any_accepts_iff]
    constructor
    · rintro ⟨⟨a, hmem, haccepts⟩, front, back, hproduces, hfront⟩
      exact .accepted hproduces hfront hmem haccepts
    · rintro (⟨hempty, -⟩ | ⟨hproduces, hfront, hmem, haccepts⟩)
      · exact absurd hempty hnone
      · exact ⟨⟨_, hmem, haccepts⟩, _, _, hproduces, hfront⟩

/-- Nothing is chosen exactly if types are accepted, and none of them matches one on offer. -/
theorem chosenType?_eq_none_iff {ctx : Context} {accept : String}
    (haccept : ctx.header? "accept" = some accept) {produces : List MediaType}
    (hproduces : produces ≠ []) :
    chosenType? produces ctx = none ↔
      (MediaType.namedIn accept).Nonempty ∧
        ∀ p ∈ produces, ∀ a ∈ MediaType.namedIn accept, a.accepts p = false := by
  rw [chosenType?_of_accept haccept, Set.nonempty_iff_ne_empty]
  by_cases hnone : MediaType.namedIn accept = ∅
  · rw [if_pos hnone, List.head?_eq_none_iff]
    exact iff_of_false hproduces fun h => h.1 hnone
  · rw [if_neg hnone, List.find?_eq_none, and_iff_right hnone]
    simp only [Bool.not_eq_true, MediaType.any_accepts_eq_false_iff]

/-- The request leads to a route that takes its content, and says what it accepts. -/
structure Asks (r : Router σ) (ctx : Context) (route : Route (Pipeline σ)) (b : Bindings)
    (accept : String) : Prop where
  enforces : r.settings.enforceMediaTypes = true
  found : r.table.resolve ctx.request.method ctx.request.path = .found route b
  takes : takesContent route.consumes ctx = true
  accepts : ctx.header? "accept" = some accept

section

variable {r : Router σ} {ctx : Context} {route : Route (Pipeline σ)} {b : Bindings}
  {accept : String} (hasks : r.Asks ctx route b accept) (hproduces : route.produces ≠ [])

include hasks hproduces

/-- What comes of such a request is decided by the type that is chosen. -/
theorem Asks.negotiated :
    r.negotiated route.toRouteInfo ctx =
      (chosenType? route.produces ctx).elim (.error .notAcceptable, ctx)
        fun m => (.ok (), ctx.preset m) :=
  negotiated_of_takes hasks.enforces hasks.takes hproduces

/-- If the route picks a type, its pipeline runs with this type put in place. -/
theorem Asks.dispatch_of_picks {m : MediaType}
    (hpicks : Picks route.produces (MediaType.namedIn accept) m) (here : Option Executor) (w : σ) :
    r.dispatch here ctx w =
      r.runRoute here route ((ctx.preset m).bind route.toRouteInfo b) w := by
  rw [dispatch_of_found hasks.found, hasks.negotiated hproduces,
    (chosenType?_eq_some_iff hasks.accepts).2 hpicks, Option.elim_some]

/-- If it picks none, the request is rejected. -/
theorem Asks.ending_eq_notAcceptable_iff (here : Option Executor) (w : σ) :
    (r.dispatch here ctx w).ending = .done (.rejected .notAcceptable) ↔
      chosenType? route.produces ctx = none := by
  rw [ending_eq_rejected_iff hasks.found, hasks.negotiated hproduces]
  cases chosenType? route.produces ctx with
  | none => simp
  | some m => simp

end

/-- **What a request accepts enters as a set.** If it names any types, it is rejected exactly if no
type that the route offers is matched by one of them. Otherwise the route picks a type, and its
pipeline runs on a response with this type as its content type, unless there is one already or the
type stands for several. Two requests for a route that accept the same types, however they spell
them, are both rejected, or run with the same type. -/
theorem dispatch_accepting {r : Router σ} {ctx : Context} {route : Route (Pipeline σ)}
    {b : Bindings} {accept : String} (hasks : r.Asks ctx route b accept)
    (hproduces : route.produces ≠ []) (here : Option Executor) (w : σ) :
    ((MediaType.namedIn accept).Nonempty →
      ((r.dispatch here ctx w).ending = .done (.rejected .notAcceptable) ↔
        ∀ p ∈ route.produces, ∀ a ∈ MediaType.namedIn accept, a.accepts p = false)) ∧
    ((r.dispatch here ctx w).ending = .done (.rejected .notAcceptable) ↔
      ∀ m, ¬Picks route.produces (MediaType.namedIn accept) m) ∧
    (∀ m, Picks route.produces (MediaType.namedIn accept) m →
      r.dispatch here ctx w =
          r.runRoute here route ((ctx.preset m).bind route.toRouteInfo b) w ∧
        (ctx.response.headers.contains .contentType = false → m.isWildcard = false →
          (∃ text, MediaType.ofText? text = some m) →
            (ctx.preset m).response.headers.get? .contentType = some (.ofReadable m.text))) ∧
    ∀ {ctx' : Context} {b' : Bindings} {accept' : String}, r.Asks ctx' route b' accept' →
      MediaType.namedIn accept' = MediaType.namedIn accept →
      ∀ (here' : Option Executor) (w' : σ),
        (r.dispatch here ctx w).ending = .done (.rejected .notAcceptable) ∧
            (r.dispatch here' ctx' w').ending = .done (.rejected .notAcceptable) ∨
          ∃ m, Picks route.produces (MediaType.namedIn accept) m ∧
            r.dispatch here ctx w =
              r.runRoute here route ((ctx.preset m).bind route.toRouteInfo b) w ∧
            r.dispatch here' ctx' w' =
              r.runRoute here' route ((ctx'.preset m).bind route.toRouteInfo b') w' := by
  have hrejected := hasks.ending_eq_notAcceptable_iff hproduces here w
  refine ⟨fun hnamed => ?_, ?_, fun m hpicks => ⟨hasks.dispatch_of_picks hproduces hpicks here w,
    fun hfree hwildcard ⟨text, hread⟩ => Context.get?_preset hfree hwildcard hread⟩,
    fun {ctx' _ _} hasks' hsame here' w' => ?_⟩
  · rw [hrejected, chosenType?_eq_none_iff hasks.accepts hproduces, and_iff_right hnamed]
  · rw [hrejected, Option.eq_none_iff_forall_ne_some]
    exact forall_congr' fun m => not_congr (chosenType?_eq_some_iff hasks.accepts)
  · cases hchosen : chosenType? route.produces ctx with
    | none =>
        have hchosen' : chosenType? route.produces ctx' = none := by
          rw [chosenType?_eq_none_iff hasks'.accepts hproduces, hsame]
          exact (chosenType?_eq_none_iff hasks.accepts hproduces).1 hchosen
        exact .inl ⟨hrejected.2 hchosen,
          (hasks'.ending_eq_notAcceptable_iff hproduces here' w').2 hchosen'⟩
    | some m =>
        have hpicks := (chosenType?_eq_some_iff hasks.accepts).1 hchosen
        exact .inr ⟨m, hpicks, hasks.dispatch_of_picks hproduces hpicks here w,
          hasks'.dispatch_of_picks hproduces (hsame ▸ hpicks) here' w'⟩

/-- A route that offers three types. -/
def listing : Route (Pipeline (List String)) :=
  { id := 0, method := .only .get, pattern := ⟨[.literal "list"]⟩, source := "/list"
    produces := [⟨"text", "html"⟩, ⟨"application", "json"⟩, ⟨"text", "plain"⟩]
    pipeline := .compose noticed [] [] false }

/-- A request that says what it accepts. -/
def listed (accept : String) : Context :=
  .ofRequest { method := .get, path := "/list", headers := ⟨[(.accept, .ofReadable accept)]⟩ }

/-- JSON and plain text in mixed case, with a parameter and an entry that names no type. -/
def mixed : String := "text/plain;q=0.1, APPLICATION/json, x"

/-- The same types in another order, one of them twice. -/
def repeated : String := "application/json,,text/plain,Text/Plain"

/-- Of the types on offer the second is the first that is accepted, in both spellings; a picture is
not to be had. -/
theorem dispatch_accepting_listed :
    (∃ m, (sole listing).dispatch none (listed mixed) [] =
          (sole listing).runRoute none listing
            (((listed mixed).preset m).bind listing.toRouteInfo {}) [] ∧
        (sole listing).dispatch none (listed repeated) [] =
          (sole listing).runRoute none listing
            (((listed repeated).preset m).bind listing.toRouteInfo {}) []) ∧
      ((listed mixed).preset ⟨"application", "json"⟩).response.headers.get? .contentType =
        some (.ofReadable "application/json") ∧
      ((sole listing).dispatch none (listed "image/*") []).ending =
        .done (.rejected .notAcceptable) := by
  have hproduces : listing.produces ≠ [] := by decide
  have hfound : (sole listing).table.resolve .get "/list" = .found listing {} := rfl
  have hasks {accept : String} (haccept : (listed accept).header? "accept" = some accept) :
      (sole listing).Asks (listed accept) listing {} accept :=
    { enforces := rfl, found := hfound, takes := rfl, accepts := haccept }
  have hmixed : (listed mixed).header? "accept" = some mixed := by decide +kernel
  have hrepeated : (listed repeated).header? "accept" = some repeated := by decide +kernel
  have himage : (listed "image/*").header? "accept" = some "image/*" := by decide +kernel
  have hsets : MediaType.namedIn repeated = MediaType.namedIn mixed := by
    have hlist : MediaType.ofList mixed = [⟨"text", "plain"⟩, ⟨"application", "json"⟩] := by
      decide +kernel
    have hlist' : MediaType.ofList repeated =
        [⟨"application", "json"⟩, ⟨"text", "plain"⟩, ⟨"text", "plain"⟩] := by
      decide +kernel
    ext m
    rw [← MediaType.mem_ofList, ← MediaType.mem_ofList, hlist, hlist']
    simp [or_comm]
  have hpicks : Picks listing.produces (MediaType.namedIn mixed) ⟨"application", "json"⟩ :=
    (chosenType?_eq_some_iff hmixed).1 (by decide +kernel)
  have hnone (m : MediaType) : ¬Picks listing.produces (MediaType.namedIn "image/*") m := by
    have hchosen : chosenType? listing.produces (listed "image/*") = none := by decide +kernel
    rw [← chosenType?_eq_some_iff himage, hchosen]
    exact (Option.some_ne_none m).symm
  obtain ⟨-, hrejects, hruns, hsame⟩ := dispatch_accepting (hasks hmixed) hproduces none []
  refine ⟨?_, ?_, ?_⟩
  · rcases hsame (hasks hrepeated) hsets none [] with ⟨hrejected, -⟩ | ⟨m, -, hboth⟩
    · exact absurd hpicks (hrejects.1 hrejected _)
    · exact ⟨m, hboth⟩
  · exact (hruns _ hpicks).2 rfl (by decide) ⟨"APPLICATION/json", by decide +kernel⟩
  · obtain ⟨-, hrejects', -⟩ := dispatch_accepting (hasks himage) hproduces none []
    exact hrejects'.2 hnone

end Router

end Switchyard
