import Mathlib.Data.List.Forall2
import Mathlib.Data.List.TakeWhile
import Mathlib.Logic.Relation
import Switchyard.Proofs.HeaderText

/-!
# Spellings of a Media Type

A media type is shown in one way and read in many. `Respells` says what may change in a text without
any effect on what is read of it: the case of letters, blanks around the text, and whatever stands
behind a semicolon. `Alike` is any number of such changes, made or undone.

The shown form is itself one of the texts that are read: lower case leads from the characters of
media types to such characters only, and to a star only from a star. So it is the normal form of its
spellings, and two texts name one media type exactly if they are spelled alike. None of its
characters is a comma, so it can stand in a list.

## Main results

* `MediaType.ofText?_of_alike`: texts that are spelled alike are read alike.
* `MediaType.alike_text`: a text that names a media type is spelled like the shown form.
* `MediaType.ofList_intercalate`: a list with commas is read entry by entry.
* `MediaType.read_alike`: all of this together, and that matching does not depend on the spelling.
-/

namespace Switchyard.Text

/-! ### Trimming and cutting -/

/-- Blanks around a text are trimmed. -/
theorem trim_append {front back : List Char} (hfront : ∀ c ∈ front, isBlank c = true)
    (hback : ∀ c ∈ back, isBlank c = true) (cs : List Char) :
    trim (front ++ cs ++ back) = trim cs := by
  rw [trim, trim, List.append_assoc, List.dropWhile_append_of_pos hfront, List.dropWhile_append]
  split
  · next hempty =>
    rw [List.isEmpty_iff.1 hempty, List.dropWhile_eq_nil_iff.2 hback]
  · have hreverse : ∀ c ∈ back.reverse, isBlank c = true :=
      fun c hc => hback c (List.mem_reverse.1 hc)
    rw [List.reverse_append, List.dropWhile_append_of_pos hreverse]

/-- A text is cut at the first separator, whatever stands behind it. -/
theorem upTo_append_of_mem {sep : Char} {cs : List Char} (h : sep ∈ cs) (ds : List Char) :
    upTo sep (cs ++ ds) = upTo sep cs := by
  obtain ⟨left, right, rfl, hleft⟩ := List.eq_append_cons_of_mem h
  have hkept : ∀ c ∈ left, decide (c ≠ sep) = true :=
    fun c hc => decide_eq_true fun heq => hleft (heq ▸ hc)
  rw [upTo, upTo, List.append_assoc, List.takeWhile_append_of_pos hkept,
    List.takeWhile_append_of_pos hkept, List.cons_append, List.takeWhile_cons_of_neg (by simp),
    List.takeWhile_cons_of_neg (by simp)]

/-- A text is not cut in a part without the separator. -/
theorem upTo_append_of_not_mem {sep : Char} {cs : List Char} (h : sep ∉ cs) (ds : List Char) :
    upTo sep (cs ++ ds) = cs ++ upTo sep ds :=
  List.takeWhile_append_of_pos fun _ hc => decide_eq_true fun heq => h (heq ▸ hc)

theorem upTo_of_not_mem {sep : Char} {cs : List Char} (h : sep ∉ cs) : upTo sep cs = cs := by
  have happend := upTo_append_of_not_mem h []
  rw [List.append_nil] at happend
  exact happend.trans (List.append_nil cs)

/-- What stands behind a separator does not count. -/
theorem upTo_append_sep (sep : Char) (cs ds : List Char) :
    upTo sep (cs ++ sep :: ds) = upTo sep cs := by
  by_cases h : sep ∈ cs
  · exact upTo_append_of_mem h _
  · have hnil : upTo sep (sep :: ds) = [] := List.takeWhile_cons_of_neg (by simp)
    rw [upTo_append_of_not_mem h, hnil, upTo_of_not_mem h, List.append_nil]

/-- A text is all that stands before its first separator, or goes on with it. -/
theorem eq_upTo_or (sep : Char) (cs : List Char) :
    cs = upTo sep cs ∨ ∃ ds, cs = upTo sep cs ++ sep :: ds := by
  by_cases h : sep ∈ cs
  · obtain ⟨left, right, rfl, hleft⟩ := List.eq_append_cons_of_mem h
    refine .inr ⟨right, ?_⟩
    rw [upTo_append_sep, upTo_of_not_mem hleft]
  · exact .inl (upTo_of_not_mem h).symm

/-- Blanks around a text with a separator in it are trimmed as well. -/
theorem trim_upTo_append {sep : Char} (hsep : isBlank sep = false) {front back : List Char}
    (hfront : ∀ c ∈ front, isBlank c = true) (hback : ∀ c ∈ back, isBlank c = true)
    (cs : List Char) : trim (upTo sep (front ++ cs ++ back)) = trim (upTo sep cs) := by
  have hnot {ds : List Char} (hds : ∀ c ∈ ds, isBlank c = true) : sep ∉ ds :=
    fun hmem => by simp [hds sep hmem] at hsep
  rw [List.append_assoc, upTo_append_of_not_mem (hnot hfront)]
  by_cases h : sep ∈ cs
  · -- the blanks at the end stand behind the separator, and are cut off
    have htrim := trim_append hfront (List.forall_mem_nil _) (upTo sep cs)
    rw [upTo_append_of_mem h, ← htrim, List.append_nil]
  · rw [upTo_append_of_not_mem h, upTo_of_not_mem (hnot hback), upTo_of_not_mem h,
      ← List.append_assoc, trim_append hfront hback]

/-! ### Lower case -/

theorem toLower_toLower (c : Char) : c.toLower.toLower = c.toLower :=
  apply_toLower (f := Char.toLower) (by decide +kernel) c

theorem isBlank_toLower (c : Char) : isBlank c.toLower = isBlank c :=
  apply_toLower (by decide +kernel) c

/-- Lower case leads to a character that is no letter from this character only. -/
theorem toLower_beq {d : Char} (h : ∀ n < 128, ((Char.ofNat n).toLower == d) = (Char.ofNat n == d))
    (c : Char) : (c.toLower == d) = (c == d) :=
  apply_toLower (f := (· == d)) h c

theorem upTo_map_toLower {sep : Char} (hsep : ∀ c : Char, (c.toLower == sep) = (c == sep))
    (cs : List Char) : upTo sep (cs.map Char.toLower) = (upTo sep cs).map Char.toLower := by
  have hkept : (fun c => decide (c ≠ sep)) ∘ Char.toLower = fun c => decide (c ≠ sep) := by
    funext c
    simpa using congrArg not (hsep c)
  rw [upTo, upTo, List.takeWhile_map, hkept]

theorem trim_map_toLower (cs : List Char) :
    trim (cs.map Char.toLower) = (trim cs).map Char.toLower := by
  have hblank : isBlank ∘ Char.toLower = isBlank := funext isBlank_toLower
  rw [trim, trim, List.dropWhile_map, ← List.map_reverse, List.dropWhile_map, ← List.map_reverse,
    hblank]

theorem splitFirst_map_toLower {sep : Char} (hsep : ∀ c : Char, (c.toLower == sep) = (c == sep))
    (cs : List Char) : splitFirst sep (cs.map Char.toLower) =
      (splitFirst sep cs).map (Prod.map (List.map Char.toLower) (List.map Char.toLower)) := by
  induction cs with
  | nil => rfl
  | cons c cs ih =>
      have hc : c.toLower = sep ↔ c = sep := by simpa using hsep c
      rw [List.map_cons, splitFirst, splitFirst, ih]
      by_cases heq : c = sep
      · rw [if_pos heq, if_pos (hc.2 heq)]
        rfl
      · rw [if_neg heq, if_neg fun h => heq (hc.1 h), Option.map_map, Option.map_map]
        rfl

/-- A text and the same in lower case are lowered alike. -/
theorem lowercase_lowercase (s : String) : lowercase (lowercase s) = lowercase s := by
  rw [lowercase, lowercase, String.toList_ofList, List.map_map]
  congr 1
  exact List.map_congr_left fun c _ => toLower_toLower c

/-- Texts put together with a character between neighbours. -/
theorem toList_intercalate (sep : Char) (texts : List String) :
    ((String.singleton sep).intercalate texts).toList =
      joinPieces sep (texts.map String.toList) := by
  match texts with
  | [] => rfl
  | [text] => simp [joinPieces]
  | text :: next :: rest =>
      have ih := toList_intercalate sep (next :: rest)
      simp [String.intercalate_cons_cons, joinPieces, ih]

end Switchyard.Text

namespace Switchyard.Web.MediaType

/-! ### Spellings -/

/-- A change of a text that does not touch the media type that it names. -/
inductive Respells : String → String → Prop
  | letterCase {text text' : String} :
      Text.lowercase text = Text.lowercase text' → Respells text text'
  | blanks {text front back : String} :
      (∀ c ∈ front.toList, Text.isBlank c = true) → (∀ c ∈ back.toList, Text.isBlank c = true) →
        Respells text (front ++ text ++ back)
  | parameters (text params : String) : Respells text (text ++ ";" ++ params)

/-- Any number of such changes, made or undone. -/
abbrev Alike : String → String → Prop :=
  Relation.EqvGen Respells

theorem map_toLower_eq_star {part : List Char} : part.map Char.toLower = ['*'] ↔ part = ['*'] := by
  have hstar (c : Char) : (c.toLower == '*') = (c == '*') :=
    Text.toLower_beq (by decide +kernel) c
  simp only [beq_eq_beq] at hstar
  rw [List.map_eq_singleton_iff]
  simp [hstar]

/-- The case of letters does not matter. -/
theorem ofText?_lowercase (text : String) : ofText? (Text.lowercase text) = ofText? text := by
  have hsemicolon (c : Char) : (c.toLower == ';') = (c == ';') :=
    Text.toLower_beq (by decide +kernel) c
  have hslash (c : Char) : (c.toLower == '/') = (c == '/') :=
    Text.toLower_beq (by decide +kernel) c
  rw [ofText?, ofText?, Text.lowercase, String.toList_ofList, Text.upTo_map_toLower hsemicolon,
    Text.trim_map_toLower, Text.splitFirst_map_toLower hslash]
  cases Text.splitFirst '/' (Text.trim (Text.upTo ';' text.toList)) with
  | none => rfl
  | some parts =>
      obtain ⟨kind, subtype⟩ := parts
      have hlower (part : List Char) :
          (part.map Char.toLower).map Char.toLower = part.map Char.toLower := by
        rw [List.map_map]
        exact List.map_congr_left fun c _ => Text.toLower_toLower c
      have hstar (part : List Char) : (part.map Char.toLower == ['*']) = (part == ['*']) :=
        beq_eq_beq.2 map_toLower_eq_star
      simp only [Option.map_some, Prod.map, isPart_map_toLower, hlower, hstar, bne]

/-- Texts with the same letters up to a semicolon and without blanks around are read alike. -/
theorem ofText?_congr {text text' : String}
    (h : Text.trim (Text.upTo ';' text.toList) = Text.trim (Text.upTo ';' text'.toList)) :
    ofText? text = ofText? text' := by
  rw [ofText?, ofText?, h]

/-- A change of the spelling does not change what is read. -/
theorem ofText?_of_respells {text text' : String} (h : Respells text text') :
    ofText? text = ofText? text' := by
  cases h with
  | letterCase hcase => rw [← ofText?_lowercase text, hcase, ofText?_lowercase]
  | blanks hfront hback =>
      refine ofText?_congr ?_
      rw [String.toList_append, String.toList_append,
        Text.trim_upTo_append (by decide) hfront hback]
  | parameters params =>
      refine ofText?_congr ?_
      have hparams : (text ++ ";" ++ params).toList = text.toList ++ ';' :: params.toList := by simp
      rw [hparams, Text.upTo_append_sep]

/-- **Texts that are spelled alike are read alike.** -/
theorem ofText?_of_alike {text text' : String} (h : Alike text text') :
    ofText? text = ofText? text' := by
  induction h with
  | rel _ _ hstep => exact ofText?_of_respells hstep
  | refl _ => rfl
  | symm _ _ _ ih => exact ih.symm
  | trans _ _ _ _ _ ih ih' => exact ih.trans ih'

/-- A text that names a media type has it within blanks, in front of a semicolon or alone. -/
theorem alike_of_named {text named : String}
    (h : Text.trim (Text.upTo ';' text.toList) = named.toList) : Alike text named := by
  obtain ⟨front, back, htrim, hfront, hback⟩ := Text.exists_append_trim (Text.upTo ';' text.toList)
  have hblanks : Alike named (String.ofList front ++ named ++ String.ofList back) := by
    refine .rel _ _ (.blanks ?_ ?_)
    · rwa [String.toList_ofList]
    · rwa [String.toList_ofList]
  have hessence : (String.ofList front ++ named ++ String.ofList back).toList =
      Text.upTo ';' text.toList := by
    rw [htrim, h]
    simp
  rcases Text.eq_upTo_or ';' text.toList with hcut | ⟨params, hcut⟩
  · rw [← hessence, String.toList_inj] at hcut
    exact .symm _ _ (hcut ▸ hblanks)
  · have htext : text = String.ofList front ++ named ++ String.ofList back ++ ";" ++
        String.ofList params := by
      rw [← String.toList_inj, hcut, ← hessence]
      simp
    have hparams : Alike (String.ofList front ++ named ++ String.ofList back) text :=
      htext ▸ .rel _ _ (.parameters _ _)
    exact .symm _ _ (.trans _ _ _ hblanks hparams)

/-- **A text that is read as a media type is spelled like the shown form.** -/
theorem alike_text {text : String} {m : MediaType} (h : ofText? text = some m) :
    Alike text m.text := by
  obtain ⟨kind, subtype, hnamed, -, -, -, -, rfl⟩ := ofText?_eq_some_iff.1 h
  have hwithin : Alike text (String.ofList (kind ++ '/' :: subtype)) :=
    alike_of_named (hnamed.trans String.toList_ofList.symm)
  refine .trans _ _ _ hwithin (.rel _ _ (.letterCase ?_))
  have hshown : (⟨String.ofList (kind.map Char.toLower), String.ofList (subtype.map Char.toLower)⟩ :
      MediaType).text = Text.lowercase (String.ofList (kind ++ '/' :: subtype)) := by
    rw [← String.toList_inj]
    simp [MediaType.text, Text.lowercase]
  rw [hshown, Text.lowercase_lowercase]

/-- The shown form of a media type that was read is read as it again. -/
theorem ofText?_shown {text : String} {m : MediaType} (h : ofText? text = some m) :
    ofText? m.text = some m := by
  rw [← ofText?_of_alike (alike_text h), h]

/-! ### Lists -/

/-- A list with commas is read entry by entry. -/
theorem ofList_intercalate {entries : List String} (h : ∀ entry ∈ entries, ',' ∉ entry.toList) :
    ofList (",".intercalate entries) = entries.filterMap ofText? := by
  have hjoin : (",".intercalate entries).toList =
      Text.joinPieces ',' (entries.map String.toList) := Text.toList_intercalate ',' entries
  by_cases hnil : entries = []
  · subst hnil
    rfl
  · have hpieces : Text.pieces ',' (Text.joinPieces ',' (entries.map String.toList)) =
        entries.map String.toList := by
      refine Text.pieces_joinPieces (by simpa using hnil) ?_
      rwa [List.forall_mem_map]
    rw [ofList, hjoin, hpieces, List.filterMap_map]
    exact congrArg (List.filterMap · entries) (funext fun entry => by simp)

/-- The media type as it is shown, with blanks around it. -/
def Padded (m : MediaType) (entry : String) : Prop :=
  ∃ front back : String, (∀ c ∈ front.toList, Text.isBlank c = true) ∧
    (∀ c ∈ back.toList, Text.isBlank c = true) ∧ entry = front ++ m.text ++ back

/-- There is no comma in a media type that was read, nor in the blanks around it. -/
theorem Padded.comma_not_mem {m : MediaType} {entry : String} (h : m.Padded entry) {text : String}
    (hread : ofText? text = some m) : ',' ∉ entry.toList := by
  obtain ⟨front, back, hfront, hback, rfl⟩ := h
  obtain ⟨kind, subtype, -, -, hkind, hsubtype, -, rfl⟩ := ofText?_eq_some_iff.1 hread
  have hpart {part : List Char} (hpart : isPart part = true) : ',' ∉ part.map Char.toLower := by
    intro hmem
    rw [← isPart_map_toLower] at hpart
    exact absurd (isPartChar_of_mem hpart hmem) (by decide)
  have hblank {s : String} (hs : ∀ c ∈ s.toList, Text.isBlank c = true) : ',' ∉ s.toList :=
    fun hmem => absurd (hs _ hmem) (by decide)
  simp [MediaType.text, hpart hkind, hpart hsubtype, hblank hfront, hblank hback]

theorem Padded.ofText?_eq {m : MediaType} {entry : String} (h : m.Padded entry) {text : String}
    (hread : ofText? text = some m) : ofText? entry = some m := by
  obtain ⟨front, back, hfront, hback, rfl⟩ := h
  rw [← ofText?_of_respells (.blanks hfront hback), ofText?_shown hread]

/-- A list of media types in writing, with blanks around them, is read as these media types. -/
theorem ofList_of_padded {types : List MediaType} {entries : List String}
    (hread : ∀ m ∈ types, ∃ text, ofText? text = some m)
    (hpadded : List.Forall₂ Padded types entries) : ofList (",".intercalate entries) = types := by
  have hentries : (∀ entry ∈ entries, ',' ∉ entry.toList) ∧ entries.filterMap ofText? = types := by
    induction hpadded with
    | nil => exact ⟨List.forall_mem_nil _, rfl⟩
    | @cons m entry types entries hentry _ ih =>
        obtain ⟨⟨text, htext⟩, hrest⟩ := List.forall_mem_cons.1 hread
        obtain ⟨hcommas, htypes⟩ := ih hrest
        refine ⟨List.forall_mem_cons.2 ⟨hentry.comma_not_mem htext, hcommas⟩, ?_⟩
        rw [List.filterMap_cons_some (hentry.ofText?_eq htext), htypes]
  rw [ofList_intercalate hentries.1, hentries.2]

/-- **A media type has one normal form, and its spelling does not matter.** The shown form of a
media type that was read is read as it again, and so is a list of such forms with commas between
them, with or without blanks around each. Texts that differ in the case of letters, in blanks around
them or in what stands behind a semicolon are read alike, accepted or not; of the texts that are
accepted, no others are. So two media types match in all their spellings or in none. -/
theorem read_alike :
    (∀ {text : String} {m : MediaType}, ofText? text = some m → ofText? m.text = some m) ∧
    (∀ {types : List MediaType} {entries : List String},
      (∀ m ∈ types, ∃ text, ofText? text = some m) → List.Forall₂ Padded types entries →
        ofList (",".intercalate entries) = types) ∧
    (∀ {text text' : String}, Alike text text' → ofText? text = ofText? text') ∧
    (∀ {text text' : String} {m : MediaType}, ofText? text = some m →
      (ofText? text' = some m ↔ Alike text' text)) ∧
    ∀ {a a' b b' : String} {m n : MediaType}, ofText? a = some m → ofText? b = some n →
      Alike a' a → Alike b' b →
        ∃ m' n', ofText? a' = some m' ∧ ofText? b' = some n' ∧ m'.accepts n' = m.accepts n := by
  refine ⟨ofText?_shown, ofList_of_padded, ofText?_of_alike, fun {text text' m} h => ⟨fun h' => ?_,
    fun halike => ?_⟩, fun {a a' b b' m n} ha hb halike halike' => ⟨m, n, ?_, ?_, rfl⟩⟩
  · exact .trans _ _ _ (alike_text h') (.symm _ _ (alike_text h))
  · rw [ofText?_of_alike halike, h]
  · rw [ofText?_of_alike halike, ha]
  · rw [ofText?_of_alike halike', hb]

/-- Two types in a list, one with blanks around it, and another spelling of the first. -/
theorem read_alike_padded :
    ofText? "Application/LD+Json ; q=0.9, x" = some ⟨"application", "ld+json"⟩ ∧
      ofText? "application/ld+json" = some ⟨"application", "ld+json"⟩ ∧
      ofList (",".intercalate ["\t application/ld+json ", "*/*"]) =
        [⟨"application", "ld+json"⟩, .any] ∧
      Alike "application/ld+json" "Application/LD+Json ; q=0.9, x" := by
  obtain ⟨hshown, hlist, -, halike, -⟩ := read_alike
  have hread : ofText? "Application/LD+Json ; q=0.9, x" = some ⟨"application", "ld+json"⟩ := by
    decide +kernel
  have hnormal : ofText? "application/ld+json" = some ⟨"application", "ld+json"⟩ := hshown hread
  have htypes : ∀ m ∈ [(⟨"application", "ld+json"⟩ : MediaType), .any],
      ∃ text, ofText? text = some m := by
    rw [List.forall_mem_cons, List.forall_mem_singleton]
    exact ⟨⟨_, hread⟩, ⟨"*/*", by decide +kernel⟩⟩
  have hpadded : List.Forall₂ Padded [⟨"application", "ld+json"⟩, .any]
      ["\t application/ld+json ", "*/*"] :=
    .cons ⟨"\t ", " ", by simp [Text.isBlank], by simp [Text.isBlank], rfl⟩
      (.cons ⟨"", "", by simp, by simp, rfl⟩ .nil)
  exact ⟨hread, hnormal, hlist htypes hpadded, (halike hread).1 hnormal⟩

end Switchyard.Web.MediaType
