import Switchyard.Web.Header
import Switchyard.Web.MediaType

/-!
# Text in Header Fields

A header value is a list of bytes, and what is written into it is text. This module says which
texts can be written: those without control characters of ASCII, the tab apart. Characters outside
ASCII are always allowed, as each of their bytes is 128 or more. Less can be read: a value is read
as text only if all of it is visible ASCII, blanks and tabs.

A media type is read more freely than it is written. Blanks around it are trimmed, line breaks
among them, and everything behind a semicolon is dropped. So a text may name a media type and be no
header value all the same; then what is to blame stands around the media type and not in it.

## Main results

* `HeaderValue.ofText?_eq_some_iff`: the texts that are header values.
* `HeaderValue.text?_eq_some_iff`: the values that are read as a text.
* `MediaType.ofText?_eq_some_iff`: the texts that name a media type.
* `MediaType.exists_around`: a text that names a media type, and what stands around it.
-/

namespace Switchyard.Web

/-! ### Bytes of a text -/

/-- The bytes of an array in their order. -/
theorem toList_eq_data_toList (bytes : ByteArray) : bytes.toList = bytes.data.toList := by
  have hloop (i : Nat) (acc : List UInt8) : ByteArray.toList.loop bytes i acc =
      acc.reverse ++ bytes.data.toList.drop i := by
    fun_induction ByteArray.toList.loop bytes i acc with
    | case1 i acc hlt ih =>
        have hlength : i < bytes.data.toList.length := by simpa using hlt
        have hget : bytes.get! i = bytes.data.toList[i] := by
          have hdata : bytes.get! i = bytes.data[i]! := rfl
          rw [hdata, getElem!_pos bytes.data i hlt, Array.getElem_toList]
        rw [ih, List.drop_eq_getElem_cons hlength, hget, List.reverse_cons, List.append_assoc]
        rfl
    | case2 i acc hlt =>
        rw [List.drop_eq_nil_of_le (by simpa using Nat.le_of_not_lt hlt), List.append_nil]
  exact hloop 0 []

/-- The bytes of a text are those of its characters. -/
theorem toList_toUTF8 (s : String) : s.toUTF8.toList = s.toList.flatMap String.utf8EncodeChar := by
  have hencode : s.toUTF8 = s.toList.utf8Encode := by
    rw [← String.toByteArray_ofList, String.ofList_toList]
    rfl
  rw [toList_eq_data_toList, hencode, List.utf8Encode, List.toList_data_toByteArray]

/-- Texts with the same bytes are equal. -/
theorem toList_toUTF8_injective : Function.Injective fun text : String => text.toUTF8.toList := by
  intro text text' h
  dsimp only at h
  rw [toList_eq_data_toList, toList_eq_data_toList, Array.toList_inj] at h
  exact String.toByteArray_inj.1 (ByteArray.ext h)

/-- A character of ASCII is one byte. -/
theorem utf8EncodeChar_of_ascii {c : Char} (h : c.toNat < 128) :
    String.utf8EncodeChar c = [UInt8.ofNat c.toNat] := by
  have hsize : c.utf8Size = 1 := by
    rw [Char.utf8Size_eq_one_iff, UInt32.le_iff_toNat_le]
    exact Nat.le_of_lt_succ h
  rw [String.utf8EncodeChar_eq_singleton hsize]
  rfl

/-- The bytes of all other characters are 128 or more. -/
theorem le_toNat_of_mem_utf8EncodeChar {c : Char} (h : 128 ≤ c.toNat) {b : UInt8}
    (hb : b ∈ String.utf8EncodeChar c) : 128 ≤ b.toNat := by
  have hhigh (x : UInt8) : ∀ high ∈ [0x80, 0xc0, 0xe0, 0xf0], 128 ≤ (x ||| high).toNat := by
    intro high hmem
    have hle : 128 ≤ high.toNat := by
      simp only [List.mem_cons, List.not_mem_nil, or_false] at hmem
      rcases hmem with rfl | rfl | rfl | rfl <;> decide
    rw [UInt8.toNat_or]
    exact Nat.le_trans hle Nat.right_le_or
  rcases c.utf8Size_eq with hsize | hsize | hsize | hsize
  · have hle := Char.utf8Size_eq_one_iff.1 hsize
    rw [UInt32.le_iff_toNat_le] at hle
    exact absurd (Nat.le_trans h hle) (by decide)
  · rw [String.utf8EncodeChar_eq_cons_cons hsize] at hb
    simp only [List.mem_cons, List.not_mem_nil, or_false] at hb
    rcases hb with rfl | rfl <;> exact hhigh _ _ (by simp)
  · rw [String.utf8EncodeChar_eq_cons_cons_cons hsize] at hb
    simp only [List.mem_cons, List.not_mem_nil, or_false] at hb
    rcases hb with rfl | rfl | rfl <;> exact hhigh _ _ (by simp)
  · rw [String.utf8EncodeChar_eq_cons_cons_cons_cons hsize] at hb
    simp only [List.mem_cons, List.not_mem_nil, or_false] at hb
    rcases hb with rfl | rfl | rfl | rfl <;> exact hhigh _ _ (by simp)

/-! ### Text as a header value -/

/-- A character that a header value can hold: no control character of ASCII but the tab. -/
def IsSendable (c : Char) : Prop :=
  c = '\t' ∨ 32 ≤ c.toNat ∧ c.toNat ≠ 127

instance : DecidablePred IsSendable := fun _ => inferInstanceAs (Decidable (_ ∨ _))

/-- The bytes of a character are allowed in a header value exactly if the character is. -/
theorem forall_isAllowed_utf8EncodeChar_iff {c : Char} :
    (∀ b ∈ String.utf8EncodeChar c, HeaderValue.isAllowed b = true) ↔ IsSendable c := by
  by_cases hascii : c.toNat < 128
  · have hbyte : ∀ n < 128,
        (HeaderValue.isAllowed (UInt8.ofNat n) = true ↔ IsSendable (Char.ofNat n)) := by
      decide +kernel
    have hc := hbyte c.toNat hascii
    rw [Char.ofNat_toNat] at hc
    rw [utf8EncodeChar_of_ascii hascii, List.forall_mem_singleton, hc]
  · have hsendable : IsSendable c := .inr ⟨by omega, by omega⟩
    refine iff_of_true (fun b hb => ?_) hsendable
    have hle := le_toNat_of_mem_utf8EncodeChar (Nat.le_of_not_lt hascii) hb
    have hblank : 32 ≤ b := UInt8.le_iff_toNat_le.2 (Nat.le_trans (by decide) hle)
    have hdelete : b ≠ 127 := by
      rintro rfl
      exact absurd hle (by decide)
    simp [HeaderValue.isAllowed, hblank, hdelete]

/-- **A text is a header value exactly if all its characters can be sent**, and then the value has
the bytes of the text. -/
theorem HeaderValue.ofText?_eq_some_iff {text : String} {v : HeaderValue} :
    ofText? text = some v ↔ (∀ c ∈ text.toList, IsSendable c) ∧ v.bytes = text.toUTF8.toList := by
  have hall : (text.toUTF8.toList.all isAllowed = true) ↔ ∀ c ∈ text.toList, IsSendable c := by
    rw [toList_toUTF8, List.all_eq_true, List.forall_mem_flatMap]
    exact forall₂_congr fun c _ => forall_isAllowed_utf8EncodeChar_iff
  rw [← hall, ofText?, ofBytes?, Option.ite_none_right_eq_some, Option.some.injEq]
  refine and_congr_right fun _ => ⟨fun h => h ▸ rfl, fun h => ?_⟩
  rw [← h]

/-! ### A header value as text -/

/-- Is the value visible ASCII, blanks and tabs? -/
def HeaderValue.IsReadable (v : HeaderValue) : Prop :=
  ∀ b ∈ v.bytes, isReadable b = true

instance : DecidablePred HeaderValue.IsReadable := fun v =>
  inferInstanceAs (Decidable (∀ b ∈ v.bytes, HeaderValue.isReadable b = true))

/-- A byte that is read as text is that of its character. -/
theorem utf8EncodeChar_of_isReadable {b : UInt8} (h : HeaderValue.isReadable b = true) :
    String.utf8EncodeChar (Char.ofNat b.toNat) = [b] := by
  have hascii : b.toNat < 128 := by
    simp only [HeaderValue.isReadable, Bool.or_eq_true, Bool.and_eq_true, decide_eq_true_eq,
      beq_iff_eq, UInt8.lt_iff_toNat_lt] at h
    rcases h with ⟨-, h⟩ | rfl
    · exact Nat.lt_succ_of_lt h
    · decide
  have hvalid : b.toNat.isValidChar := .inl (Nat.lt_trans hascii (by decide))
  have htoNat : (Char.ofNat b.toNat).toNat = b.toNat := by
    rw [Char.ofNat, dif_pos hvalid]
    rfl
  rw [utf8EncodeChar_of_ascii (by rw [htoNat]; exact hascii), htoNat, UInt8.ofNat_toNat]

/-- **A value is read as a text exactly if it is readable and has the bytes of the text.** -/
theorem HeaderValue.text?_eq_some_iff {v : HeaderValue} {text : String} :
    v.text? = some text ↔ v.IsReadable ∧ v.bytes = text.toUTF8.toList := by
  have hbytes (hreadable : v.IsReadable) :
      (String.ofList (v.bytes.map fun b => Char.ofNat b.toNat)).toUTF8.toList = v.bytes := by
    have hchars := List.map_congr_left fun b hb => utf8EncodeChar_of_isReadable (hreadable b hb)
    rw [toList_toUTF8, String.toList_ofList, List.flatMap_map, List.flatMap_def, hchars,
      ← List.flatMap_def, List.flatMap_singleton']
  rw [text?, Option.ite_none_right_eq_some, Option.some.injEq, List.all_eq_true]
  refine and_congr_right fun hreadable => ⟨?_, fun h => toList_toUTF8_injective ?_⟩
  · rintro rfl
    exact (hbytes hreadable).symm
  · exact (hbytes hreadable).trans h

theorem HeaderValue.text?_eq_none_iff {v : HeaderValue} : v.text? = none ↔ ¬v.IsReadable := by
  simp [text?, IsReadable]

end Switchyard.Web

namespace Switchyard.Text

/-! ### Lower case -/

theorem toLower_of_le {c : Char} (h : 128 ≤ c.toNat) : c.toLower = c := by
  have hupper : ¬(c.val ≥ 'A'.val ∧ c.val ≤ 'Z'.val) := by
    rintro ⟨-, hle⟩
    rw [UInt32.le_iff_toNat_le] at hle
    exact absurd (Nat.le_trans h hle) (by decide)
  exact dif_neg hupper

/-- What is the same of both cases of a letter is not changed by lower case. -/
theorem apply_toLower {α : Type} {f : Char → α}
    (h : ∀ n < 128, f (Char.ofNat n).toLower = f (Char.ofNat n)) (c : Char) :
    f c.toLower = f c := by
  by_cases hascii : c.toNat < 128
  · have hc := h c.toNat hascii
    rwa [Char.ofNat_toNat] at hc
  · rw [toLower_of_le (Nat.le_of_not_lt hascii)]

end Switchyard.Text

namespace Switchyard.Web

/-! ### Media types in a text -/

/-- Letters and digits are characters of ASCII. -/
theorem toNat_lt_of_isAlphanum {c : Char} (h : c.isAlphanum = true) : c.toNat < 128 := by
  have hval : c.toNat = c.val.toNat := rfl
  have hranges : (decide ('A'.val ≤ c.val ∧ c.val ≤ 'Z'.val) ||
      (decide ('a'.val ≤ c.val) && decide (c.val ≤ 'z'.val)) ||
      (decide ('0'.val ≤ c.val) && decide (c.val ≤ '9'.val))) = true := h
  simp only [Bool.or_eq_true, Bool.and_eq_true, decide_eq_true_eq, UInt32.le_iff_toNat_le,
    Char.reduceVal, UInt32.reduceToNat] at hranges
  omega

/-- The characters of kinds and subtypes are characters of ASCII. -/
theorem toNat_lt_of_isPartChar {c : Char} (h : MediaType.isPartChar c = true) : c.toNat < 128 := by
  rw [MediaType.isPartChar, Bool.or_eq_true] at h
  rcases h with h | h
  · exact toNat_lt_of_isAlphanum h
  · have hspecial : ∀ d ∈ "!#$&-^_.+*".toList, d.toNat < 128 := by simp
    exact hspecial c (List.contains_iff_mem.1 h)

theorem isPartChar_of_mem {part : List Char} (hpart : MediaType.isPart part = true) {c : Char}
    (hc : c ∈ part) : MediaType.isPartChar c = true := by
  rw [MediaType.isPart, Bool.and_eq_true, List.all_eq_true] at hpart
  exact hpart.2 c hc

/-- The characters of kinds and subtypes can be sent. -/
theorem isSendable_of_isPartChar {c : Char} (h : MediaType.isPartChar c = true) :
    IsSendable c := by
  have hascii := toNat_lt_of_isPartChar h
  have hall : ∀ n < 128, MediaType.isPartChar (Char.ofNat n) = true →
      IsSendable (Char.ofNat n) := by
    decide +kernel
  rw [← Char.ofNat_toNat c] at h ⊢
  exact hall c.toNat hascii h

/-- In lower case they are such characters still, and no others are. -/
theorem isPartChar_toLower (c : Char) :
    MediaType.isPartChar c.toLower = MediaType.isPartChar c :=
  Text.apply_toLower (by decide +kernel) c

theorem isPart_map_toLower (part : List Char) :
    MediaType.isPart (part.map Char.toLower) = MediaType.isPart part := by
  have hchar : MediaType.isPartChar ∘ Char.toLower = MediaType.isPartChar :=
    funext isPartChar_toLower
  rw [MediaType.isPart, MediaType.isPart, List.isEmpty_map, List.all_map, hchar]

end Switchyard.Web

namespace Switchyard.Text

/-- Trimming takes blanks off at both ends. -/
theorem exists_append_trim (cs : List Char) : ∃ front back, cs = front ++ trim cs ++ back ∧
    (∀ c ∈ front, isBlank c = true) ∧ ∀ c ∈ back, isBlank c = true := by
  refine ⟨cs.takeWhile isBlank, ((cs.dropWhile isBlank).reverse.takeWhile isBlank).reverse, ?_,
    fun c hc => List.all_eq_true.1 List.all_takeWhile c hc,
    fun c hc => List.all_eq_true.1 List.all_takeWhile c (List.mem_reverse.1 hc)⟩
  have hback : trim cs ++ ((cs.dropWhile isBlank).reverse.takeWhile isBlank).reverse =
      cs.dropWhile isBlank := by
    rw [trim, ← List.reverse_append, List.takeWhile_append_dropWhile, List.reverse_reverse]
  rw [List.append_assoc, hback, List.takeWhile_append_dropWhile]

end Switchyard.Text

namespace Switchyard.Web

/-- **A text names a media type** exactly if it has two parts with a slash between them, up to a
semicolon and without the blanks around them. -/
theorem MediaType.ofText?_eq_some_iff {text : String} {m : MediaType} :
    ofText? text = some m ↔
      ∃ kind subtype, Text.trim (Text.upTo ';' text.toList) = kind ++ '/' :: subtype ∧
        '/' ∉ kind ∧ isPart kind = true ∧ isPart subtype = true ∧
        (kind = ['*'] → subtype = ['*']) ∧
        m = ⟨String.ofList (kind.map Char.toLower), String.ofList (subtype.map Char.toLower)⟩ := by
  have hparts (kind subtype : List Char) :
      (isPart kind && isPart subtype && !(kind == ['*'] && subtype != ['*'])) = true ↔
        isPart kind = true ∧ isPart subtype = true ∧ (kind = ['*'] → subtype = ['*']) := by
    simp [and_assoc, Decidable.imp_iff_not_or]
  rw [ofText?]
  constructor
  · intro h
    split at h
    · cases h
    · next kind subtype hsplit =>
      obtain ⟨htext, hslash⟩ := Text.splitFirst_eq_some_iff.1 hsplit
      rw [Option.ite_none_right_eq_some, hparts] at h
      obtain ⟨⟨hkind, hsubtype, hstar⟩, h⟩ := h
      exact ⟨kind, subtype, htext, hslash, hkind, hsubtype, hstar, (Option.some.inj h).symm⟩
  · rintro ⟨kind, subtype, htext, hslash, hkind, hsubtype, hstar, rfl⟩
    rw [htext, Text.splitFirst_append hslash]
    exact if_pos ((hparts kind subtype).2 ⟨hkind, hsubtype, hstar⟩)

/-- **A text that names a media type** has it within something that is not looked at. The media type
itself can be sent, so the text can be sent exactly if what stands around it can. -/
theorem MediaType.exists_around {text : String} {m : MediaType} (h : ofText? text = some m) :
    ∃ front named back, text.toList = front ++ named ++ back ∧
      named.map Char.toLower = m.text.toList ∧
      ((∀ c ∈ text.toList, IsSendable c) ↔ ∀ c ∈ front ++ back, IsSendable c) := by
  obtain ⟨front, back, htrim, -⟩ := Text.exists_append_trim (Text.upTo ';' text.toList)
  obtain ⟨params, hparams⟩ : ∃ params, text.toList = Text.upTo ';' text.toList ++ params :=
    ⟨_, List.takeWhile_append_dropWhile.symm⟩
  obtain ⟨kind, subtype, hnamed, -, hkind, hsubtype, -, rfl⟩ := ofText?_eq_some_iff.1 h
  have htext : text.toList = front ++ (kind ++ '/' :: subtype) ++ (back ++ params) := by
    rw [hparams, htrim, hnamed, List.append_assoc _ back]
  have hsend : ∀ c ∈ kind ++ '/' :: subtype, IsSendable c := by
    rw [List.forall_mem_append, List.forall_mem_cons]
    exact ⟨fun c hc => isSendable_of_isPartChar (isPartChar_of_mem hkind hc), by decide,
      fun c hc => isSendable_of_isPartChar (isPartChar_of_mem hsubtype hc)⟩
  refine ⟨front, kind ++ '/' :: subtype, back ++ params, htext, by simp [MediaType.text], ?_⟩
  rw [htext, List.forall_mem_append, List.forall_mem_append, and_iff_left hsend,
    ← List.forall_mem_append]

/-- What is read as a media type can be sent in its turn. -/
theorem MediaType.ofText?_text {text : String} {m : MediaType} (h : ofText? text = some m) :
    HeaderValue.ofText? m.text = some (.ofReadable m.text) := by
  obtain ⟨kind, subtype, -, -, hkind, hsubtype, -, rfl⟩ := ofText?_eq_some_iff.1 h
  have hlower {part : List Char} (hpart : isPart part = true) :
      ∀ c ∈ part.map Char.toLower, IsSendable c := by
    rw [← isPart_map_toLower] at hpart
    exact fun c hc => isSendable_of_isPartChar (isPartChar_of_mem hpart hc)
  have hsend : ∀ c ∈ (kind.map Char.toLower ++ '/' :: subtype.map Char.toLower), IsSendable c := by
    rw [List.forall_mem_append, List.forall_mem_cons]
    exact ⟨hlower hkind, by decide, hlower hsubtype⟩
  rw [HeaderValue.ofText?_eq_some_iff]
  exact ⟨by simpa [MediaType.text] using hsend, rfl⟩

end Switchyard.Web
