import Switchyard.Association
import Switchyard.Web.Method

/-!
# Header fields

A header field has a name, which is a token in lower case, and a value of bytes without control
characters. `Headers` keeps fields in the order in which they came; a name may occur repeatedly.

## Main results

* `Headers.get?_insert_self`, `Headers.get?_insert_of_ne`: a field that is put in place is found,
  and others are not touched.
-/

namespace Switchyard.Web

/-- The name of a header field. -/
structure HeaderName where
  text : String
  deriving Repr, DecidableEq

namespace HeaderName

def contentType : HeaderName := ⟨"content-type"⟩
def accept : HeaderName := ⟨"accept"⟩
def allow : HeaderName := ⟨"allow"⟩
def requestId : HeaderName := ⟨"x-request-id"⟩

/-- The greatest length of a name, in bytes. -/
def maxLength : Nat := 65535

/-- The name that a text spells, in letters of either case. -/
def ofText? (text : String) : Option HeaderName :=
  if isToken text.toList && text.utf8ByteSize ≤ maxLength then some ⟨Text.lowercase text⟩ else none

end HeaderName

/-- The value of a header field. -/
structure HeaderValue where
  bytes : List UInt8
  deriving Repr, DecidableEq

namespace HeaderValue

/-- A byte that a value may hold: no control character but the tab. -/
def isAllowed (b : UInt8) : Bool :=
  (32 ≤ b && b != 127) || b == 9

/-- A byte that is read as text: visible ASCII, the blank and the tab. -/
def isReadable (b : UInt8) : Bool :=
  (32 ≤ b && b < 127) || b == 9

/-- The value made of these bytes. -/
def ofBytes? (bytes : List UInt8) : Option HeaderValue :=
  if bytes.all isAllowed then some ⟨bytes⟩ else none

/-- The value made of the bytes of a text. -/
def ofText? (text : String) : Option HeaderValue :=
  ofBytes? text.toUTF8.toList

/-- The value as text, if all of it is readable. -/
def text? (v : HeaderValue) : Option String :=
  if v.bytes.all isReadable then some (String.ofList (v.bytes.map fun b => Char.ofNat b.toNat))
  else none

/-- A value of readable text, as the program itself writes it. -/
def ofReadable (text : String) : HeaderValue :=
  ⟨text.toUTF8.toList⟩

end HeaderValue

/-- Header fields in their order. -/
structure Headers where
  fields : List (HeaderName × HeaderValue) := []
  deriving Repr, DecidableEq

namespace Headers

instance : Inhabited Headers := ⟨{}⟩

/-- The first value of a name. -/
def get? (hs : Headers) (name : HeaderName) : Option HeaderValue :=
  hs.fields.lookup name

/-- The first value of the name that a text spells, as text. -/
def read? (hs : Headers) (name : String) : Option String :=
  (HeaderName.ofText? name).bind fun n => (hs.get? n).bind HeaderValue.text?

def contains (hs : Headers) (name : HeaderName) : Bool :=
  (hs.get? name).isSome

/-- One more field, behind all others. -/
def append (hs : Headers) (name : HeaderName) (value : HeaderValue) : Headers :=
  ⟨hs.fields ++ [(name, value)]⟩

/-- The field in place of all fields of its name. -/
def insert (hs : Headers) (name : HeaderName) (value : HeaderValue) : Headers :=
  ⟨hs.fields.filter (fun f => f.1 ≠ name) ++ [(name, value)]⟩

/-- The fields in the order of their names, fields of one name in the order in which they came. -/
def sorted (hs : Headers) : List (HeaderName × HeaderValue) :=
  hs.fields.mergeSort fun a b => decide (a.1.text ≤ b.1.text)

/-! ### Lemmas -/

theorem lookup_filter_append {name n : HeaderName} {value : HeaderValue}
    (fields : List (HeaderName × HeaderValue)) :
    (fields.filter (fun f => f.1 ≠ name) ++ [(name, value)]).lookup n =
      if n = name then some value else fields.lookup n := by
  induction fields with
  | nil => rw [List.filter_nil, List.nil_append, Association.lookup_cons]
  | cons f fields ih =>
    obtain ⟨m, v⟩ := f
    rw [Association.lookup_cons]
    by_cases hm : m = name
    · rw [List.filter_cons_of_neg (by simp [hm]), ih, hm]
      by_cases hn : n = name <;> simp [hn]
    · rw [List.filter_cons_of_pos (by simp [hm]), List.cons_append, Association.lookup_cons, ih]
      by_cases hn : n = m
      · simp [hn, hm]
      · simp [hn]

/-- The field that was put in place is found. -/
@[simp] theorem get?_insert_self (hs : Headers) (name : HeaderName) (value : HeaderValue) :
    (hs.insert name value).get? name = some value := by
  simp only [insert, get?, lookup_filter_append, if_true]

/-- No other field is touched. -/
theorem get?_insert_of_ne (hs : Headers) {name n : HeaderName} (value : HeaderValue)
    (h : n ≠ name) : (hs.insert name value).get? n = hs.get? n := by
  simp only [insert, get?, lookup_filter_append, if_neg h]

end Headers

end Switchyard.Web
