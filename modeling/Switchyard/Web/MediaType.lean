import Switchyard.Text.Blank
import Switchyard.Text.Split

/-!
# Media types

A media type is a kind and a subtype; parameters behind a semicolon are dropped. A star stands for
any kind or subtype.

## Main results

* `MediaType.accepts_comm`: matching is symmetric.
-/

namespace Switchyard.Web

/-- A media type, in lower case. -/
structure MediaType where
  kind : String
  subtype : String
  deriving Repr, DecidableEq

namespace MediaType

/-- A character of a kind or subtype. -/
def isPartChar (c : Char) : Bool :=
  c.isAlphanum || "!#$&-^_.+*".toList.contains c

/-- A kind or subtype. -/
def isPart (cs : List Char) : Bool :=
  !cs.isEmpty && cs.all isPartChar

/-- The media type that a text names. A star as the kind is allowed only with a star as subtype. -/
def ofText? (text : String) : Option MediaType :=
  match Text.splitFirst '/' (Text.trim (Text.upTo ';' text.toList)) with
  | none => none
  | some (kind, subtype) =>
    if isPart kind && isPart subtype && !(kind == ['*'] && subtype != ['*']) then
      some ⟨String.ofList (kind.map Char.toLower), String.ofList (subtype.map Char.toLower)⟩
    else none

/-- The report about a text that names no media type. -/
def invalidMessage (text : String) : String :=
  "invalid media type `" ++ text ++ "`"

/-- Every media type. -/
def any : MediaType := ⟨"*", "*"⟩

def text (m : MediaType) : String :=
  m.kind ++ "/" ++ m.subtype

/-- Does the media type stand for several? -/
def isWildcard (m : MediaType) : Bool :=
  m.kind == "*" || m.subtype == "*"

/-- Are the parts equal, or is one a star? -/
def partsMatch (a b : String) : Bool :=
  a == "*" || b == "*" || a == b

/-- Do the two media types have one in common? -/
def accepts (a b : MediaType) : Bool :=
  partsMatch a.kind b.kind && partsMatch a.subtype b.subtype

/-- The media types of a list with commas; what is no media type is left out. -/
def ofList (text : String) : List MediaType :=
  (Text.pieces ',' text.toList).filterMap fun entry => ofText? (String.ofList entry)

/-! ### Lemmas -/

theorem partsMatch_comm (a b : String) : partsMatch a b = partsMatch b a := by
  unfold partsMatch
  rw [Bool.eq_iff_iff]
  simp only [Bool.or_eq_true, beq_iff_eq]
  constructor
  · rintro ((h | h) | h)
    · exact .inl (.inr h)
    · exact .inl (.inl h)
    · exact .inr h.symm
  · rintro ((h | h) | h)
    · exact .inl (.inr h)
    · exact .inl (.inl h)
    · exact .inr h.symm

/-- Matching does not depend on which of the two is declared and which is asked for. -/
theorem accepts_comm (a b : MediaType) : a.accepts b = b.accepts a := by
  unfold accepts
  rw [partsMatch_comm a.kind, partsMatch_comm a.subtype]

end MediaType

end Switchyard.Web
