/-!
# UTF-8

Reading bytes as text. `fault?` finds the first place where a byte sequence is not well-formed
UTF-8: a sequence is *incomplete* if the input ends inside it, and *invalid* otherwise, with the
number of bytes that belong to the faulty part.
-/

namespace Switchyard.Text.Utf8

/-- Where and how a byte sequence fails to be UTF-8. -/
inductive Fault where
  | invalid (index : Nat) (length : Nat)
  | incomplete (index : Nat)
  deriving Repr, DecidableEq

/-- The report for a reader. -/
def Fault.message : Fault → String
  | .invalid index length =>
    "invalid utf-8 sequence of " ++ toString length ++ " bytes from index " ++ toString index
  | .incomplete index => "incomplete utf-8 byte sequence from index " ++ toString index

/-- A byte that continues a sequence. -/
def isContinuation (b : UInt8) : Bool :=
  0x80 ≤ b && b ≤ 0xBF

/-- The bounds of the second byte after a first byte, and the number of bytes that follow it. -/
def second? (b : UInt8) : Option (UInt8 × UInt8 × Nat) :=
  if 0xC2 ≤ b && b ≤ 0xDF then some (0x80, 0xBF, 0)
  else if b == 0xE0 then some (0xA0, 0xBF, 1)
  else if b == 0xED then some (0x80, 0x9F, 1)
  else if 0xE1 ≤ b && b ≤ 0xEF then some (0x80, 0xBF, 1)
  else if b == 0xF0 then some (0x90, 0xBF, 2)
  else if 0xF1 ≤ b && b ≤ 0xF3 then some (0x80, 0xBF, 2)
  else if b == 0xF4 then some (0x80, 0x8F, 2)
  else none

/-- Do the next `n` bytes continue a sequence of which `length` bytes are read? If not, how it
fails: `none` if the input ends inside it, `some k` if its first `k` bytes are at fault. -/
def continued (length : Nat) : Nat → List UInt8 → Except (Option Nat) Unit
  | 0, _ => .ok ()
  | _ + 1, [] => .error none
  | n + 1, b :: rest =>
    if isContinuation b then continued (length + 1) n rest else .error (some length)

/-- The number of bytes that follow the first byte `b` in its sequence, of the bytes `rest`
behind it. -/
def followers (b : UInt8) (rest : List UInt8) : Except (Option Nat) Nat :=
  if b < 0x80 then .ok 0
  else
    match second? b, rest with
    | none, _ => .error (some 1)
    | some _, [] => .error none
    | some (lo, hi, more), c :: rest =>
      if lo ≤ c && c ≤ hi then (continued 2 more rest).map fun _ => more + 1
      else .error (some 1)

/-- The first fault of the input that starts at `index`. -/
def faultFrom? (index : Nat) : List UInt8 → Option Fault
  | [] => none
  | b :: rest =>
    match followers b rest with
    | .error none => some (.incomplete index)
    | .error (some length) => some (.invalid index length)
    | .ok n => faultFrom? (index + n + 1) (rest.drop n)
  termination_by bytes => bytes.length
  decreasing_by simp only [List.length_drop, List.length_cons]; omega

/-- The first place where the bytes are not UTF-8. -/
def fault? (bytes : ByteArray) : Option Fault :=
  faultFrom? 0 bytes.toList

/-- The text that the bytes spell, or the first fault. -/
def decode (bytes : ByteArray) : Except Fault String :=
  match String.fromUTF8? bytes with
  | some text => .ok text
  | none => .error ((fault? bytes).getD (.incomplete 0))

end Switchyard.Text.Utf8
