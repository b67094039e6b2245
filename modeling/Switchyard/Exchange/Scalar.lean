import Switchyard.Exchange.Failure
import Switchyard.Web.Address

/-!
# Typed parameters

Reading the text of a path variable as a number, a truth value, a character or an address, and
writing what was read.
-/

namespace Switchyard

open Number (Binary64 Width)

/-- The types that a text is read as. -/
inductive ScalarType where
  | integer (width : Width)
  | real
  | boolean
  | character
  | ipv4
  | text

/-- What a text was read as. -/
inductive Scalar where
  | integer (n : Int)
  | real (x : Binary64)
  | boolean (b : Bool)
  | character (c : Char)
  | ipv4 (octets : List Nat)
  | text (s : String)

/-- The text as a value of a type, or why it is none. -/
def ScalarType.read (type : ScalarType) (text : String) : Except Cause Scalar :=
  match type with
  | .integer width =>
    match width.read text.toList with
    | .ok n => .ok (.integer n)
    | .error f => .error (.integer f)
  | .real =>
    match Binary64.read text.toList with
    | .ok x => .ok (.real x)
    | .error f => .error (.real f)
  | .boolean =>
    if text = "true" then .ok (.boolean true)
    else if text = "false" then .ok (.boolean false)
    else .error .boolean
  | .character =>
    match text.toList with
    | [] => .error .emptyCharacter
    | [c] => .ok (.character c)
    | _ => .error .severalCharacters
  | .ipv4 =>
    match Web.readIPv4? text with
    | some octets => .ok (.ipv4 octets)
    | none => .error .invalidIPv4
  | .text => .ok (.text text)

/-- The value in writing. -/
def Scalar.display : Scalar → String
  | .integer n => toString n
  | .real x => x.positional
  | .boolean b => if b then "true" else "false"
  | .character c => String.singleton c
  | .ipv4 octets => ".".intercalate (octets.map toString)
  | .text s => s

end Switchyard
