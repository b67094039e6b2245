import Switchyard.Number.Binary64

/-!
# JSON values

A number is a whole number of 64 bits, with or without a sign, or else a floating-point number.
The fields of an object have an order; `Json.ofFields` puts them into the order of their names
and keeps the last of several fields with one name.
-/

namespace Switchyard

open Number (Binary64)

/-- A JSON value. -/
inductive Json where
  | null
  | bool (b : Bool)
  | int (n : Int)
  | real (x : Binary64)
  | str (s : String)
  | arr (items : List Json)
  | obj (fields : List (String × Json))
  deriving Inhabited

namespace Json

/-- A field put among fields in the order of their names, in place of one with its name. -/
def insertField (name : String) (value : Json) : List (String × Json) → List (String × Json)
  | [] => [(name, value)]
  | (n, v) :: fields =>
    if name < n then (name, value) :: (n, v) :: fields
    else if name = n then (n, value) :: fields
    else (n, v) :: insertField name value fields

/-- The object with these fields, in the order of their names; the last of one name stays. -/
def ofFields (fields : List (String × Json)) : Json :=
  .obj (fields.foldl (fun sorted (n, v) => insertField n v sorted) [])

/-- The value of a field. -/
def field? (name : String) : Json → Option Json
  | .obj fields => (fields.find? (·.1 == name)).map (·.2)
  | _ => none

def nat (n : Nat) : Json := .int n

/-- A text, or `null` without one. -/
def ofText? : Option String → Json
  | some s => .str s
  | none => .null

def ofTexts (ss : List String) : Json :=
  .arr (ss.map .str)

end Json

end Switchyard
