import Switchyard.Number.Binary64

/-!
# TOML values

The values of a TOML document. The keys of a table keep the order in which they were written.
-/

namespace Switchyard

open Number (Binary64)

/-- A TOML value. -/
inductive Toml where
  | text (s : String)
  | int (n : Int)
  | real (x : Binary64)
  | bool (b : Bool)
  /-- a date, a time of day, or both -/
  | moment (text : String)
  | array (items : List Toml)
  | table (fields : List (String × Toml))
  deriving Inhabited

end Switchyard
