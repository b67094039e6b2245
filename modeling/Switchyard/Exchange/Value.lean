import Switchyard.Exchange.Failure
import Switchyard.Json.Value

/-!
# Values and outcomes

What a handler answers, before it is rendered.
-/

namespace Switchyard

/-- What a handler produced. -/
inductive Value where
  | empty
  | text (s : String)
  | bytes (b : ByteArray)
  | json (j : Json)
  deriving Inhabited

/-- A value or a failure. -/
abbrev Outcome := Except Failure Value

end Switchyard
