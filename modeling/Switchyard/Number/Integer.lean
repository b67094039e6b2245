import Switchyard.Number.Digit

/-!
# Reading integers of a fixed width

An integer is written in decimal digits with an optional sign; a minus sign is a sign only for a
signed width. The digits are read from left to right, so of two faults the first one is reported.
-/

namespace Switchyard.Number

/-- A fixed width of integers. -/
structure Width where
  signed : Bool
  bits : Nat
  deriving Repr, DecidableEq

namespace Width

def u8 : Width := ⟨false, 8⟩
def u16 : Width := ⟨false, 16⟩
def u32 : Width := ⟨false, 32⟩
def u64 : Width := ⟨false, 64⟩
def i8 : Width := ⟨true, 8⟩
def i32 : Width := ⟨true, 32⟩
def i64 : Width := ⟨true, 64⟩

/-- The least integer of the width. -/
def least (w : Width) : Int :=
  if w.signed then -(Nat.pow 2 (w.bits - 1) : Int) else 0

/-- The greatest integer of the width. -/
def greatest (w : Width) : Int :=
  if w.signed then (Nat.pow 2 (w.bits - 1) : Int) - 1 else (Nat.pow 2 w.bits : Int) - 1

/-- Does the integer fit the width? -/
def InRange (w : Width) (n : Int) : Prop :=
  w.least ≤ n ∧ n ≤ w.greatest

instance (w : Width) (n : Int) : Decidable (w.InRange n) :=
  inferInstanceAs (Decidable (_ ∧ _))

end Width

/-- Why a text is no integer of a width. -/
inductive IntegerFault where
  | empty
  | invalidDigit
  | tooLarge
  | tooSmall
  deriving Repr, DecidableEq

/-- The report for a reader. -/
def IntegerFault.message : IntegerFault → String
  | .empty => "cannot parse integer from empty string"
  | .invalidDigit => "invalid digit found in string"
  | .tooLarge => "number too large to fit in target type"
  | .tooSmall => "number too small to fit in target type"

/-- The number with one more digit, away from zero on the side that `negative` tells. -/
def withDigit (negative : Bool) (acc : Int) (d : Nat) : Int :=
  if negative then acc * 10 - d else acc * 10 + d

/-- The number that the digits `cs` make of `acc`. -/
def Width.readDigits (w : Width) (negative : Bool) : Int → List Char → Except IntegerFault Int
  | acc, [] => .ok acc
  | acc, c :: cs =>
    match digit? c with
    | none => .error .invalidDigit
    | some d =>
      if w.InRange (withDigit negative acc d) then
        w.readDigits negative (withDigit negative acc d) cs
      else .error (if negative then .tooSmall else .tooLarge)

/-- The integer that a text writes in decimal. -/
def Width.read (w : Width) : List Char → Except IntegerFault Int
  | [] => .error .empty
  | ['+'] => .error .invalidDigit
  | ['-'] => .error .invalidDigit
  | '+' :: cs => w.readDigits false 0 cs
  | '-' :: cs => if w.signed then w.readDigits true 0 cs else .error .invalidDigit
  | cs => w.readDigits false 0 cs

end Switchyard.Number
