/-!
# Digits

The values of digits in a base up to sixteen, and the numbers that they write.
-/

namespace Switchyard.Number

/-- The value of a digit in a base up to sixteen, with letters of either case. -/
def digitIn? (base : Nat) (c : Char) : Option Nat :=
  let value : Option Nat :=
    if '0' ≤ c && c ≤ '9' then some (c.toNat - '0'.toNat)
    else if 'a' ≤ c && c ≤ 'f' then some (c.toNat - 'a'.toNat + 10)
    else if 'A' ≤ c && c ≤ 'F' then some (c.toNat - 'A'.toNat + 10)
    else none
  value.filter (· < base)

/-- The value of a decimal digit. -/
def digit? (c : Char) : Option Nat := digitIn? 10 c

/-- The value of a hexadecimal digit. -/
def hexDigit? (c : Char) : Option Nat := digitIn? 16 c

/-- The hexadecimal digit of a value below sixteen, in lower case. -/
def hexDigit (n : Nat) : Char :=
  if n < 10 then Char.ofNat ('0'.toNat + n) else Char.ofNat ('a'.toNat + (n - 10))

/-- Is the character a digit in the base? -/
def isDigitIn (base : Nat) (c : Char) : Bool :=
  (digitIn? base c).isSome

/-- The digits at the start of a text, and what follows them. -/
def spanDigits (base : Nat) (cs : List Char) : List Char × List Char :=
  (cs.takeWhile (isDigitIn base), cs.dropWhile (isDigitIn base))

/-- The number that the digits `cs` make of `acc`. -/
def appendDigits (base acc : Nat) (cs : List Char) : Nat :=
  cs.foldl (fun n c => n * base + (digitIn? base c).getD 0) acc

/-- The number that digits write in a base. -/
def ofDigits (base : Nat) (cs : List Char) : Nat :=
  appendDigits base 0 cs

end Switchyard.Number
