import Switchyard.Number.Integer
import Switchyard.Text.Split
import Switchyard.Toml.Value

/-!
# Numbers and moments in TOML

Integers in four bases, floating-point numbers, dates and times of day. Single underscores may
stand between digits. A moment is checked, but kept as it is written.
-/

namespace Switchyard.Toml

open Number (Binary64 Width isDigitIn ofDigits)
open Text (dropChar?)

/-! ### Numbers -/

/-- More digits, with single underscores between digits. -/
def takeDigits? (isDigit : Char → Bool) : List Char → Option (List Char × List Char)
  | [] => some ([], [])
  | '_' :: cs =>
    match cs with
    | [] => none
    | d :: cs =>
      if isDigit d then (takeDigits? isDigit cs).map fun (ds, rest) => (d :: ds, rest) else none
  | c :: cs =>
    if isDigit c then (takeDigits? isDigit cs).map fun (ds, rest) => (c :: ds, rest)
    else some ([], c :: cs)

/-- At least one digit. -/
def takeRun? (isDigit : Char → Bool) : List Char → Option (List Char × List Char)
  | [] => none
  | c :: cs =>
    if isDigit c then (takeDigits? isDigit cs).map fun (ds, rest) => (c :: ds, rest) else none

/-- A sign, if there is one. -/
def takeSign : List Char → Bool × List Char
  | '+' :: cs => (false, cs)
  | '-' :: cs => (true, cs)
  | cs => (false, cs)

/-- The digits of a decimal integer: a single zero, or digits that do not start with one. -/
def takeWhole? : List Char → Option (List Char × List Char)
  | '0' :: cs => some (['0'], cs)
  | cs => takeRun? Char.isDigit cs

/-- An integer that fits 64 bits. -/
def int? (n : Int) : Option Toml :=
  if Width.i64.InRange n then some (.int n) else none

/-- An integer in another base, after the letter of the base. -/
def takeBased? (base : Nat) (cs : List Char) : Option (Toml × List Char) :=
  (takeRun? (isDigitIn base) cs).bind fun (ds, rest) =>
    (int? (ofDigits base ds)).map fun v => (v, rest)

/-- The exponent of a floating-point number, after its letter. -/
def takeExponent? (cs : List Char) : Option (Int × List Char) :=
  let (negative, cs) := takeSign cs
  (takeRun? Char.isDigit cs).map fun (ds, rest) =>
    let n : Int := ofDigits 10 ds
    (if negative then -n else n, rest)

/-- The exponent of a floating-point number, if it has one. -/
def takeOptionalExponent? : List Char → Option (Int × List Char)
  | 'e' :: cs => takeExponent? cs
  | 'E' :: cs => takeExponent? cs
  | cs => some (0, cs)

/-- A floating-point number; one that is too great is refused, one that is too small is not. -/
def real? (negative : Bool) (digits : Nat) (exponent : Int) : Option Toml :=
  match Binary64.ofDecimal negative digits exponent with
  | .infinite false => none
  | x => some (.real x)

/-- A number in decimal digits. -/
def takeDecimal? (negative : Bool) (cs : List Char) : Option (Toml × List Char) :=
  (takeWhole? cs).bind fun (whole, rest) =>
    match rest with
    | '.' :: rest =>
      (takeRun? Char.isDigit rest).bind fun (fraction, rest) =>
        (takeOptionalExponent? rest).bind fun (e, rest) =>
          (real? negative (ofDigits 10 (whole ++ fraction)) (e - fraction.length)).map
            fun v => (v, rest)
    | c :: _ =>
      if c = 'e' || c = 'E' then
        (takeOptionalExponent? rest).bind fun (e, rest) =>
          (real? negative (ofDigits 10 whole) e).map fun v => (v, rest)
      else takenInt whole rest
    | [] => takenInt whole rest
where
  takenInt (whole rest : List Char) : Option (Toml × List Char) :=
    let n : Int := ofDigits 10 whole
    (int? (if negative then -n else n)).map fun v => (v, rest)

/-- A number of any kind. -/
def takeNumber? (cs : List Char) : Option (Toml × List Char) :=
  match cs with
  | '0' :: 'x' :: cs => takeBased? 16 cs
  | '0' :: 'o' :: cs => takeBased? 8 cs
  | '0' :: 'b' :: cs => takeBased? 2 cs
  | cs =>
    let (negative, cs) := takeSign cs
    match cs with
    | 'i' :: 'n' :: 'f' :: cs => some (.real (.infinite negative), cs)
    | 'n' :: 'a' :: 'n' :: cs => some (.real .nan, cs)
    | cs => takeDecimal? negative cs

/-! ### Moments -/

/-- A number of exactly `n` digits. -/
def takeFixed? (n : Nat) (cs : List Char) : Option (Nat × List Char) :=
  let ds := cs.take n
  if ds.length = n && ds.all Char.isDigit then some (ofDigits 10 ds, cs.drop n) else none

/-- A number of two digits within bounds. -/
def takePair? (least greatest : Nat) (cs : List Char) : Option (Nat × List Char) :=
  (takeFixed? 2 cs).bind fun (n, rest) =>
    if least ≤ n && n ≤ greatest then some (n, rest) else none

/-- The number of days of a month. -/
def daysIn (year month : Nat) : Nat :=
  let isLeap := year % 4 = 0 && (year % 100 ≠ 0 || year % 400 = 0)
  if month = 2 then (if isLeap then 29 else 28)
  else if month = 4 || month = 6 || month = 9 || month = 11 then 30
  else 31

/-- What follows a date. -/
def takeDate? (cs : List Char) : Option (List Char) := do
  let (year, cs) ← takeFixed? 4 cs
  let (month, cs) ← takePair? 1 12 (← dropChar? '-' cs)
  let (_, cs) ← takePair? 1 (daysIn year month) (← dropChar? '-' cs)
  return cs

/-- What follows a time of day. -/
def takeTime? (cs : List Char) : Option (List Char) := do
  let (_, cs) ← takePair? 0 23 cs
  let (_, cs) ← takePair? 0 59 (← dropChar? ':' cs)
  let (_, cs) ← takePair? 0 60 (← dropChar? ':' cs)
  match cs with
  | '.' :: rest =>
    if (rest.takeWhile Char.isDigit).isEmpty then none else return rest.dropWhile Char.isDigit
  | _ => return cs

/-- What follows the offset of a time, or the text itself if there is none. -/
def takeOffset? (cs : List Char) : Option (List Char) :=
  match cs with
  | 'Z' :: cs => some cs
  | 'z' :: cs => some cs
  | c :: rest =>
    if c = '+' || c = '-' then do
      let (_, cs) ← takePair? 0 23 rest
      let (_, cs) ← takePair? 0 59 (← dropChar? ':' cs)
      return cs
    else some cs
  | [] => some []

/-- What follows a date, a time of day or both. -/
def behindMoment? (cs : List Char) : Option (List Char) :=
  match takeDate? cs with
  | some rest =>
    match rest with
    | c :: timed =>
      if c = 'T' || c = 't' || c = ' ' then
        match takeTime? timed with
        | some rest => takeOffset? rest
        | none => some rest
      else some rest
    | [] => some []
  | none => takeTime? cs

/-- A date, a time of day or both. -/
def takeMoment? (cs : List Char) : Option (Toml × List Char) :=
  (behindMoment? cs).map fun rest =>
    (.moment (String.ofList (cs.take (cs.length - rest.length))), rest)

end Switchyard.Toml
