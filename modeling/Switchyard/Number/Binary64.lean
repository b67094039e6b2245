import Switchyard.Number.Digit

/-!
# Binary floating-point numbers of 64 bits

A finite number is `± m · 2 ^ e` with a significand `m` below `2 ^ 53`. Numbers are rounded to the
nearest one, ties to the even significand, in exact arithmetic on natural numbers; the shortest
decimal that reads back is found by trying one digit, then two, and so on.
-/

namespace Switchyard.Number

/-- A floating-point number. The finite number `± m · 2 ^ e` is kept with `2 ^ 52 ≤ m < 2 ^ 53`
and `-1074 ≤ e ≤ 971`, or with `m < 2 ^ 52` and `e = -1074`. -/
inductive Binary64 where
  | finite (negative : Bool) (m : Nat) (e : Int)
  | infinite (negative : Bool)
  | nan
  deriving Repr, DecidableEq

namespace Binary64

/-- The least significand that is not denormal, `2 ^ 52`. -/
def leastNormal : Nat := 0x10000000000000

/-- The quotient rounded to the nearest natural number, a tie to the even one. -/
def roundDiv (num den : Nat) : Nat :=
  let q := num / den
  let r := num % den
  if 2 * r < den then q
  else if den < 2 * r then q + 1
  else if q % 2 = 0 then q else q + 1

/-- The fraction `num / (den · 2 ^ e)` as numerator and denominator. -/
def scaled (num den : Nat) (e : Int) : Nat × Nat :=
  if 0 ≤ e then (num, den * Nat.pow 2 e.toNat) else (num * Nat.pow 2 (-e).toNat, den)

/-- The greatest `k` with `2 ^ k ≤ num / den`, for positive numbers. -/
def exponentOf (num den : Nat) : Int :=
  let k : Int := (num.log2 : Int) - (den.log2 : Int)
  let (n, d) := scaled num den k
  if d ≤ n then k else k - 1

/-- The number nearest to `± num / den`. -/
def ofRatio (negative : Bool) (num den : Nat) : Binary64 :=
  if num = 0 then .finite negative 0 (-1074)
  else
    let e := max (exponentOf num den - 52) (-1074)
    let (n, d) := scaled num den e
    let m := roundDiv n d
    let (m, e) := if m = 2 * leastNormal then (leastNormal, e + 1) else (m, e)
    if e > 971 then .infinite negative else .finite negative m e

/-- The number nearest to `± m · 10 ^ e`. -/
def ofDecimal (negative : Bool) (m : Nat) (e : Int) : Binary64 :=
  if m = 0 then .finite negative 0 (-1074)
  else if e > 400 then .infinite negative
  else if e < -400 - (m.log2 : Int) then .finite negative 0 (-1074)
  else if 0 ≤ e then ofRatio negative (m * Nat.pow 10 e.toNat) 1
  else ofRatio negative m (Nat.pow 10 (-e).toNat)

/-- The magnitude of a finite number as a fraction. -/
def ratio (m : Nat) (e : Int) : Nat × Nat :=
  if 0 ≤ e then (m * Nat.pow 2 e.toNat, 1) else (m, Nat.pow 2 (-e).toNat)

/-- The product, rounded. Only finite numbers are multiplied here. -/
def mul : Binary64 → Binary64 → Binary64
  | .finite s m e, .finite s' m' e' =>
    let (n, d) := ratio m e
    let (n', d') := ratio m' e'
    ofRatio (s != s') (n * n') (d * d')
  | _, _ => .nan

/-- The quotient of finite numbers, rounded; the divisor is not zero. -/
def div : Binary64 → Binary64 → Binary64
  | .finite s m e, .finite s' m' e' =>
    let (n, d) := ratio m e
    let (n', d') := ratio m' e'
    if n' = 0 then .nan else ofRatio (s != s') (n * d') (d * n')
  | _, _ => .nan

/-- Is the number zero, of either sign? -/
def isZero : Binary64 → Bool
  | .finite _ m _ => m == 0
  | _ => false

def isInfinite : Binary64 → Bool
  | .infinite _ => true
  | _ => false

/-- The number of the other sign. -/
def neg : Binary64 → Binary64
  | .finite s m e => .finite (!s) m e
  | .infinite s => .infinite (!s)
  | .nan => .nan

/-! ### The shortest decimal -/

/-- The greatest `k` with `10 ^ k ≤ num / den`, for positive numbers; `k` starts at an estimate
that is at most two too small. -/
def decimalExponent (num den : Nat) : Int :=
  let estimate : Int := ((exponentOf num den) * 30103).fdiv 100000 - 1
  let reached (k : Int) : Bool :=
    if 0 ≤ k then den * Nat.pow 10 k.toNat ≤ num else den ≤ num * Nat.pow 10 (-k).toNat
  if reached (estimate + 2) then estimate + 2
  else if reached (estimate + 1) then estimate + 1
  else estimate

/-- All quantities over one denominator: the number, the ends of the interval of the reals that
round to it, and the unit of the grid `10 ^ k`. -/
def overCommon (m : Nat) (e k : Int) : Nat × Nat × Nat × Nat :=
  -- a quarter of the unit `2 ^ e` is the step
  let lower := if m = leastNormal ∧ e > -1074 then 4 * m - 1 else 4 * m - 2
  let upper := 4 * m + 2
  let e := e - 2
  let two := if 0 ≤ e then Nat.pow 2 e.toNat else 1
  let half := if 0 ≤ e then 1 else Nat.pow 2 (-e).toNat
  let ten := if 0 ≤ k then Nat.pow 10 k.toNat else 1
  let tenth := if 0 ≤ k then 1 else Nat.pow 10 (-k).toNat
  (4 * m * two * tenth, lower * two * tenth, upper * two * tenth, ten * half)

/-- Which of two decimals is chosen that are equally near to a number. -/
inductive TieRule where
  /-- the one with an even last digit -/
  | toEven
  /-- the one farther from zero -/
  | awayFromZero
  deriving Repr, DecidableEq

/-- Is `f` chosen of the decimals `f` and `f + 1`, which are equally near? -/
def TieRule.keeps : TieRule → Nat → Bool
  | toEven, f => f % 2 == 0
  | awayFromZero, _ => false

/-- The point of the grid `10 ^ k` nearest to the number `m · 2 ^ e`, if it reads back. -/
def gridPoint? (ties : TieRule) (m : Nat) (e k : Int) : Option Nat :=
  let (value, lower, upper, unit) := overCommon m e k
  let inside (n : Nat) : Bool :=
    if m % 2 = 0 then lower ≤ n * unit && n * unit ≤ upper
    else lower < n * unit && n * unit < upper
  let f := value / unit
  let below := inside f
  let above := inside (f + 1)
  if below && above then
    let past := value - f * unit
    let ahead := (f + 1) * unit - value
    if past < ahead || (past == ahead && ties.keeps f) then some f else some (f + 1)
  else if below then some f
  else if above then some (f + 1)
  else none

/-- The number without trailing zeros, and how many there were. -/
def withoutZeros : Nat → Nat → Nat × Nat
  | 0, n => (n, 0)
  | fuel + 1, n =>
    if n % 10 = 0 && n != 0 then
      let (r, z) := withoutZeros fuel (n / 10)
      (r, z + 1)
    else (n, 0)

/-- The shortest decimal `n · 10 ^ k` that reads back as the positive number `m · 2 ^ e`, and of
those the nearest. -/
def shortest (ties : TieRule) (m : Nat) (e : Int) : Nat × Int :=
  let (num, den) := ratio m e
  let top := decimalExponent num den
  let rec search : Nat → Nat → Nat × Int
    | 0, _ => (m, e)
    | fuel + 1, digits =>
      let k := top - (digits : Int) + 1
      match gridPoint? ties m e k with
      | some n =>
        let (n, z) := withoutZeros 20 n
        (n, k + z)
      | none => search fuel (digits + 1)
  search 17 1

/-- The decimal `n · 10 ^ k` without an exponent, with no point in a whole number. -/
def positionalDigits (n : Nat) (k : Int) : String :=
  let ds := (toString n).toList
  let zeros (n : Nat) : List Char := List.replicate n '0'
  if 0 ≤ k then String.ofList (ds ++ zeros k.toNat)
  else
    let places := (-k).toNat
    if places < ds.length then
      String.ofList (ds.take (ds.length - places) ++ '.' :: ds.drop (ds.length - places))
    else "0." ++ String.ofList (zeros (places - ds.length) ++ ds)

/-- The text of a number in positional notation; of two equally near decimals the one farther from
zero is written. -/
def positional : Binary64 → String
  | .nan => "NaN"
  | .infinite s => (if s then "-" else "") ++ "inf"
  | .finite s m e =>
    let sign := if s then "-" else ""
    if m = 0 then sign ++ "0"
    else
      let (n, k) := shortest .awayFromZero m e
      sign ++ positionalDigits n k

/-! ### Reading -/

/-- Why a text is no floating-point number. -/
inductive Fault where
  | empty
  | invalid
  deriving Repr, DecidableEq

/-- The report for a reader. -/
def Fault.message : Fault → String
  | .empty => "cannot parse float from empty string"
  | .invalid => "invalid float literal"

/-- The exponent part: nothing, or `e` with an optional sign and digits. -/
def readExponent : List Char → Option Int
  | [] => some 0
  | c :: cs =>
    if c = 'e' || c = 'E' then
      let (negative, cs) :=
        match cs with
        | '+' :: cs => (false, cs)
        | '-' :: cs => (true, cs)
        | cs => (false, cs)
      let (ds, rest) := spanDigits 10 cs
      if ds.isEmpty || !rest.isEmpty then none
      else
        let n : Int := ofDigits 10 ds
        some (if negative then -n else n)
    else none

/-- A number without its sign: a word, or digits with an optional point and exponent, at least one
digit being on either side of the point. -/
def readUnsigned (negative : Bool) (cs : List Char) : Option Binary64 :=
  let word := cs.map Char.toLower
  if word = ['i', 'n', 'f'] || word = ['i', 'n', 'f', 'i', 'n', 'i', 't', 'y'] then
    some (.infinite negative)
  else if word = ['n', 'a', 'n'] then some .nan
  else
    let (whole, rest) := spanDigits 10 cs
    let (fraction, rest) :=
      match rest with
      | '.' :: rest => spanDigits 10 rest
      | rest => ([], rest)
    if whole.isEmpty && fraction.isEmpty then none
    else
      (readExponent rest).map fun e =>
        ofDecimal negative (ofDigits 10 (whole ++ fraction)) (e - fraction.length)

/-- The number that a text writes. -/
def read (cs : List Char) : Except Fault Binary64 :=
  match cs with
  | [] => .error .empty
  | '+' :: cs => (readUnsigned false cs).elim (.error .invalid) .ok
  | '-' :: cs => (readUnsigned true cs).elim (.error .invalid) .ok
  | cs => (readUnsigned false cs).elim (.error .invalid) .ok

end Binary64

end Switchyard.Number
