import Switchyard.Json.Cursor
import Switchyard.Json.Value

/-!
# Reading JSON

Every reader takes what it needs at a cursor, and answers it with the cursor behind it or with the
first fault. A number whose digits do not fit 64 bits is read as its leading digits times a power
of ten.
-/

namespace Switchyard.Json

open Number (Binary64 digit? hexDigit?)

/-! ### Words and numbers -/

/-- The rest of a word such as `null`. -/
def readWord : List Char → Cursor → Except Error Cursor
  | [], cur => .ok cur
  | w :: ws, cur =>
    match cur.rest with
    | [] => cur.fail .endInValue
    | c :: rest => if c = w then readWord ws (cur.past c rest) else cur.failNext .expectedIdent

/-- A significand is a number of 64 bits. -/
def significandLimit : Nat := 0x10000000000000000

/-- An exponent is a number of 31 bits. -/
def exponentLimit : Nat := 0x80000000

/-- The magnitude of the least whole number. -/
def leastMagnitude : Nat := 0x8000000000000000

/-- The digits that can be added to the significand `acc` within its limit: the new significand, the
number of digits added, and the text behind them. -/
def takeSignificand (acc count : Nat) : List Char → Nat × Nat × List Char
  | [] => (acc, count, [])
  | c :: rest =>
    match digit? c with
    | none => (acc, count, c :: rest)
    | some d =>
      if acc * 10 + d < significandLimit then takeSignificand (acc * 10 + d) (count + 1) rest
      else (acc, count, c :: rest)

/-- The significand times a power of ten, each step rounded; `none` if it leaves the range. -/
def scale (x : Binary64) (exponent : Int) : Nat → Option Binary64
  | 0 => some x
  | fuel + 1 =>
    if exponent.natAbs ≤ 308 then
      let power := Binary64.ofDecimal false 1 exponent.natAbs
      if 0 ≤ exponent then
        let y := x.mul power
        if y.isInfinite then none else some y
      else some (x.div power)
    else if x.isZero then some x
    else if 0 ≤ exponent then none
    else scale (x.div (Binary64.ofDecimal false 1 308)) (exponent + 308) fuel

/-- The floating-point number of a significand and a power of ten. -/
def ofParts (positive : Bool) (significand : Nat) (exponent : Int) (cur : Cursor) :
    Except Error (Json × Cursor) :=
  match scale (Binary64.ofRatio false significand 1) exponent 12 with
  | some x => .ok (.real (if positive then x else x.neg), cur)
  | none => cur.fail .numberOutOfRange

/-- The digits of an exponent, `acc` being read; `none` if it leaves its limit. The text returned
starts behind the digit that left the range. -/
def takeExponent (acc count : Nat) : List Char → Option Nat × Nat × List Char
  | [] => (some acc, count, [])
  | c :: rest =>
    match digit? c with
    | none => (some acc, count, c :: rest)
    | some d =>
      if acc * 10 + d < exponentLimit then takeExponent (acc * 10 + d) (count + 1) rest
      else (none, count + 1, rest)

/-- The exponent part, which starts with its letter. -/
def readExponent (positive : Bool) (significand : Nat) (exponent : Int) (cur : Cursor) :
    Except Error (Json × Cursor) :=
  let cur := cur.next
  let (raises, cur) :=
    match cur.peek? with
    | some '+' => (true, cur.next)
    | some '-' => (false, cur.next)
    | _ => (true, cur)
  match cur.rest with
  | [] => cur.fail .endInValue
  | c :: rest =>
    match digit? c with
    | none => cur.failNext .invalidNumber
    | some d =>
      let cur := cur.past c rest
      match takeExponent d 0 cur.rest with
      | (some e, n, rest) =>
        ofParts positive significand (if raises then exponent + e else exponent - e)
          (cur.along n rest)
      | (none, n, rest) =>
        let cur := cur.along n rest
        if significand ≠ 0 && raises then cur.fail .numberOutOfRange
        else
          let zero := Binary64.ofRatio false 0 1
          .ok (.real (if positive then zero else zero.neg), cur.skip Char.isDigit)

/-- An exponent part if there is one. -/
def readOptionalExponent (positive : Bool) (significand : Nat) (exponent : Int) (cur : Cursor) :
    Except Error (Json × Cursor) :=
  match cur.peek? with
  | some 'e' => readExponent positive significand exponent cur
  | some 'E' => readExponent positive significand exponent cur
  | _ => ofParts positive significand exponent cur

/-- The fraction, which starts with the point. Digits that the significand cannot hold are
dropped. -/
def readFraction (positive : Bool) (significand : Nat) (exponent : Int) (cur : Cursor) :
    Except Error (Json × Cursor) :=
  let cur := cur.next
  let (significand, n, rest) := takeSignificand significand 0 cur.rest
  let cur := cur.along n rest
  match cur.peek? with
  | some c =>
    if c.isDigit then
      readOptionalExponent positive significand (exponent - n) (cur.skip Char.isDigit)
    else if n = 0 then cur.failNext .invalidNumber
    else readOptionalExponent positive significand (exponent - n) cur
  | none =>
    if n = 0 then cur.failNext .endInValue
    else readOptionalExponent positive significand (exponent - n) cur

/-- What follows the whole part of a number, all of whose digits are in the significand. -/
def readTail (positive : Bool) (significand : Nat) (cur : Cursor) :
    Except Error (Json × Cursor) :=
  match cur.peek? with
  | some '.' => readFraction positive significand 0 cur
  | some 'e' => readExponent positive significand 0 cur
  | some 'E' => readExponent positive significand 0 cur
  | _ =>
    if positive then .ok (.int significand, cur)
    else if significand = 0 || leastMagnitude < significand then
      .ok (.real (Binary64.ofRatio false significand 1).neg, cur)
    else .ok (.int (-significand), cur)

/-- A number behind its sign. -/
def readNumber (positive : Bool) (cur : Cursor) : Except Error (Json × Cursor) :=
  match cur.rest with
  | [] => cur.fail .endInValue
  | c :: rest =>
    match digit? c with
    | none => cur.failNext .invalidNumber
    | some 0 =>
      let cur := cur.past c rest
      match cur.peek? with
      | some c => if c.isDigit then cur.failNext .invalidNumber else readTail positive 0 cur
      | none => readTail positive 0 cur
    | some d =>
      let cur := cur.past c rest
      let (significand, n, rest) := takeSignificand d 0 cur.rest
      let cur := cur.along n rest
      match cur.peek? with
      | some c =>
        if c.isDigit then
          let far := cur.skip Char.isDigit
          let dropped : Int := (far.column : Int) - cur.column
          match far.peek? with
          | some '.' => readFraction positive significand dropped far
          | _ => readOptionalExponent positive significand dropped far
        else readTail positive significand cur
      | none => readTail positive significand cur

/-! ### Texts -/

/-- Four hexadecimal digits. -/
def readHex (cur : Cursor) : Except Error (Nat × Cursor) :=
  match cur.fourBytes with
  | none => (cur.skip fun _ => true).fail .endInString
  | some (taken, cur) =>
    match taken.mapM hexDigit? with
    | some [a, b, c, d] => .ok (((a * 16 + b) * 16 + c) * 16 + d, cur)
    | _ => cur.fail .invalidEscape

/-- The character of an escape `\u`, whose digits come next. A character beyond the first plane
is written as a pair of surrogates. -/
def readUnicode (cur : Cursor) : Except Error (Char × Cursor) := do
  let (n, cur) ← readHex cur
  if 0xDC00 ≤ n && n ≤ 0xDFFF then cur.fail .loneSurrogate
  else if n < 0xD800 || n > 0xDBFF then .ok (Char.ofNat n, cur)
  else
    match cur.rest with
    | [] => cur.fail .endInString
    | c :: rest =>
      if c ≠ '\\' then cur.failNext .endOfHexEscape
      else
        let cur := cur.past c rest
        match cur.rest with
        | [] => cur.fail .endInString
        | c :: rest =>
          if c ≠ 'u' then cur.failNext .endOfHexEscape
          else
            let (m, cur) ← readHex (cur.past c rest)
            if m < 0xDC00 || m > 0xDFFF then cur.fail .loneSurrogate
            else .ok (Char.ofNat (0x10000 + (n - 0xD800) * 0x400 + (m - 0xDC00)), cur)

/-- The character of an escape, behind its backslash. -/
def readEscape (cur : Cursor) : Except Error (Char × Cursor) :=
  match cur.rest with
  | [] => cur.fail .endInString
  | c :: rest =>
    let behind := cur.past c rest
    match c with
    | '"' => .ok ('"', behind)
    | '\\' => .ok ('\\', behind)
    | '/' => .ok ('/', behind)
    | 'b' => .ok (Char.ofNat 8, behind)
    | 'f' => .ok (Char.ofNat 12, behind)
    | 'n' => .ok ('\n', behind)
    | 'r' => .ok ('\r', behind)
    | 't' => .ok ('\t', behind)
    | 'u' => readUnicode behind
    | _ => cur.failNext .invalidEscape

/-- A text behind its opening quote; `acc` holds the characters read, last first. -/
def readText (acc : List Char) (cur : Cursor) : Nat → Except Error (String × Cursor)
  | 0 => cur.fail .endInString
  | fuel + 1 =>
    match cur.rest with
    | [] => cur.fail .endInString
    | c :: rest =>
      let next := cur.past c rest
      if c = '"' then .ok (String.ofList acc.reverse, next)
      else if c = '\\' then
        match readEscape next with
        | .ok (d, cur) => readText (d :: acc) cur fuel
        | .error e => .error e
      else if c.toNat < 32 then
        .error ⟨.controlCharacter, next.line, next.column⟩
      else readText (c :: acc) next fuel

/-! ### Values -/

/-- A list or an object nests at most this deep. -/
def depthLimit : Nat := 127

mutual

/-- A value, at a place where `depth` further levels may open. -/
def readValue (depth : Nat) (cur : Cursor) : Nat → Except Error (Json × Cursor)
  | 0 => cur.failNext .endInValue
  | fuel + 1 =>
    let cur := cur.skipBlanks
    match cur.peek? with
    | none => cur.failNext .endInValue
    | some c =>
      match c with
      | 'n' => (readWord ['u', 'l', 'l'] cur.next).map (.null, ·)
      | 't' => (readWord ['r', 'u', 'e'] cur.next).map (.bool true, ·)
      | 'f' => (readWord ['a', 'l', 's', 'e'] cur.next).map (.bool false, ·)
      | '-' => readNumber false cur.next
      | '"' => (readText [] cur.next (cur.rest.length + 1)).map fun (s, cur) => (.str s, cur)
      | '[' =>
        if depth = 0 then cur.failNext .tooDeep
        else
          (readItems (depth - 1) true [] cur.next fuel).map fun (js, cur) => (.arr js, cur)
      | '{' =>
        if depth = 0 then cur.failNext .tooDeep
        else
          (readFields (depth - 1) true [] cur.next fuel).map fun (fs, cur) => (ofFields fs, cur)
      | c => if c.isDigit then readNumber true cur else cur.failNext .expectedValue
  termination_by structural fuel => fuel

/-- The items of a list up to its closing bracket; `acc` holds those read, last first. -/
def readItems (depth : Nat) (first : Bool) (acc : List Json) (cur : Cursor) :
    Nat → Except Error (List Json × Cursor)
  | 0 => cur.failNext .endInList
  | fuel + 1 =>
    let cur := cur.skipBlanks
    match cur.peek? with
    | none => cur.failNext .endInList
    | some ']' => .ok (acc.reverse, cur.next)
    | some c =>
      if first then
        match readValue depth cur fuel with
        | .ok (j, cur) => readItems depth false (j :: acc) cur fuel
        | .error e => .error e
      else if c = ',' then
        let cur := cur.next.skipBlanks
        match cur.peek? with
        | some ']' => cur.failNext .trailingComma
        | none => cur.failNext .endInValue
        | some _ =>
          match readValue depth cur fuel with
          | .ok (j, cur) => readItems depth false (j :: acc) cur fuel
          | .error e => .error e
      else cur.failNext .expectedListCommaOrEnd
  termination_by structural fuel => fuel

/-- The fields of an object up to its closing brace; `acc` holds those read, last first. -/
def readFields (depth : Nat) (first : Bool) (acc : List (String × Json)) (cur : Cursor) :
    Nat → Except Error (List (String × Json) × Cursor)
  | 0 => cur.failNext .endInObject
  | fuel + 1 =>
    let cur := cur.skipBlanks
    match cur.peek? with
    | none => cur.failNext .endInObject
    | some '}' => .ok (acc.reverse, cur.next)
    | some c =>
      if first then
        if c = '"' then readField depth acc cur fuel else cur.failNext .keyMustBeString
      else if c = ',' then
        let cur := cur.next.skipBlanks
        match cur.peek? with
        | some '"' => readField depth acc cur fuel
        | some '}' => cur.failNext .trailingComma
        | some _ => cur.failNext .keyMustBeString
        | none => cur.failNext .endInValue
      else cur.failNext .expectedObjectCommaOrEnd
  termination_by structural fuel => fuel

/-- A field, whose opening quote comes next, and the fields behind it. -/
def readField (depth : Nat) (acc : List (String × Json)) (cur : Cursor) :
    Nat → Except Error (List (String × Json) × Cursor)
  | 0 => cur.failNext .endInObject
  | fuel + 1 =>
    match readText [] cur.next (cur.rest.length + 1) with
    | .error e => .error e
    | .ok (name, cur) =>
      let cur := cur.skipBlanks
      match cur.peek? with
      | none => cur.failNext .endInObject
      | some ':' =>
        match readValue depth cur.next fuel with
        | .ok (j, cur) => readFields depth false ((name, j) :: acc) cur fuel
        | .error e => .error e
      | some _ => cur.failNext .expectedColon
  termination_by structural fuel => fuel

end

/-- The value that a text writes, with nothing but blanks around it. -/
def read (s : String) : Except Error Json := do
  let cur := Cursor.start s
  let (j, cur) ← readValue depthLimit cur (2 * cur.rest.length + 2)
  let cur := cur.skipBlanks
  match cur.peek? with
  | none => .ok j
  | some _ => cur.failNext .trailingCharacters

end Switchyard.Json
