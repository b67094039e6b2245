import Switchyard.Number.Digit
import Switchyard.Text.Split

/-!
# Network addresses

Reading an IPv4 address, and checking that a text is an address with a port: `1.2.3.4:80`, or an
IPv6 address in brackets, with an optional numeric zone, as in `[fe80::1%2]:80`. Every reader takes
what it needs from the start of a text and answers the rest.
-/

namespace Switchyard.Web

open Number (ofDigits spanDigits)
open Text (dropChar?)

/-- A number of at least one digit, up to a greatest value. -/
def takeNumber (base greatest : Nat) (cs : List Char) : Option (Nat × List Char) :=
  let (ds, rest) := spanDigits base cs
  if ds.isEmpty || greatest < ofDigits base ds then none else some (ofDigits base ds, rest)

/-- A number of at least one and at most `places` digits. -/
def takeShort (base places : Nat) (cs : List Char) : Option (Nat × List Char) :=
  let (ds, rest) := spanDigits base cs
  if ds.isEmpty || places < ds.length then none else some (ofDigits base ds, rest)

/-- A number from 0 to 255 without leading zeros. -/
def takeOctet (cs : List Char) : Option (Nat × List Char) :=
  match takeShort 10 3 cs with
  | none => none
  | some (n, rest) =>
    if 255 < n || (cs.head? == some '0' && cs.length != rest.length + 1) then none
    else some (n, rest)

/-- Four octets with points between them. -/
def takeIPv4 (cs : List Char) : Option (List Nat × List Char) := do
  let (a, cs) ← takeOctet cs
  let (b, cs) ← takeOctet (← dropChar? '.' cs)
  let (c, cs) ← takeOctet (← dropChar? '.' cs)
  let (d, cs) ← takeOctet (← dropChar? '.' cs)
  return ([a, b, c, d], cs)

/-- The IPv4 address that a text writes. -/
def readIPv4? (text : String) : Option (List Nat) :=
  match takeIPv4 text.toList with
  | some (octets, []) => some octets
  | _ => none

/-- What separates a group from the one before it. -/
def takeSeparator (index : Nat) (cs : List Char) : Option (List Char) :=
  if index = 0 then some cs else dropChar? ':' cs

/-- Up to `limit` groups of an IPv6 address, of which `index` are read: how many there are,
whether the last two are written as an IPv4 address, and the rest. -/
def takeGroups (index : Nat) : Nat → List Char → Nat × Bool × List Char
  | 0, cs => (index, false, cs)
  | limit + 1, cs =>
    match (if limit = 0 then none else (takeSeparator index cs).bind takeIPv4) with
    | some (_, rest) => (index + 2, true, rest)
    | none =>
      match (takeSeparator index cs).bind (takeShort 16 4) with
      | some (_, rest) => takeGroups (index + 1) limit rest
      | none => (index, false, cs)

/-- An IPv6 address: eight groups, or fewer around one `::`. -/
def takeIPv6 (cs : List Char) : Option (List Char) :=
  let (size, ipv4, rest) := takeGroups 0 8 cs
  if size = 8 then some rest
  else if ipv4 then none
  else
    match (dropChar? ':' rest).bind (dropChar? ':') with
    | none => none
    | some rest =>
      let (_, _, rest) := takeGroups 0 (7 - size) rest
      some rest

/-- A colon and a port. -/
def takePort (cs : List Char) : Option (List Char) :=
  ((dropChar? ':' cs).bind (takeNumber 10 65535)).map (·.2)

/-- An optional zone of an IPv6 address. -/
def skipZone (cs : List Char) : List Char :=
  match (dropChar? '%' cs).bind (takeNumber 10 4294967295) with
  | some (_, rest) => rest
  | none => cs

/-- Is the text an address with a port? -/
def isSocketAddress (text : String) : Bool :=
  let cs := text.toList
  let v4 := (takeIPv4 cs).bind fun (_, rest) => takePort rest
  let v6 := (dropChar? '[' cs).bind fun cs => (takeIPv6 cs).bind fun rest =>
    (dropChar? ']' (skipZone rest)).bind takePort
  v4 == some [] || v6 == some []

end Switchyard.Web
