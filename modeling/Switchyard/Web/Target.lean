import Switchyard.Text.Split

/-!
# Request targets

The target of a request is a path with an optional query, the star, an absolute address, or a bare
authority. `pathOfTarget?` answers the path on which the request is routed; it is not decoded, and
query and fragment do not belong to it.
-/

namespace Switchyard.Web

/-- The greatest length of a target, in bytes. -/
def maxTargetLength : Nat := 65534

/-- A character that may stand in a path. -/
def isPathChar (c : Char) : Bool :=
  let n := c.toNat
  n == 0x21 || (0x24 ≤ n && n ≤ 0x3B) || n == 0x3D || (0x40 ≤ n && n ≤ 0x5F)
    || (0x61 ≤ n && n ≤ 0x7A) || n == 0x7C || 0x7E ≤ n
    || c = '"' || n == 0x7B || n == 0x7D

/-- A character that may stand in a query. -/
def isQueryChar (c : Char) : Bool :=
  let n := c.toNat
  n == 0x21 || (0x24 ≤ n && n ≤ 0x3B) || n == 0x3D || 0x3F ≤ n

/-- The path at the start of a text, if all of it is well formed up to the fragment. -/
def takePath? (cs : List Char) : Option (List Char) :=
  let isEnd (c : Char) := c = '?' || c = '#'
  let path := cs.takeWhile fun c => !isEnd c
  let query :=
    match cs.dropWhile (fun c => !isEnd c) with
    | '?' :: rest => Text.upTo '#' rest
    | _ => []
  if path.all isPathChar && query.all isQueryChar then some path else none

/-- A character that may stand in an authority. -/
def isAuthorityChar (c : Char) : Bool :=
  c.isAlphanum || "!$&'()*+,-.:;=@[]_~%".toList.contains c

/-- What is known of an authority while it is read. -/
structure AuthorityScan where
  colons : Nat := 0
  opened : Bool := false
  closed : Bool := false
  percent : Bool := false
  endsWithAt : Bool := false

namespace AuthorityScan

/-- The next character, or nothing if it cannot stand here. -/
def next (s : AuthorityScan) (c : Char) : Option AuthorityScan :=
  let s := { s with endsWithAt := false }
  if c = ':' then
    if 8 ≤ s.colons then none else some { s with colons := s.colons + 1 }
  else if c = '[' then
    if s.percent || s.opened then none else some { s with opened := true }
  else if c = ']' then
    if !s.opened || s.closed then none
    else some { s with closed := true, colons := 0, percent := false }
  else if c = '@' then some { s with colons := 0, percent := false, endsWithAt := true }
  else if c = '%' then some { s with percent := true }
  else if isAuthorityChar c then some s
  else none

/-- May the authority end here? -/
def mayEnd (s : AuthorityScan) : Bool :=
  s.opened == s.closed && s.colons ≤ 1 && !s.endsWithAt && !s.percent

end AuthorityScan

/-- Is the text an authority? The empty text is one. -/
def isAuthority (cs : List Char) : Bool :=
  match cs.foldlM AuthorityScan.next {} with
  | some s => s.mayEnd
  | none => false

/-- A character that may stand in the name of a scheme. -/
def isSchemeChar (c : Char) : Bool :=
  c.isAlphanum || c = '+' || c = '-' || c = '.' || c = '~'

/-- The greatest length of the name of a scheme. -/
def maxSchemeLength : Nat := 64

/-- The name of the scheme and what follows the slashes behind it, if there is one. -/
def splitScheme? (cs : List Char) : Option (List Char × List Char) :=
  match cs.dropWhile isSchemeChar with
  | ':' :: '/' :: '/' :: rest => some (cs.takeWhile isSchemeChar, rest)
  | _ => none

/-- The path of an absolute address behind its scheme: what follows the authority. -/
def pathBehindAuthority? (cs : List Char) : Option (List Char) :=
  let isEnd (c : Char) := c = '/' || c = '?' || c = '#'
  let authority := cs.takeWhile fun c => !isEnd c
  if authority.isEmpty || !isAuthority authority then none
  else
    (takePath? (cs.dropWhile fun c => !isEnd c)).map fun path =>
      if path.isEmpty then ['/'] else path

/-- The path of a target, if the target is well formed. A bare authority has the empty path. -/
def pathOfTarget? (target : String) : Option String :=
  let cs := target.toList
  if cs.isEmpty || maxTargetLength < target.utf8ByteSize then none
  else if cs = ['*'] then some "*"
  else
    match cs with
    | '/' :: _ => (takePath? cs).map String.ofList
    | _ =>
      match splitScheme? cs with
      | some (scheme, rest) =>
        if maxSchemeLength < scheme.length then none
        else (pathBehindAuthority? rest).map String.ofList
      | none => if isAuthority cs then some "" else none

end Switchyard.Web
