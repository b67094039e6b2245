import Switchyard.Number.Digit
import Switchyard.Unicode.Age
import Switchyard.Unicode.CaseVariant
import Switchyard.Unicode.Category
import Switchyard.Unicode.Property
import Switchyard.Unicode.Script
import Switchyard.Unicode.ScriptExtension
import Switchyard.Unicode.TextBreak

/-!
# Looking up Unicode classes by name

Names are compared loosely: letter case, blanks, underscores and hyphens do not count, nor does a
leading `is`. A class is a list of ranges of code points.
-/

namespace Switchyard.Unicode

open Number (hexDigit?)

/-- The ranges written by their ends in hexadecimal. `lo` is the lower end once its hyphen is
read, `acc` the number being read, if any. -/
def readRanges (lo : Option Nat) (acc : Option Nat) : List Char → List (Nat × Nat)
  | [] => acc.toList.map fun hi => (lo.getD hi, hi)
  | c :: cs =>
    if c = ' ' || c = '\n' then
      (acc.toList.map fun hi => (lo.getD hi, hi)) ++ readRanges none none cs
    else if c = '-' then readRanges acc none cs
    else readRanges lo (some (acc.getD 0 * 16 + (hexDigit? c).getD 0)) cs

/-- The ranges of a table entry. -/
def ranges (text : String) : List (Nat × Nat) :=
  readRanges none none text.toList

/-- The name as it stands in the tables. -/
def normalize (name : String) : String :=
  let (isPart, cs) :=
    match name.toList with
    | 'i' :: 's' :: cs => (true, cs)
    | 'I' :: 's' :: cs => (true, cs)
    | 'i' :: 'S' :: cs => (true, cs)
    | 'I' :: 'S' :: cs => (true, cs)
    | cs => (false, cs)
  let kept := (cs.filter fun c => c ≠ ' ' && c ≠ '_' && c ≠ '-' && c.toNat < 128).map Char.toLower
  if isPart && kept = ['c'] then "isc" else String.ofList kept

/-- The entry of a table with this name. -/
def rangesOf? (table : List (List String × String)) (name : String) : Option (List (Nat × Nat)) :=
  (table.find? fun (names, _) => names.contains name).map fun (_, text) => ranges text

/-- What the entries of a table leave out. -/
def remainder (table : List (List String × String)) : List (Nat × Nat) :=
  let taken := (table.flatMap fun (_, text) => ranges text).mergeSort fun a b => a.1 ≤ b.1
  let (gaps, start) := taken.foldl
    (fun (gaps, start) (lo, hi) =>
      if start < lo then ((start, lo - 1) :: gaps, hi + 1) else (gaps, max start (hi + 1)))
    ([], 0)
  (if start ≤ 0x10FFFF then (start, 0x10FFFF) :: gaps else gaps).reverse

/-- The categories that a group of categories holds. -/
def members (name : String) : Option (List String) :=
  match name with
  | "c" | "other" => some ["cc", "cf", "cn", "co"]
  | "l" | "letter" => some ["ll", "lm", "lo", "lt", "lu"]
  | "lc" | "casedletter" => some ["ll", "lt", "lu"]
  | "m" | "mark" | "combiningmark" => some ["mc", "me", "mn"]
  | "n" | "number" => some ["nd", "nl", "no"]
  | "p" | "punctuation" | "punct" => some ["pc", "pd", "pe", "pf", "pi", "po", "ps"]
  | "s" | "symbol" => some ["sc", "sk", "sm", "so"]
  | "z" | "separator" => some ["zl", "zp", "zs"]
  | _ => none

/-- The ranges of one category. -/
def singleCategory? (name : String) : Option (List (Nat × Nat)) :=
  if name = "cn" || name = "unassigned" then some (remainder categories)
  else rangesOf? categories name

/-- The ranges of a category or of a group of categories, by its normalized name. -/
def category? (name : String) : Option (List (Nat × Nat)) :=
  match name with
  | "any" => some [(0, 0x10FFFF)]
  | "ascii" => some [(0, 0x7F)]
  | "assigned" => some (categories.flatMap fun (_, text) => ranges text)
  | _ =>
    match members name with
    | some names => some (names.flatMap fun n => (singleCategory? n).getD [])
    | none => singleCategory? name

/-- The ranges of a script, by its normalized name. -/
def script? (name : String) : Option (List (Nat × Nat)) :=
  rangesOf? scripts name

/-- Is the code point in one of the ranges? -/
def inRanges (rs : List (Nat × Nat)) (n : Nat) : Bool :=
  rs.any fun (lo, hi) => lo ≤ n && n ≤ hi

/-- The ranges without the code points of other ranges. -/
def without (rs taken : List (Nat × Nat)) : List (Nat × Nat) :=
  taken.foldl
    (fun rs (lo, hi) => rs.flatMap fun (a, b) =>
      if b < lo || hi < a then [(a, b)]
      else (if a < lo then [(a, lo - 1)] else []) ++ (if hi < b then [(hi + 1, b)] else []))
    rs

/-- The characters of a script and those that it shares with other scripts. What is common to all
scripts, or inherits its script, is shared by no script in particular. -/
def scriptExtension? (name : String) : Option (List (Nat × Nat)) :=
  (script? name).map fun own =>
    if name = "zyyy" || name = "common" || name = "zinh" || name = "inherited" || name = "qaai" then
      without own (sharedCharacters.flatMap fun (_, text) => ranges text)
    else own ++ (rangesOf? sharedCharacters name).getD []

/-- The characters that a version of the standard or an older one added. -/
def assignedBy? (version : String) : Option (List (Nat × Nat)) :=
  (versions.findIdx? fun (names, _) => names.contains version).map fun i =>
    (versions.take (i + 1)).flatMap fun (_, text) => ranges text

/-- The ranges of a class that is named alone: a binary property, a category or a script. The
abbreviations that properties share with categories stand for the categories. -/
def class? (name : String) : Option (List (Nat × Nat)) :=
  let name := normalize name
  let property :=
    if name = "cf" || name = "sc" || name = "lc" then none else rangesOf? properties name
  property <|> category? name <|> script? name

/-- The ranges of a class that is named with its property. -/
def classOf? (property value : String) : Option (List (Nat × Nat)) :=
  match normalize property with
  | "gc" | "generalcategory" => category? (normalize value)
  | "sc" | "script" => script? (normalize value)
  | "scx" | "scriptextensions" => scriptExtension? (normalize value)
  | "age" => assignedBy? (normalize value)
  | "gcb" | "graphemeclusterbreak" => rangesOf? clusterBreaks (normalize value)
  | "wb" | "wordbreak" => rangesOf? wordBreaks (normalize value)
  | "sb" | "sentencebreak" => rangesOf? sentenceBreaks (normalize value)
  | _ => none

/-- The decimal digits. -/
def digits : List (Nat × Nat) :=
  (category? "nd").getD []

/-- The blanks. -/
def blanks : List (Nat × Nat) :=
  (rangesOf? properties "whitespace").getD []

/-- The letters, by the property Alphabetic. -/
def alphabetic : List (Nat × Nat) :=
  (rangesOf? properties "alphabetic").getD []

/-- The numbers of every kind. -/
def numeric : List (Nat × Nat) :=
  (category? "n").getD []

/-- The characters of words: letters, marks, decimal digits, connectors and joiners. -/
def wordCharacters : List (Nat × Nat) :=
  alphabetic ++ (category? "m").getD [] ++ digits ++ (category? "pc").getD []
    ++ (rangesOf? properties "joincontrol").getD []

/-- The groups of case variants. -/
def variantGroups : List (List Nat) :=
  (readGroups [] none caseGroups.toList)
where
  readGroups (group : List Nat) (acc : Option Nat) : List Char → List (List Nat)
    | [] => [group ++ acc.toList]
    | c :: cs =>
      if c = '|' then (group ++ acc.toList) :: readGroups [] none cs
      else if c = ' ' || c = '\n' then readGroups (group ++ acc.toList) none cs
      else readGroups group (some (acc.getD 0 * 16 + (hexDigit? c).getD 0)) cs

/-- The code points that simple case folding makes equal to this one, itself included. -/
def caseVariants (n : Nat) : List Nat :=
  (variantGroups.find? fun g => g.contains n).getD [n]

end Switchyard.Unicode
