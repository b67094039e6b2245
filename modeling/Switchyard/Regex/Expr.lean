import Switchyard.Regex.CharSet

/-!
# Regular expressions

The expressions that a constraint on a path segment is made of, and the texts that they match. An
assertion looks at the characters around a place, so matching is a relation on a place in a text:
the text before it, the part that is matched, and the text behind.

## Main results

* `Regex.Matches`: when an expression matches a part of a text.
-/

namespace Switchyard

/-- A condition on the place between two characters. -/
inductive Look where
  /-- the start of the text -/
  | start
  /-- the end of the text -/
  | stop
  /-- the start of a line; with `crlf`, a line may also end with a carriage return -/
  | lineStart (crlf : Bool)
  | lineStop (crlf : Bool)
  /-- the edge of a word; with `ascii`, only ASCII characters make words -/
  | wordEdge (ascii : Bool)
  | noWordEdge (ascii : Bool)
  | wordStart (ascii : Bool)
  | wordStop (ascii : Bool)
  /-- no word character before the place -/
  | wordStartHalf (ascii : Bool)
  /-- no word character behind the place -/
  | wordStopHalf (ascii : Bool)
  deriving Repr, DecidableEq

namespace Look

/-- Is the character part of a word? -/
def isWord (ascii : Bool) (c : Char) : Bool :=
  if ascii then c.isAlphanum || c = '_' else Unicode.inRanges Unicode.wordCharacters c.toNat

/-- Does the condition hold between these two characters, where there are any? -/
def holds (look : Look) (before after : Option Char) : Bool :=
  match look with
  | .start => before.isNone
  | .stop => after.isNone
  | .lineStart false => before.isNone || before == some '\n'
  | .lineStop false => after.isNone || after == some '\n'
  | .lineStart true =>
    before.isNone || before == some '\n' || (before == some '\r' && after != some '\n')
  | .lineStop true =>
    after.isNone || after == some '\r' || (after == some '\n' && before != some '\r')
  | .wordEdge ascii => before.any (isWord ascii) != after.any (isWord ascii)
  | .noWordEdge ascii => before.any (isWord ascii) == after.any (isWord ascii)
  | .wordStart ascii => !before.any (isWord ascii) && after.any (isWord ascii)
  | .wordStop ascii => before.any (isWord ascii) && !after.any (isWord ascii)
  | .wordStartHalf ascii => !before.any (isWord ascii)
  | .wordStopHalf ascii => !after.any (isWord ascii)

end Look

/-- A regular expression. -/
inductive Regex where
  /-- the empty text -/
  | empty
  /-- one character of a set -/
  | chars (set : CharSet)
  | look (condition : Look)
  | seq (a b : Regex)
  | alt (a b : Regex)
  /-- at least `least` and, if there is a bound, at most `most` times the expression -/
  | rep (e : Regex) (least : Nat) (most : Option Nat)
  deriving Repr, DecidableEq

namespace Regex

/-- One expression after the other. -/
def seqAll : List Regex → Regex
  | [] => .empty
  | [e] => e
  | e :: es => .seq e (seqAll es)

/-- Any one of the expressions. -/
def altAll : List Regex → Regex
  | [] => .chars .empty
  | [e] => e
  | e :: es => .alt e (altAll es)

mutual

/-- `Matches e before text after` : at the place behind `before` the expression matches `text`,
behind which `after` follows. -/
inductive Matches : Regex → List Char → List Char → List Char → Prop where
  | empty {before after} : Matches .empty before [] after
  | chars {set c before after} : set.contains c = true → Matches (.chars set) before [c] after
  | look {condition before after} : condition.holds before.getLast? after.head? = true →
      Matches (.look condition) before [] after
  | seq {a b before s t after} : Matches a before s (t ++ after) →
      Matches b (before ++ s) t after → Matches (.seq a b) before (s ++ t) after
  | altLeft {a b before s after} : Matches a before s after → Matches (.alt a b) before s after
  | altRight {a b before s after} : Matches b before s after → Matches (.alt a b) before s after
  | rep {e least most n before s after} : least ≤ n → (∀ m, most = some m → n ≤ m) →
      MatchesTimes e n before s after → Matches (.rep e least most) before s after

/-- The expression matches the text in a number of parts, one behind the other. -/
inductive MatchesTimes : Regex → Nat → List Char → List Char → List Char → Prop where
  | none {e before after} : MatchesTimes e 0 before [] after
  | next {e n before s t after} : Matches e before s (t ++ after) →
      MatchesTimes e n (before ++ s) t after → MatchesTimes e (n + 1) before (s ++ t) after

end

/-- The expression matches some part of the text. -/
def MatchesWithin (e : Regex) (text : List Char) : Prop :=
  ∃ before part after, text = before ++ part ++ after ∧ Matches e before part after

/-- The expression matches the whole text. -/
def MatchesWhole (e : Regex) (text : List Char) : Prop :=
  Matches e [] text []

/-- About the size of the machine that searches for an expression, in bytes: what is repeated counts
once for each copy. A machine that reads UTF-8 needs more for a set of characters than one entry for
each range, so that a large expression may weigh less than its machine. -/
def weight : Regex → Nat
  | .empty => 32
  | .chars set => if set.size ≤ 1 then 32 else 32 + 40 * (set.size - 1)
  | .look _ => 32
  | .seq a b => a.weight + b.weight
  | .alt a b => a.weight + b.weight + 40
  | .rep e least none => e.weight * max 1 least + 40
  | .rep e least (some most) => e.weight * most + 40 * (most - least) + 32

end Regex

end Switchyard
