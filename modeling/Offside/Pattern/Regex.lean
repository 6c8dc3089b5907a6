/-
**Regular expressions with preferences.**

A `Regex` describes pieces of text, and among several ways to match it prefers one: of two
alternatives the first, of a greedy repetition the longer one, of a lazy one the shorter one.
Assertions look at the characters on both sides of a position and take none. Counted repetitions
are spelled out by `Regex.repeated`.
-/

import Offside.Unicode.Query

namespace Offside.Pattern

open Unicode (CharSet)

/-- What a position between two characters may be asked for. The flag of the word assertions
chooses between the words of Unicode and those of ASCII. -/
inductive Assertion
  | textStart
  | textEnd
  | lineStart
  | lineEnd
  /-- The start of a line where a carriage return, a line feed or both end a line. -/
  | crlfLineStart
  /-- The end of a line where a carriage return, a line feed or both end a line. -/
  | crlfLineEnd
  | wordBoundary (unicode : Bool)
  | noWordBoundary (unicode : Bool)
  | wordStart (unicode : Bool)
  | wordEnd (unicode : Bool)
  | wordStartHalf (unicode : Bool)
  | wordEndHalf (unicode : Bool)
  deriving DecidableEq

/-- The characters of words in ASCII: letters, digits and the low line. -/
def asciiWord : CharSet :=
  .unionOf [.range 'a' 'z', .range 'A' 'Z', .range '0' '9', .single '_']

/-- Whether a neighbour of a position is a character of a word. -/
def inWord (unicode : Bool) (neighbour : Option Char) : Bool :=
  match neighbour with
  | none => false
  | some c => if unicode then CharSet.word.contains c else asciiWord.contains c

namespace Assertion

/-- Whether the assertion holds between the given neighbours; a missing neighbour is the start or
the end of the text. -/
def holds (before after : Option Char) : Assertion → Bool
  | textStart => before.isNone
  | textEnd => after.isNone
  | lineStart => before.isNone || before == some '\n'
  | lineEnd => after.isNone || after == some '\n'
  | crlfLineStart =>
    before.isNone || before == some '\n' || (before == some '\r' && after != some '\n')
  | crlfLineEnd =>
    after.isNone || after == some '\r' || (after == some '\n' && before != some '\r')
  | wordBoundary unicode => inWord unicode before != inWord unicode after
  | noWordBoundary unicode => inWord unicode before == inWord unicode after
  | wordStart unicode => !inWord unicode before && inWord unicode after
  | wordEnd unicode => inWord unicode before && !inWord unicode after
  | wordStartHalf unicode => !inWord unicode before
  | wordEndHalf unicode => !inWord unicode after

end Assertion

/-- A regular expression. -/
inductive Regex
  /-- Matches nothing but the empty text. -/
  | empty
  /-- One character of a set. -/
  | one (set : CharSet)
  | assert (assertion : Assertion)
  | seq (first second : Regex)
  /-- Either expression; the first is preferred. -/
  | alt (first second : Regex)
  /-- The expression or nothing. -/
  | opt (greedy : Bool) (body : Regex)
  /-- The expression any number of times. -/
  | star (greedy : Bool) (body : Regex)
  /-- The expression at least once. -/
  | plus (greedy : Bool) (body : Regex)

namespace Regex

/-- A text, character by character. -/
def verbatim : List Char → Regex
  | [] => .empty
  | [c] => .one (.single c)
  | c :: rest => .seq (.one (.single c)) (verbatim rest)

/-- Whether the expression can match without taking a character. -/
def nullable : Regex → Bool
  | empty => true
  | one _ => false
  | assert _ => true
  | seq first second => first.nullable && second.nullable
  | alt first second => first.nullable || second.nullable
  | opt _ _ => true
  | star _ _ => true
  | plus _ body => body.nullable

/-- Any number of times. A body that may take nothing is tried once before the loop is left, so
that what the body prefers is respected. -/
def anyNumber (greedy : Bool) (body : Regex) : Regex :=
  if body.nullable then .opt greedy (.plus greedy body) else .star greedy body

/-- Exactly `count` times, followed by `last`. -/
def timesThen (body last : Regex) : Nat → Regex
  | 0 => last
  | count + 1 => .seq body (timesThen body last count)

/-- At most `count` times. -/
def upTo (greedy : Bool) (body : Regex) : Nat → Regex
  | 0 => .empty
  | 1 => .opt greedy body
  | count + 2 => .opt greedy (.seq body (upTo greedy body (count + 1)))

/-- From `least` to `most` times, or any number from `least` on. -/
def repeated (greedy : Bool) (body : Regex) : Nat → Option Nat → Regex
  | 0, none => anyNumber greedy body
  | least + 1, none => timesThen body (.plus greedy body) least
  | 0, some most => upTo greedy body most
  | least + 1, some most =>
    if most ≤ least + 1 then timesThen body body least
    else timesThen body (upTo greedy body (most - (least + 1))) (least + 1)

end Regex

end Offside.Pattern
