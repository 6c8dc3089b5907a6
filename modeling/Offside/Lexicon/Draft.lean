/-
**Rules before they are compiled.**

A `Draft` collects matchers by kind. Kinds keep the order in which they were first registered, and
a kind that is registered again keeps its place and gains matchers.
-/

import Offside.Failure
import Offside.Pattern.Reader

namespace Offside

/-- One way to recognize the text of a kind. -/
inductive Matcher
  /-- The text itself. -/
  | literal (text : List Char)
  /-- A piece of a regular expression. -/
  | regex (pattern : List Char)
  deriving DecidableEq

namespace Matcher

/-- What the matcher was declared with. -/
def source : Matcher → List Char
  | literal text => text
  | regex pattern => pattern

/-- The matcher as pattern text. -/
def pattern : Matcher → List Char
  | literal text => Pattern.escape text
  | regex pattern => pattern

/-- The text of a literal. -/
def literal? : Matcher → Option (List Char)
  | literal text => some text
  | regex _ => none

end Matcher

/-- Rules that are not compiled yet. -/
structure Draft where
  /-- The kinds in the order of their first registration, with their matchers. -/
  rules : List (String × List Matcher) := []
  reserved : ReservedKinds := {}
  /-- The kind whose matches are left out. -/
  ignored : Option String := none
  deriving DecidableEq

namespace Draft

/-- Adds matchers to the entry of a kind, or a new entry at the end. -/
def insert (kind : String) (matchers : List Matcher) :
    List (String × List Matcher) → List (String × List Matcher)
  | [] => [(kind, matchers)]
  | (other, known) :: rest =>
    if other = kind then (other, known ++ matchers) :: rest
    else (other, known) :: insert kind matchers rest

/-- Registers matchers under a kind. -/
def register (draft : Draft) (kind : String) (matchers : List Matcher) : Draft :=
  { draft with rules := insert kind matchers draft.rules }

/-- Registers texts under a kind. -/
def addLiterals (draft : Draft) (kind : String) (texts : List (List Char)) : Draft :=
  draft.register kind (texts.map .literal)

/-- Registers patterns under a kind. -/
def addRegexes (draft : Draft) (kind : String) (patterns : List (List Char)) : Draft :=
  draft.register kind (patterns.map .regex)

/-- The kinds in the order of their first registration. -/
def kinds (draft : Draft) : List String := draft.rules.map (·.1)

/-- The matchers of a kind. -/
def matchers? (draft : Draft) (kind : String) : Option (List Matcher) :=
  (draft.rules.find? fun rule => rule.1 == kind).map (·.2)

end Draft

end Offside
