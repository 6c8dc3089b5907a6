/-
**Outlines of patterns.**

The outline of a pattern says what follows what, and between what there is a choice, in a form that
does not depend on how the pattern was written. Characters that follow one another are one text; a
class of one character is that character, and a choice between characters or between classes is a
class; what all branches of a choice begin with stands before the choice. The last rule decides what
a pattern prefers: `.*?b|.*?c` is `.*?` followed by one of `b` and `c`, so that of `cb` it takes the
first character alone.

A sequence is kept as its first part and the rest, and so is a choice; `parts` and `branches` give
them as lists, and `ofParts` and `ofBranches` take such lists back.
-/

import Offside.Pattern.Regex
import Offside.Unicode.Boundary

namespace Offside.Pattern

open Unicode (CharSet CodeRanges)

/-- The outline of a pattern. -/
inductive Outline
  /-- Matches nothing but the empty text. -/
  | empty
  /-- A text that matches itself. -/
  | verbatim (text : List Char)
  /-- One character of several. Classes written for Unicode and for ASCII alone differ, even if they
  have the same members. -/
  | one (unicode : Bool) (members : CodeRanges)
  | assert (assertion : Assertion)
  /-- A group that counts, with its number in the pattern. -/
  | group (number : Nat) (body : Outline)
  /-- A repetition; without `most` there is no bound. -/
  | repeated (greedy : Bool) (least : Nat) (most : Option Nat) (body : Outline)
  /-- The first part of a sequence and the rest. -/
  | seq (first rest : Outline)
  /-- The first branch of a choice and the rest; the first is preferred. -/
  | alt (first rest : Outline)
  deriving DecidableEq

namespace Outline

/-- The class of a set. A class of one character is that character. -/
def ofSet (unicode : Bool) (set : CharSet) : Outline :=
  match set.canonical.ranges with
  | [] => .one false ⟨[]⟩
  | [(first, last)] =>
    if first = last then .verbatim [Char.ofNat first] else .one unicode ⟨[(first, last)]⟩
  | ranges => .one unicode ⟨ranges⟩

/-! ### Sequences -/

/-- The parts of a sequence; anything else is a sequence of itself alone. -/
def parts : Outline → List Outline
  | empty => []
  | seq first rest => first :: rest.parts
  | other => [other]

/-- The sequence of several parts. -/
def ofParts : List Outline → Outline
  | [] => .empty
  | [only] => only
  | first :: rest => .seq first (ofParts rest)

/-- Puts a part before others; two texts become one. -/
def joinPart : Outline → List Outline → List Outline
  | .verbatim text, .verbatim more :: rest => .verbatim (text ++ more) :: rest
  | part, rest => part :: rest

/-- Several outlines one after the other. -/
def sequence (outlines : List Outline) : Outline :=
  ofParts ((outlines.flatMap parts).foldr joinPart [])

/-! ### Choices -/

/-- The branches of a choice; anything else is a choice of itself alone. -/
def branches : Outline → List Outline
  | alt first rest => first :: rest.branches
  | other => [other]

/-- The choice between several branches. -/
def ofBranches : List Outline → Outline
  | [] => .one false ⟨[]⟩
  | [only] => only
  | first :: rest => .alt first (ofBranches rest)

/-- The character of a text of one character, as a set. -/
def character? : Outline → Option CharSet
  | .verbatim [c] => some (.single c)
  | _ => none

/-- The members of a class. -/
def members? : Outline → Option CharSet
  | .one _ members => some (.listed members)
  | _ => none

/-- A choice between branches that are no choices: a class if all of them are characters or all of
them are classes. -/
def merge (branches : List Outline) : Outline :=
  match branches with
  | [] => ofBranches []
  | [only] => only
  | branches =>
    match branches.mapM character? <|> branches.mapM members? with
    | some sets => ofSet true (.unionOf sets)
    | none => ofBranches branches

/-- The parts of a sequence of at least two. -/
def sequence? : Outline → Option (List Outline)
  | seq first rest => some (first :: rest.parts)
  | _ => none

/-- What two lists begin with alike. -/
def sharedStart (first second : List Outline) : List Outline :=
  ((first.zip second).takeWhile fun pair => pair.1 = pair.2).map (·.1)

/-- A choice between several outlines. If all branches are sequences that begin alike, the choice is
between what follows. -/
def choice (outlines : List Outline) : Outline :=
  let branches := outlines.flatMap branches
  match merge branches, branches.mapM sequence? with
  | .alt _ _, some (first :: others) =>
    let shared := others.foldl sharedStart first
    if shared.isEmpty then merge branches
    else
      sequence (shared ++
        [merge (((first :: others).map fun parts => ofParts (parts.drop shared.length)).flatMap
          Outline.branches)])
  | merged, _ => merged

/-! ### Repetitions -/

/-- Whether the outline can match only without taking a character. -/
def takesNothing : Outline → Bool
  | empty => true
  | verbatim _ => false
  | one _ _ => false
  | assert _ => true
  | group _ body => body.takesNothing
  | repeated _ _ _ body => body.takesNothing
  | seq first rest => first.takesNothing && rest.takesNothing
  | alt first rest => first.takesNothing && rest.takesNothing

/-- A repetition. What takes nothing is not repeated, and what is to be matched exactly once stands
for itself. -/
def repetition (greedy : Bool) (least : Nat) (most : Option Nat) (body : Outline) : Outline :=
  let (least, most) :=
    if body.takesNothing then (min least 1, some (min (most.getD 1) 1)) else (least, most)
  if most = some 0 then .empty
  else if least = 1 ∧ most = some 1 then body
  else .repeated greedy least most body

/-! ### Meaning -/

/-- The regular expression of an outline. -/
def regex : Outline → Regex
  | empty => .empty
  | verbatim text => .verbatim text
  | one _ members => .one (.listed members)
  | assert assertion => .assert assertion
  | group _ body => body.regex
  | repeated greedy least most body => .repeated greedy body.regex least most
  | seq first rest => .seq first.regex rest.regex
  | alt first rest => .alt first.regex rest.regex

end Outline

end Offside.Pattern
