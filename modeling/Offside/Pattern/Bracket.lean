/-
**Bracketed classes.**

A class between brackets is a union of characters, ranges, escapes, named classes such as
`[:alpha:]`, and further bracketed classes. The operators `&&`, `--` and `~~` between two unions
take their intersection, difference and symmetric difference, from left to right. A closing bracket
that stands first is a member, and so are hyphens that stand first, last or before another hyphen.
-/

import Offside.Pattern.Escape

namespace Offside.Pattern

open Unicode (CharSet)

/-- A part of a class, with the depth of its nesting. -/
structure ClassPart where
  set : CharSet
  depth : Nat

/-- The operators between the parts of a class. -/
inductive ClassOperator
  | intersection
  | difference
  | symmetricDifference

/-- The set that an operator makes of two. -/
def ClassOperator.apply : ClassOperator → CharSet → CharSet → CharSet
  | intersection, left, right => .inter left right
  | difference, left, right => .diff left right
  | symmetricDifference, left, right => .symmDiff left right

/-- A class that is not closed yet. -/
structure OpenClass where
  negated : Bool
  /-- What stands before the last operator, and that operator. -/
  pending : Option (ClassPart × ClassOperator) := none
  /-- The parts since the last operator, the latest first. -/
  parts : List ClassPart := []

namespace OpenClass

/-- Adds a part. -/
def add (cls : OpenClass) (part : ClassPart) : OpenClass :=
  { cls with parts := part :: cls.parts }

/-- The union of the parts since the last operator. -/
def union (cls : OpenClass) : ClassPart :=
  match cls.parts with
  | [] => ⟨.empty, 0⟩
  | [only] => only
  | parts => ⟨.unionOf (parts.reverse.map (·.set)), (parts.map (·.depth)).foldl max 0 + 1⟩

/-- Everything so far: the union since the last operator, joined by it to what stands before. -/
def whole (flags : Flags) (cls : OpenClass) : ClassPart :=
  match cls.pending with
  | none => cls.union
  | some (left, operator) =>
    let right := cls.union
    let closed (set : CharSet) : CharSet :=
      if flags.ignoreCase then (if flags.unicode then .caseClosure set else .asciiCaseClosure set)
      else set
    ⟨operator.apply (closed left.set) (closed right.set), max left.depth right.depth + 1⟩

/-- Goes on after an operator. -/
def operate (flags : Flags) (operator : ClassOperator) (cls : OpenClass) : OpenClass :=
  { cls with pending := some (cls.whole flags, operator), parts := [] }

/-- Closes the class. -/
def close (flags : Flags) (cls : OpenClass) : Option ClassPart :=
  let whole := cls.whole flags
  (flags.adjust cls.negated whole.set).map fun set => ⟨set, whole.depth + 1⟩

end OpenClass

/-! ### Members -/

/-- One end of a range, or a member that is no single character. -/
inductive ClassMember
  | literal (c : Char)
  | set (set : CharSet)

/-- A character as a member; without Unicode it has to be one of ASCII. -/
def literalMember (flags : Flags) (c : Char) : Option ClassMember :=
  if flags.unicode || c.toNat < 128 then some (.literal c) else none

/-- Reads a character or an escape. -/
def readMember (flags : Flags) : List Char → Option (ClassMember × List Char)
  | [] => none
  | '\\' :: rest => do
    match ← readEscape flags rest with
    | (.literal c _, rest) => (literalMember flags c).map (·, rest)
    | (.class set, rest) => some (.set set, rest)
    | (.assertion _, _) => none
  | c :: rest => (literalMember flags c).map (·, rest)

/-- The character after the current one that decides whether a hyphen joins a range. In verbose
text blanks are passed over, and one number sign. -/
def peekAfter (verbose : Bool) (rest : List Char) : Option Char :=
  if verbose then passOver false rest else rest.head?
where
  /-- The first character that is not passed over; if there is none, the first of all. -/
  passOver (marked : Bool) : List Char → Option Char
    | [] => rest.head?
    | c :: more =>
      if Text.isBlank c then passOver marked more
      else if c = '#' ∧ !marked then passOver true more
      else some c

/-- Reads a character, a range or an escape. -/
def readRange (flags : Flags) (text : List Char) : Option (ClassPart × List Char) := do
  let (first, rest) ← readMember flags text
  let alone : Option (ClassPart × List Char) :=
    match first with
    | .literal c => some (⟨.single c, 0⟩, skipSpace flags.verbose rest)
    | .set set => some (⟨set, 0⟩, skipSpace flags.verbose rest)
  match skipSpace flags.verbose rest with
  | [] => none
  | '-' :: rest =>
    let next := peekAfter flags.verbose rest
    if next == some ']' || next == some '-' then alone
    else
      match ← readMember flags (skipSpace flags.verbose rest), first with
      | (.literal last, rest), .literal first =>
        if first ≤ last then some (⟨.range first last, 0⟩, rest) else none
      | _, _ => none
  | _ => alone

/-- The characters of ASCII that a name such as `alpha` stands for. -/
def namedClass? (name : String) : Option CharSet :=
  let upper := CharSet.range 'A' 'Z'
  let lower := CharSet.range 'a' 'z'
  let digit := CharSet.range '0' '9'
  match name with
  | "alnum" => some (.unionOf [digit, upper, lower])
  | "alpha" => some (.union upper lower)
  | "ascii" => some (.range '\x00' '\x7F')
  | "blank" => some (.union (.single '\t') (.single ' '))
  | "cntrl" => some (.union (.range '\x00' '\x1F') (.single '\x7F'))
  | "digit" => some digit
  | "graph" => some (.range '!' '~')
  | "lower" => some lower
  | "print" => some (.range ' ' '~')
  | "punct" =>
    some (.unionOf [.range '!' '/', .range ':' '@', .range '[' '\x60', .range '\x7b' '~'])
  | "space" => some asciiBlank
  | "upper" => some upper
  | "word" => some asciiWord
  | "xdigit" => some (.unionOf [digit, .range 'A' 'F', .range 'a' 'f'])
  | _ => none

/-- Reads a named class after its opening bracket; nothing is read if there is none. -/
def readNamedClass? (text : List Char) : Option (Bool × CharSet × List Char) :=
  match text with
  | ':' :: rest =>
    let (negated, rest) : Bool × List Char :=
      match rest with
      | '^' :: rest => (true, rest)
      | _ => (false, rest)
    match rest.dropWhile (· ≠ ':') with
    | ':' :: ']' :: after =>
      (namedClass? (String.ofList (rest.takeWhile (· ≠ ':')))).map fun set => (negated, set, after)
    | _ => none
  | _ => none

/-- Reads the start of a class after its opening bracket: the negation sign, and the hyphens or the
closing bracket that are members because they stand first. -/
def readClassStart (flags : Flags) (text : List Char) : Option (OpenClass × List Char) :=
  match skipSpace flags.verbose text with
  | '^' :: rest => leadingHyphens { negated := true } (skipSpace flags.verbose rest)
  | text => leadingHyphens { negated := false } text
where
  /-- Takes the members that stand first. -/
  leadingHyphens (cls : OpenClass) (text : List Char) : Option (OpenClass × List Char) :=
    match text with
    | [] => none
    | ']' :: rest =>
      if cls.parts.isEmpty then
        match skipSpace flags.verbose rest with
        | [] => none
        | rest => some (cls.add ⟨.single ']', 0⟩, rest)
      else some (cls, text)
    | '-' :: rest =>
      if (skipSpace flags.verbose rest).length ≤ rest.length then
        leadingHyphens (cls.add ⟨.single '-', 0⟩) (skipSpace flags.verbose rest)
      else none
    | _ => some (cls, text)
  termination_by text.length

/-! ### Whole classes -/

/-- The classes around the one being read. -/
abbrev OuterClasses := List OpenClass

/-- One step in the reading of a class. -/
inductive ClassStep
  /-- The outermost class is closed. -/
  | done (part : ClassPart) (rest : List Char)
  /-- Reading goes on. -/
  | more (cls : OpenClass) (outer : OuterClasses) (rest : List Char)

/-- Reads the next part or operator of a class, or its end. -/
def stepClass (flags : Flags) (cls : OpenClass) (outer : OuterClasses) :
    List Char → Option ClassStep
  | [] => none
  | '[' :: rest =>
    match readNamedClass? rest with
    | some (negated, set, rest) =>
      (flags.adjust negated set).map fun set => .more (cls.add ⟨set, 0⟩) outer rest
    | none =>
      (readClassStart flags rest).map fun (inner, rest) => .more inner (cls :: outer) rest
  | ']' :: rest => do
    let part ← cls.close flags
    match outer with
    | [] => some (.done part rest)
    | parent :: outer => some (.more (parent.add part) outer rest)
  | '&' :: '&' :: rest => some (.more (cls.operate flags .intersection) outer rest)
  | '-' :: '-' :: rest => some (.more (cls.operate flags .difference) outer rest)
  | '~' :: '~' :: rest => some (.more (cls.operate flags .symmetricDifference) outer rest)
  | text => (readRange flags text).map fun (part, rest) => .more (cls.add part) outer rest

/-- Reads a class up to the end of the outermost bracket. Every step takes at least one
character. -/
def readClassRest (flags : Flags) (cls : OpenClass) (outer : OuterClasses) (text : List Char) :
    Option (ClassPart × List Char) :=
  match stepClass flags cls outer (skipSpace flags.verbose text) with
  | none => none
  | some (.done part rest) => some (part, rest)
  | some (.more cls outer rest) =>
    if rest.length < text.length then readClassRest flags cls outer rest else none
termination_by text.length

/-- Reads a bracketed class after its opening bracket. -/
def readClass (flags : Flags) (text : List Char) : Option (ClassPart × List Char) := do
  let (cls, rest) ← readClassStart flags text
  readClassRest flags cls [] rest

end Offside.Pattern
