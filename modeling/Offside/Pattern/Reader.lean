/-
**Reading patterns.**

`Regex.ofPattern?` reads the text of a pattern. The reader walks over the text once, keeping the
groups that are open; each of them holds the alternatives read so far and the pieces of the current
one. Flags hold to the end of the group they are set in. A text that is no pattern has no meaning,
and neither has one that is nested more than 250 deep.
-/

import Offside.Pattern.Bracket
import Offside.Pattern.Outline
import Offside.Unicode.Later

namespace Offside.Pattern

open Unicode (CharSet caseVariants)

/-- A piece of a pattern: what it matches, how deep it is nested, and whether a repetition may
follow it. -/
structure Piece where
  outline : Outline
  depth : Nat
  repeatable : Bool

/-- A group that is not closed yet. -/
structure OpenGroup where
  /-- The alternatives before the current one, the latest first. -/
  alternatives : List Piece := []
  /-- The pieces of the current alternative, the latest first. -/
  pieces : List Piece := []
  /-- The number of the group, if it counts. -/
  number : Option Nat := none

namespace OpenGroup

/-- Adds a piece to the current alternative. -/
def add (group : OpenGroup) (piece : Piece) : OpenGroup :=
  { group with pieces := piece :: group.pieces }

/-- The deepest nesting of several pieces. -/
def deepest (pieces : List Piece) : Nat := (pieces.map (·.depth)).foldl max 0

/-- The current alternative as one piece. -/
def current (group : OpenGroup) : Piece :=
  match group.pieces with
  | [] => ⟨.empty, 0, true⟩
  | [only] => only
  | pieces => ⟨.sequence (pieces.reverse.map (·.outline)), deepest pieces + 1, true⟩

/-- Begins the next alternative. -/
def alternate (group : OpenGroup) : OpenGroup :=
  { group with alternatives := group.current :: group.alternatives, pieces := [] }

/-- All alternatives as one piece. -/
def whole (group : OpenGroup) : Piece :=
  match group.alternatives with
  | [] => group.current
  | earlier =>
    let all := group.current :: earlier
    ⟨.choice (all.reverse.map (·.outline)), deepest all + 1, true⟩

/-- The group as a piece of what is around it. -/
def closed (group : OpenGroup) : Piece :=
  let inner := group.whole
  match group.number with
  | none => ⟨inner.outline, inner.depth + 1, true⟩
  | some number => ⟨.group number inner.outline, inner.depth + 1, true⟩

end OpenGroup

/-- Where the reader stands: the innermost group, the groups around it with the flags that hold
after it, the flags that hold now, and the number and the names of the groups so far. -/
structure Reader where
  group : OpenGroup := {}
  outer : List (OpenGroup × Flags) := []
  flags : Flags := {}
  groups : Nat := 0
  names : List (List Char) := []

namespace Reader

/-- Adds a piece. -/
def add (reader : Reader) (piece : Piece) : Reader :=
  { reader with group := reader.group.add piece }

/-- Adds an assertion. -/
def addAssertion (reader : Reader) (assertion : Assertion) : Reader :=
  reader.add ⟨.assert assertion, 0, true⟩

/-- Adds a class that is nested to the given depth. -/
def addClass (reader : Reader) (set : CharSet) (depth : Nat) : Reader :=
  reader.add ⟨.ofSet reader.flags.unicode set, depth, true⟩

/-- Adds a character, in either case if case is ignored. -/
def addLiteral (reader : Reader) (c : Char) : Reader :=
  if !reader.flags.ignoreCase then reader.add ⟨.verbatim [c], 0, true⟩
  else if reader.flags.unicode then reader.addClass (.unionOf ((c :: caseVariants c).map .single)) 0
  else reader.addClass (.asciiCaseClosure (.single c)) 0

/-- Opens a group in which the given flags hold. -/
def openGroup (reader : Reader) (flags : Flags) : Reader :=
  { reader with
    group := {}
    outer := (reader.group, reader.flags) :: reader.outer
    flags := flags }

/-- Opens a group that counts. -/
def openNumbered (reader : Reader) : Reader :=
  let opened := reader.openGroup reader.flags
  { opened with
    group := { number := some (reader.groups + 1) }
    groups := reader.groups + 1 }

/-- Closes the innermost group. -/
def closeGroup (reader : Reader) : Option Reader :=
  match reader.outer with
  | [] => none
  | (parent, flags) :: outer =>
    some { reader with
      group := parent.add reader.group.closed
      outer := outer
      flags := flags }

/-- Repeats the last piece. -/
def repeatLast (reader : Reader) (least : Nat) (most : Option Nat) (lazy : Bool) :
    Option Reader :=
  match reader.group.pieces with
  | [] => none
  | piece :: earlier =>
    if piece.repeatable then
      let greedy := lazy == reader.flags.swapGreed
      let repeated : Piece :=
        ⟨.repetition greedy least most piece.outline, piece.depth + 1, true⟩
      some { reader with group := { reader.group with pieces := repeated :: earlier } }
    else none

end Reader

/-! ### Groups -/

/-- Whether a character may stand in the name of a group. -/
def isNameChar (first : Bool) (c : Char) : Bool :=
  c == '_' || CharSet.latestAlphabetic.contains c ||
    (!first && (c == '.' || c == '[' || c == ']' || CharSet.latestNumber.contains c))

/-- Reads the name of a group up to the closing angle bracket. -/
def readGroupName (text : List Char) : Option (List Char × List Char) :=
  let name := text.takeWhile (· ≠ '>')
  match text.dropWhile (· ≠ '>'), name with
  | '>' :: rest, first :: others =>
    if isNameChar true first && others.all (isNameChar false) then some (name, rest) else none
  | _, _ => none

/-- Opens a named group; a name is given once. -/
def openNamed (reader : Reader) (text : List Char) : Option (Reader × List Char) := do
  let (name, rest) ← readGroupName text
  if reader.names.contains name then none
  else some ({ reader.openNumbered with names := name :: reader.names }, rest)

/-- Reads what follows an opening parenthesis: a group, or flags for the rest of the group. -/
def readGroupStart (reader : Reader) (text : List Char) : Option (Reader × List Char) :=
  match skipSpace reader.flags.verbose text with
  | '?' :: '=' :: _ => none
  | '?' :: '!' :: _ => none
  | '?' :: '<' :: '=' :: _ => none
  | '?' :: '<' :: '!' :: _ => none
  | '?' :: 'P' :: '<' :: rest => openNamed reader rest
  | '?' :: '<' :: rest => openNamed reader rest
  | '?' :: rest => do
    let (list, rest) ← readFlags reader.flags [] false false rest
    if list.closing = ':' then some (reader.openGroup list.flags, rest)
    else if list.isEmpty then none
    else some ({ reader.add ⟨.empty, 0, false⟩ with flags := list.flags }, rest)
  | rest => some (reader.openNumbered, rest)

/-! ### Repetitions -/

/-- Reads the question mark that makes a repetition lazy. -/
def readLazy (text : List Char) : Bool × List Char :=
  match text with
  | '?' :: rest => (true, rest)
  | _ => (false, text)

/-- Reads digits; in verbose text there may be blanks and comments after each. -/
def readDigits (verbose inComment : Bool) : List Char → List Char × List Char
  | [] => ([], [])
  | c :: rest =>
    if inComment then readDigits verbose (c ≠ '\n') rest
    else if verbose && Text.isBlank c then readDigits verbose false rest
    else if verbose && c == '#' then readDigits verbose true rest
    else if c.isDigit then
      let (digits, rest) := readDigits verbose false rest
      (c :: digits, rest)
    else ([], c :: rest)

/-- The number that decimal digits write. -/
def decimalValue (digits : List Char) : Nat :=
  digits.foldl (fun value digit => 10 * value + (digit.toNat - '0'.toNat)) 0

/-- Reads a count below 2³², with blanks around it. -/
def readCount (verbose : Bool) (text : List Char) : Option (Nat × List Char) :=
  let (digits, rest) := readDigits verbose false (Text.afterBlanks text)
  let value := decimalValue digits
  if digits = [] ∨ Nat.pow 2 32 ≤ value then none else some (value, Text.afterBlanks rest)

/-- Reads the bounds of a counted repetition after the opening brace: `n}`, `n,}` or `n,m}`. -/
def readBounds (verbose : Bool) (text : List Char) : Option (Nat × Option Nat × List Char) := do
  let (least, rest) ← readCount verbose (skipSpace verbose text)
  match rest with
  | '\x7d' :: rest => some (least, some least, skipSpace verbose rest)
  | ',' :: rest =>
    match skipSpace verbose rest with
    | '\x7d' :: rest => some (least, none, skipSpace verbose rest)
    | rest =>
      let (most, rest) ← readCount verbose rest
      match rest with
      | '\x7d' :: rest =>
        if least ≤ most then some (least, some most, skipSpace verbose rest) else none
      | _ => none
  | _ => none

/-- Repeats the last piece, lazily if a question mark follows. -/
def readRepetition (reader : Reader) (least : Nat) (most : Option Nat) (text : List Char) :
    Option (Reader × List Char) :=
  let (lazy, rest) := readLazy text
  (reader.repeatLast least most lazy).map (·, rest)

/-! ### Whole patterns -/

/-- What the dot stands for; it needs Unicode, because otherwise it would split characters. -/
def dotSet (flags : Flags) : Option CharSet :=
  if !flags.unicode then none
  else if flags.dotAll then some .any
  else if flags.crlf then some (.compl (.union (.single '\n') (.single '\r')))
  else some (.compl (.single '\n'))

/-- The assertion of `^`. -/
def startAssertion (flags : Flags) : Assertion :=
  if !flags.multiLine then .textStart else if flags.crlf then .crlfLineStart else .lineStart

/-- The assertion of `$`. -/
def endAssertion (flags : Flags) : Assertion :=
  if !flags.multiLine then .textEnd else if flags.crlf then .crlfLineEnd else .lineEnd

/-- Takes the next piece of a pattern, whose first character is given apart. -/
def Reader.step (reader : Reader) (c : Char) (rest : List Char) : Option (Reader × List Char) :=
  match c with
  | '(' => readGroupStart reader rest
  | ')' => reader.closeGroup.map (·, rest)
  | '|' => some ({ reader with group := reader.group.alternate }, rest)
  | '[' => do
    let (cls, rest) ← readClass reader.flags rest
    some (reader.addClass cls.set cls.depth, rest)
  | '?' => readRepetition reader 0 (some 1) rest
  | '*' => readRepetition reader 0 none rest
  | '+' => readRepetition reader 1 none rest
  | '\x7b' => do
    let (least, most, rest) ← readBounds reader.flags.verbose rest
    readRepetition reader least most rest
  | '\\' => do
    match ← readEscape reader.flags rest with
    | (.literal d fromByte, rest) =>
      if fromByte && !reader.flags.unicode && 128 ≤ d.toNat then none
      else some (reader.addLiteral d, rest)
    | (.class set, rest) => some (reader.addClass set 0, rest)
    | (.assertion assertion, rest) => some (reader.addAssertion assertion, rest)
  | '.' => (dotSet reader.flags).map fun set => (reader.addClass set 0, rest)
  | '^' => some (reader.addAssertion (startAssertion reader.flags), rest)
  | '$' => some (reader.addAssertion (endAssertion reader.flags), rest)
  | _ => some (reader.addLiteral c, rest)

/-- Reads pieces to the end of the text. No step gives characters back. -/
def Reader.read (reader : Reader) (text : List Char) : Option Reader :=
  match _skipped : skipSpace reader.flags.verbose text with
  | [] => some reader
  | c :: rest =>
    match reader.step c rest with
    | none => none
    | some (next, left) => if left.length ≤ rest.length then next.read left else none
termination_by text.length
decreasing_by
  have shorter := length_skipSpace_le reader.flags.verbose text
  simp only [_skipped, List.length_cons] at shorter
  omega

/-- How deep a pattern may be nested. -/
def nestingLimit : Nat := 250

/-- Reads a pattern. -/
def Regex.ofPattern? (text : List Char) : Option Regex := do
  let reader ← ({} : Reader).read text
  let whole := reader.group.whole
  if reader.outer.isEmpty ∧ whole.depth ≤ nestingLimit then some whole.outline.regex else none

/-- What compiles the text of a pattern, or refuses it and says why. An engine may refuse a pattern
for its size. -/
abbrev Engine := List Char → Except String Regex

/-- The engine that refuses nothing but texts that are no patterns. What it says of these is left
out. -/
def Engine.unlimited : Engine := fun text => (Regex.ofPattern? text).elim (.error "") .ok

theorem Engine.unlimited_eq_ok_iff {text : List Char} {regex : Regex} :
    Engine.unlimited text = .ok regex ↔ Regex.ofPattern? text = some regex := by
  rw [unlimited]
  cases Regex.ofPattern? text with
  | none => exact ⟨fun refused => (by cases refused), fun absent => (by cases absent)⟩
  | some read =>
    exact ⟨fun same => congrArg some (Except.ok.inj same),
      fun same => congrArg Except.ok (Option.some.inj same)⟩

/-- Writes a text as a pattern that matches it and nothing else. -/
def escape (text : List Char) : List Char :=
  text.flatMap fun c => if metaCharacters.contains c then ['\\', c] else [c]

end Offside.Pattern
