/-
**Escapes.**

What may follow a backslash in a pattern: punctuation that stands for itself, control characters,
code points in hexadecimal, classes of characters and assertions.
-/

import Offside.Pattern.Flags

namespace Offside.Pattern

open Unicode (CharSet)

/-- What an escape stands for. -/
inductive Escape
  /-- One character; `fromByte` if it was written with two hexadecimal digits. -/
  | literal (c : Char) (fromByte : Bool)
  | class (set : CharSet)
  | assertion (assertion : Assertion)

/-- The characters that have a meaning in patterns. -/
def metaCharacters : List Char :=
  ['\\', '.', '+', '*', '?', '(', ')', '|', '[', ']', '\x7b', '\x7d', '^', '$', '#', '&', '-', '~']

/-- Whether a backslash before the character is superfluous: the character is of ASCII, and neither
a letter nor a digit nor an angle bracket. -/
def standsForItself (c : Char) : Bool :=
  c.toNat < 128 && !c.isAlphanum && c ≠ '<' && c ≠ '>'

/-- The blanks of ASCII. -/
def asciiBlank : CharSet := .union (.range '\t' '\r') (.single ' ')

/-! ### Code points in hexadecimal -/

/-- Whether a character is a hexadecimal digit. -/
def isHexDigit (c : Char) : Bool :=
  ('0' ≤ c && c ≤ '9') || ('a' ≤ c && c ≤ 'f') || ('A' ≤ c && c ≤ 'F')

/-- The character that hexadecimal digits write, if there is one. -/
def charOfHex? (digits : List Char) : Option Char :=
  let code := Unicode.hexValue digits
  if code.isValidChar then some (Char.ofNat code) else none

/-- Reads a given number of hexadecimal digits. -/
def readHexDigits (verbose : Bool) : Nat → List Char → Option (List Char × List Char)
  | 0, text => some ([], text)
  | _ + 1, [] => none
  | count + 1, c :: rest =>
    if isHexDigit c then
      (readHexDigits verbose count (skipSpace verbose rest)).map fun (digits, rest) =>
        (c :: digits, rest)
    else none

/-- Reads up to a closing brace, leaving out what means nothing in verbose text. -/
def readBraced (verbose inComment : Bool) : List Char → Option (List Char × List Char)
  | [] => none
  | c :: rest =>
    if inComment then readBraced verbose (c ≠ '\n') rest
    else if verbose && Text.isBlank c then readBraced verbose false rest
    else if verbose && c == '#' then readBraced verbose true rest
    else if c = '\x7d' then some ([], rest)
    else (readBraced verbose false rest).map fun (body, rest) => (c :: body, rest)

/-- Reads a code point after `\x`, `\u` or `\U`: as many digits as given, or any number of them in
braces. -/
def readCodePoint (verbose : Bool) (digits : Nat) (text : List Char) :
    Option (Escape × List Char) :=
  match skipSpace verbose text with
  | '\x7b' :: rest => do
    let (body, rest) ← readBraced verbose false rest
    if body = [] ∨ !body.all isHexDigit then none
    else
      let c ← charOfHex? body
      some (.literal c false, skipSpace verbose rest)
  | text => do
    let (body, rest) ← readHexDigits verbose digits text
    let c ← charOfHex? body
    some (.literal c (digits = 2), rest)

/-! ### Classes -/

/-- The set that a property query between braces asks for, and whether it asks for the
complement: `name`, `name=value`, `name:value` or `name!=value`. -/
def propertySet? (query : List Char) : Option (CharSet × Bool) :=
  let (name, rest) := cutAtUnequal query
  match rest with
  | some value => (CharSet.ofPropertyValue? name value).map (·, true)
  | none =>
    let separator := if query.contains ':' then ':' else '='
    if query.contains separator then
      (CharSet.ofPropertyValue? (query.takeWhile (· ≠ separator))
        ((query.dropWhile (· ≠ separator)).drop 1)).map (·, false)
    else (CharSet.ofName? query).map (·, false)
where
  /-- The parts before and after the first `!=`. -/
  cutAtUnequal : List Char → List Char × Option (List Char)
    | [] => ([], none)
    | '!' :: '=' :: rest => ([], some rest)
    | c :: rest => (c :: (cutAtUnequal rest).1, (cutAtUnequal rest).2)

/-- A set as the flags have it, closed under case if case is ignored, and then its complement if
asked for. Without Unicode there are no complements, because they would split characters. -/
def Flags.adjust (flags : Flags) (negated : Bool) (set : CharSet) : Option CharSet :=
  let closed :=
    if flags.ignoreCase then (if flags.unicode then .caseClosure set else .asciiCaseClosure set)
    else set
  if negated then (if flags.unicode then some (.compl closed) else none) else some closed

/-- Reads the property after `\p` or `\P`: one letter, or a query in braces. -/
def readProperty (flags : Flags) (negated : Bool) (text : List Char) :
    Option (Escape × List Char) :=
  if !flags.unicode then none
  else
    match skipSpace flags.verbose text with
    | [] => none
    | '\\' :: _ => none
    | '\x7b' :: rest => do
      let (query, rest) ← readBraced flags.verbose false rest
      let (set, unequal) ← propertySet? query
      let set ← flags.adjust (negated != unequal) set
      some (.class set, rest)
    | letter :: rest => do
      let set ← CharSet.ofName? [letter]
      let set ← flags.adjust negated set
      some (.class set, skipSpace flags.verbose rest)

/-- The class that a letter after the backslash stands for, or its complement. -/
def shorthandClass (flags : Flags) (negated : Bool) (unicode ascii : CharSet) :
    Option CharSet :=
  if flags.unicode then some (if negated then .compl unicode else unicode)
  else if negated then none
  else some ascii

/-! ### Assertions -/

/-- Reads `{start}`, `{end}`, `{start-half}` or `{end-half}` after `\b`. Nothing is read, and the
boundary is a plain one, if the brace is not followed by a letter or a hyphen, as before a count. -/
def readBoundary (flags : Flags) (text : List Char) : Option (Escape × List Char) :=
  let plain := Escape.assertion (.wordBoundary flags.unicode)
  match text with
  | '\x7b' :: inner =>
    match skipSpace flags.verbose inner with
    | [] => none
    | first :: _ =>
      if !(first.isAlpha || first == '-') then some (plain, text)
      else do
        let (body, rest) ← readBraced flags.verbose false inner
        if body = "start".toList then some (.assertion (.wordStart flags.unicode), rest)
        else if body = "end".toList then some (.assertion (.wordEnd flags.unicode), rest)
        else if body = "start-half".toList then
          some (.assertion (.wordStartHalf flags.unicode), rest)
        else if body = "end-half".toList then
          some (.assertion (.wordEndHalf flags.unicode), rest)
        else none
  | _ => some (plain, text)

/-- Reads what follows a backslash. -/
def readEscape (flags : Flags) : List Char → Option (Escape × List Char)
  | [] => none
  | c :: rest =>
    let literal (d : Char) : Option (Escape × List Char) := some (.literal d false, rest)
    let assertion (a : Assertion) : Option (Escape × List Char) := some (.assertion a, rest)
    let shorthand (negated : Bool) (unicode ascii : CharSet) : Option (Escape × List Char) :=
      (shorthandClass flags negated unicode ascii).map fun set => (.class set, rest)
    if standsForItself c then literal c
    else
      match c with
      | 'x' => readCodePoint flags.verbose 2 rest
      | 'u' => readCodePoint flags.verbose 4 rest
      | 'U' => readCodePoint flags.verbose 8 rest
      | 'p' => readProperty flags false rest
      | 'P' => readProperty flags true rest
      | 'd' => shorthand false CharSet.digit (.range '0' '9')
      | 'D' => shorthand true CharSet.digit (.range '0' '9')
      | 's' => shorthand false .blank asciiBlank
      | 'S' => shorthand true .blank asciiBlank
      | 'w' => shorthand false CharSet.word asciiWord
      | 'W' => shorthand true CharSet.word asciiWord
      | 'a' => literal '\x07'
      | 'f' => literal '\x0C'
      | 't' => literal '\t'
      | 'n' => literal '\n'
      | 'r' => literal '\r'
      | 'v' => literal '\x0B'
      | 'A' => assertion .textStart
      | 'z' => assertion .textEnd
      | 'b' => readBoundary flags rest
      | 'B' => assertion (.noWordBoundary flags.unicode)
      | '<' => assertion (.wordStart flags.unicode)
      | '>' => assertion (.wordEnd flags.unicode)
      | _ => none

end Offside.Pattern
