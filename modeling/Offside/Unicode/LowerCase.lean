/-
**Lower case of texts.**

Uppercase and titlecase letters become lowercase letters one by one, with two exceptions: the dotted
capital I leaves a combining dot behind, and a capital sigma at the end of a word becomes the final
form.
-/

import Offside.Unicode.Later

namespace Offside.Unicode

/-- The lowercase letter of a letter, as a code point. Cherokee folds to upper case, so its capitals
are listed here. -/
def lowerCode (c : Char) : Nat :=
  let code := c.toNat
  if 0x13A0 ≤ code ∧ code ≤ 0x13EF then code + 0x97D0
  else if 0x13F0 ≤ code ∧ code ≤ 0x13F5 then code + 8
  else if (CharSet.union .uppercase (.listed Category.titlecaseLetter)).contains c then
    foldCode code
  else shiftedBy Later.capitalRuns code

/-- Whether the first character that does interrupt a word has case. -/
def meetsCased (text : List Char) : Bool :=
  match (text.dropWhile CharSet.latestCaseIgnorable.contains).head? with
  | none => false
  | some c => CharSet.latestCased.contains c

/-- The lower case of a character between the text before it, read backwards, and the text after
it. -/
def lowerChar (before : List Char) (c : Char) (after : List Char) : List Char :=
  if c = '\u0130' then ['i', '\u0307']
  else if c = '\u03A3' then
    if meetsCased before && !meetsCased after then ['\u03C2'] else ['\u03C3']
  else [Char.ofNat (lowerCode c)]

/-- The lower case of a text after another one that is given backwards. -/
def lowerAfter (before : List Char) : List Char → List Char
  | [] => []
  | c :: rest => lowerChar before c rest ++ lowerAfter (c :: before) rest

/-- The lower case of a text. -/
def lowerText (text : List Char) : List Char := lowerAfter [] text

end Offside.Unicode
