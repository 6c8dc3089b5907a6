/-
**Quoted texts.**

A text is shown between double quotes, with a backslash before quotes and backslashes, and with
escapes for the characters that would not be visible by themselves: those that extend the character
before them, controls, characters without a shape, those that are invisible by default, and all
separators but the space. The voicing marks of halfwidth Katakana extend the character before them
too, but as letters they take a place of their own and are shown.
-/

import Offside.Unicode.Later

namespace Offside.Text

/-- The characters that would not be visible, and the space. -/
def invisible : Unicode.CharSet :=
  .unionOf [.latestOther, .separator, .diff .latestGraphemeExtend .letter,
    .listed Unicode.Listed.defaultIgnorable]

/-- Whether a character is shown as it stands. -/
def isVisible (c : Char) : Bool :=
  c == ' ' || !invisible.contains c

/-- A character between quotes. -/
def quotedChar (c : Char) : List Char :=
  match c with
  | '\x00' => ['\\', '0']
  | '\t' => ['\\', 't']
  | '\r' => ['\\', 'r']
  | '\n' => ['\\', 'n']
  | '"' => ['\\', '"']
  | '\\' => ['\\', '\\']
  | c =>
    if isVisible c then [c]
    else ['\\', 'u', '\x7b'] ++ Nat.toDigits 16 c.toNat ++ ['\x7d']

/-- A text between quotes. -/
def quoted (text : List Char) : List Char := '"' :: (text.flatMap quotedChar ++ ['"'])

end Offside.Text
