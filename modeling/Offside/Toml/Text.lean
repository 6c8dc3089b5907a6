/-
**Texts and keys of TOML.**

A text stands between double quotes, where a backslash escapes, or between single quotes, where
nothing does. Tripled quotes enclose a text of several lines: a line break right after them is left
out, line breaks are line feeds, and up to two quotes may stand inside or at the end. A key is a
bare word or a text of one line.
-/

import Offside.Text.Reader
import Offside.Unicode.CodeRanges

namespace Offside.Toml

open Offside.Text (Reader)
open Offside.Text.Reader

/-- The blanks within a line. -/
def isSpace (c : Char) : Bool := c == ' ' || c == '\t'

/-- The characters that may stand in a line: the tab, and everything but controls. -/
def isPrintable (c : Char) : Bool := c == '\t' || (' ' ≤ c && c ≠ '\x7F')

/-- Blanks. -/
def spaces : Reader Unit := do
  let _ ← takeWhile isSpace

/-- A line break. -/
def newline : Reader Unit := exactly '\n' <|> word ['\r', '\n']

/-- A hexadecimal digit. -/
def isHexDigit (c : Char) : Bool :=
  c.isDigit || ('a' ≤ c && c ≤ 'f') || ('A' ≤ c && c ≤ 'F')

/-- The character with a code point of the given number of hexadecimal digits. -/
def codePoint (digits : Nat) : Reader Char := do
  let digits ← exactlyMany isHexDigit digits
  let code := Unicode.hexValue digits
  if code.isValidChar then return Char.ofNat code else failure

/-- What is escaped after a backslash. -/
def escaped : Reader Char := do
  match ← one fun _ => true with
  | 'b' => return '\x08'
  | 't' => return '\t'
  | 'n' => return '\n'
  | 'f' => return '\x0C'
  | 'r' => return '\r'
  | '"' => return '"'
  | '\\' => return '\\'
  | 'u' => codePoint 4
  | 'U' => codePoint 8
  | _ => failure

/-- A piece of a text in double quotes. -/
def basicPiece : Reader (List Char) :=
  takeWhile1 (fun c => isPrintable c && c ≠ '"' && c ≠ '\\') <|> do
    exactly '\\'
    return [← escaped]

/-- A text of one line in double quotes. -/
def basicText : Reader (List Char) := do
  exactly '"'
  let pieces ← many basicPiece
  exactly '"'
  return pieces.flatten

/-- A text of one line in single quotes. -/
def literalText : Reader (List Char) := do
  exactly '\''
  let chars ← takeWhile fun c => isPrintable c && c ≠ '\''
  exactly '\''
  return chars

/-- A line break with the blanks and line breaks after it. -/
def blankLines : Reader Unit := do
  newline
  let _ ← many (newline <|> do let _ ← one isSpace)

/-- One or two quotes before something else. -/
def loneQuotes (quote : Char) : Reader (List Char) := fun text =>
  let run := text.takeWhile (· == quote)
  if run.length = 1 ∨ run.length = 2 then some (run, text.dropWhile (· == quote)) else none

/-- Three quotes, with up to two more before them that belong to the text. -/
def lastQuotes (quote : Char) : Reader (List Char) := fun text =>
  let run := (text.take 5).takeWhile (· == quote)
  if 3 ≤ run.length then some (run.drop 3, text.drop run.length) else none

/-- A text of several lines, made of pieces, between tripled quotes. -/
def tripled (quote : Char) (piece : Reader (List Char)) : Reader (List Char) := do
  word [quote, quote, quote]
  let _ ← optional? newline
  let pieces ← many (piece <|> (do newline; return ['\n']) <|> loneQuotes quote)
  let last ← lastQuotes quote
  return pieces.flatten ++ last

/-- A text of several lines in double quotes. A backslash at the end of a line takes the line break
and the blanks after it away. -/
def basicLines : Reader (List Char) :=
  tripled '"' (basicPiece <|> do
    exactly '\\'
    spaces
    blankLines
    return [])

/-- A text of several lines in single quotes. -/
def literalLines : Reader (List Char) :=
  tripled '\'' (takeWhile1 fun c => isPrintable c && c ≠ '\'')

/-- A text of either kind. -/
def text : Reader (List Char) := basicLines <|> basicText <|> literalLines <|> literalText

/-- The characters of bare keys. -/
def isBareKey (c : Char) : Bool := c.isAlphanum || c == '-' || c == '_'

/-- A key without dots. -/
def simpleKey : Reader String := do
  return String.ofList (← takeWhile1 isBareKey <|> basicText <|> literalText)

/-- The greatest number of parts of a key, and the greatest depth of nested values. -/
def nestingLimit : Nat := 79

/-- A key whose parts are separated by dots. -/
def dottedKey : Reader (List String) := do
  let parts ← separated1 (do spaces; let key ← simpleKey; spaces; return key) (exactly '.')
  if parts.length ≤ nestingLimit then return parts else failure

end Offside.Toml
