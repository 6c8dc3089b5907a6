/-
**JSON documents.**

Documents of texts, natural numbers, lists and records are written in one line, or with one item a
line and two spaces for every level of nesting. Quotes, backslashes and controls are escaped in
texts; every other character stands for itself.
-/

import Offside.Token

namespace Offside

/-- A document. -/
inductive Json
  | number (value : Nat)
  | text (chars : List Char)
  | array (items : List Json)
  | object (entries : List (String × Json))

namespace Json

/-- A character within a text. -/
def escape (c : Char) : List Char :=
  match c with
  | '"' => ['\\', '"']
  | '\\' => ['\\', '\\']
  | '\x08' => ['\\', 'b']
  | '\t' => ['\\', 't']
  | '\n' => ['\\', 'n']
  | '\x0C' => ['\\', 'f']
  | '\r' => ['\\', 'r']
  | c =>
    if c.toNat < 0x20 then
      ['\\', 'u', '0', '0', Nat.digitChar (c.toNat / 16), Nat.digitChar (c.toNat % 16)]
    else [c]

/-- A text between quotes. -/
def quote (chars : List Char) : List Char := '"' :: (chars.flatMap escape ++ ['"'])

/-! ### One line -/

mutual

/-- The document in one line. -/
def compact : Json → List Char
  | .number value => Text.decimal value
  | .text chars => quote chars
  | .array items => '[' :: List.intercalate [','] (compactItems items) ++ [']']
  | .object entries => '\x7b' :: List.intercalate [','] (compactEntries entries) ++ ['\x7d']

/-- Each item in one line. -/
def compactItems : List Json → List (List Char)
  | [] => []
  | item :: rest => compact item :: compactItems rest

/-- Each entry in one line. -/
def compactEntries : List (String × Json) → List (List Char)
  | [] => []
  | (key, value) :: rest => (quote key.toList ++ ':' :: compact value) :: compactEntries rest

end

/-! ### One item a line -/

/-- The start of a line at a level of nesting. -/
def margin (level : Nat) : List Char := '\n' :: List.replicate (2 * level) ' '

/-- Parts at a level of nesting, one a line, between brackets. -/
def block (opening closing : Char) (level : Nat) (parts : List (List Char)) : List Char :=
  if parts.isEmpty then [opening, closing]
  else
    opening :: List.intercalate [','] (parts.map fun part => margin (level + 1) ++ part) ++
      margin level ++ [closing]

mutual

/-- The document at a level of nesting, one item a line. -/
def prettyAt (level : Nat) : Json → List Char
  | .number value => Text.decimal value
  | .text chars => quote chars
  | .array items => block '[' ']' level (prettyItems (level + 1) items)
  | .object entries => block '\x7b' '\x7d' level (prettyEntries (level + 1) entries)

/-- Each item, one of its own items a line. -/
def prettyItems (level : Nat) : List Json → List (List Char)
  | [] => []
  | item :: rest => prettyAt level item :: prettyItems level rest

/-- Each entry, one item of its value a line. -/
def prettyEntries (level : Nat) : List (String × Json) → List (List Char)
  | [] => []
  | (key, value) :: rest =>
    (quote key.toList ++ ':' :: ' ' :: prettyAt level value) :: prettyEntries level rest

end

/-- The document, one item a line. -/
def pretty (document : Json) : List Char := prettyAt 0 document

end Json

/-- The token as a record. -/
def Token.toJson (token : Token) : Json :=
  .object
    [("kind", .text token.kind.toList), ("text", .text token.text), ("row", .number token.row),
     ("col", .number token.column)]

end Offside
