/-
**Documents of TOML.**

A document is a sequence of lines: an assignment, a header that opens a table or the next table of
an array, a comment, or nothing. `ofText?` reads the lines and carries out the assignments one after
the other, and then moments take the place of the tables that stand for them. A text that breaks a
rule has no meaning.
-/

import Offside.Toml.Scalar

namespace Offside.Toml

open Offside.Text (Reader)
open Offside.Text.Reader

/-! ### Values -/

/-- A comment, up to the end of the line. -/
def comment : Reader Unit := do
  exactly '#'
  let _ ← takeWhile isPrintable

/-- Blanks, line breaks and comments between the items of an array. -/
def gap : Reader Unit := do
  let _ ← many ((do let _ ← one isSpace) <|> newline <|> comment)

/-- The items of an array after its bracket; a comma may follow the last one. -/
def items (value : Reader Value) : Reader (List Value) := do
  let items ← separated (do gap; let item ← value; gap; return item) (exactly ',')
  if !items.isEmpty then
    let _ ← optional? (exactly ',')
  gap
  return items

/-- An array. -/
def array (value : Reader Value) : Reader Value := do
  exactly '['
  let items ← items value
  exactly ']'
  return .array items

/-- A key with what is assigned to it. -/
def assignment (value : Reader Value) : Reader (List String × Value) := do
  let key ← dottedKey
  exactly '='
  spaces
  return (key, ← value)

/-- A table that is written as a value. Its keys may be dotted; when the table is complete, nothing
can be added any more. -/
def inlineTable (value : Reader Value) : Reader Value := do
  exactly '\x7b'
  let assignments ←
    separated (do let assigned ← assignment value; spaces; return assigned) (exactly ',')
  spaces
  exactly '\x7d'
  let table ← assignments.foldlM (fun (table : Value) (key, value) =>
    (Value.assign [] key.dropLast (key.getLastD "") value table : Option Value))
    (.table .header [])
  match table with
  | .table _ entries => return .table .inline entries
  | _ => failure

/-- A value with at most the given depth of nested values. -/
def value : Nat → Reader Value
  | 0 => scalar
  | depth + 1 => do
    match ← peek? with
    | some '[' => array (value depth)
    | some '\x7b' => inlineTable (value depth)
    | _ => scalar

/-! ### Lines -/

/-- What a line says. -/
inductive Statement
  /-- A value is assigned to a key. -/
  | assign (key : List String) (value : Value)
  /-- A table is opened. -/
  | openTable (key : List String)
  /-- The next table of an array is opened. -/
  | openItem (key : List String)
  /-- Nothing. -/
  | blank

/-- The end of the text. -/
def textEnd : Reader Unit := fun text => if text.isEmpty then some ((), text) else none

/-- The end of a line. -/
def lineEnd : Reader Unit := newline <|> textEnd

/-- Blanks, perhaps a comment, and the end of the line. -/
def restOfLine : Reader Unit := do
  spaces
  let _ ← optional? comment
  lineEnd

/-- A header. -/
def header : Reader Statement :=
  (do
    word ['[', '[']
    let key ← dottedKey
    word [']', ']']
    return .openItem key) <|> do
    exactly '['
    let key ← dottedKey
    exactly ']'
    return .openTable key

/-- A line, without the blanks that it begins with. -/
def statement : Reader Statement := do
  match ← peek? with
  | none => failure
  | some '#' =>
    comment
    lineEnd
    return .blank
  | some '[' =>
    let header ← header
    restOfLine
    return header
  | some '\n' =>
    newline
    return .blank
  | some '\r' =>
    newline
    return .blank
  | some _ =>
    let (key, value) ← assignment (value nestingLimit)
    restOfLine
    return .assign key value

/-- All lines of a document. -/
def statements : Reader (List Statement) := do
  let _ ← optional? (exactly '\uFEFF')
  spaces
  let statements ← many (do let line ← statement; spaces; return line)
  return statements

/-! ### Documents -/

/-- The document so far, and the key of the header above the next line. -/
structure Progress where
  header : List String
  root : Value

/-- Carries out what a line says. -/
def Progress.step (progress : Progress) : Statement → Option Progress
  | .assign key value => do
    let root ←
      Value.assign progress.header key.dropLast (key.getLastD "") value progress.root
    return { progress with root }
  | .openTable key => do
    return ⟨key, ← Value.openTable key.dropLast (key.getLastD "") progress.root⟩
  | .openItem key => do
    return ⟨key, ← Value.openItem key.dropLast (key.getLastD "") progress.root⟩
  | .blank => some progress

/-- The table that a document describes. -/
def ofText? (text : List Char) : Option Value := do
  let statements ← readAll? statements text
  let progress ← statements.foldlM Progress.step ⟨[], .table .header []⟩
  match ← progress.root.revealMoments with
  | .table form entries => return .table form entries
  | _ => failure

end Offside.Toml
