/-
**Readers.**

A reader takes something from the start of a text: it answers what it took and the text that is
left, or nothing. Readers are put together in sequence, as alternatives, of which the first that
succeeds is taken, and by repetition.
-/

namespace Offside.Text

/-- Takes something from the start of a text. -/
abbrev Reader (α : Type) := StateT (List Char) Option α

namespace Reader

/-- The next character, which is left in place. -/
def peek? : Reader (Option Char) := fun text => some (text.head?, text)

/-- One character of a class. -/
def one (isMember : Char → Bool) : Reader Char
  | c :: rest => if isMember c then some (c, rest) else none
  | [] => none

/-- A given character. -/
def exactly (c : Char) : Reader Unit := do
  let _ ← one (· == c)

/-- A given text. -/
def word : List Char → Reader Unit
  | [] => pure ()
  | c :: rest => do
    exactly c
    word rest

/-- The longest run of characters of a class. -/
def takeWhile (isMember : Char → Bool) : Reader (List Char) := fun text =>
  some (text.takeWhile isMember, text.dropWhile isMember)

/-- The longest run of characters of a class, of one character at least. -/
def takeWhile1 (isMember : Char → Bool) : Reader (List Char) := do
  let run ← takeWhile isMember
  if run.isEmpty then failure else return run

/-- As many characters of a class as are asked for. -/
def exactlyMany (isMember : Char → Bool) (count : Nat) : Reader (List Char) := fun text =>
  let run := text.take count
  if run.length = count && run.all isMember then some (run, text.drop count) else none

/-- What a reader takes, if it takes anything. -/
def optional? {α : Type} (reader : Reader α) : Reader (Option α) := fun text =>
  match reader text with
  | some (result, rest) => some (some result, rest)
  | none => some (none, text)

/-- What a reader takes again and again from a text, and what is left. -/
def repeated {α : Type} (reader : Reader α) (text : List Char) : List α × List Char :=
  match reader text with
  | none => ([], text)
  | some (result, rest) =>
    if _shorter : rest.length < text.length then
      let (results, rest) := repeated reader rest
      (result :: results, rest)
    else ([], text)
termination_by text.length

/-- Reads again and again, as long as something is taken. -/
def many {α : Type} (reader : Reader α) : Reader (List α) := fun text => some (repeated reader text)

/-- Reads once at least, with separators between. -/
def separated1 {α : Type} (reader : Reader α) (separator : Reader Unit) : Reader (List α) := do
  let first ← reader
  let others ← many do
    separator
    reader
  return first :: others

/-- Reads any number of times, with separators between. -/
def separated {α : Type} (reader : Reader α) (separator : Reader Unit) : Reader (List α) := do
  return ((← optional? (separated1 reader separator)).getD [])

/-- What a reader takes, if it takes the whole text. -/
def readAll? {α : Type} (reader : Reader α) (text : List Char) : Option α :=
  match reader text with
  | some (result, []) => some result
  | _ => none

end Reader

end Offside.Text
