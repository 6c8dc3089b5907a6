/-
**Physical lines.**

A document is read as a list of lines. A line ends after a line feed or at the end of the text; the
terminator, a line feed or a carriage return and a line feed, is left out. A carriage return
anywhere else belongs to the line. Bytes are decoded line by line, so that a line that is not
valid UTF-8 spoils neither the lines before it nor those after it.
-/

namespace Offside.Text

/-- The stretches of a list up to each separator, and whether the separator is there: it may be
missing after the last. -/
def stretches {α : Type} [DecidableEq α] (separator : α) : List α → List (List α × Bool)
  | [] => []
  | head :: rest =>
    if head = separator then ([], true) :: stretches separator rest
    else
      match stretches separator rest with
      | [] => [([head], false)]
      | (stretch, terminated) :: others => (head :: stretch, terminated) :: others

/-- A line that was ended by a line feed, without the carriage return before it. -/
def dropReturn (line : List Char) : List Char :=
  if line.getLast? = some '\r' then line.dropLast else line

/-- The text of a line without its terminator. -/
def lineText (line : List Char) (terminated : Bool) : List Char :=
  if terminated then dropReturn line else line

/-- A line of a document. -/
inductive Line
  | text (chars : List Char)
  /-- The bytes are not valid UTF-8. -/
  | malformed
  deriving DecidableEq

/-- The lines of a text. -/
def linesOfText (text : List Char) : List Line :=
  (stretches '\n' text).map fun (line, terminated) => .text (lineText line terminated)

/-- The number of bytes of a text in UTF-8. -/
def byteLength (text : List Char) : Nat := text.foldl (fun total c => total + c.utf8Size) 0

/-- The characters that bytes encode in UTF-8. -/
def decode? (bytes : List UInt8) : Option (List Char) :=
  (String.fromUTF8? ⟨bytes.toArray⟩).map String.toList

/-- The lines of a text in UTF-8. -/
def linesOfBytes (bytes : List UInt8) : List Line :=
  (stretches 10 bytes).map fun (line, terminated) =>
    match decode? line with
    | some chars => .text (lineText chars terminated)
    | none => .malformed

end Offside.Text
