/-
**Blank characters.**

Blanks are the characters with the Unicode property White_Space, twenty-five of them. The leading
blanks of a line are its indentation, and the line that points at a column copies blanks and turns
everything else into spaces, so that tabs keep both lines aligned.
-/

namespace Offside.Text

/-- Whether a character has the property White_Space. -/
def isBlank (c : Char) : Bool :=
  let code := c.toNat
  (0x09 ≤ code && code ≤ 0x0D) || code == 0x20 || code == 0x85 || code == 0xA0 ||
    code == 0x1680 || (0x2000 ≤ code && code ≤ 0x200A) || code == 0x2028 || code == 0x2029 ||
    code == 0x202F || code == 0x205F || code == 0x3000

/-- The run of blanks at the start of a text. -/
def leadingBlanks (text : List Char) : List Char := text.takeWhile isBlank

/-- What follows the run of blanks at the start of a text. -/
def afterBlanks (text : List Char) : List Char := text.dropWhile isBlank

/-- A line that holds nothing but blanks. -/
def isBlankLine (line : List Char) : Bool := line.all isBlank

/-- A blank stays, any other character becomes a space. -/
def blanked (c : Char) : Char := if isBlank c then c else ' '

/-- The first `width` characters of a line, blanks kept and everything else turned into spaces;
beyond the end of the line there are spaces. -/
def blankPrefix (line : List Char) (width : Nat) : List Char :=
  (line.take width).map blanked ++ List.replicate (width - line.length) ' '

theorem leadingBlanks_append_afterBlanks (text : List Char) :
    leadingBlanks text ++ afterBlanks text = text :=
  List.takeWhile_append_dropWhile

end Offside.Text
