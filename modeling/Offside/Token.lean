/-
**Tokens.**

A token is a piece of text with its kind and the place where it starts. Rules name their own kinds;
four more names are reserved for what the layout of lines produces: indents, deindents, newlines and
the end of input.
-/

namespace Offside

namespace Text

/-- A number in decimal digits. -/
def decimal (n : Nat) : List Char := Nat.toDigits 10 n

end Text

/-- A classified piece of text; rows and columns count from one. -/
structure Token where
  kind : String
  text : List Char
  row : Nat
  column : Nat
  deriving DecidableEq

namespace Token

/-- The kind and the text of a token, as in `NUM('42')`. -/
def label (token : Token) : List Char :=
  token.kind.toList ++ ['(', '\''] ++ token.text ++ ['\'', ')']

/-- The token with its position, as in `NUM('42') @ 3:7`. -/
def render (token : Token) : List Char :=
  token.label ++ [' ', '@', ' '] ++ Text.decimal token.row ++ [':'] ++ Text.decimal token.column

/-- One token a line. -/
def renderAll (tokens : List Token) : List Char :=
  List.intercalate ['\n'] (tokens.map render)

end Token

/-- The kinds that stand for layout. -/
structure ReservedKinds where
  indent : String := "INDENT"
  deindent : String := "DEINDENT"
  newline : String := "NEWLINE"
  eof : String := "EOF"
  deriving DecidableEq

namespace ReservedKinds

/-- Whether a name is reserved. -/
def contains (reserved : ReservedKinds) (kind : String) : Bool :=
  kind == reserved.indent || kind == reserved.deindent || kind == reserved.newline ||
    kind == reserved.eof

/-- The four names are pairwise different. -/
def Distinct (reserved : ReservedKinds) : Prop :=
  [reserved.indent, reserved.deindent, reserved.newline, reserved.eof].Nodup

instance (reserved : ReservedKinds) : Decidable reserved.Distinct :=
  inferInstanceAs (Decidable (List.Nodup _))

end ReservedKinds

end Offside
