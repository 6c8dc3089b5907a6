/-
**Failures and where they happened.**

A `Caret` points at a column of a line: under the line stands a copy of everything before the column
with only the blanks kept, and then a caret. `Failure` lists what can go wrong while tokens are
read, `RuleError` what can be wrong with the rules. The wording of all of them is in the two
functions called `message`.

A call that never comes back has an outcome of its own among the failures, `Failure.endless`. No
consumer ever gets to see it: what it stands for is that nothing comes any more.
-/

import Offside.Text.Blank
import Offside.Token

namespace Offside

/-- A place in a text, with what is shown to point at it. -/
structure Caret where
  /-- The line, without its terminator. -/
  line : List Char
  row : Nat
  column : Nat
  /-- What stands in front of the caret. -/
  padding : List Char
  deriving DecidableEq

namespace Caret

/-- Points at a column of a line. -/
def atColumn (line : List Char) (row column : Nat) : Caret :=
  ⟨line, row, column, Text.blankPrefix line (column - 1)⟩

/-- The position, the line, and the caret under it. -/
def render (caret : Caret) : List Char :=
  " at (".toList ++ Text.decimal caret.row ++ ", ".toList ++ Text.decimal caret.column ++
    "):\n".toList ++ caret.line ++ ['\n'] ++ caret.padding ++ ['^']

end Caret

/-- What can go wrong while tokens are read. -/
inductive Failure
  /-- No rule matches. -/
  | unrecognizedInput (caret : Caret)
  /-- A line is indented by no whole number of units, or by too many. -/
  | invalidIndent (caret : Caret)
  /-- A line is indented less, but by no whole number of units. -/
  | invalidDeindent (caret : Caret)
  /-- A description of rules goes on with the wrong token. -/
  | unexpectedToken (expected found : List Char) (caret : Caret)
  /-- The input cannot be read. -/
  | unreadable (reason : List Char)
  /-- There is no answer: the call goes on for ever. -/
  | endless
  deriving DecidableEq

namespace Failure

/-- Where it happened, if it happened at a place. -/
def caret? : Failure → Option Caret
  | unrecognizedInput caret => some caret
  | invalidIndent caret => some caret
  | invalidDeindent caret => some caret
  | unexpectedToken _ _ caret => some caret
  | unreadable _ => none
  | endless => none

/-- What is reported. Nothing is reported of a call that goes on for ever. -/
def message : Failure → List Char
  | unrecognizedInput caret => "Unrecognized input".toList ++ caret.render
  | invalidIndent caret => "Invalid indent".toList ++ caret.render
  | invalidDeindent caret => "Invalid deindent".toList ++ caret.render
  | unexpectedToken expected found caret =>
    "Was expecting ".toList ++ expected ++ " but got ".toList ++ found ++ caret.render
  | unreadable reason => "Failed to read input: ".toList ++ reason
  | endless => []

/-- A line is not valid UTF-8. -/
def malformedText : Failure := unreadable "stream did not contain valid UTF-8".toList

/-- A list of tokens that does not end with the end of input is used up. -/
def exhausted : Failure := unreadable "token source exhausted".toList

end Failure

/-- What can be wrong with rules, or with what is asked of the indentation. -/
inductive RuleError
  /-- The patterns of a kind are refused by the engine that compiles them, which says why. -/
  | invalidPattern (kind reason : String)
  /-- A kind has nothing to match. -/
  | emptyRule (kind : String)
  /-- A kind lists an empty text or an empty pattern. -/
  | emptyMatcher (kind : String)
  /-- A kind has a reserved name. -/
  | reservedKind (kind : String)
  /-- Indentation is to be counted in units of nothing. -/
  | emptyIndentUnit
  deriving DecidableEq

namespace RuleError

/-- What is reported. -/
def message : RuleError → String
  | invalidPattern kind reason => "Invalid pattern for kind '" ++ kind ++ "': " ++ reason
  | emptyRule kind => "Kind '" ++ kind ++ "' has no matchers"
  | emptyMatcher kind => "Kind '" ++ kind ++ "' has an empty matcher"
  | reservedKind kind => "Kind '" ++ kind ++ "' collides with a reserved token kind"
  | emptyIndentUnit => "Indent unit must not be empty"

end RuleError

end Offside
