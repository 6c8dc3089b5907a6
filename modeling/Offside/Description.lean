/-
**Descriptions of rules.**

Rules are written as a sequence of definitions: a name, a colon, alternatives separated by bars or
commas, and a semicolon. An alternative is a text in single quotes or a pattern between slashes;
everything between the delimiters is taken as it stands. Blanks and line breaks between these tokens
mean nothing. A description is cut into tokens by a scanner over a fixed table, and read by a
machine with four states, one for each thing that may be expected. Alternatives that were read
before something goes wrong stay registered.
-/

import Offside.Source.Scanner

namespace Offside.Description

/-! ### The tokens of descriptions -/

/-- The kind of names. -/
def nameKind : String := "NAME"

/-- The kind of the colon after a name. -/
def colonKind : String := "SODEF"

/-- The kind of the semicolon at the end of a definition. -/
def semicolonKind : String := "EODEF"

/-- The kind of the separators between alternatives. -/
def separatorKind : String := "OR"

/-- The kind of texts in single quotes. -/
def literalKind : String := "LITERAL"

/-- The kind of patterns between slashes. -/
def regexKind : String := "REGEX"

/-- The rules of descriptions. -/
def draft : Draft :=
  (((((({} : Draft).addRegexes nameKind ["[a-zA-Z][a-zA-Z0-9_]*".toList]).addLiterals
    colonKind [[':']]).addLiterals
    semicolonKind [[';']]).addLiterals
    separatorKind [['|'], [',']]).addRegexes
    literalKind ["'(\\\\.|[^'])*?'".toList]).addRegexes
    regexKind ["/(\\\\.|[^/])*?/".toList]

/-- The compiled rules of descriptions. -/
def lexicon : Lexicon :=
  match draft.compile with
  | .ok lexicon => lexicon
  | .error _ => ⟨[], {}, none⟩

/-- A token, and the line it stands on. -/
structure Placed where
  token : Token
  line : List Char
  deriving DecidableEq

/-- What the scanner answers, up to the end of input or the first failure, each token with the line
it stands on. -/
def scan (scanner : Scanner) : List (Except Failure Placed) :=
  (TokenSource.history scanner).map fun (result, after) =>
    result.map fun token => ⟨token, TokenSource.line after⟩

/-- Whether a result is a token that stands for an indent, a deindent or a newline. -/
def isLayout (result : Except Failure Placed) : Bool :=
  match result with
  | .ok placed =>
    let kinds := lexicon.reserved
    placed.token.kind == kinds.indent || placed.token.kind == kinds.deindent ||
      placed.token.kind == kinds.newline
  | .error _ => false

/-! ### Reading -/

/-- What is expected next. -/
inductive Expectation
  /-- A definition or the end of input. -/
  | definition
  /-- The colon after a name. -/
  | colon (name : String)
  /-- An alternative of a definition. -/
  | alternative (name : String)
  /-- A separator or the semicolon after an alternative. -/
  | separator (name : String)

namespace Expectation

/-- How the expectation is described when something else comes. -/
def describe : Expectation → List Char
  | definition => "end of input".toList
  | colon _ => "':'".toList
  | alternative _ => "a literal or a regex".toList
  | separator _ => "';'".toList

end Expectation

/-- The failure of a token that is not expected. -/
def unexpected (expectation : Expectation) (placed : Placed) : Failure :=
  .unexpectedToken expectation.describe placed.token.label
    (Caret.atColumn placed.line placed.token.row placed.token.column)

/-- A text without its first and its last character. -/
def withoutDelimiters (text : List Char) : List Char := (text.drop 1).dropLast

/-- What a token leads to. -/
inductive Step
  /-- Reading goes on, perhaps with one more matcher. -/
  | expect (next : Expectation) (added : Option (String × Matcher))
  /-- The description is complete. -/
  | done
  /-- The token is not expected. -/
  | reject

/-- What a token leads to where something is expected. -/
def step (expectation : Expectation) (token : Token) : Step :=
  match expectation with
  | .definition =>
    if token.kind = nameKind then .expect (.colon (String.ofList token.text)) none
    else if token.kind = lexicon.reserved.eof then .done
    else .reject
  | .colon name => if token.kind = colonKind then .expect (.alternative name) none else .reject
  | .alternative name =>
    if token.kind = literalKind then
      .expect (.separator name) (some (name, .literal (withoutDelimiters token.text)))
    else if token.kind = regexKind then
      .expect (.separator name) (some (name, .regex (withoutDelimiters token.text)))
    else .reject
  | .separator name =>
    if token.kind = separatorKind then .expect (.alternative name) none
    else if token.kind = semicolonKind then .expect .definition none
    else .reject

/-- Registers the matcher that a step adds. -/
def register (draft : Draft) : Option (String × Matcher) → Draft
  | none => draft
  | some (name, matcher) => draft.register name [matcher]

/-- Reads tokens; the result holds the rules registered so far, and the failure if there is one. -/
def read (draft : Draft) (expectation : Expectation) :
    List (Except Failure Placed) → Draft × Option Failure
  | [] => (draft, none)
  | .error failure :: _ => (draft, some failure)
  | .ok placed :: rest =>
    match step expectation placed.token with
    | .expect next added => read (register draft added) next rest
    | .done => (draft, none)
    | .reject => (draft, some (unexpected expectation placed))

/-- Reads the description in some lines and adds its rules to a draft. -/
def loadInto (draft : Draft) (lines : List Text.Line) : Draft × Option Failure :=
  read draft .definition
    ((scan (Scanner.ofLines lexicon lines)).filter fun result => !isLayout result)

/-- Reads the description in some lines. -/
def load (lines : List Text.Line) : Except Failure Draft :=
  match loadInto {} lines with
  | (draft, none) => .ok draft
  | (_, some failure) => .error failure

end Offside.Description
