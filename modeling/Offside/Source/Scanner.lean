/-
**The scanner.**

The scanner reads a document line by line. Every line begins with one token for its layout. A blank
line gives a newline that carries the whole line. On any other line the leading blanks are compared
with those of the line before that was not blank: if there are more of them the token is an indent,
if there are fewer a deindent, and a newline otherwise; it carries the blanks. The rest of the line
is cut into the longest matches of the rules and the blanks between them. After the last line comes
the end of input.

* `length_rest_step_lt`: every match makes the rest of the line shorter;
* `ends`: the scanner produces the end of input or fails in the end.
-/

import Offside.Lexicon.Table
import Offside.Source.Buffered
import Offside.Text.Lines

namespace Offside

open Text

/-- What the scanner does next. -/
inductive Phase
  /-- A new line is to be read. -/
  | lineStart
  /-- The rest of the line is to be cut into matches. -/
  | content
  /-- There are no more lines. -/
  | finished
  deriving DecidableEq

/-- Where the scanner stands. -/
structure ScanState where
  lexicon : Lexicon
  /-- The lines that are not read yet. -/
  unread : List Line
  phase : Phase := .lineStart
  /-- The line that is being read. -/
  line : List Char := []
  /-- What is left of it. -/
  rest : List Char := []
  /-- The number of bytes before what is left. -/
  offset : Nat := 0
  /-- The number of lines read. -/
  row : Nat := 0
  /-- The column of the next character. -/
  column : Nat := 1
  /-- The width of the indentation. -/
  depth : Nat := 0
  /-- What has been read of the line, backwards, with everything but blanks turned into spaces. -/
  passed : List Char := []

namespace ScanState

/-- What stands in front of a caret at the current place. -/
def padding (state : ScanState) : List Char := state.passed.reverse

/-- A place in the current line. -/
def caret (state : ScanState) : Caret := ⟨state.line, state.row, state.column, state.padding⟩

/-- A token at the current place. -/
def token (state : ScanState) (kind : String) (text : List Char) : Token :=
  ⟨kind, text, state.row, state.column⟩

/-- Passes over the given number of characters. -/
def pass (state : ScanState) (count : Nat) : ScanState :=
  let taken := state.rest.take count
  { state with
    rest := state.rest.drop count
    offset := state.offset + byteLength taken
    column := state.column + taken.length
    passed := (blankPrefix taken taken.length).reverse ++ state.passed }

/-- Passes over blanks. -/
def passBlanks (state : ScanState) : ScanState :=
  state.pass (leadingBlanks state.rest).length

/-- The kind that tells how the indentation changes to a new width. -/
def layoutKind (state : ScanState) (width : Nat) : String :=
  let reserved := state.lexicon.reserved
  if state.depth < width then reserved.indent
  else if width < state.depth then reserved.deindent
  else reserved.newline

/-- Begins a line and produces the token for its layout. -/
def beginLine (state : ScanState) (line : List Char) (unread : List Line) : Token × ScanState :=
  let fresh : ScanState :=
    { state with
      unread := unread
      line := line
      rest := line
      offset := 0
      row := state.row + 1
      column := 1
      passed := [] }
  if isBlankLine line then
    (fresh.token state.lexicon.reserved.newline line, { fresh with phase := .lineStart })
  else
    let blanks := leadingBlanks line
    (fresh.token (state.layoutKind blanks.length) blanks,
      { fresh.passBlanks with depth := blanks.length, phase := .content })

/-- Reads the next line, or comes to the end of input. -/
def nextLine (state : ScanState) : Pulled ScanState :=
  match state.unread with
  | [] =>
    (.ok ⟨state.lexicon.reserved.eof, ['$'], max state.row 1, state.column⟩,
      { state with phase := .finished })
  | .malformed :: unread =>
    (.error .malformedText, { state with unread := unread, phase := .lineStart })
  | .text line :: unread =>
    let (token, state) := state.beginLine line unread
    (.ok token, state)

/-- The state after a match, and after the blanks that follow it. -/
def step (state : ScanState) (found : Match) : ScanState :=
  (state.pass found.text.length).passBlanks

theorem rest_pass (state : ScanState) (count : Nat) :
    (state.pass count).rest = state.rest.drop count := rfl

theorem length_rest_step_lt {state : ScanState} {found : Match}
    (matched : state.lexicon.longestMatch state.rest = some found) (more : state.rest ≠ []) :
    (state.step found).rest.length < state.rest.length := by
  obtain ⟨c, others, shape⟩ := List.exists_cons_of_ne_nil more
  have taken : found.text ≠ [] := by
    rw [shape] at matched
    exact Lexicon.longestMatch_text_ne_nil matched
  have positive := List.length_pos_iff.mpr taken
  have nonempty := List.length_pos_iff.mpr more
  simp only [step, passBlanks, rest_pass, List.length_drop]
  omega

/-- Cuts the next match from the rest of the line; ignored matches are passed over. At the end of
the line the next one is read. -/
def scanContent (state : ScanState) : Pulled ScanState :=
  if _more : state.rest = [] then state.nextLine
  else
    match _matched : state.lexicon.longestMatch state.rest with
    | none => (.error (.unrecognizedInput state.caret), state)
    | some found =>
      if state.lexicon.isIgnored found.kind then scanContent (state.step found)
      else (.ok (state.token found.kind found.text), state.step found)
termination_by state.rest.length
decreasing_by exact length_rest_step_lt _matched _more

/-- Produces the next token. -/
def next (state : ScanState) : Pulled ScanState :=
  match state.phase with
  | .content => state.scanContent
  | .lineStart => state.nextLine
  | .finished => state.nextLine

/-! ### The scanner comes to an end -/

/-- How much a line is to read: it counts for its characters and for its layout. -/
def lineSize : Line → Nat
  | .text line => line.length + 1
  | .malformed => 1

/-- How much the lines are to read that are left. -/
def unreadSize (state : ScanState) : Nat :=
  state.unread.foldr (fun line total => lineSize line + total) 0

/-- How much is left to read. -/
def remaining (state : ScanState) : Nat :=
  state.unreadSize +
    (match state.phase with
    | .content => state.rest.length
    | _ => 0)

theorem lexicon_nextLine (state : ScanState) : state.nextLine.2.lexicon = state.lexicon := by
  rw [nextLine]
  split
  · rfl
  · rfl
  · simp only [beginLine]
    split <;> rfl

theorem lexicon_scanContent (state : ScanState) :
    state.scanContent.2.lexicon = state.lexicon := by
  fun_induction scanContent state with
  | case1 state _ => exact lexicon_nextLine state
  | case2 => rfl
  | case3 state _ found _ _ ih => exact ih
  | case4 => rfl

theorem lexicon_next (state : ScanState) : state.next.2.lexicon = state.lexicon := by
  rw [next]
  split
  · exact lexicon_scanContent state
  · exact lexicon_nextLine state
  · exact lexicon_nextLine state

/-- The state has gone on with a token: there is less to read, or it was the end of input. -/
def GoesOn (later : ScanState) (token : Token) (eof : String) (size : Nat) : Prop :=
  later.remaining < size ∨ token.kind = eof ∧ later.remaining ≤ size

theorem GoesOn.mono {later : ScanState} {token : Token} {eof : String} {size more : Nat}
    (goesOn : GoesOn later token eof size) (le : size ≤ more) : GoesOn later token eof more :=
  goesOn.imp (Nat.lt_of_lt_of_le · le) (And.imp_right (Nat.le_trans · le))

theorem goesOn_nextLine {state later : ScanState} {token : Token}
    (produced : state.nextLine = (.ok token, later)) :
    GoesOn later token state.lexicon.reserved.eof state.unreadSize := by
  rw [nextLine] at produced
  split at produced
  · cases produced
    exact .inr ⟨rfl, Nat.le_refl _⟩
  · cases produced
  · rename_i line unread shape
    simp only [Prod.mk.injEq, Except.ok.injEq] at produced
    obtain ⟨_, rfl⟩ := produced
    left
    rw [unreadSize, shape, beginLine]
    split
    · simp only [remaining, unreadSize, List.foldr_cons, lineSize]
      omega
    · simp only [remaining, unreadSize, passBlanks, pass, List.foldr_cons, lineSize,
        List.length_drop]
      omega

theorem goesOn_scanContent {state later : ScanState} {token : Token}
    (produced : state.scanContent = (.ok token, later)) :
    GoesOn later token state.lexicon.reserved.eof (state.unreadSize + state.rest.length) := by
  fun_induction scanContent state with
  | case1 state empty => exact (goesOn_nextLine produced).mono (Nat.le_add_right _ _)
  | case2 => cases produced
  | case3 state more found matched ignored ih =>
    have shorter := length_rest_step_lt matched more
    exact (ih produced).mono (Nat.le_of_lt (Nat.add_lt_add_left shorter _))
  | case4 state more found matched kept =>
    cases produced
    have shorter := length_rest_step_lt matched more
    refine .inl (Nat.lt_of_le_of_lt ?_ (Nat.add_lt_add_left shorter _))
    simp only [remaining]
    refine Nat.add_le_add_left ?_ _
    split
    · exact Nat.le_refl _
    · exact Nat.zero_le _

theorem goesOn_next {state later : ScanState} {token : Token}
    (produced : state.next = (.ok token, later)) :
    GoesOn later token state.lexicon.reserved.eof state.remaining := by
  rw [next] at produced
  split at produced
  · rename_i content
    simpa only [remaining, content] using goesOn_scanContent produced
  · exact (goesOn_nextLine produced).mono (Nat.le_add_right _ _)
  · exact (goesOn_nextLine produced).mono (Nat.le_add_right _ _)

instance : TokenStage ScanState where
  reserved state := state.lexicon.reserved
  next := next
  line state := state.line
  padding := padding
  reserved_next state := by rw [lexicon_next]
  ends := Advances.wellFounded_of_measure remaining goesOn_next

end ScanState

/-- A scanner is a token source. -/
abbrev Scanner := Buffered ScanState

namespace Scanner

/-- A scanner over the lines of a document. -/
def ofLines (lexicon : Lexicon) (lines : List Line) : Scanner :=
  ⟨{ lexicon, unread := lines }, none, none⟩

/-- A scanner over a text. -/
def ofText (lexicon : Lexicon) (text : List Char) : Scanner := ofLines lexicon (linesOfText text)

/-- The width of the indentation. -/
def depth (scanner : Scanner) : Nat := scanner.stage.depth

end Scanner

end Offside
