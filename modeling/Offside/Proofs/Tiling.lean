/-
**Lines are cut without loss.**

A line that is not blank consists of its leading blanks and of lexemes: matches, each the longest
one of its place, and the blanks behind them. The scanner hands out the matches, except ignored
ones, in the columns in which they stand; nothing of the line is dropped, moved or read twice.

* `Tiled`: lexemes that follow one another, up to a place behind which something is left;
* `Reading`: all that a scanner hands out for its lines, one constructor for each way in which a
  line can be read;
* `Behind`: the line, the column and the padding of a scanner tell the same place. Each step of the
  scanner keeps this (`behind_pass`);
* `exists_lexemes_cutLine`: what is cut from the rest of a line is tiled. The induction is that of
  `cutLine`, one match after the other;
* `exists_reading`: popping a scanner gives a reading of its lines. The induction is on the
  lines; between two of them the scanner stands at the end of the one before.
-/

import Mathlib.Data.List.TakeWhile
import Offside.Proofs.Tokenizing

namespace Offside

open Text TokenSource

/-! ### Lexemes -/

/-- A text that starts with a character that is not blank. -/
def StartsInked (text : List Char) : Prop := ∃ c rest, text = c :: rest ∧ isBlank c = false

theorem StartsInked.ne_nil {text : List Char} (inked : StartsInked text) : text ≠ [] := by
  obtain ⟨c, rest, rfl, _⟩ := inked
  exact List.cons_ne_nil c rest

/-- Behind the blanks of a text nothing is left, or something that is not blank. -/
theorem afterBlanks_cases (text : List Char) :
    afterBlanks text = [] ∨ StartsInked (afterBlanks text) := by
  induction text with
  | nil => exact .inl rfl
  | cons c rest ih =>
    cases blank : isBlank c with
    | true =>
      have onward : afterBlanks (c :: rest) = afterBlanks rest := List.dropWhile_cons_of_pos blank
      rw [onward]
      exact ih
    | false =>
      have here : afterBlanks (c :: rest) = c :: rest :=
        List.dropWhile_cons_of_neg (Bool.eq_false_iff.mp blank)
      exact .inr ⟨c, rest, here, blank⟩

/-- A line that is not blank has something behind its blanks. -/
theorem startsInked_afterBlanks {line : List Char} (inked : ¬ isBlankLine line) :
    StartsInked (afterBlanks line) := by
  refine (afterBlanks_cases line).resolve_left fun none => inked ?_
  rw [isBlankLine, List.all_eq_true]
  exact List.dropWhile_eq_nil_iff.mp none

/-- A match and the blanks behind it. -/
structure Lexeme where
  found : Match
  gap : List Char

/-- What a lexeme takes of a line. -/
def Lexeme.text (lexeme : Lexeme) : List Char := lexeme.found.text ++ lexeme.gap

/-- The text of lexemes that follow one another. -/
def joined (lexemes : List Lexeme) : List Char := lexemes.flatMap Lexeme.text

/-- Lexemes as they are cut from the start of a text, with `rest` behind the last: each match is the
longest at its place, starts with a character that is not blank, and has all blanks behind it in its
lexeme. -/
inductive Tiled (lexicon : Lexicon) (rest : List Char) : List Lexeme → Prop
  | nil : Tiled lexicon rest []
  | cons {lexeme : Lexeme} {lexemes : List Lexeme} :
    lexicon.longestMatch (joined (lexeme :: lexemes) ++ rest) = some lexeme.found →
    StartsInked lexeme.found.text →
    leadingBlanks (lexeme.gap ++ (joined lexemes ++ rest)) = lexeme.gap →
    Tiled lexicon rest lexemes → Tiled lexicon rest (lexeme :: lexemes)

/-- The tokens of lexemes on a row with a given number of characters before them; matches of the
ignored kind are left out. -/
def lexemeTokens (lexicon : Lexicon) (row : Nat) : (before : Nat) → List Lexeme → List Token
  | _, [] => []
  | before, lexeme :: lexemes =>
    let later := lexemeTokens lexicon row (before + lexeme.text.length) lexemes
    if lexicon.isIgnored lexeme.found.kind then later
    else ⟨lexeme.found.kind, lexeme.found.text, row, before + 1⟩ :: later

/-! ### The layout of a document -/

/-- The width of the indentation behind some lines: that of the last one that is not blank. -/
def indentation (lines : List (List Char)) : Nat :=
  match (lines.filter (!isBlankLine ·)).getLast? with
  | some line => (leadingBlanks line).length
  | none => 0

/-- The kind that tells how the indentation changes. -/
def layoutChange (kinds : ReservedKinds) (before after : Nat) : String :=
  if before < after then kinds.indent else if after < before then kinds.deindent else kinds.newline

/-- The token for the layout of a line with others before it: a newline that carries the whole line
if it is blank, and else what its leading blanks make of the indentation. -/
def lineMarker (kinds : ReservedKinds) (before : List (List Char)) (line : List Char) : Token :=
  let row := before.length + 1
  if isBlankLine line then ⟨kinds.newline, line, row, 1⟩
  else
    let blanks := leadingBlanks line
    ⟨layoutChange kinds (indentation before) blanks.length, blanks, row, 1⟩

/-- The column behind some lines: that behind the last one, or the first if that is blank. -/
def endColumn (lines : List (List Char)) : Nat :=
  match lines.getLast? with
  | some line => if isBlankLine line then 1 else line.length + 1
  | none => 1

/-- All that a scanner hands out for lines, with others before them that were read already. -/
inductive Reading (lexicon : Lexicon) :
    (before : List (List Char)) → List Line → List (Except Failure Token) → Prop
  /-- Behind the last line comes the end of input. -/
  | finished {before : List (List Char)} :
    Reading lexicon before []
      [.ok ⟨lexicon.reserved.eof, ['$'], max before.length 1, endColumn before⟩]
  /-- A line that cannot be decoded ends everything. -/
  | malformed {before : List (List Char)} {lines : List Line} :
    Reading lexicon before (.malformed :: lines) [.error .malformedText]
  /-- A blank line gives the token for its layout and nothing else. -/
  | blank {before : List (List Char)} {line : List Char} {lines : List Line}
      {results : List (Except Failure Token)} :
    isBlankLine line → Reading lexicon (before ++ [line]) lines results →
    Reading lexicon before (.text line :: lines)
      (.ok (lineMarker lexicon.reserved before line) :: results)
  /-- Any other line that is read to its end consists of its blanks and of lexemes. -/
  | tiled {before : List (List Char)} {line : List Char} {lines : List Line} {lexemes : List Lexeme}
      {results : List (Except Failure Token)} :
    ¬ isBlankLine line → line = leadingBlanks line ++ joined lexemes → lexemes ≠ [] →
    Tiled lexicon [] lexemes → Reading lexicon (before ++ [line]) lines results →
    Reading lexicon before (.text line :: lines)
      (.ok (lineMarker lexicon.reserved before line) ::
        ((lexemeTokens lexicon (before.length + 1) (leadingBlanks line).length lexemes).map .ok ++
          results))
  /-- Where no rule matches, the part of the line up to there does, and the scanner fails at a
  character that is not blank. -/
  | stuck {before : List (List Char)} {line : List Char} {lines : List Line} {lexemes : List Lexeme}
      {rest : List Char} :
    ¬ isBlankLine line → line = leadingBlanks line ++ joined lexemes ++ rest →
    Tiled lexicon rest lexemes → StartsInked rest → lexicon.longestMatch rest = none →
    Reading lexicon before (.text line :: lines)
      (.ok (lineMarker lexicon.reserved before line) ::
        ((lexemeTokens lexicon (before.length + 1) (leadingBlanks line).length lexemes).map .ok ++
          [.error (.unrecognizedInput (Caret.atColumn line (before.length + 1)
            ((leadingBlanks line ++ joined lexemes).length + 1)))]))

namespace ScanState

/-! ### The place in a line -/

/-- The scanner stands behind a part of its line. -/
structure Behind (state : ScanState) (part : List Char) : Prop where
  line : state.line = part ++ state.rest
  column : state.column = part.length + 1
  padding : state.padding = part.map blanked

section Place

variable {state : ScanState} {part : List Char}

theorem blankPrefix_of_length_le {text : List Char} {width : Nat} (within : width ≤ text.length) :
    blankPrefix text width = (text.take width).map blanked := by
  rw [blankPrefix, Nat.sub_eq_zero_of_le within, List.replicate_zero, List.append_nil]

/-- Passing over characters leads behind them. -/
theorem behind_pass (behind : state.Behind part) (count : Nat) :
    (state.pass count).Behind (part ++ state.rest.take count) where
  line := by
    rw [rest_pass, List.append_assoc, List.take_append_drop]
    exact behind.line
  column := by
    show state.column + (state.rest.take count).length = _
    rw [behind.column, List.length_append]
    omega
  padding := by
    have before : state.passed.reverse = part.map blanked := behind.padding
    show ((blankPrefix _ _).reverse ++ state.passed).reverse = _
    rw [blankPrefix_of_length_le (Nat.le_refl _), List.take_length, List.reverse_append,
      List.reverse_reverse, before, List.map_append]

theorem rest_passBlanks (state : ScanState) : state.passBlanks.rest = afterBlanks state.rest := by
  have parts := leadingBlanks_append_afterBlanks state.rest
  rw [passBlanks, rest_pass]
  generalize leadingBlanks state.rest = blanks at parts ⊢
  generalize afterBlanks state.rest = left at parts ⊢
  rw [← parts, List.drop_left]

theorem behind_passBlanks (behind : state.Behind part) :
    state.passBlanks.Behind (part ++ leadingBlanks state.rest) := by
  have taken : leadingBlanks state.rest = state.rest.take (leadingBlanks state.rest).length :=
    List.prefix_iff_eq_take.mp (List.takeWhile_prefix _)
  have onward := behind_pass behind (leadingBlanks state.rest).length
  rwa [← taken] at onward

/-- A caret where the scanner stands is the one that is made from its column. -/
theorem caret_of_behind (behind : state.Behind part) :
    state.caret = Caret.atColumn state.line state.row (part.length + 1) := by
  have within : part.length ≤ state.line.length := by
    rw [behind.line, List.length_append]
    exact Nat.le_add_right _ _
  have taken : state.line.take part.length = part := by
    rw [behind.line, List.take_left]
  rw [caret, Caret.atColumn, behind.column, behind.padding, Nat.add_sub_cancel,
    blankPrefix_of_length_le within, taken]

end Place

/-! ### What is cut from a line -/

/-- The lexeme that a match makes of the rest of a line. -/
def lexeme (state : ScanState) (found : Match) : Lexeme :=
  ⟨found, leadingBlanks (state.rest.drop found.text.length)⟩

section Step

variable {state : ScanState} {found : Match} {part : List Char}

theorem rest_step (state : ScanState) (found : Match) :
    (state.step found).rest = afterBlanks (state.rest.drop found.text.length) :=
  rest_passBlanks _

/-- A match, the blanks behind it and what the step leaves make up the rest of the line. -/
theorem text_lexeme_append_rest_step
    (matched : state.lexicon.longestMatch state.rest = some found) :
    (state.lexeme found).text ++ (state.step found).rest = state.rest := by
  have start := Lexicon.longestMatch_text_isPrefix matched
  rw [rest_step, Lexeme.text, lexeme, List.append_assoc, leadingBlanks_append_afterBlanks]
  conv_lhs => rw [List.prefix_iff_eq_take.mp start]
  rw [List.length_take, Nat.min_eq_left start.length_le, List.take_append_drop]

theorem behind_step (matched : state.lexicon.longestMatch state.rest = some found)
    (behind : state.Behind part) :
    (state.step found).Behind (part ++ (state.lexeme found).text) := by
  have start := Lexicon.longestMatch_text_isPrefix matched
  have onward := behind_passBlanks (behind_pass behind found.text.length)
  rwa [← List.prefix_iff_eq_take.mp start, rest_pass, List.append_assoc] at onward

/-- Where the rest of a line starts with something that is not blank, so does a match. -/
theorem startsInked_of_match (inked : StartsInked state.rest)
    (matched : state.lexicon.longestMatch state.rest = some found) : StartsInked found.text := by
  obtain ⟨c, rest, shape, solid⟩ := inked
  have start := Lexicon.longestMatch_text_isPrefix matched
  rw [shape] at matched start
  obtain ⟨first, others, text⟩ :=
    List.exists_cons_of_ne_nil (Lexicon.longestMatch_text_ne_nil matched)
  rw [text, List.cons_prefix_cons] at start
  exact ⟨c, others, by rw [text, start.1], solid⟩

theorem tiled_step (inked : StartsInked state.rest)
    (matched : state.lexicon.longestMatch state.rest = some found) {lexemes : List Lexeme}
    {rest : List Char} (shape : (state.step found).rest = joined lexemes ++ rest)
    (onward : Tiled state.lexicon rest lexemes) :
    Tiled state.lexicon rest (state.lexeme found :: lexemes) := by
  have whole : joined (state.lexeme found :: lexemes) ++ rest = state.rest := by
    rw [joined, List.flatMap_cons, List.append_assoc, ← joined, ← shape]
    exact text_lexeme_append_rest_step matched
  refine .cons ?_ (startsInked_of_match inked matched) ?_ onward
  · rw [whole]
    exact matched
  · rw [← shape, rest_step, lexeme, leadingBlanks_append_afterBlanks]

end Step

/-- What is known about the lexemes of the rest of a line, behind a part of it. -/
structure Cut (state : ScanState) (part : List Char) (lexemes : List Lexeme) : Prop where
  rest : state.rest = joined lexemes ++ state.cutLine.2.rest
  tiled : Tiled state.lexicon state.cutLine.2.rest lexemes
  tokens : state.cutLine.1.map (·.1) = lexemeTokens state.lexicon state.row part.length lexemes
  behind : state.cutLine.2.Behind (part ++ joined lexemes)
  ends : state.cutLine.2.rest = [] ∨ StartsInked state.cutLine.2.rest

/-- Where nothing is cut there are no lexemes. -/
theorem cut_nil {state : ScanState} {part : List Char} (behind : state.Behind part)
    (ready : state.rest = [] ∨ StartsInked state.rest) (none : state.cutLine = ([], state)) :
    state.Cut part [] := by
  have same : part ++ joined [] = part := List.append_nil part
  refine ⟨?_, .nil, ?_, ?_, ?_⟩
  · rw [none]
    rfl
  · rw [none]
    rfl
  · rw [none, same]
    exact behind
  · rw [none]
    exact ready

/-- A match in front of what is cut behind it. -/
theorem cut_cons {state : ScanState} {found : Match} {part : List Char} {lexemes : List Lexeme}
    (behind : state.Behind part) (inked : StartsInked state.rest)
    (matched : state.lexicon.longestMatch state.rest = some found)
    (cut : (state.step found).Cut (part ++ (state.lexeme found).text) lexemes) :
    state.Cut part (state.lexeme found :: lexemes) := by
  have lines := cutLine_of_match inked.ne_nil matched
  have last : state.cutLine.2 = (state.step found).cutLine.2 := by
    rw [lines]
    split <;> rfl
  have more : joined (state.lexeme found :: lexemes) = (state.lexeme found).text ++
      joined lexemes :=
    List.flatMap_cons
  refine ⟨?_, ?_, ?_, ?_, ?_⟩
  · rw [last, more, List.append_assoc, ← cut.rest, text_lexeme_append_rest_step matched]
  · rw [last]
    exact tiled_step inked matched cut.rest cut.tiled
  · have later : (state.step found).cutLine.1.map (·.1) =
        lexemeTokens state.lexicon state.row (part ++ (state.lexeme found).text).length lexemes :=
      cut.tokens
    rw [List.length_append] at later
    have tokens : lexemeTokens state.lexicon state.row part.length (state.lexeme found :: lexemes) =
        if state.lexicon.isIgnored found.kind then
          lexemeTokens state.lexicon state.row (part.length + (state.lexeme found).text.length)
            lexemes
        else ⟨found.kind, found.text, state.row, part.length + 1⟩ ::
          lexemeTokens state.lexicon state.row (part.length + (state.lexeme found).text.length)
            lexemes :=
      rfl
    rw [lines, tokens, ← later]
    split
    · rfl
    · rw [List.map_cons, token, behind.column]
  · rw [last, more, ← List.append_assoc]
    exact cut.behind
  · rw [last]
    exact cut.ends

/-- **The rest of a line is cut into lexemes.** -/
theorem exists_lexemes_cutLine {state : ScanState}
    (ready : state.rest = [] ∨ StartsInked state.rest) :
    ∀ part, state.Behind part → ∃ lexemes, state.Cut part lexemes := by
  fun_induction cutLine state with
  | case1 state done =>
    intro part behind
    exact ⟨[], cut_nil behind ready (cutLine_of_rest_eq_nil done)⟩
  | case2 state more unmatched =>
    intro part behind
    exact ⟨[], cut_nil behind ready (cutLine_of_stuck more unmatched)⟩
  | case3 state more found matched _ _ ih =>
    intro part behind
    obtain ⟨lexemes, cut⟩ :=
      ih (rest_step state found ▸ afterBlanks_cases _) _ (behind_step matched behind)
    exact ⟨_, cut_cons behind (ready.resolve_left more) matched cut⟩
  | case4 state more found matched _ _ ih =>
    intro part behind
    obtain ⟨lexemes, cut⟩ :=
      ih (rest_step state found ▸ afterBlanks_cases _) _ (behind_step matched behind)
    exact ⟨_, cut_cons behind (ready.resolve_left more) matched cut⟩

/-! ### All lines -/

section Enter

variable (state : ScanState) {line : List Char} {number : Nat} {unread : List Line}

theorem column_of_blank (blank : isBlankLine line) :
    (state.enterLine line number unread).2.column = 1 := by
  rw [enterLine, beginLine, if_pos blank]

/-- Behind the layout of a line that is not blank the scanner stands behind its blanks. -/
theorem behind_enterLine (inked : ¬ isBlankLine line) :
    (state.enterLine line number unread).2.Behind (leadingBlanks line) ∧
      (state.enterLine line number unread).2.rest = afterBlanks line := by
  let fresh : ScanState :=
    { state with
      unread := unread, line := line, rest := line, offset := 0, row := number + 1,
      column := 1, passed := [] }
  have starts : fresh.Behind [] := ⟨rfl, rfl, rfl⟩
  have behind : fresh.passBlanks.Behind (leadingBlanks line) := behind_passBlanks starts
  rw [enterLine, beginLine, if_neg inked]
  exact ⟨⟨behind.line, behind.column, behind.padding⟩, rest_passBlanks fresh⟩

end Enter

end ScanState

section Before

variable (before : List (List Char)) {line : List Char}

theorem indentation_append_blank (blank : isBlankLine line) :
    indentation (before ++ [line]) = indentation before := by
  have dropped : (before ++ [line]).filter (!isBlankLine ·) = before.filter (!isBlankLine ·) := by
    rw [List.filter_append, List.filter_cons_of_neg (by simp [blank]), List.filter_nil,
      List.append_nil]
  rw [indentation, dropped]
  rfl

theorem indentation_append_inked (inked : ¬ isBlankLine line) :
    indentation (before ++ [line]) = (leadingBlanks line).length := by
  have kept : (before ++ [line]).filter (!isBlankLine ·) = before.filter (!isBlankLine ·) ++
      [line] := by
    rw [List.filter_append, List.filter_cons_of_pos (by simp [inked]), List.filter_nil]
  rw [indentation, kept, List.getLast?_concat]

theorem endColumn_append :
    endColumn (before ++ [line]) = if isBlankLine line then 1 else line.length + 1 := by
  rw [endColumn, List.getLast?_concat]

end Before

namespace ScanState

section Enter

variable {state : ScanState} {before : List (List Char)} {line : List Char} {unread : List Line}

/-- The token for the layout of a line is the one that the lines before it ask for. -/
theorem marker_enterLine (depth : state.depth = indentation before) :
    (state.enterLine line before.length unread).1 =
      lineMarker state.lexicon.reserved before line := by
  unfold lineMarker
  simp only
  split
  · rename_i blank
    exact marker_of_blank state blank
  · rename_i inked
    rw [marker_of_inked state inked, ← depth]
    rfl

end Enter

/-- Lines of which a scanner that stands behind others hands out a reading. -/
def Reads (lexicon : Lexicon) (before : List (List Char)) (lines : List Line) : Prop :=
  ∀ state : ScanState, state.lexicon = lexicon → state.row = before.length →
    state.column = endColumn before → state.depth = indentation before →
    Reading lexicon before lines
      ((state.scanLines (lines.zipIdx before.length)).map (·.result))

/-- What a scanner hands out behind the layout of a line that is not blank. -/
theorem reading_scanContents {state : ScanState} {before : List (List Char)} {line : List Char}
    {lines : List Line} (onward : Reads state.lexicon (before ++ [line]) lines)
    (inked : ¬ isBlankLine line) (behind : state.Behind (leadingBlanks line))
    (rest : state.rest = afterBlanks line) (row : state.row = before.length + 1)
    (depth : state.depth = (leadingBlanks line).length) :
    Reading state.lexicon before (.text line :: lines)
      (.ok (lineMarker state.lexicon.reserved before line) ::
        (state.scanContents (lines.zipIdx (before.length + 1))).map (·.result)) := by
  have starts : StartsInked state.rest := rest ▸ startsInked_afterBlanks inked
  obtain ⟨lexemes, cut⟩ := exists_lexemes_cutLine (.inr starts) _ behind
  have frame := frame_cutLine state
  have parts : line = leadingBlanks line ++ (joined lexemes ++ state.cutLine.2.rest) := by
    rw [← cut.rest, rest, leadingBlanks_append_afterBlanks]
  have tokens : (state.cutLine.1.map handOut).map (·.result) =
      (lexemeTokens state.lexicon (before.length + 1) (leadingBlanks line).length lexemes).map
        .ok := by
    rw [← row, ← cut.tokens, List.map_map, List.map_map]
    rfl
  rw [scanContents, List.map_append, tokens]
  by_cases done : state.cutLine.2.rest = []
  · have whole := parts
    rw [done, List.append_nil] at whole
    rw [if_pos done]
    have tiled := cut.tiled
    rw [done] at tiled
    refine .tiled inked whole ?_ tiled ?_
    · rintro rfl
      exact starts.ne_nil (cut.rest.trans done)
    · have more : (before ++ [line]).length = before.length + 1 := List.length_append
      rw [← more]
      refine onward _ frame.lexicon (frame.row.trans (row.trans more.symm)) ?_ ?_
      · rw [endColumn_append, if_neg inked, cut.behind.column, ← whole]
      · rw [indentation_append_inked before inked, frame.depth, depth]
  · rw [if_neg done]
    have unmatched := (rest_cutLine state).resolve_left done
    rw [frame.lexicon] at unmatched
    have caret := caret_of_behind cut.behind
    have here : state.cutLine.2.line = line := by
      rw [frame.line, behind.line, rest, leadingBlanks_append_afterBlanks]
    rw [here, frame.row, row] at caret
    rw [stuck, List.map_singleton, caret]
    rw [← List.append_assoc] at parts
    exact .stuck inked parts cut.tiled (cut.ends.resolve_left done) unmatched

/-- **A scanner hands out a reading of its lines.** -/
theorem reads_all (lexicon : Lexicon) (lines : List Line) :
    ∀ before, Reads lexicon before lines := by
  induction lines with
  | nil =>
    rintro before state rfl row column _
    rw [List.zipIdx_nil, scanLines, row, column]
    exact .finished
  | cons line lines ih =>
    rintro before state rfl row column depth
    cases line with
    | malformed => exact .malformed
    | text line =>
      have more : (before ++ [line]).length = before.length + 1 := List.length_append
      have marker : (state.enterLine line before.length lines).1 = _ := marker_enterLine depth
      have lexicon : (state.enterLine line before.length lines).2.lexicon = _ :=
        lexicon_enterLine state
      have row : (state.enterLine line before.length lines).2.row = _ := row_enterLine state
      have width : (state.enterLine line before.length lines).2.depth = _ := depth_enterLine state
      rw [List.zipIdx_cons]
      by_cases blank : isBlankLine line
      · have column : (state.enterLine line before.length lines).2.column = 1 :=
          column_of_blank state blank
        rw [if_pos blank] at width
        rw [marker_of_blank state blank] at marker
        rw [scanLines_blank state blank, List.map_cons, List.zipIdx_map_fst, marker]
        refine .blank blank ?_
        rw [← more]
        refine ih _ _ lexicon (row.trans more.symm) ?_ ?_
        · rw [column, endColumn_append, if_pos blank]
        · rw [width, depth, indentation_append_blank before blank]
      · have entered : (state.enterLine line before.length lines).2.Behind _ ∧ _ :=
          behind_enterLine state blank
        obtain ⟨behind, rest⟩ := entered
        rw [if_neg blank] at width
        rw [marker_of_inked state blank] at marker
        rw [scanLines_inked state blank, List.map_cons, List.zipIdx_map_fst, marker, ← lexicon]
        exact reading_scanContents (lexicon.symm ▸ ih _) blank behind rest row width

end ScanState

/-- What is scanned of a document is a reading of its lines. -/
theorem Pipeline.reading_scanned (lexicon : Lexicon) (lines : List Line) :
    Reading lexicon [] lines ((scanned lexicon lines).map (·.result)) :=
  ScanState.reads_all lexicon lines [] { lexicon, unread := lines } rfl rfl rfl rfl

/-- **Lines are cut without loss.** Popped as often as it takes, a scanner hands out a reading of
its lines: each line that it reads to its end and that is not blank consists of its leading blanks
and of lexemes, of which it hands out the matches that are not ignored, each in its own column;
where it finds no match, this holds of the part of the line before the caret; and the end of input
stands behind the last line. -/
theorem exists_reading (lexicon : Lexicon) (lines : List Line) :
    ∃ count, Reading lexicon [] lines (results (Scanner.ofLines lexicon lines) count) := by
  have first := Pipeline.answers_scanned lexicon lines
  refine ⟨(Pipeline.scanned lexicon lines).length, ?_⟩
  rw [results, first]
  exact ScanState.reads_all lexicon lines [] { lexicon, unread := lines } rfl rfl rfl rfl

end Offside
