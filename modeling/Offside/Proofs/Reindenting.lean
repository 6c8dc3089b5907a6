/-
**Only the levels of indentation matter.**

Two documents have the same lines, but one is indented in units of its own: tabs here, four spaces
there. Counted in these units, the two give the same tokens in the same rows. The texts of the
tokens for the layout are as many units, and behind the indentation columns differ by what the
indentation itself differs in.

* `Token.Reindented`: how the tokens of the two documents belong together;
* `ScanState.reindented_scanLines`: scanners hand out tokens that belong together. The induction is
  on the lines, and between two of them the scanners are as many units deep;
* `Leveled.reindented_rewriter`: counting levels in the two units keeps tokens together;
* `Pipeline.reindented_tokenize`: so do whole pipelines;
* `Pipeline.reindented_tokenize_text`: the same for texts.
-/

import Offside.Proofs.BlankLines
import Offside.Proofs.SideBySide
import Offside.Proofs.Spacing

namespace Offside

open Text TokenSource

variable {kinds : ReservedKinds} {unit unit' : List Char} {levels : Nat → Nat}

/-- Tokens that belong together: those for the layout are as many units, and all others are the same
but for their columns, which are shifted as the indentation of their row is. -/
inductive Token.Reindented (kinds : ReservedKinds) (unit unit' : List Char) (levels : Nat → Nat) :
    Token → Token → Prop
  | layout {kind : String} {row count : Nat} :
    kind = kinds.newline ∨ kind = kinds.indent ∨ kind = kinds.deindent →
    Reindented kinds unit unit' levels ⟨kind, repeatUnit unit count, row, 1⟩
      ⟨kind, repeatUnit unit' count, row, 1⟩
  | other {kind : String} {text : List Char} {row column column' : Nat} :
    kind ≠ kinds.newline → kind ≠ kinds.indent → kind ≠ kinds.deindent →
    column + levels row * unit'.length = column' + levels row * unit.length →
    Reindented kinds unit unit' levels ⟨kind, text, row, column⟩ ⟨kind, text, row, column'⟩

theorem Token.Reindented.kind {token token' : Token}
    (both : token.Reindented kinds unit unit' levels token') : token.kind = token'.kind := by
  cases both <;> rfl

theorem Token.Reindented.row {token token' : Token}
    (both : token.Reindented kinds unit unit' levels token') : token.row = token'.row := by
  cases both <;> rfl

/-- Failures of the same kind in the same row. -/
inductive Failure.InSameRow : Failure → Failure → Prop
  | unrecognizedInput {caret caret' : Caret} :
    caret.row = caret'.row → InSameRow (.unrecognizedInput caret) (.unrecognizedInput caret')
  | invalidIndent {caret caret' : Caret} :
    caret.row = caret'.row → InSameRow (.invalidIndent caret) (.invalidIndent caret')
  | invalidDeindent {caret caret' : Caret} :
    caret.row = caret'.row → InSameRow (.invalidDeindent caret) (.invalidDeindent caret')

/-! ### Counting levels -/

namespace Leveled

/-- Counting levels in either unit keeps tokens together. -/
theorem reindented_rewriter (some : unit ≠ []) (some' : unit' ≠ []) :
    Rewriter.Matching (fun level level' => level = level')
      (Token.Reindented kinds unit unit' levels) (Token.Reindented kinds unit unit' levels)
      Failure.InSameRow (rewriter kinds unit) (rewriter kinds unit') := by
  rintro level _ token token' view view' rfl both
  cases both with
  | @layout kind row count isLayout =>
    have counted : repetitions? unit (repeatUnit unit count) = Option.some count :=
      (repetitions?_eq_some_iff some).mpr rfl
    have counted' : repetitions? unit' (repeatUnit unit' count) = Option.some count :=
      (repetitions?_eq_some_iff some').mpr rfl
    unfold rewriter
    simp only [counted, counted']
    split
    · split
      · exact .accepted (.cons (.layout isLayout) .nil) rfl
      · exact .refused (.invalidIndent rfl)
    · split
      · rename_i isDeindent
        rw [isDeindent]
        have deindent : ∀ count, Token.Reindented kinds unit unit' levels
            ⟨kinds.deindent, repeatUnit unit count, row, 1⟩
            ⟨kinds.deindent, repeatUnit unit' count, row, 1⟩ :=
          fun count => .layout (.inr (.inr rfl))
        exact .accepted (forall₂_deindentSteps (deindent count) deindent level count) rfl
      · exact .accepted (.cons (.layout isLayout) .nil) rfl
  | @other kind text row column column' noNewline noIndent noDeindent shifted =>
    rw [rewriter_of_plain level view ⟨noIndent, noDeindent⟩,
      rewriter_of_plain level view' ⟨noIndent, noDeindent⟩]
    exact .accepted (.cons (.other noNewline noIndent noDeindent shifted) .nil) rfl

end Leveled

/-! ### Scanning -/

/-- The lines with so many units in front of them. -/
def indentedLines (unit : List Char) (lines : List (Nat × List Char)) : List Line :=
  lines.map fun (level, text) => .text (repeatUnit unit level ++ text)

theorem leadingBlanks_append {blanks text : List Char} (blank : ∀ c ∈ blanks, isBlank c = true)
    (inked : StartsInked text) : leadingBlanks (blanks ++ text) = blanks := by
  obtain ⟨c, rest, rfl, solid⟩ := inked
  rw [leadingBlanks, List.takeWhile_append_of_pos blank, List.takeWhile_cons_of_neg]
  · exact List.append_nil _
  · exact Bool.eq_false_iff.mp solid

theorem afterBlanks_append {blanks text : List Char} (blank : ∀ c ∈ blanks, isBlank c = true)
    (inked : StartsInked text) : afterBlanks (blanks ++ text) = text := by
  have parts := leadingBlanks_append_afterBlanks (blanks ++ text)
  rw [leadingBlanks_append blank inked] at parts
  exact List.append_cancel_left parts

theorem not_isBlankLine_append {text : List Char} (blanks : List Char) (inked : StartsInked text) :
    ¬ isBlankLine (blanks ++ text) := by
  obtain ⟨c, rest, rfl, solid⟩ := inked
  intro blank
  have here := List.all_eq_true.mp blank c (List.mem_append_right _ List.mem_cons_self)
  rw [solid] at here
  cases here

theorem mem_of_mem_repeatUnit {c : Char} {count : Nat} (member : c ∈ repeatUnit unit count) :
    c ∈ unit := by
  obtain ⟨part, inParts, inPart⟩ := List.mem_flatten.mp member
  rwa [List.eq_of_mem_replicate inParts] at inPart

namespace ScanState

/-- Two scanners before the same rest of a line, which starts in columns that differ. -/
structure Beside (wide wide' : Nat) (state state' : ScanState) : Prop where
  lexicon : state'.lexicon = state.lexicon
  rest : state'.rest = state.rest
  row : state'.row = state.row
  column : state.column + wide' = state'.column + wide

theorem Beside.pass {wide wide' : Nat} {state state' : ScanState}
    (beside : Beside wide wide' state state')
    (count : Nat) : Beside wide wide' (state.pass count) (state'.pass count) := by
  refine ⟨beside.lexicon, ?_, beside.row, ?_⟩
  · rw [rest_pass, rest_pass, beside.rest]
  · have column := beside.column
    show state.column + (state.rest.take count).length + wide' =
      state'.column + (state'.rest.take count).length + wide
    rw [beside.rest]
    omega

theorem Beside.passBlanks {wide wide' : Nat} {state state' : ScanState}
    (beside : Beside wide wide' state state') :
    Beside wide wide' state.passBlanks state'.passBlanks := by
  rw [ScanState.passBlanks, ScanState.passBlanks, beside.rest]
  exact beside.pass _

/-- The same rest of a line is cut into the same tokens, in columns that differ as its own do. -/
theorem forall₂_cutLine {wide wide' : Nat} (state : ScanState) :
    ∀ state', Beside wide wide' state state' →
      List.Forall₂ (fun shown shown' : Token × View => ∃ column',
        shown.1.column + wide' = column' + wide ∧ shown'.1 = { shown.1 with column := column' })
        state.cutLine.1 state'.cutLine.1 ∧ Beside wide wide' state.cutLine.2 state'.cutLine.2 := by
  fun_induction cutLine state with
  | case1 state done =>
    intro state' beside
    rw [cutLine_of_rest_eq_nil (beside.rest.trans done)]
    exact ⟨.nil, beside⟩
  | case2 state more unmatched =>
    intro state' beside
    rw [← beside.rest] at more unmatched
    rw [← beside.lexicon] at unmatched
    rw [cutLine_of_stuck more unmatched]
    exact ⟨.nil, beside⟩
  | case3 state more found matched onward ignored ih =>
    intro state' beside
    rw [← beside.rest, ← beside.lexicon] at matched
    rw [← beside.lexicon] at ignored
    rw [← beside.rest] at more
    rw [cutLine_of_match more matched, if_pos ignored]
    exact ih _ (beside.pass _).passBlanks
  | case4 state more found matched onward kept ih =>
    intro state' beside
    rw [← beside.rest, ← beside.lexicon] at matched
    rw [← beside.lexicon] at kept
    rw [← beside.rest] at more
    rw [cutLine_of_match more matched, if_neg kept]
    obtain ⟨others, last⟩ := ih _ (beside.pass _).passBlanks
    refine ⟨.cons ⟨_, beside.column, ?_⟩ others, last⟩
    rw [token, beside.row]
    rfl

/-- Two scanners between two lines, as many units deep. -/
structure SameLevel (unit unit' : List Char) (number : Nat) (state state' : ScanState) : Prop where
  lexicon : state'.lexicon = state.lexicon
  row : state.row = number
  row' : state'.row = number
  depth : ∃ level, state.depth = level * unit.length ∧ state'.depth = level * unit'.length

/-- The columns of two scanners differ as the indentation of the line does in which they stand;
before the first line that is the first row. -/
def SameColumn (unit unit' : List Char) (levels : Nat → Nat) (state state' : ScanState) : Prop :=
  state.column + levels (max state.row 1) * unit'.length =
    state'.column + levels (max state.row 1) * unit.length

/-- A scanner behind the indentation of a line. -/
structure Entered (text : List Char) (number width : Nat) (state begun : ScanState) : Prop where
  lexicon : begun.lexicon = state.lexicon
  rest : begun.rest = text
  row : begun.row = number + 1
  column : begun.column = width + 1
  depth : begun.depth = width

theorem entered_enterLine (state : ScanState) {blanks text : List Char}
    (blank : ∀ c ∈ blanks, isBlank c = true) (inked : StartsInked text) (number : Nat)
    (unread : List Line) :
    Entered text number blanks.length state (state.enterLine (blanks ++ text) number unread).2 := by
  have solid := not_isBlankLine_append blanks inked
  have entered : (state.enterLine (blanks ++ text) number unread).2.Behind _ ∧ _ :=
    state.behind_enterLine solid
  obtain ⟨behind, rest⟩ := entered
  refine ⟨state.lexicon_enterLine, ?_, state.row_enterLine, ?_, ?_⟩
  · rw [rest, afterBlanks_append blank inked]
  · rw [behind.column, leadingBlanks_append blank inked]
  · rw [state.depth_enterLine, if_neg solid, leadingBlanks_append blank inked]

/-- Behind the indentation of lines that go on alike, the columns differ as the indentations do. -/
theorem Entered.beside {text : List Char} {number wide wide' : Nat}
    {state state' begun begun' : ScanState}
    (same : state'.lexicon = state.lexicon) (here : Entered text number wide state begun)
    (here' : Entered text number wide' state' begun') : Beside wide wide' begun begun' := by
  refine ⟨here'.lexicon.trans (same.trans here.lexicon.symm), here'.rest.trans here.rest.symm,
    here'.row.trans here.row.symm, ?_⟩
  rw [here.column, here'.column]
  omega

/-- How the answers of two scanners belong together. -/
abbrev ReindentedAnswers (kinds : ReservedKinds) (unit unit' : List Char) (levels : Nat → Nat) :
    List Answer → List Answer → Prop :=
  List.Forall₂ (Answer.Matches (Token.Reindented kinds unit unit' levels) Failure.InSameRow)

/-- The contents of a line, and what comes behind them. -/
theorem reindented_scanContents {number level : Nat} {state state' : ScanState}
    (sound : state.lexicon.Sound) (row : state.row = number + 1)
    (height : levels (number + 1) = level)
    (depth : state.depth = level * unit.length) (depth' : state'.depth = level * unit'.length)
    (beside : Beside (level * unit.length) (level * unit'.length) state state')
    {lines lines' : List (Line × Nat)}
    (onward : ∀ {last last' : ScanState}, last.lexicon = state.lexicon →
      SameLevel unit unit' (number + 1) last last' → SameColumn unit unit' levels last last' →
      ReindentedAnswers state.lexicon.reserved unit unit' levels (last.scanLines lines)
        (last'.scanLines lines')) :
    ReindentedAnswers state.lexicon.reserved unit unit' levels (state.scanContents lines)
      (state'.scanContents lines') := by
  obtain ⟨content, last⟩ := forall₂_cutLine state state' beside
  have frame := frame_cutLine state
  have frame' := frame_cutLine state'
  have here : state.cutLine.2.row = number + 1 := frame.row.trans row
  have same : SameLevel unit unit' (number + 1) state.cutLine.2 state'.cutLine.2 := by
    refine ⟨last.lexicon, here, last.row.trans here, level, ?_, ?_⟩
    · rw [frame.depth, depth]
    · rw [frame'.depth, depth']
  have column : SameColumn unit unit' levels state.cutLine.2 state'.cutLine.2 := by
    rw [SameColumn, here, Nat.max_eq_left (Nat.le_add_left _ _), height]
    exact last.column
  rw [scanContents, scanContents]
  refine List.rel_append ?_ ?_
  · rw [List.forall₂_map_left_iff, List.forall₂_map_right_iff]
    have inLine : ∀ shown ∈ state.cutLine.1, state.lexicon.reserved.contains shown.1.kind = false ∧
        shown.1.row = number + 1 := fun shown member => by
      rw [← row]
      exact kind_of_mem_cutLine sound member
    refine ((List.forall₂_and_left _ _).mpr ⟨inLine, content⟩).imp ?_
    rintro ⟨⟨kind, text, place, column⟩, view⟩ ⟨_, view'⟩ ⟨⟨free, rfl⟩, column', shifted, rfl⟩
    have differs := ReservedKinds.contains_eq_false_iff.mp free
    refine .ok _ _ (.other differs.2.2.1 differs.1 differs.2.1 ?_)
    rw [height]
    exact shifted
  · rw [last.rest]
    split
    · exact onward frame.lexicon same column
    · refine .cons (.error _ _ (.unrecognizedInput ?_)) .nil
      exact last.row.symm

section Units

variable (some : unit ≠ []) (some' : unit' ≠ [])

include some some'

/-- A width of so many units compares with the depth alike, whatever the unit is. -/
theorem SameLevel.layoutKind {number : Nat} {state state' : ScanState}
    (same : SameLevel unit unit' number state state') (level : Nat) :
    state'.layoutKind (repeatUnit unit' level).length =
      state.layoutKind (repeatUnit unit level).length := by
  obtain ⟨before, depth, depth'⟩ := same.depth
  have positive : 0 < unit.length := List.length_pos_iff.mpr some
  have positive' : 0 < unit'.length := List.length_pos_iff.mpr some'
  rw [ScanState.layoutKind, ScanState.layoutKind, same.lexicon, depth, depth', length_repeatUnit,
    length_repeatUnit]
  simp only [Nat.mul_lt_mul_right positive, Nat.mul_lt_mul_right positive']

variable (blank : ∀ c ∈ unit, isBlank c = true) (blank' : ∀ c ∈ unit', isBlank c = true)

include blank blank'

/-- **Scanners that are as many units deep hand out tokens that belong together.** -/
theorem reindented_scanLines (lines : List (Nat × List Char))
    (inked : ∀ line ∈ lines, StartsInked line.2) {number : Nat}
    (heights : ∀ index line, lines[index]? = Option.some line →
      levels (number + index + 1) = line.1)
    {state state' : ScanState} (sound : state.lexicon.Sound)
    (same : SameLevel unit unit' number state state')
    (ended : lines = [] → SameColumn unit unit' levels state state') :
    ReindentedAnswers state.lexicon.reserved unit unit' levels
      (state.scanLines ((indentedLines unit lines).zipIdx number))
      (state'.scanLines ((indentedLines unit' lines).zipIdx number)) := by
  induction lines generalizing number state state' with
  | nil =>
    show ReindentedAnswers _ _ _ _ (state.scanLines []) (state'.scanLines [])
    have distinct := sound.distinct
    have row : state'.row = state.row := same.row'.trans same.row.symm
    rw [scanLines, scanLines, same.lexicon, row]
    refine .cons (.ok _ _ (.other ?_ ?_ ?_ (ended rfl))) .nil
    · exact Ne.symm distinct.newline_ne_eof
    · exact distinct.eof_ne_indent
    · exact distinct.eof_ne_deindent
  | cons line lines ih =>
    obtain ⟨level, text⟩ := line
    obtain ⟨starts, inked⟩ := List.forall_mem_cons.mp inked
    have height : levels (number + 1) = level := heights 0 _ rfl
    have later : ∀ index line, lines[index]? = Option.some line →
        levels (number + 1 + index + 1) = line.1 := fun index line found => by
      rw [← heights (index + 1) line found, Nat.add_right_comm number 1 index, Nat.add_assoc number]
    have blanks : ∀ c ∈ repeatUnit unit level, isBlank c = true :=
      fun c member => blank c (mem_of_mem_repeatUnit member)
    have blanks' : ∀ c ∈ repeatUnit unit' level, isBlank c = true :=
      fun c member => blank' c (mem_of_mem_repeatUnit member)
    show ReindentedAnswers _ _ _ _
      (state.scanLines ((.text (repeatUnit unit level ++ text), number) ::
        (indentedLines unit lines).zipIdx (number + 1)))
      (state'.scanLines ((.text (repeatUnit unit' level ++ text), number) ::
        (indentedLines unit' lines).zipIdx (number + 1)))
    rw [scanLines_inked state (not_isBlankLine_append _ starts),
      scanLines_inked state' (not_isBlankLine_append _ starts), leadingBlanks_append blanks starts,
      leadingBlanks_append blanks' starts, same.layoutKind some some', List.zipIdx_map_fst,
      List.zipIdx_map_fst]
    refine .cons (.ok _ _ (.layout (layoutKind_cases state _))) ?_
    have here := entered_enterLine state blanks starts number (indentedLines unit lines)
    have here' := entered_enterLine state' blanks' starts number (indentedLines unit' lines)
    rw [length_repeatUnit] at here here'
    generalize (state.enterLine _ number (indentedLines unit lines)).2 = begun at here ⊢
    generalize (state'.enterLine _ number (indentedLines unit' lines)).2 = begun' at here' ⊢
    have beside := here.beside same.lexicon here'
    rw [← here.lexicon] at sound ⊢
    refine reindented_scanContents sound here.row height here.depth here'.depth beside ?_
    intro last last' lexicon between column
    rw [← lexicon] at sound ⊢
    exact ih inked later sound between fun _ => column

end Units

end ScanState

/-! ### Pipelines -/

/-- The number of units in front of the line in a row. -/
def levelAt (lines : List (Nat × List Char)) (row : Nat) : Nat := (lines.map (·.1))[row - 1]?.getD 0

namespace Pipeline

/-- The pipeline with another unit. -/
def withUnit (pipeline : Pipeline) (unit : List Char) (some : unit ≠ []) : Pipeline :=
  ⟨pipeline.lexicon, { pipeline.settings with unit := unit }, fun _ => some⟩

theorem reindented_scanned {lexicon : Lexicon} (sound : lexicon.Sound) (some : unit ≠ [])
    (some' : unit' ≠ []) (blank : ∀ c ∈ unit, isBlank c = true)
    (blank' : ∀ c ∈ unit', isBlank c = true)
    {lines : List (Nat × List Char)} (inked : ∀ line ∈ lines, StartsInked line.2) :
    ScanState.ReindentedAnswers lexicon.reserved unit unit' (levelAt lines)
      (scanned lexicon (indentedLines unit lines))
        (scanned lexicon (indentedLines unit' lines)) := by
  have fresh : ScanState.SameLevel unit unit' 0 { lexicon, unread := indentedLines unit lines }
      { lexicon, unread := indentedLines unit' lines } :=
    ⟨rfl, rfl, rfl, 0, (Nat.zero_mul _).symm, (Nat.zero_mul _).symm⟩
  refine ScanState.reindented_scanLines some some' blank blank' lines inked ?_ sound fresh ?_
  · intro index line found
    rw [levelAt, Nat.zero_add, Nat.add_sub_cancel, List.getElem?_map, found]
    rfl
  · rintro rfl
    show 1 + 0 * unit'.length = 1 + 0 * unit.length
    rw [Nat.zero_mul, Nat.zero_mul]

/-- Two units make results that belong together of lines that are indented in each of them. -/
theorem reindented_tokenize {pipeline : Pipeline} (sound : pipeline.lexicon.Sound)
    (counted : pipeline.settings.levels = true) (some : unit ≠ []) (some' : unit' ≠ [])
    (blank : ∀ c ∈ unit, isBlank c = true) (blank' : ∀ c ∈ unit', isBlank c = true)
    {lines : List (Nat × List Char)} (inked : ∀ line ∈ lines, StartsInked line.2) :
    MatchingResults (Token.Reindented pipeline.lexicon.reserved unit unit' (levelAt lines))
      Failure.InSameRow
      ((pipeline.withUnit unit some).tokenize (indentedLines unit lines))
      ((pipeline.withUnit unit' some').tokenize (indentedLines unit' lines)) := by
  have scans := reindented_scanned sound some some' blank blank' inked
  have collapses : ScanState.ReindentedAnswers pipeline.lexicon.reserved unit unit' (levelAt lines)
      (pipeline.settings.collapsed pipeline.lexicon.reserved
        (scanned pipeline.lexicon (indentedLines unit lines)))
      (pipeline.settings.collapsed pipeline.lexicon.reserved
        (scanned pipeline.lexicon (indentedLines unit' lines))) := by
    unfold Settings.collapsed
    split
    · exact Rewriter.forall₂_run (Collapsed.matches_rewriter _ fun both => .of_eq _ both.kind) scans
        ⟨rfl, .nil⟩
    · exact scans
  rw [tokenize_eq (pipeline.withUnit unit some) sound,
    tokenize_eq (pipeline.withUnit unit' some') sound]
  refine Answer.matches_collect (fun both => (ReservedKinds.SamePart.of_eq _ both.kind).eof) ?_
  have levels : ∀ (unit : List Char) (some : unit ≠ []) list,
      (pipeline.withUnit unit some).settings.leveled pipeline.lexicon.reserved list =
        (Leveled.rewriter pipeline.lexicon.reserved unit).run (.ok 0) list :=
    fun _ _ _ => if_pos counted
  rw [Settings.rewrite, Settings.rewrite]
  show ScanState.ReindentedAnswers _ _ _ _ (Settings.leveled _ pipeline.lexicon.reserved _)
    (Settings.leveled _ pipeline.lexicon.reserved _)
  rw [levels unit some, levels unit' some']
  exact Rewriter.forall₂_run (Leveled.reindented_rewriter some some') collapses rfl

end Pipeline

/-! ### Texts -/

namespace Text

/-- The text of some lines; the last of them may lack its line feed. -/
def joinLines (ended : Bool) : List (List Char) → List Char
  | [] => []
  | [line] => line ++ if ended then ['\n'] else []
  | line :: next :: rest => line ++ '\n' :: joinLines ended (next :: rest)

/-- The entries of a list, each with whether it is ended as a line is. -/
def flagged {α : Type} (ended : Bool) : List α → List (α × Bool)
  | [] => []
  | [entry] => [(entry, ended)]
  | entry :: next :: rest => (entry, true) :: flagged ended (next :: rest)

theorem map_fst_flagged {α : Type} (ended : Bool) (list : List α) :
    (flagged ended list).map (·.1) = list := by
  fun_induction flagged ended list with
  | case1 => rfl
  | case2 => rfl
  | case3 entry next rest ih => rw [List.map_cons, ih]

theorem flagged_map {α β : Type} (ended : Bool) (make : α → β) (list : List α) :
    flagged ended (list.map make) = (flagged ended list).map fun entry =>
      (make entry.1, entry.2) := by
  fun_induction flagged ended list with
  | case1 => rfl
  | case2 => rfl
  | case3 entry next rest ih =>
    rw [List.map_cons] at ih
    rw [List.map_cons, List.map_cons, flagged, ih, List.map_cons]

/-- A text has the lines that it is made of. -/
theorem stretches_joinLines (ended : Bool) {lines : List (List Char)}
    (unbroken : ∀ line ∈ lines, '\n' ∉ line) (some : ∀ line ∈ lines, line ≠ []) :
    stretches '\n' (joinLines ended lines) = flagged ended lines := by
  fun_induction joinLines ended lines with
  | case1 => rfl
  | case2 line =>
    have here := unbroken line List.mem_cons_self
    cases ended with
    | true => exact stretches_line here []
    | false =>
      show stretches '\n' (line ++ []) = _
      rw [List.append_nil]
      exact stretches_of_unbroken (some line List.mem_cons_self) here
  | case3 line next rest ih =>
    rw [stretches_line (unbroken line List.mem_cons_self), flagged,
      ih (fun other member => unbroken other (List.mem_cons_of_mem _ member))
        fun other member => some other (List.mem_cons_of_mem _ member)]

theorem startsInked_lineText {line : List Char} (inked : StartsInked line) (terminated : Bool) :
    StartsInked (lineText line terminated) := by
  obtain ⟨c, rest, rfl, solid⟩ := inked
  cases rest with
  | nil =>
    have other : c ≠ '\r' := by
      rintro rfl
      cases solid
    have kept : lineText [c] terminated = [c] := by
      unfold lineText dropReturn
      rw [List.getLast?_singleton, if_neg fun same => other (Option.some.inj same), ite_self]
    exact ⟨c, [], kept, solid⟩
  | cons d rest =>
    exact ⟨c, _, lineText_append [c] (List.cons_ne_nil d rest) terminated, solid⟩

end Text

/-- A text whose lines have so many units in front of them. -/
def indentedText (ended : Bool) (unit : List Char) (lines : List (Nat × List Char)) : List Char :=
  joinLines ended (lines.map fun (level, text) => repeatUnit unit level ++ text)

/-- The lines as they are read: a carriage return in front of a line feed is left out. -/
def readLines (ended : Bool) (lines : List (Nat × List Char)) : List (Nat × List Char) :=
  (flagged ended lines).map fun ((level, text), terminated) => (level, lineText text terminated)

theorem levelAt_readLines (ended : Bool) (lines : List (Nat × List Char)) :
    levelAt (readLines ended lines) = levelAt lines := by
  have same : (readLines ended lines).map (·.1) = lines.map (·.1) := by
    conv_rhs => rw [← map_fst_flagged ended lines]
    rw [readLines, List.map_map, List.map_map]
    rfl
  funext row
  rw [levelAt, levelAt, same]

theorem linesOfText_indentedText (ended : Bool) {lines : List (Nat × List Char)}
    (unbroken : ∀ c ∈ unit, c ≠ '\n') (plain : ∀ line ∈ lines, StartsInked line.2 ∧ '\n' ∉ line.2) :
    linesOfText (indentedText ended unit lines) = indentedLines unit (readLines ended lines) := by
  have some : ∀ line ∈ lines.map (fun (level, text) => repeatUnit unit level ++ text),
      line ≠ [] := by
    intro line member
    obtain ⟨⟨level, text⟩, inLines, rfl⟩ := List.mem_map.mp member
    exact List.append_ne_nil_of_right_ne_nil _ (plain _ inLines).1.ne_nil
  have whole : ∀ line ∈ lines.map (fun (level, text) => repeatUnit unit level ++ text),
      '\n' ∉ line := by
    intro line member feed
    obtain ⟨⟨level, text⟩, inLines, rfl⟩ := List.mem_map.mp member
    rcases List.mem_append.mp feed with inUnits | inText
    · exact unbroken _ (mem_of_mem_repeatUnit inUnits) rfl
    · exact (plain _ inLines).2 inText
  rw [linesOfText, indentedText, stretches_joinLines ended whole some, flagged_map, List.map_map,
    indentedLines, readLines, List.map_map]
  refine List.map_congr_left fun entry member => ?_
  have inLines : entry.1 ∈ lines := by
    rw [← map_fst_flagged ended lines]
    exact List.mem_map_of_mem member
  exact congrArg Line.text (lineText_append _ (plain _ inLines).1.ne_nil _)

namespace Pipeline

/-- **Only the levels of indentation matter.** Let two texts have the same lines, indented by as
many units each, but each text in a unit of its own. If levels are counted in these units, both give
the same tokens in the same rows, of which those for the layout are as many units, and columns are
shifted as the indentation is; or both fail in the same row, with failures of the same kind. -/
theorem reindented_tokenize_text {draft : Draft} {pipeline : Pipeline}
    (compiled : draft.compile = .ok pipeline.lexicon)
    (distinct : pipeline.lexicon.reserved.Distinct)
    (counted : pipeline.settings.levels = true) (some : unit ≠ []) (some' : unit' ≠ [])
    (blank : ∀ c ∈ unit, isBlank c = true ∧ c ≠ '\n')
    (blank' : ∀ c ∈ unit', isBlank c = true ∧ c ≠ '\n')
    {lines : List (Nat × List Char)} (plain : ∀ line ∈ lines, StartsInked line.2 ∧ '\n' ∉ line.2)
    (ended : Bool) :
    MatchingResults (Token.Reindented pipeline.lexicon.reserved unit unit' (levelAt lines))
      Failure.InSameRow
      ((pipeline.withUnit unit some).tokenize (linesOfText (indentedText ended unit lines)))
      ((pipeline.withUnit unit' some').tokenize
        (linesOfText (indentedText ended unit' lines))) := by
  have inked : ∀ line ∈ readLines ended lines, StartsInked line.2 := by
    intro line member
    obtain ⟨entry, inFlagged, rfl⟩ := List.mem_map.mp member
    have inLines : entry.1 ∈ lines := by
      rw [← map_fst_flagged ended lines]
      exact List.mem_map_of_mem inFlagged
    exact startsInked_lineText (plain _ inLines).1 entry.2
  rw [linesOfText_indentedText ended (fun c member => (blank c member).2) plain,
    linesOfText_indentedText ended (fun c member => (blank' c member).2) plain,
    ← levelAt_readLines ended lines]
  exact reindented_tokenize (Lexicon.sound_of_compile compiled distinct) counted some some'
    (fun c member => (blank c member).1) (fun c member => (blank' c member).1) inked

/-- The hypotheses hold for two spaces and a tab, and lines that open levels and close them both at
once. -/
theorem reindented_tokenize_letters :
    let unit := "  ".toList
    let unit' := "\t".toList
    let lines := [(0, "a".toList), (1, "a".toList), (2, "a a".toList), (0, "a".toList)]
    (letterDraft.compile = .ok letterPipeline.lexicon ∧ letterPipeline.lexicon.reserved.Distinct ∧
      letterPipeline.settings.levels = true ∧ (∀ c ∈ unit, isBlank c = true ∧ c ≠ '\n') ∧
      (∀ c ∈ unit', isBlank c = true ∧ c ≠ '\n') ∧
      ∀ line ∈ lines, StartsInked line.2 ∧ '\n' ∉ line.2) ∧
    ∃ (some : unit ≠ []) (some' : unit' ≠ []),
      MatchingResults (Token.Reindented letterPipeline.lexicon.reserved unit unit' (levelAt lines))
        Failure.InSameRow
        ((letterPipeline.withUnit unit some).tokenize (linesOfText (indentedText false unit lines)))
        ((letterPipeline.withUnit unit' some').tokenize
          (linesOfText (indentedText false unit' lines))) := by
  intro unit unit' lines
  have some : unit ≠ [] := List.cons_ne_nil _ _
  have some' : unit' ≠ [] := List.cons_ne_nil _ _
  have blank : ∀ c ∈ unit, isBlank c = true ∧ c ≠ '\n' :=
    List.forall_mem_cons.mpr ⟨by decide, List.forall_mem_singleton.mpr (by decide)⟩
  have blank' : ∀ c ∈ unit', isBlank c = true ∧ c ≠ '\n' :=
    List.forall_mem_singleton.mpr (by decide)
  have starts : ∀ rest, StartsInked ('a' :: rest) := fun rest => ⟨'a', rest, rfl, rfl⟩
  have plain : ∀ line ∈ lines, StartsInked line.2 ∧ '\n' ∉ line.2 := by
    intro line member
    refine ⟨?_, ?_⟩
    · simp only [lines, List.mem_cons, List.not_mem_nil, or_false] at member
      rcases member with rfl | rfl | rfl | rfl <;> exact starts _
    · revert line
      decide
  exact ⟨⟨compile_letterDraft, distinct_letterPipeline, rfl, blank, blank', plain⟩, some, some',
    reindented_tokenize_text compile_letterDraft distinct_letterPipeline rfl some some' blank blank'
      plain
      false⟩

end Pipeline

end Offside
