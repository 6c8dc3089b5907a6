/-
**Blank lines are invisible.**

If newlines are collapsed and the ends are trimmed, blank lines may be put in and taken out
anywhere: nothing changes but rows, and the place of the end of input. `Twins` are numbered lines of
two documents that differ in blank lines.

* `cutLine_moved`: the tokens of a line do not depend on its row, nor on the lines behind it;
* `alikeLines_scanLines`: what scanners hand out for twins is alike once newlines are collapsed. The
  induction is on the twins; of the scanners only the depth has to be the same between two lines;
* `alike_tokenize`: a pipeline makes alike results of two lists of lines that differ in blank lines;
* `alike_tokenize_text`: the same for texts.
-/

import Offside.Proofs.Alike
import Offside.Proofs.Stretches
import Offside.Proofs.Tokenizing

namespace Offside

open Text TokenSource

/-! ### Lines that are not blank -/

/-- Whether a line was read and holds nothing but blanks. -/
def Text.Line.isBlank : Line → Bool
  | .text line => isBlankLine line
  | .malformed => false

theorem Text.Line.exists_of_isBlank {line : Line} (blank : line.isBlank = true) :
    ∃ chars, line = .text chars ∧ isBlankLine chars := by
  cases line with
  | malformed => cases blank
  | text chars => exact ⟨chars, rfl, blank⟩

/-- Numbered lines of two documents that differ in blank lines; rows of lines that are not blank
belong together. -/
inductive Twins (same : Nat → Nat → Prop) : List (Line × Nat) → List (Line × Nat) → Prop
  | nil : Twins same [] []
  | left {line : List Char} {number : Nat} {lines lines' : List (Line × Nat)} :
    isBlankLine line → Twins same lines lines' → Twins same ((.text line, number) :: lines) lines'
  | right {line : List Char} {number : Nat} {lines lines' : List (Line × Nat)} :
    isBlankLine line → Twins same lines lines' → Twins same lines ((.text line, number) :: lines')
  | both {line : Line} {number number' : Nat} {lines lines' : List (Line × Nat)} :
    line.isBlank = false → same (number + 1) (number' + 1) → Twins same lines lines' →
    Twins same ((line, number) :: lines) ((line, number') :: lines')

/-! ### Scanning twins -/

variable {same : Nat → Nat → Prop}

namespace ScanState

/-- The scanner in another row, before other lines. -/
def moved (state : ScanState) (row : Nat) (unread : List Line) : ScanState :=
  { state with row := row, unread := unread }

/-- The tokens of a line are the same in every row. -/
theorem cutLine_moved (state : ScanState) (row : Nat) (unread : List Line) :
    (state.moved row unread).cutLine =
      (state.cutLine.1.map fun shown => ({ shown.1 with row := row }, shown.2),
        state.cutLine.2.moved row unread) :=
  @cutLine_map (·.moved row unread) (fun token => { token with row := row }) (fun _ => rfl)
    (fun _ => rfl) (fun _ => rfl) (fun _ _ => rfl) (fun _ _ _ => rfl) (fun _ => rfl) state

/-- A line that is not blank leaves nothing of the lines before it but the rules. -/
theorem enterLine_moved {state state' : ScanState} (lexicon : state'.lexicon = state.lexicon)
    {line : List Char} (inked : ¬ isBlankLine line) (number number' : Nat)
    (unread unread' : List Line) :
    (state'.enterLine line number' unread').2 =
      (state.enterLine line number unread).2.moved (number' + 1) unread' := by
  rw [enterLine, enterLine, beginLine, beginLine, if_neg inked, if_neg inked]
  obtain ⟨⟩ := state
  obtain ⟨⟩ := state'
  subst lexicon
  rfl

/-- The tokens of a line and of its twin. -/
theorem alikeContent_cutLine {state : ScanState} (sound : state.lexicon.Sound) {row : Nat}
    (rows : same state.row row) (unread : List Line) :
    AlikeContent state.lexicon.reserved same (state.cutLine.1.map handOut)
      ((state.moved row unread).cutLine.1.map handOut) := by
  rw [cutLine_moved]
  simp only
  rw [List.map_map, AlikeContent, List.forall₂_map_left_iff, List.forall₂_map_right_iff,
    List.forall₂_same]
  intro shown member
  obtain ⟨free, here⟩ := kind_of_mem_cutLine sound member
  refine ⟨shown.1, { shown.1 with row := row }, ⟨rfl, rfl, rfl, ?_⟩,
    ReservedKinds.ne_newline_of_free free, ReservedKinds.ne_eof_of_free free, rfl, rfl, rfl⟩
  rw [here]
  exact rows

/-- What comes behind the tokens of a line and of its twin: the next lines, or a failure in the
middle of the line. -/
theorem alikeLines_behind {kinds : ReservedKinds} {state : ScanState} {row : Nat}
    {unread : List Line} {rest rest' : List (Line × Nat)} (rows : same state.row row)
    (onward : AlikeLines kinds same (state.cutLine.2.scanLines rest)
      ((state.cutLine.2.moved row unread).scanLines rest')) :
    AlikeLines kinds same
      (if state.cutLine.2.rest = [] then state.cutLine.2.scanLines rest
        else [state.cutLine.2.stuck])
      (if (state.moved row unread).cutLine.2.rest = [] then
        (state.moved row unread).cutLine.2.scanLines rest'
      else [(state.moved row unread).cutLine.2.stuck]) := by
  rw [cutLine_moved]
  have unmoved : (state.cutLine.2.moved row unread).rest = state.cutLine.2.rest := rfl
  simp only
  rw [unmoved]
  split
  · exact onward
  · have places : Caret.Alike same state.cutLine.2.caret
        (state.cutLine.2.moved row unread).caret := by
      refine ⟨rfl, rfl, rfl, ?_⟩
      show same state.cutLine.2.row row
      rw [(frame_cutLine state).row]
      exact rows
    exact .error (.unrecognizedInput places) _ _ [] []

/-- **Scanners of the same depth hand out alike lines for twins.** -/
theorem alikeLines_scanLines {lines lines' : List (Line × Nat)} (twins : Twins same lines lines')
    (state state' : ScanState) (sound : state.lexicon.Sound)
    (lexicon : state'.lexicon = state.lexicon) (depth : state'.depth = state.depth) :
    AlikeLines state.lexicon.reserved same (state.scanLines lines) (state'.scanLines lines') := by
  have distinct := sound.distinct
  induction twins generalizing state state' with
  | nil =>
    rw [scanLines, scanLines, lexicon]
    refine .eof distinct.newline_ne_eof ?_ ?_ ?_ _ _ <;> rfl
  | @left line number lines lines' blank _ ih =>
    have entered : (state.enterLine line number (lines.map (·.1))).2.lexicon = state.lexicon :=
      lexicon_enterLine state
    have width : (state.enterLine line number (lines.map (·.1))).2.depth = _ :=
      depth_enterLine state
    rw [if_pos blank] at width
    rw [scanLines_blank state blank]
    refine .newline_left rfl _ ?_
    rw [← entered] at sound lexicon distinct ⊢
    exact ih _ _ sound lexicon (depth.trans width.symm) distinct
  | @right line number lines lines' blank _ ih =>
    have entered : (state'.enterLine line number (lines'.map (·.1))).2.lexicon = state'.lexicon :=
      lexicon_enterLine state'
    have width : (state'.enterLine line number (lines'.map (·.1))).2.depth = _ :=
      depth_enterLine state'
    rw [if_pos blank] at width
    rw [scanLines_blank state' blank]
    refine .newline_right (by rw [lexicon]) _ ?_
    exact ih _ _ sound (entered.trans lexicon) (width.trans depth) distinct
  | @both line number number' lines lines' inked rows _ ih =>
    cases line with
    | malformed => exact .error (.unreadable _) _ _ _ _
    | text line =>
      have inked : ¬ isBlankLine line := Bool.eq_false_iff.mp inked
      let blanks := leadingBlanks line
      have markers : Token.Alike same ⟨state.layoutKind blanks.length, blanks, number + 1, 1⟩
          ⟨state'.layoutKind blanks.length, blanks, number' + 1, 1⟩ := by
        refine ⟨?_, rfl, rfl, rows⟩
        show state.layoutKind blanks.length = state'.layoutKind blanks.length
        rw [layoutKind, layoutKind, lexicon, depth]
      rw [scanLines_inked state inked, scanLines_inked state' inked,
        enterLine_moved lexicon inked number number' (lines.map (·.1)), scanContents, scanContents]
      have entered : (state.enterLine line number (lines.map (·.1))).2.lexicon = state.lexicon :=
        lexicon_enterLine state
      have row : (state.enterLine line number (lines.map (·.1))).2.row = number + 1 :=
        row_enterLine state
      generalize (state.enterLine line number (lines.map (·.1))).2 = begun at entered row ⊢
      have content : AlikeContent begun.lexicon.reserved same (begun.cutLine.1.map handOut)
          ((begun.moved (number' + 1) (lines'.map (·.1))).cutLine.1.map handOut) :=
        alikeContent_cutLine (entered ▸ sound) (row ▸ rows) _
      rw [entered] at content
      refine .marker distinct.newline_ne_eof markers ?_ ?_ _ content ?_
      · exact layoutKind_cases state _
      · exact layoutKind_ne_eof state distinct _
      · refine alikeLines_behind (row ▸ rows) ?_
        have behind : begun.cutLine.2.lexicon = state.lexicon :=
          (frame_cutLine begun).lexicon.trans entered
        rw [← behind] at sound distinct ⊢
        exact ih _ _ sound rfl rfl distinct

end ScanState

/-! ### Documents that differ in blank lines -/

/-- The rows of the lines that are not blank. -/
def inkedRows {α : Type} (blank : α → Bool) (lines : List α) : List Nat :=
  (lines.zipIdx.filter fun numbered => !blank numbered.1).map (·.2 + 1)

/-- Two rows hold the same line, if blank lines are not counted. -/
def SameLine (rows rows' : List Nat) (row row' : Nat) : Prop :=
  ∃ index : Nat, rows[index]? = some row ∧ rows'[index]? = some row'

/-- Numbered lines without twins are blank. -/
theorem twins_of_blank {lines : List (Line × Nat)}
    (blank : lines.filter (fun numbered => !numbered.1.isBlank) = []) : Twins same [] lines := by
  induction lines with
  | nil => exact .nil
  | cons numbered lines ih =>
    obtain ⟨line, number⟩ := numbered
    cases isBlank : line.isBlank with
    | false =>
      rw [List.filter_cons_of_pos (by rw [isBlank]; rfl)] at blank
      cases blank
    | true =>
      rw [List.filter_cons_of_neg (by rw [isBlank]; exact Bool.false_ne_true)] at blank
      obtain ⟨chars, rfl, isBlank⟩ := Line.exists_of_isBlank isBlank
      exact .right isBlank (ih blank)

/-- Lines are twins if those that are not blank are. -/
theorem twins_of_forall₂ {lines lines' : List (Line × Nat)}
    (inked : List.Forall₂ (fun first second => first.1 = second.1 ∧
      same (first.2 + 1) (second.2 + 1))
      (lines.filter fun numbered => !numbered.1.isBlank)
      (lines'.filter fun numbered => !numbered.1.isBlank)) : Twins same lines lines' := by
  induction lines generalizing lines' with
  | nil =>
    rw [List.filter_nil, List.forall₂_nil_left_iff] at inked
    exact twins_of_blank inked
  | cons numbered lines ih =>
    obtain ⟨line, number⟩ := numbered
    cases isBlank : line.isBlank with
    | true =>
      rw [List.filter_cons_of_neg (by rw [isBlank]; exact Bool.false_ne_true)] at inked
      obtain ⟨chars, rfl, isBlank⟩ := Line.exists_of_isBlank isBlank
      exact .left isBlank (ih inked)
    | false =>
      rw [List.filter_cons_of_pos (by rw [isBlank]; rfl)] at inked
      -- The twin stands behind the blank lines at the start of the other list.
      induction lines' with
      | nil => cases inked
      | cons numbered' lines' ih' =>
        obtain ⟨line', number'⟩ := numbered'
        cases isBlank' : line'.isBlank with
        | true =>
          rw [List.filter_cons_of_neg (by rw [isBlank']; exact Bool.false_ne_true)] at inked
          obtain ⟨chars, rfl, isBlank'⟩ := Line.exists_of_isBlank isBlank'
          exact .right isBlank' (ih' inked)
        | false =>
          rw [List.filter_cons_of_pos (by rw [isBlank']; rfl)] at inked
          cases inked with
          | cons both rest =>
            obtain ⟨sameLine, rows⟩ := both
            simp only at sameLine
            subst sameLine
            exact .both isBlank rows (ih rest)

/-- Numbered lists of the same lines, entry by entry. -/
theorem forall₂_of_map_fst {α : Type} {lines lines' : List (α × Nat)}
    (lists : lines.map (·.1) = lines'.map (·.1)) :
    List.Forall₂ (fun first second => first.1 = second.1 ∧
      SameLine (lines.map (·.2 + 1)) (lines'.map (·.2 + 1)) (first.2 + 1) (second.2 + 1))
      lines lines' := by
  have lengths : lines.length = lines'.length := by
    have := congrArg List.length lists
    rwa [List.length_map, List.length_map] at this
  refine List.forall₂_iff_get.mpr ⟨lengths, fun index here there => ⟨?_, index, ?_, ?_⟩⟩
  · have entries := congrArg (·[index]?) lists
    simp only [List.getElem?_map, List.getElem?_eq_getElem here,
      List.getElem?_eq_getElem there, Option.map_some, Option.some.injEq] at entries
    exact entries
  · rw [List.getElem?_map, List.getElem?_eq_getElem here]
    rfl
  · rw [List.getElem?_map, List.getElem?_eq_getElem there]
    rfl

/-- Leaving out numbered entries leaves out the entries. -/
theorem map_fst_filter_zipIdx {α : Type} (keep : α → Bool) (lines : List α) :
    (lines.zipIdx.filter fun numbered => keep numbered.1).map (·.1) = lines.filter keep := by
  have filtered : (lines.zipIdx.map (·.1)).filter keep = _ := List.filter_map
  rw [List.zipIdx_map_fst] at filtered
  exact filtered.symm

/-- Documents that differ in blank lines are twins. -/
theorem twins_of_filter {lines lines' : List Line}
    (inked : lines.filter (!·.isBlank) = lines'.filter (!·.isBlank)) :
    Twins (SameLine (inkedRows Line.isBlank lines) (inkedRows Line.isBlank lines'))
      lines.zipIdx lines'.zipIdx := by
  refine twins_of_forall₂ (forall₂_of_map_fst ?_)
  exact (map_fst_filter_zipIdx (fun line : Line => !line.isBlank) lines).trans
    (inked.trans (map_fst_filter_zipIdx (fun line : Line => !line.isBlank) lines').symm)

namespace Pipeline

/-- **Pipelines that collapse and trim make alike results of documents that differ in blank
lines.** -/
theorem alike_tokenize {pipeline : Pipeline} (sound : pipeline.lexicon.Sound)
    (collapse : pipeline.settings.collapse = true) (trim : pipeline.settings.trim = true)
    {lines lines' : List Line} (inked : lines.filter (!·.isBlank) = lines'.filter (!·.isBlank)) :
    AlikeResults pipeline.lexicon.reserved.eof
      (SameLine (inkedRows Line.isBlank lines) (inkedRows Line.isBlank lines'))
      (pipeline.tokenize lines) (pipeline.tokenize lines') := by
  have distinct := sound.distinct
  have scans := ScanState.alikeLines_scanLines (twins_of_filter inked)
    { lexicon := pipeline.lexicon, unread := lines }
    { lexicon := pipeline.lexicon, unread := lines' } sound rfl rfl
  have collapsed : AlikeAnswers pipeline.lexicon.reserved.eof
      (SameLine (inkedRows Line.isBlank lines) (inkedRows Line.isBlank lines'))
      (pipeline.settings.collapsed pipeline.lexicon.reserved (scanned pipeline.lexicon lines))
      (pipeline.settings.collapsed pipeline.lexicon.reserved
        (scanned pipeline.lexicon lines')) := by
    rw [Settings.collapsed, Settings.collapsed, if_pos collapse, if_pos collapse, trim]
    exact scans true none none
  rw [tokenize_eq pipeline sound, tokenize_eq pipeline sound]
  refine AlikeAnswers.collect ?_
  unfold Settings.rewrite Settings.leveled
  split
  · exact collapsed.leveled distinct _ 0
  · exact collapsed

end Pipeline

/-! ### Texts -/

namespace Text

/-- The text of lines that each end with a line feed. -/
def textOfLines (lines : List (List Char)) : List Char := lines.flatMap (· ++ ['\n'])

/-- Reading a text gives its lines, without carriage returns at their ends. -/
theorem linesOfText_textOfLines {lines : List (List Char)}
    (unbroken : ∀ line ∈ lines, '\n' ∉ line) :
    linesOfText (textOfLines lines) = lines.map fun line => .text (dropReturn line) := by
  induction lines with
  | nil => rfl
  | cons line lines ih =>
    have rest := ih fun other member => unbroken other (List.mem_cons_of_mem _ member)
    unfold linesOfText at rest ⊢
    have shape : textOfLines (line :: lines) = line ++ '\n' :: textOfLines lines := by
      rw [textOfLines, List.flatMap_cons, List.append_assoc]
      rfl
    rw [shape, stretches_line (unbroken line List.mem_cons_self), List.map_cons, rest]
    rfl

/-- A carriage return is a blank. -/
theorem isBlankLine_dropReturn (line : List Char) :
    isBlankLine (dropReturn line) = isBlankLine line := by
  unfold dropReturn
  split
  · rename_i ended
    have parts := List.dropLast_append_getLast? _ ended
    rw [isBlankLine, isBlankLine]
    conv_rhs => rw [← parts, List.all_append]
    exact (Bool.and_true _).symm
  · rfl

end Text

/-- Rows do not depend on what is made of the lines. -/
theorem inkedRows_map {α β : Type} (blank : β → Bool) (make : α → β) (lines : List α) :
    inkedRows blank (lines.map make) = inkedRows (fun line => blank (make line)) lines := by
  rw [inkedRows, inkedRows, List.zipIdx_map, List.filter_map, List.map_map]
  rfl

theorem inkedRows_linesOfText {lines : List (List Char)} (unbroken : ∀ line ∈ lines, '\n' ∉ line) :
    inkedRows Line.isBlank (linesOfText (textOfLines lines)) = inkedRows isBlankLine lines := by
  rw [linesOfText_textOfLines unbroken, inkedRows_map]
  exact congrArg (inkedRows · lines) (funext isBlankLine_dropReturn)

theorem filter_linesOfText {lines : List (List Char)} (unbroken : ∀ line ∈ lines, '\n' ∉ line) :
    (linesOfText (textOfLines lines)).filter (!·.isBlank) =
      (lines.filter (!isBlankLine ·)).map fun line => .text (dropReturn line) := by
  rw [linesOfText_textOfLines unbroken, List.filter_map]
  refine congrArg (List.map _) (List.filter_congr fun line _ => ?_)
  exact congrArg not (isBlankLine_dropReturn line)

example : inkedRows isBlankLine [[], "a".toList, "  ".toList, "  a".toList] = [2, 4] := by decide

namespace Pipeline

/-- **Blank lines are invisible.** Two texts whose lines differ in blank lines only give alike
results: tokens that agree in kind, text and column and stand in the same lines, or the same failure
in the same line. Only the place of the end of input may be another. -/
theorem alike_tokenize_text {draft : Draft} {pipeline : Pipeline}
    (compiled : draft.compile = .ok pipeline.lexicon)
    (distinct : pipeline.lexicon.reserved.Distinct)
    (collapse : pipeline.settings.collapse = true) (trim : pipeline.settings.trim = true)
    {lines lines' : List (List Char)} (unbroken : ∀ line ∈ lines, '\n' ∉ line)
    (unbroken' : ∀ line ∈ lines', '\n' ∉ line)
    (inked : lines.filter (!isBlankLine ·) = lines'.filter (!isBlankLine ·)) :
    AlikeResults pipeline.lexicon.reserved.eof
      (SameLine (inkedRows isBlankLine lines) (inkedRows isBlankLine lines'))
      (pipeline.tokenize (linesOfText (textOfLines lines)))
      (pipeline.tokenize (linesOfText (textOfLines lines'))) := by
  rw [← inkedRows_linesOfText unbroken, ← inkedRows_linesOfText unbroken']
  refine alike_tokenize (Lexicon.sound_of_compile compiled distinct) collapse trim ?_
  rw [filter_linesOfText unbroken, filter_linesOfText unbroken', inked]

/-- The hypotheses hold for two texts with blank lines at the start, between an indent and before
the end. -/
theorem alike_tokenize_letterPipeline :
    let lines := ["a".toList, "  a".toList, "a".toList]
    let lines' := [[], "a".toList, "  ".toList, "\t".toList, "  a".toList, "a".toList, []]
    letterDraft.compile = .ok letterPipeline.lexicon ∧ letterPipeline.lexicon.reserved.Distinct ∧
      letterPipeline.settings.collapse = true ∧ letterPipeline.settings.trim = true ∧
      (∀ line ∈ lines, '\n' ∉ line) ∧ (∀ line ∈ lines', '\n' ∉ line) ∧
      lines.filter (!isBlankLine ·) = lines'.filter (!isBlankLine ·) ∧
      AlikeResults letterPipeline.lexicon.reserved.eof
        (SameLine (inkedRows isBlankLine lines) (inkedRows isBlankLine lines'))
        (letterPipeline.tokenize (linesOfText (textOfLines lines)))
        (letterPipeline.tokenize (linesOfText (textOfLines lines'))) := by
  intro lines lines'
  have unbroken : ∀ line ∈ lines, '\n' ∉ line := by decide
  have unbroken' : ∀ line ∈ lines', '\n' ∉ line := by decide
  have inked : lines.filter (!isBlankLine ·) = lines'.filter (!isBlankLine ·) := by decide
  exact ⟨compile_letterDraft, distinct_letterPipeline, rfl, rfl, unbroken, unbroken', inked,
    alike_tokenize_text compile_letterDraft distinct_letterPipeline rfl rfl unbroken unbroken'
      inked⟩

end Pipeline

end Offside
