/-
**Descriptions, line by line.**

Blanks and line breaks between the tokens of a description mean nothing, so what there is to read in
a description is what there is to read in its lines, one after the other, and then the end of input.
What is read in a line depends on the line alone, but for the row.

* `contentItems_moved`, `lineItems_below`: the same line further down;
* `read_legible`: reading what a scanner hands out for lines is reading these lines one after the
  other. The induction is on the lines; of the scanner only the rules matter, as the tokens in which
  its depth shows are left out;
* `loadInto_eq`: the same for a whole description;
* `read_below`: reading the same items further down.
-/

import Offside.Proofs.LineBreaks
import Offside.Proofs.ReadingOn

namespace Offside.Description

open ScanState (handOut)
open Text TokenSource

/-! ### Reading alike -/

/-- Two lists of items that nothing tells apart that reads them. -/
def SameReading (first second : List (Except Failure Placed)) : Prop :=
  ∀ draft expectation, read draft expectation first = read draft expectation second

namespace SameReading

variable {first second : List (Except Failure Placed)}

/-- Reading goes on alike behind the same items. -/
theorem append_left (same : SameReading first second) (front : List (Except Failure Placed)) :
    SameReading (front ++ first) (front ++ second) := by
  induction front with
  | nil => exact same
  | cons item front ih =>
    intro draft expectation
    cases item with
    | error failure => rfl
    | ok placed =>
      rw [List.cons_append, List.cons_append, read, read]
      split
      · exact ih _ _
      · rfl
      · rfl

/-- Nothing is read behind a failure. -/
theorem of_error (failure : Failure) (behind : List (Except Failure Placed)) :
    SameReading [.error failure] (.error failure :: behind) := fun _ _ => rfl

end SameReading

/-! ### Items further down -/

/-- A token some rows further down, on the same line. -/
def Placed.below (placed : Placed) (rows : Nat) : Placed := ⟨placed.token.below rows, placed.line⟩

/-- An item some rows further down. -/
def itemBelow (rows : Nat) : Except Failure Placed → Except Failure Placed
  | .ok placed => .ok (placed.below rows)
  | .error failure => .error (failure.below rows)

theorem below_zero (failure : Failure) : failure.below 0 = failure := by
  cases failure <;> rfl

theorem map_itemBelow_zero (items : List (Except Failure Placed)) :
    items.map (itemBelow 0) = items := by
  refine (List.map_congr_left fun item _ => ?_).trans (List.map_id items)
  cases item with
  | ok placed => rfl
  | error failure => exact congrArg Except.error (below_zero failure)

/-- **What is read further down is the same**, and if it fails it fails further down. -/
theorem read_below (rows : Nat) (items : List (Except Failure Placed)) :
    ∀ draft expectation, read draft expectation (items.map (itemBelow rows)) =
      ((read draft expectation items).1,
        (read draft expectation items).2.map (Failure.below rows)) := by
  induction items with
  | nil => exact fun _ _ => rfl
  | cons item items ih =>
    intro draft expectation
    cases item with
    | error failure => rfl
    | ok placed =>
      have same : step expectation (placed.below rows).token = step expectation placed.token :=
        step_congr rfl expectation
      rw [List.map_cons, itemBelow, read, read]
      simp only [same]
      split
      · exact ih _ _
      · rfl
      · rfl

/-! ### What there is to read in a line -/

/-- What an answer hands out, with the line it stands on. -/
def placedIn (answer : Answer) : Except Failure Placed :=
  answer.result.map fun token => ⟨token, answer.view.line⟩

/-- What there is to read in answers: all but the tokens for the layout of lines. -/
def legible (list : List Answer) : List (Except Failure Placed) :=
  (list.map placedIn).filter fun result => !isLayout result

/-- What there is to read in the rest of a line. -/
def contentItems (state : ScanState) : List (Except Failure Placed) :=
  state.cutLine.1.map (fun shown => .ok ⟨shown.1, shown.2.line⟩) ++
    if state.cutLine.2.rest = [] then [] else [.error (.unrecognizedInput state.cutLine.2.caret)]

/-- A scanner for descriptions behind the layout of a line. -/
def entered (line : List Char) (number : Nat) : ScanState :=
  (ScanState.enterLine { lexicon, unread := [] } line number []).2

/-- What there is to read in a line with the number of lines before it. -/
def lineItems : Line × Nat → List (Except Failure Placed)
  | (.malformed, _) => [.error .malformedText]
  | (.text line, number) => if isBlankLine line then [] else contentItems (entered line number)

/-- A scanner for descriptions behind a line. -/
def lineEnd : Line × Nat → ScanState
  | (.malformed, number) => entered [] number
  | (.text line, number) =>
    if isBlankLine line then entered line number else (entered line number).cutLine.2

/-- The end of input where a scanner stands. -/
def endOf (state : ScanState) : Placed :=
  ⟨⟨lexicon.reserved.eof, ['$'], max state.row 1, state.column⟩, state.line⟩

/-- The end of input behind some lines, or where a scanner stands that finds none. -/
def closing (state : ScanState) (lines : List (Line × Nat)) : Placed :=
  endOf ((lines.getLast?.map lineEnd).getD state)

/-- The rest of a line that is moved down is read further down. -/
theorem contentItems_moved (state : ScanState) (rows : Nat) (unread : List Line) :
    contentItems (state.moved (state.row + rows) unread) =
      (contentItems state).map (itemBelow rows) := by
  have cut :=
    @ScanState.cutLine_map (fun state => state.moved (state.row + rows) unread) (Token.below · rows)
    (fun _ => rfl) (fun _ => rfl) (fun _ => rfl) (fun _ _ => rfl) (fun _ _ _ => rfl)
      (fun _ => rfl) state
  unfold contentItems
  rw [cut, List.map_append, List.map_map]
  refine congrArg₂ _ (by rw [List.map_map]; rfl) ?_
  show (if state.cutLine.2.rest = [] then _ else _) = _
  split <;> rfl

section Lines

variable {line : List Char} (number rows : Nat)

theorem lineItems_blank (blank : isBlankLine line) : lineItems (.text line, number) = [] :=
  if_pos blank

theorem lineItems_inked (inked : ¬ isBlankLine line) :
    lineItems (.text line, number) = contentItems (entered line number) := if_neg inked

theorem lineEnd_blank (blank : isBlankLine line) :
    lineEnd (.text line, number) = entered line number :=
  if_pos blank

theorem lineEnd_inked (inked : ¬ isBlankLine line) :
    lineEnd (.text line, number) = (entered line number).cutLine.2 := if_neg inked

theorem row_entered : (entered line number).row = number + 1 := ScanState.row_enterLine _

theorem lexicon_entered : (entered line number).lexicon = lexicon := ScanState.lexicon_enterLine _

/-- Where a blank line leads to does not depend on the lines around it. -/
theorem endOf_blank (blank : isBlankLine line) (state : ScanState) (unread : List Line) :
    endOf (state.enterLine line number unread).2 =
      ⟨⟨lexicon.reserved.eof, ['$'], number + 1, 1⟩, line⟩ := by
  rw [ScanState.enterLine, ScanState.beginLine, if_pos blank]
  show (⟨⟨_, _, max (number + 1) 1, _⟩, _⟩ : Placed) = _
  rw [Nat.max_eq_left (Nat.succ_pos number)]

theorem endOf_moved {state : ScanState} (inside : 0 < state.row) (unread : List Line) :
    endOf (state.moved (state.row + rows) unread) = (endOf state).below rows := by
  have row : max (state.row + rows) 1 = max state.row 1 + rows := by omega
  show (⟨⟨_, _, max (state.row + rows) 1, _⟩, _⟩ : Placed) = _
  rw [row]
  rfl

/-- A line that is not blank leads to the same place, whatever comes before and behind it. -/
theorem enterLine_eq (inked : ¬ isBlankLine line) {state : ScanState}
    (same : state.lexicon = lexicon) (unread : List Line) :
    (state.enterLine line (number + rows) unread).2 =
      (entered line number).moved ((entered line number).row + rows) unread := by
  rw [row_entered, Nat.add_right_comm]
  exact @ScanState.enterLine_moved { lexicon, unread := [] } state same line inked number
    (number + rows)
    [] unread

theorem entered_below (inked : ¬ isBlankLine line) :
    entered line (number + rows) =
      (entered line number).moved ((entered line number).row + rows) [] :=
  @enterLine_eq line number rows inked { lexicon, unread := [] } rfl []

theorem endOf_cutLine {state : ScanState} (inside : 0 < state.row) (unread : List Line) :
    endOf (state.moved (state.row + rows) unread).cutLine.2 =
      (endOf state.cutLine.2).below rows := by
  have row : state.cutLine.2.row = state.row := (ScanState.frame_cutLine state).row
  rw [ScanState.cutLine_moved, ← row]
  exact endOf_moved rows (row ▸ inside) unread

/-- What there is to read in a line does not depend on the lines around it. -/
theorem contentItems_enterLine (inked : ¬ isBlankLine line) {state : ScanState}
    (same : state.lexicon = lexicon) (unread : List Line) :
    contentItems (state.enterLine line number unread).2 = lineItems (.text line, number) := by
  rw [lineItems_inked _ inked]
  show contentItems (state.enterLine line (number + 0) unread).2 = _
  rw [enterLine_eq _ _ inked same, contentItems_moved, map_itemBelow_zero]

/-- Nor does where it ends. -/
theorem endOf_enterLine (inked : ¬ isBlankLine line) {state : ScanState}
    (same : state.lexicon = lexicon) (unread : List Line) :
    endOf (state.enterLine line number unread).2.cutLine.2 =
      endOf (lineEnd (.text line, number)) := by
  have positive : 0 < (entered line number).row := by
    rw [row_entered]
    exact Nat.succ_pos number
  rw [lineEnd_inked _ inked]
  show endOf (state.enterLine line (number + 0) unread).2.cutLine.2 = _
  rw [enterLine_eq _ _ inked same, endOf_cutLine _ positive]
  rfl

/-- **What there is to read in a line further down.** -/
theorem lineItems_below (line : Line) :
    lineItems (line, number + rows) = (lineItems (line, number)).map (itemBelow rows) := by
  cases line with
  | malformed => rfl
  | text line =>
    by_cases blank : isBlankLine line
    · rw [lineItems_blank _ blank, lineItems_blank _ blank, List.map_nil]
    · rw [lineItems_inked _ blank, lineItems_inked _ blank, entered_below _ _ blank,
        contentItems_moved]

theorem endOf_lineEnd_below (line : Line) :
    endOf (lineEnd (line, number + rows)) = (endOf (lineEnd (line, number))).below rows := by
  have blankLine : ∀ {line : List Char}, isBlankLine line →
      endOf (entered line (number + rows)) = (endOf (entered line number)).below rows := by
    intro line blank
    rw [entered, entered, endOf_blank _ blank, endOf_blank _ blank, Nat.add_right_comm]
    rfl
  cases line with
  | malformed => exact blankLine rfl
  | text line =>
    by_cases blank : isBlankLine line
    · rw [lineEnd_blank _ blank, lineEnd_blank _ blank]
      exact blankLine blank
    · have positive : 0 < (entered line number).row := by
        rw [row_entered]
        exact Nat.succ_pos number
      rw [lineEnd_inked _ blank, lineEnd_inked _ blank, entered_below _ _ blank,
        endOf_cutLine _ positive]

end Lines

/-! ### Line by line -/

theorem legible_cons_layout {token : Token} {view : View}
    (layout : token.kind = lexicon.reserved.newline ∨ token.kind = lexicon.reserved.indent ∨
      token.kind = lexicon.reserved.deindent) (rest : List Answer) :
    legible (⟨.ok token, view⟩ :: rest) = legible rest := by
  have left : isLayout (.ok ⟨token, view.line⟩) = true := by
    rcases layout with kind | kind | kind <;> simp [isLayout, kind]
  show List.filter _ (Except.ok ⟨token, view.line⟩ :: rest.map placedIn) = _
  rw [List.filter_cons_of_neg (by rw [left]; exact Bool.false_ne_true)]
  rfl

theorem legible_append (first second : List Answer) :
    legible (first ++ second) = legible first ++ legible second := by
  rw [legible, List.map_append, List.filter_append]
  rfl

/-- The tokens of a line are not for its layout. -/
theorem legible_content {state : ScanState} (same : state.lexicon = lexicon) :
    legible (state.cutLine.1.map handOut) = state.cutLine.1.map fun shown =>
      .ok ⟨shown.1, shown.2.line⟩ := by
  rw [legible, List.map_map]
  refine List.filter_eq_self.mpr fun item member => ?_
  obtain ⟨shown, inLine, rfl⟩ := List.mem_map.mp member
  have sound : state.lexicon.Sound := same ▸ sound_lexicon
  have free := (ScanState.kind_of_mem_cutLine sound inLine).1
  rw [same] at free
  have plain := ReservedKinds.plain_of_free free
  show (!isLayout (.ok ⟨shown.1, shown.2.line⟩)) = true
  simp [isLayout, plain.1, plain.2, ReservedKinds.ne_newline_of_free free]

/-- Reading the rest of a line, and then what comes behind it. -/
theorem SameReading.content {state : ScanState} (same : state.lexicon = lexicon)
    {rest : List (Line × Nat)} {behind : List (Except Failure Placed)}
    (onward : SameReading (legible (state.cutLine.2.scanLines rest)) behind) :
    SameReading (legible (state.scanContents rest)) (contentItems state ++ behind) := by
  rw [ScanState.scanContents, legible_append, legible_content same, contentItems, List.append_assoc]
  refine append_left ?_ _
  by_cases done : state.cutLine.2.rest = []
  · rw [if_pos done, if_pos done]
    exact onward
  · rw [if_neg done, if_neg done]
    exact of_error _ _

/-- The end of input behind a line and others is that behind the others. -/
theorem closing_cons {state begun : ScanState} {first : Line × Nat}
    (same : endOf begun = endOf (lineEnd first)) (rest : List (Line × Nat)) :
    closing begun rest = closing state (first :: rest) := by
  rw [closing, closing, List.getLast?_cons]
  cases rest.getLast? with
  | none => exact same
  | some last => rfl

/-- **Reading lines is reading one after the other.** -/
theorem read_legible (lines : List (Line × Nat)) : ∀ state : ScanState, state.lexicon = lexicon →
    SameReading (legible (state.scanLines lines)) (lines.flatMap lineItems ++
      [.ok (closing state lines)]) := by
  induction lines with
  | nil =>
    intro state same
    have eof : legible (state.scanLines []) = [.ok (endOf state)] := by
      have kept : isLayout (.ok (endOf state)) = false := isLayout_of_eof rfl
      rw [ScanState.scanLines, same]
      show List.filter _ [Except.ok (endOf state)] = _
      rw [List.filter_cons_of_pos (by rw [kept]; rfl), List.filter_nil]
    rw [eof]
    exact fun _ _ => rfl
  | cons first rest ih =>
    obtain ⟨line, number⟩ := first
    intro state same
    cases line with
    | malformed => exact .of_error _ _
    | text line =>
      have rules : (state.enterLine line number (rest.map (·.1))).2.lexicon = lexicon :=
        (ScanState.lexicon_enterLine state).trans same
      by_cases blank : isBlankLine line
      · rw [ScanState.scanLines_blank state blank, legible_cons_layout (.inl (by rw [same])),
          List.flatMap_cons, lineItems_blank _ blank, List.nil_append, ← closing_cons]
        · exact ih _ rules
        · rw [lineEnd_blank _ blank, entered, endOf_blank _ blank, endOf_blank _ blank]
      · have layout := ScanState.layoutKind_cases state (leadingBlanks line).length
        rw [same] at layout
        rw [ScanState.scanLines_inked state blank, legible_cons_layout layout, List.flatMap_cons,
          ← contentItems_enterLine number blank same, List.append_assoc,
          ← closing_cons (endOf_enterLine number blank same _)]
        exact .content rules (ih _ ((ScanState.frame_cutLine _).lexicon.trans rules))

/-- What there is to read in a description: the items of its lines, and the end of input. -/
def written (lines : List Line) : List (Except Failure Placed) :=
  lines.zipIdx.flatMap lineItems ++ [.ok (closing { lexicon, unread := lines } lines.zipIdx)]

theorem items_eq (lines : List Line) : items lines = legible (Pipeline.scanned lexicon lines) := by
  have all := Pipeline.answers_scanned lexicon lines
  have terminated := Pipeline.terminated_scanned sound_lexicon lines
  rw [← all] at terminated
  rw [← all, legible, ← map_history_eq_answers terminated, List.map_map]
  rfl

/-- **A description is read line by line.** -/
theorem loadInto_eq (draft : Draft) (lines : List Line) :
    loadInto draft lines = read draft .definition (written lines) := by
  show read draft .definition (items lines) = _
  rw [items_eq]
  exact read_legible lines.zipIdx { lexicon, unread := lines } rfl draft .definition

end Offside.Description
