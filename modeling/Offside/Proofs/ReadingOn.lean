/-
**Reading on.**

A scanner that has come to the end of its lines could read on if there were more of them. What it
hands out then is what a fresh scanner hands out for the new lines alone, further down. Only the
width of the indentation is carried over: it decides of what kind the layout of the next line is
that is not blank.

* `ScanState.next_before`: more lines behind those that are left change nothing before the last of
  these is used up;
* `ScanState.next_below`: a scanner that stands some rows further down produces the same there;
* `ScanState.counts_next`: how many lines are read and left;
* `Resumes.results`: a scanner that reads on against one that begins. The induction is on the lines;
  blank ones keep the two in step, and behind the first that is not blank they differ in their rows
  only.
-/

import Offside.Proofs.BlankLines
import Offside.Proofs.Tiling

namespace Offside

open Text TokenSource

/-! ### Further down -/

/-- The token some rows further down. -/
def Token.below (token : Token) (rows : Nat) : Token := { token with row := token.row + rows }

/-- The place some rows further down. -/
def Caret.below (caret : Caret) (rows : Nat) : Caret := { caret with row := caret.row + rows }

/-- The failure some rows further down. -/
def Failure.below (rows : Nat) : Failure → Failure
  | unrecognizedInput caret => unrecognizedInput (caret.below rows)
  | invalidIndent caret => invalidIndent (caret.below rows)
  | invalidDeindent caret => invalidDeindent (caret.below rows)
  | unexpectedToken expected found caret => unexpectedToken expected found (caret.below rows)
  | unreadable reason => unreadable reason
  | endless => endless

/-- A result some rows further down. -/
def resultBelow (rows : Nat) : Except Failure Token → Except Failure Token
  | .ok token => .ok (token.below rows)
  | .error failure => .error (failure.below rows)

/-- The results for some lines if the width of the indentation before them is another: the token for
the layout of the first line that is not blank is of the kind that compares its width with that
one. -/
def remarked (kinds : ReservedKinds) (depth : Nat) :
    List Line → List (Except Failure Token) → List (Except Failure Token)
  | .text line :: lines, result :: results =>
    if isBlankLine line then result :: remarked kinds depth lines results
    else result.map (fun token => { token with kind := layoutChange kinds depth token.text.length })
      :: results
  | _, results => results

namespace ScanState

/-- The scanner with more lines behind those that are left. -/
def before (state : ScanState) (more : List Line) : ScanState :=
  { state with unread := state.unread ++ more }

/-- The scanner some rows further down. -/
def below (state : ScanState) (rows : Nat) : ScanState := { state with row := state.row + rows }

/-! ### More lines -/

section Before

variable {state : ScanState} {more : List Line}

theorem phase_nextLine (state : ScanState) :
    state.nextLine.2.phase = .finished ↔ state.unread = [] := by
  rw [nextLine]
  split
  · rename_i ended
    exact ⟨fun _ => ended, fun _ => rfl⟩
  · rename_i shape
    rw [shape]
    exact ⟨fun absent => Phase.noConfusion absent,
      fun absent => absurd absent (List.cons_ne_nil _ _)⟩
  · rename_i line unread shape
    rw [shape]
    refine ⟨fun finished => ?_, fun absent => absurd absent (List.cons_ne_nil _ _)⟩
    have phase : (state.enterLine line state.row unread).2.phase = _ := phase_enterLine state
    change (state.enterLine line state.row unread).2.phase = .finished at finished
    rw [finished] at phase
    split at phase <;> cases phase

theorem nextLine_before (some : state.unread ≠ []) :
    (state.before more).nextLine = (state.nextLine.1, state.nextLine.2.before more) := by
  obtain ⟨line, unread, shape⟩ := List.exists_cons_of_ne_nil some
  have longer : (state.before more).unread = line :: (unread ++ more) := by
    rw [before, shape]
    rfl
  rw [nextLine, nextLine, shape, longer]
  cases line with
  | malformed => rfl
  | text line =>
    simp only [beginLine]
    split <;> rfl

/-- How the end of input comes about: the scanner looks for a line when there is none left. -/
structure Closing (more : List Line) (state : ScanState) (produced : Pulled ScanState)
    (last : ScanState) : Prop where
  phase : last.phase = .lineStart
  ended : state.unread = []
  unread : last.unread = []
  lexicon : last.lexicon = state.lexicon
  row : last.row = state.row
  depth : last.depth = state.depth
  now : produced = last.next
  longer : (state.before more).next = (last.before more).next

/-- What more lines change about what is produced: nothing, unless there is no line left to read. -/
def ReadsOn (more : List Line) (state : ScanState) (produced : Pulled ScanState) : Prop :=
  (produced.2.phase ≠ .finished ∧
    (state.before more).next = (produced.1, produced.2.before more)) ∨
  ∃ last, Closing more state produced last

theorem readsOn_nextLine (more : List Line) (state : ScanState) (ready : state.Ready) :
    ReadsOn more state state.nextLine := by
  have ready' : (state.before more).Ready := ready
  by_cases ended : state.unread = []
  · have same : ∀ unread, { state with unread := unread }.nextLine =
        { state with unread := unread, phase := .lineStart }.nextLine := by
      rintro ((_ | ⟨_ | _, _⟩)) <;> rfl
    exact .inr ⟨{ state with phase := .lineStart }, rfl, ended, ended, rfl, rfl, rfl, same _,
      ready'.next.trans (same _)⟩
  · refine .inl ⟨mt (phase_nextLine state).mp ended, ?_⟩
    rw [ready'.next, nextLine_before ended]

/-- **More lines change nothing before the scanner comes to the end of those that are left.** -/
theorem next_before (more : List Line) (state : ScanState) : ReadsOn more state state.next := by
  have within : ∀ {state : ScanState}, state.phase = .content → state.phase ≠ .finished := by
    intro state phase
    rw [phase]
    exact Phase.noConfusion
  induction state using next_induction with
  | line state ready => exact readsOn_nextLine more state ready
  | stuck state phase some unmatched =>
    exact .inl ⟨within phase, @next_of_stuck (state.before more) phase some unmatched⟩
  | skip state found phase some matched ignored onward =>
    have there : (state.before more).next = ((state.step found).before more).next :=
      @next_of_ignored (state.before more) found phase some matched ignored
    rcases onward with ⟨unfinished, longer⟩ | ⟨last, closing⟩
    · exact .inl ⟨unfinished, there.trans longer⟩
    · exact .inr ⟨last, closing.phase, closing.ended, closing.unread, closing.lexicon, closing.row,
        closing.depth, closing.now, there.trans closing.longer⟩
  | give state found phase some matched kept =>
    exact .inl ⟨within phase, @next_of_kept (state.before more) found phase some matched kept⟩

/-- What the scanner produces at the end of its lines. -/
theorem next_of_ended (ready : state.phase = .lineStart) (ended : state.unread = []) :
    state.next = (.ok ⟨state.lexicon.reserved.eof, ['$'], max state.row 1, state.column⟩,
      { state with phase := .finished }) := by
  rw [next, ready]
  simp only
  rw [nextLine, ended]

end Before

/-! ### The same lines further down -/

/-- The same is produced further down, and no failure or token stands above the first row. -/
def FurtherDown (rows : Nat) (state : ScanState) (produced : Pulled ScanState) : Prop :=
  0 < state.row →
    (state.below rows).next = (resultBelow rows produced.1, produced.2.below rows) ∧
      0 < produced.2.row

theorem furtherDown_nextLine (rows : Nat) (state : ScanState) (ready : state.Ready) :
    FurtherDown rows state state.nextLine := by
  intro inside
  have ready' : (state.below rows).Ready := ready
  have shape : (state.below rows).unread = state.unread := rfl
  rw [ready'.next, nextLine, nextLine, shape]
  split
  · refine ⟨?_, inside⟩
    have row : max (state.row + rows) 1 = max state.row 1 + rows := by omega
    show ((.ok ⟨_, _, max (state.row + rows) 1, _⟩, _) : Pulled ScanState) = _
    rw [row]
    rfl
  · exact ⟨rfl, inside⟩
  · have row : state.row + rows + 1 = state.row + 1 + rows := Nat.add_right_comm _ _ _
    simp only [beginLine, below, row]
    split
    · exact ⟨rfl, Nat.succ_pos _⟩
    · exact ⟨rfl, Nat.succ_pos _⟩

/-- **A scanner further down produces the same further down.** -/
theorem next_below (rows : Nat) (state : ScanState) : FurtherDown rows state state.next := by
  induction state using next_induction with
  | line state ready => exact furtherDown_nextLine rows state ready
  | stuck state phase some unmatched =>
    exact fun inside => ⟨@next_of_stuck (state.below rows) phase some unmatched, inside⟩
  | skip state found phase some matched ignored onward =>
    intro inside
    obtain ⟨there, further⟩ := onward inside
    exact ⟨(@next_of_ignored (state.below rows) found phase some matched ignored).trans there,
      further⟩
  | give state found phase some matched kept =>
    exact fun inside => ⟨@next_of_kept (state.below rows) found phase some matched kept, inside⟩

/-! ### The number of lines -/

/-- What a step of the scanner does to the lines: those that are read and those that are left stay
as many as before, unless it fails, and then it does not come to their end. -/
def Counts (state : ScanState) : Pulled ScanState → Prop
  | (.ok _, later) => later.row + later.unread.length = state.row + state.unread.length
  | (.error _, later) => later.phase ≠ .finished

theorem counts_nextLine (state : ScanState) : Counts state state.nextLine := by
  match shape : state.unread with
  | [] =>
    rw [nextLine, Counts.eq_def, shape]
  | .malformed :: unread =>
    rw [nextLine, shape]
    exact Phase.noConfusion
  | .text line :: unread =>
    have produced : state.nextLine = (.ok (state.enterLine line state.row unread).1,
        (state.enterLine line state.row unread).2) := by
      rw [nextLine, shape]
      rfl
    rw [produced, Counts, row_enterLine, unread_enterLine, shape, List.length_cons]
    omega

theorem counts_next (state : ScanState) : Counts state state.next := by
  induction state using next_induction with
  | line state _ => exact counts_nextLine state
  | stuck state phase =>
    show state.phase ≠ _
    rw [phase]
    exact Phase.noConfusion
  | skip _ _ _ _ _ _ onward => exact onward
  | give state =>
    show state.row + state.unread.length = _
    rfl

end ScanState

/-! ### What a fresh buffer returns -/

section Results

variable {ζ : Type} [TokenStage ζ] {stage later : ζ}

theorem results_of_stays {σ : Type} [TokenSource σ] {s : σ} {result : Except Failure Token}
    (stays : pop s = (result, s)) (count : Nat) :
    results s count = List.replicate count result := by
  induction count with
  | zero => rfl
  | succ count ih =>
    rw [results, answers, List.map_cons, stays]
    exact congrArg₂ List.cons (congrArg Prod.fst stays) ih

theorem results_congr {σ : Type} [TokenSource σ] {s s' : σ} (same : pop s = pop s') (count : Nat) :
    results s count = results s' count := by
  cases count with
  | zero => rfl
  | succ count => rw [results, results, answers, answers, answer, answer, same]

theorem results_produced {token : Token} (produced : TokenStage.next stage = (.ok token, later))
    (count : Nat) :
    results (⟨stage, none, none⟩ : Buffered ζ) (count + 1) =
      .ok token :: results (⟨later, none, none⟩ : Buffered ζ) count := by
  rw [results, answers, List.map_cons, answer, Rewriter.pop_produced produced]
  rfl

theorem results_failed {failure : Failure}
    (failed : TokenStage.next stage = (.error failure, later)) (count : Nat) :
    results (⟨stage, none, none⟩ : Buffered ζ) count = List.replicate count (.error failure) := by
  cases count with
  | zero => rfl
  | succ count =>
    have stays : pop (⟨later, none, some failure⟩ : Buffered ζ) =
        (.error failure, ⟨later, none, some failure⟩) := Buffered.pop_of_failure rfl rfl
    rw [results, answers, List.map_cons, answer, Rewriter.pop_failed failed]
    exact congrArg (_ :: ·) (results_of_stays stays count)

end Results

/-! ### Reading on -/

/-- The results of a scanner further down. -/
theorem results_below (state : ScanState) (inside : 0 < state.row) (rows count : Nat) :
    results (⟨state.below rows, none, none⟩ : Scanner) count =
      (results (⟨state, none, none⟩ : Scanner) count).map (resultBelow rows) := by
  induction count generalizing state with
  | zero => rfl
  | succ count ih =>
    obtain ⟨there, further⟩ := state.next_below rows inside
    rcases produced : state.next with ⟨failure | token, later⟩
    · rw [produced] at there
      rw [results_failed there, results_failed produced, List.map_replicate]
      rfl
    · rw [produced] at there further
      rw [results_produced there, results_produced produced, List.map_cons, ih later further]
      rfl

section Ready

variable {state : ScanState} (ready : state.next = state.nextLine)

include ready

/-- A scanner at the end of its lines repeats the end of input. -/
theorem results_ended (ended : state.unread = []) (count : Nat) :
    results (⟨state, none, none⟩ : Scanner) count = List.replicate count
      (.ok ⟨state.lexicon.reserved.eof, ['$'], max state.row 1, state.column⟩) := by
  have last : TokenStage.next { state with phase := .finished } =
      (.ok ⟨state.lexicon.reserved.eof, ['$'], max state.row 1, state.column⟩,
        { state with phase := .finished }) := by
    show ScanState.nextLine _ = _
    rw [ScanState.nextLine]
    simp only [ended]
  have now : TokenStage.next state = (.ok ⟨state.lexicon.reserved.eof, ['$'], max state.row 1,
      state.column⟩, { state with phase := .finished }) := by
    show state.next = _
    rw [ready, ScanState.nextLine, ended]
  cases count with
  | zero => rfl
  | succ count =>
    rw [results_produced now, results_of_stays (Rewriter.pop_produced last)]
    rfl

/-- A scanner before a line that is no UTF-8 repeats that failure. -/
theorem results_malformed {lines : List Line} (unread : state.unread = .malformed :: lines)
    (count : Nat) :
    results (⟨state, none, none⟩ : Scanner) count =
      List.replicate count (.error .malformedText) := by
  have now : TokenStage.next state =
      (.error .malformedText, { state with unread := lines, phase := .lineStart }) := by
    show state.next = _
    rw [ready, ScanState.nextLine, unread]
  exact results_failed now count

/-- A scanner before a line hands out the token for its layout and goes on behind it. -/
theorem results_text {line : List Char} {lines : List Line}
    (unread : state.unread = .text line :: lines) (count : Nat) :
    results (⟨state, none, none⟩ : Scanner) (count + 1) =
      .ok (state.enterLine line state.row lines).1 ::
        results (⟨(state.enterLine line state.row lines).2, none, none⟩ : Scanner) count := by
  refine results_produced ?_ count
  show state.next = _
  rw [ready, ScanState.nextLine, unread]
  rfl

end Ready

/-- A scanner that is about to read the same lines as another, some rows further down. -/
structure Resumes (rows : Nat) (state state' : ScanState) : Prop where
  ready : state.next = state.nextLine
  ready' : state'.next = state'.nextLine
  lexicon : state'.lexicon = state.lexicon
  unread : state'.unread = state.unread
  row : state'.row = state.row + rows
  /-- The place of the end of input is that behind the lines they have in common. -/
  ended : state.unread = [] → state'.column = state.column ∧ 0 < state.row

namespace Resumes

variable {rows : Nat} {state state' : ScanState} (resumes : Resumes rows state state')
  {line : List Char} {lines : List Line}

include resumes

/-- Behind a blank line they are about to read the next one. -/
theorem blank (blank : isBlankLine line) :
    Resumes rows (state.enterLine line state.row lines).2
      (state'.enterLine line state'.row lines).2 := by
  have begun : ∀ other : ScanState, (other.enterLine line other.row lines).2.next =
      (other.enterLine line other.row lines).2.nextLine := by
    intro other
    have phase : (other.enterLine line other.row lines).2.phase = _ := other.phase_enterLine
    rw [if_pos blank] at phase
    rw [ScanState.next, phase]
  refine ⟨begun state, begun state', ?_, ?_, ?_, fun _ => ⟨?_, ?_⟩⟩
  · rw [ScanState.lexicon_enterLine, ScanState.lexicon_enterLine, resumes.lexicon]
  · rw [ScanState.unread_enterLine, ScanState.unread_enterLine]
  · rw [ScanState.row_enterLine, ScanState.row_enterLine, resumes.row, Nat.add_right_comm]
  · rw [ScanState.column_of_blank _ blank, ScanState.column_of_blank _ blank]
  · rw [ScanState.row_enterLine]
    exact Nat.succ_pos _

/-- Within a line that is not blank they differ in their rows only. -/
theorem inked (inked : ¬ isBlankLine line) :
    (state'.enterLine line state'.row lines).2 =
      (state.enterLine line state.row lines).2.below rows := by
  have unread : (state.enterLine line state.row lines).2.unread = lines := state.unread_enterLine
  have row : state'.row + 1 = (state.enterLine line state.row lines).2.row + rows := by
    rw [ScanState.row_enterLine, resumes.row, Nat.add_right_comm]
  rw [ScanState.enterLine_moved resumes.lexicon inked state.row state'.row lines lines, row]
  generalize (state.enterLine line state.row lines).2 = begun at unread ⊢
  obtain ⟨⟩ := begun
  subst unread
  rfl

end Resumes

theorem remarked_nil (kinds : ReservedKinds) (depth : Nat) (lines : List Line) :
    remarked kinds depth lines [] = [] := by
  match lines with
  | [] => rfl
  | .malformed :: _ => rfl
  | .text _ :: _ => rfl

/-- **A scanner that reads on hands out what one that begins hands out**, further down, but compares
the first line that is not blank with the width that it has seen. -/
theorem Resumes.results {rows : Nat} (lines : List Line) {state state' : ScanState}
    (resumes : Resumes rows state state') (unread : state.unread = lines) (count : Nat) :
    results (⟨state', none, none⟩ : Scanner) count =
      (remarked state.lexicon.reserved state'.depth lines
        (results (⟨state, none, none⟩ : Scanner) count)).map (resultBelow rows) := by
  have unread' : state'.unread = lines := resumes.unread.trans unread
  induction lines generalizing state state' count with
  | nil =>
    obtain ⟨column, inside⟩ := resumes.ended unread
    have last : max (state.row + rows) 1 = max state.row 1 + rows := by omega
    rw [results_ended resumes.ready unread, results_ended resumes.ready' unread', remarked,
      List.map_replicate, resumes.lexicon, resumes.row, column, last]
    · rfl
    · intro _ _ _ _ absent
      cases absent
  | cons line lines ih =>
    cases line with
    | malformed =>
      rw [results_malformed resumes.ready unread, results_malformed resumes.ready' unread',
        remarked, List.map_replicate]
      · rfl
      · intro _ _ _ _ absent
        cases absent
    | text line =>
      cases count with
      | zero =>
        show [] = (remarked _ _ _ []).map _
        rw [remarked_nil]
        rfl
      | succ count =>
        have row : state'.row + 1 = state.row + 1 + rows := by
          rw [resumes.row, Nat.add_right_comm]
        rw [results_text resumes.ready unread, results_text resumes.ready' unread', remarked]
        by_cases blank : isBlankLine line
        · have depth : (state'.enterLine line state'.row lines).2.depth = _ :=
            state'.depth_enterLine
          rw [if_pos blank] at depth
          have onward := ih (resumes.blank blank) (state.unread_enterLine) count
            (state'.unread_enterLine)
          rw [if_pos blank, List.map_cons, onward, depth, ScanState.lexicon_enterLine,
            state.marker_of_blank blank, state'.marker_of_blank blank, row, resumes.lexicon]
          rfl
        · have inside : 0 < (state.enterLine line state.row lines).2.row := by
            rw [ScanState.row_enterLine]
            exact Nat.succ_pos _
          rw [if_neg blank, resumes.inked blank, results_below _ inside,
            state.marker_of_inked blank,
            state'.marker_of_inked blank, row, List.map_cons, ScanState.layoutKind, resumes.lexicon]
          rfl

end Offside
