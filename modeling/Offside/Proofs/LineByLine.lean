/-
**Scanning line by line.**

A scanner that is popped again and again works through its document line by line. `cutLine` lists
the tokens of what is left of a line, and `scanLines` everything that the scanner hands out for some
lines, up to the end of input or the first failure. Each line comes with the number of lines before
it, so that lines can be taken out without renumbering the others.

* `kind_of_mem_cutLine`, `Frame`: the tokens of a line stand on its row and are of no reserved kind,
  and nothing but the place in the line changes;
* `answers_scanLines`: the first answers of a scanner are those that `scanLines` lists. The
  induction is on the lines; between two of them the scanner is about to read the next one;
* `terminated_scanLines`: they end with the end of input or a failure, and only there.
-/

import Offside.Proofs.Kinds
import Offside.Proofs.Rewriting

namespace Offside

open Text TokenSource

namespace ScanState

/-- What the scanner shows of the text. -/
def view (state : ScanState) : View := ⟨state.line, state.padding⟩

/-- The tokens of the rest of a line, each with what is shown after it, and where the scanner stands
behind them: at the end of the line, or where no rule matches. -/
def cutLine (state : ScanState) : List (Token × View) × ScanState :=
  if _more : state.rest = [] then ([], state)
  else
    match _matched : state.lexicon.longestMatch state.rest with
    | none => ([], state)
    | some found =>
      let onward := cutLine (state.step found)
      if state.lexicon.isIgnored found.kind then onward
      else ((state.token found.kind found.text, (state.step found).view) :: onward.1, onward.2)
termination_by state.rest.length
decreasing_by exact length_rest_step_lt _matched _more

/-- The answer that hands out a token. -/
def handOut (shown : Token × View) : Answer := ⟨.ok shown.1, shown.2⟩

/-- The answer where no rule matches. -/
def stuck (state : ScanState) : Answer := ⟨.error (.unrecognizedInput state.caret), state.view⟩

/-- The token for the layout of a line, and the state in which the rest of the line is read. -/
def enterLine (state : ScanState) (line : List Char) (number : Nat) (unread : List Line) :
    Token × ScanState :=
  { state with row := number }.beginLine line unread

/-- What the scanner hands out for lines, each with the number of lines before it. -/
def scanLines (state : ScanState) : List (Line × Nat) → List Answer
  | [] =>
    [⟨.ok ⟨state.lexicon.reserved.eof, ['$'], max state.row 1, state.column⟩, state.view⟩]
  | (.malformed, _) :: _ => [⟨.error .malformedText, state.view⟩]
  | (.text line, number) :: rest =>
    let (marker, begun) := state.enterLine line number (rest.map (·.1))
    handOut (marker, begun.view) ::
      if isBlankLine line then scanLines begun rest
      else
        let (content, last) := begun.cutLine
        content.map handOut ++ if last.rest = [] then scanLines last rest else [last.stuck]

/-! ### The tokens of a line -/

theorem cutLine_of_rest_eq_nil {state : ScanState} (done : state.rest = []) :
    state.cutLine = ([], state) := by
  rw [cutLine, dif_pos done]

theorem cutLine_of_stuck {state : ScanState} (more : state.rest ≠ [])
    (unmatched : state.lexicon.longestMatch state.rest = none) : state.cutLine = ([], state) := by
  rw [cutLine, dif_neg more]
  split
  · rfl
  · rename_i matched
    rw [unmatched] at matched
    cases matched

theorem cutLine_of_match {state : ScanState} {found : Match} (more : state.rest ≠ [])
    (matched : state.lexicon.longestMatch state.rest = some found) :
    state.cutLine =
      if state.lexicon.isIgnored found.kind then (state.step found).cutLine
      else ((state.token found.kind found.text, (state.step found).view) ::
        (state.step found).cutLine.1, (state.step found).cutLine.2) := by
  rw [cutLine, dif_neg more]
  split
  · rename_i unmatched
    rw [matched] at unmatched
    cases unmatched
  · rename_i again
    rw [matched] at again
    cases again
    rfl

/-- Only the place in the line is different. -/
structure Frame (before after : ScanState) : Prop where
  lexicon : after.lexicon = before.lexicon
  unread : after.unread = before.unread
  phase : after.phase = before.phase
  line : after.line = before.line
  row : after.row = before.row
  depth : after.depth = before.depth

theorem Frame.refl (state : ScanState) : Frame state state := ⟨rfl, rfl, rfl, rfl, rfl, rfl⟩

theorem frame_step (state : ScanState) (found : Match) : Frame state (state.step found) :=
  ⟨rfl, rfl, rfl, rfl, rfl, rfl⟩

theorem Frame.trans {first second third : ScanState} (start : Frame first second)
    (onward : Frame second third) : Frame first third :=
  ⟨onward.lexicon.trans start.lexicon, onward.unread.trans start.unread,
    onward.phase.trans start.phase, onward.line.trans start.line, onward.row.trans start.row,
    onward.depth.trans start.depth⟩

theorem frame_cutLine (state : ScanState) : Frame state state.cutLine.2 := by
  fun_induction cutLine state with
  | case1 state _ => exact .refl state
  | case2 state _ _ => exact .refl state
  | case3 state _ found _ onward _ ih => exact (frame_step state found).trans ih
  | case4 state _ found _ onward _ ih => exact (frame_step state found).trans ih

/-- The scanner stops at the end of the line or where no rule matches. -/
theorem rest_cutLine (state : ScanState) :
    state.cutLine.2.rest = [] ∨
      state.cutLine.2.lexicon.longestMatch state.cutLine.2.rest = none := by
  fun_induction cutLine state with
  | case1 state done => exact .inl done
  | case2 state _ unmatched => exact .inr unmatched
  | case3 state _ found _ onward _ ih => exact ih
  | case4 state _ found _ onward _ ih => exact ih

/-- A change of the scanner that neither the rules nor the place in the line notice changes the
tokens of the line one by one. -/
theorem cutLine_map {change : ScanState → ScanState} {retoken : Token → Token}
    (rest : ∀ state, (change state).rest = state.rest)
    (longest : ∀ state, (change state).lexicon.longestMatch = state.lexicon.longestMatch)
    (ignored : ∀ state, (change state).lexicon.isIgnored = state.lexicon.isIgnored)
    (step : ∀ state found, (change state).step found = change (state.step found))
    (token : ∀ state kind text, (change state).token kind text = retoken (state.token kind text))
    (view : ∀ state, (change state).view = state.view) (state : ScanState) :
    (change state).cutLine =
      (state.cutLine.1.map fun shown => (retoken shown.1, shown.2), change state.cutLine.2) := by
  fun_induction cutLine state with
  | case1 state done =>
    rw [cutLine_of_rest_eq_nil ((rest state).trans done)]
    rfl
  | case2 state more unmatched =>
    rw [← rest state] at more unmatched
    rw [← longest state] at unmatched
    rw [cutLine_of_stuck more unmatched]
    rfl
  | case3 state more found matched onward ignore ih =>
    rw [← rest state] at more matched
    rw [← longest state] at matched
    rw [← ignored state] at ignore
    rw [cutLine_of_match more matched, if_pos ignore, step]
    exact ih
  | case4 state more found matched onward keep ih =>
    rw [← rest state] at more matched
    rw [← longest state] at matched
    rw [← ignored state] at keep
    rw [cutLine_of_match more matched, if_neg keep, step, ih, token, view]
    rfl

theorem kind_of_mem_cutLine {state : ScanState} (sound : state.lexicon.Sound)
    {shown : Token × View} (member : shown ∈ state.cutLine.1) :
    state.lexicon.reserved.contains shown.1.kind = false ∧ shown.1.row = state.row := by
  fun_induction cutLine state with
  | case1 => cases member
  | case2 => cases member
  | case3 state _ found _ onward _ ih => exact ih sound member
  | case4 state _ found matched onward _ ih =>
    rcases List.mem_cons.mp member with rfl | member
    · exact ⟨sound.contains_eq_false matched, rfl⟩
    · exact ih sound member

/-- Behind the last match of a line the scanner reads the next line. -/
theorem next_of_rest_eq_nil {state : ScanState} (done : state.rest = []) :
    state.next = state.nextLine := by
  rw [next]
  split
  · rw [scanContent, dif_pos done]
  · rfl
  · rfl

section Within

variable {state : ScanState} {found : Match}

/-- Where no rule matches the scanner fails. -/
theorem next_of_stuck (within : state.phase = .content) (more : state.rest ≠ [])
    (unmatched : state.lexicon.longestMatch state.rest = none) :
    state.next = (.error (.unrecognizedInput state.caret), state) := by
  rw [next, within]
  simp only
  rw [scanContent, dif_neg more]
  split
  · rfl
  · rename_i matched
    rw [unmatched] at matched
    cases matched

/-- Behind a match the scanner goes on, and hands the match out unless its kind is ignored. -/
theorem next_of_match (within : state.phase = .content) (more : state.rest ≠ [])
    (matched : state.lexicon.longestMatch state.rest = some found) :
    state.next =
      if state.lexicon.isIgnored found.kind then (state.step found).next
      else (.ok (state.token found.kind found.text), state.step found) := by
  have behind : (state.step found).phase = .content := within
  rw [next, next, within, behind]
  simp only
  rw [scanContent, dif_neg more]
  split
  · rename_i unmatched
    rw [matched] at unmatched
    cases unmatched
  · rename_i again
    rw [matched] at again
    cases again
    rfl

/-- A match of an ignored kind is passed over. -/
theorem next_of_ignored (within : state.phase = .content) (more : state.rest ≠ [])
    (matched : state.lexicon.longestMatch state.rest = some found)
    (ignored : state.lexicon.isIgnored found.kind) : state.next = (state.step found).next := by
  rw [next_of_match within more matched, if_pos ignored]

/-- Any other match is handed out. -/
theorem next_of_kept (within : state.phase = .content) (more : state.rest ≠ [])
    (matched : state.lexicon.longestMatch state.rest = some found)
    (kept : ¬ state.lexicon.isIgnored found.kind) :
    state.next = (.ok (state.token found.kind found.text), state.step found) := by
  rw [next_of_match within more matched, if_neg kept]

end Within

/-- Whether the scanner is about to look for the next line. -/
def Ready (state : ScanState) : Prop := state.phase = .content → state.rest = []

theorem Ready.next {state : ScanState} (ready : state.Ready) : state.next = state.nextLine := by
  match phase : state.phase with
  | .lineStart => rw [ScanState.next, phase]
  | .finished => rw [ScanState.next, phase]
  | .content => exact next_of_rest_eq_nil (ready phase)

/-- What holds of all steps of the scanner: of those that look for the next line, of the failure
where no rule matches, of a match that is handed out, and of a match that is passed over if it holds
of the step behind it. -/
theorem next_induction {motive : ScanState → Pulled ScanState → Prop}
    (line : ∀ state : ScanState, state.Ready → motive state state.nextLine)
    (stuck : ∀ state : ScanState, state.phase = .content → state.rest ≠ [] →
      state.lexicon.longestMatch state.rest = none →
      motive state (.error (.unrecognizedInput state.caret), state))
    (skip : ∀ (state : ScanState) (found : Match), state.phase = .content → state.rest ≠ [] →
      state.lexicon.longestMatch state.rest = some found → state.lexicon.isIgnored found.kind →
      motive (state.step found) (state.step found).next → motive state (state.step found).next)
    (give : ∀ (state : ScanState) (found : Match), state.phase = .content → state.rest ≠ [] →
      state.lexicon.longestMatch state.rest = some found → ¬ state.lexicon.isIgnored found.kind →
      motive state (.ok (state.token found.kind found.text), state.step found))
    (state : ScanState) : motive state state.next := by
  by_cases ready : state.Ready
  · rw [ready.next]
    exact line state ready
  · obtain ⟨phase, some⟩ := Classical.not_imp.mp ready
    clear ready some
    fun_induction scanContent state with
    | case1 state done =>
      rw [next_of_rest_eq_nil done]
      exact line state fun _ => done
    | case2 state some unmatched =>
      rw [next_of_stuck phase some unmatched]
      exact stuck state phase some unmatched
    | case3 state some found matched ignored ih =>
      rw [next_of_ignored phase some matched ignored]
      exact skip state found phase some matched ignored (ih phase)
    | case4 state some found matched kept =>
      rw [next_of_kept phase some matched kept]
      exact give state found phase some matched kept

/-- A scanner within a line hands out the tokens of the line and goes on from behind them. -/
theorem answers_cutLine (state : ScanState) (within : state.phase = .content) (count : Nat) :
    answers (⟨state, none, none⟩ : Scanner) (state.cutLine.1.length + count) =
      state.cutLine.1.map handOut ++ answers (⟨state.cutLine.2, none, none⟩ : Scanner) count := by
  fun_induction cutLine state with
  | case1 => rw [List.length_nil, Nat.zero_add, List.map_nil, List.nil_append]
  | case2 => rw [List.length_nil, Nat.zero_add, List.map_nil, List.nil_append]
  | case3 state more found matched onward ignored ih =>
    rw [← ih within]
    -- An ignored match leaves no trace: the next pop returns what it would return behind it.
    have produces : TokenStage.next state = TokenStage.next (state.step found) :=
      next_of_ignored within more matched ignored
    have same : pop (⟨state, none, none⟩ : Scanner) =
        pop (⟨state.step found, none, none⟩ : Scanner) := by
      show Buffered.pop _ = Buffered.pop _
      rw [Buffered.pop, Buffered.pop]
      simp only
      rw [produces]
    cases total : onward.1.length + count with
    | zero => rfl
    | succ total => rw [answers, answers, answer, answer, same]
  | case4 state more found matched onward kept ih =>
    have produces : TokenStage.next state =
        (.ok (state.token found.kind found.text), state.step found) :=
      next_of_kept within more matched kept
    have popped : pop (⟨state, none, none⟩ : Scanner) =
        (.ok (state.token found.kind found.text), ⟨state.step found, none, none⟩) :=
      Rewriter.pop_produced produces
    rw [List.length_cons, Nat.succ_add, answers, answer, popped, ih within, List.map_cons,
      List.cons_append]
    rfl

/-! ### All lines -/

section Enter

variable (state : ScanState) {line : List Char} {number : Nat} {unread : List Line}

theorem row_enterLine : (state.enterLine line number unread).2.row = number + 1 := by
  rw [enterLine, beginLine]
  split <;> rfl

theorem unread_enterLine : (state.enterLine line number unread).2.unread = unread := by
  rw [enterLine, beginLine]
  split <;> rfl

theorem line_enterLine : (state.enterLine line number unread).2.line = line := by
  rw [enterLine, beginLine]
  split <;> rfl

theorem lexicon_enterLine : (state.enterLine line number unread).2.lexicon = state.lexicon := by
  rw [enterLine, beginLine]
  split <;> rfl

theorem phase_enterLine :
    (state.enterLine line number unread).2.phase =
      if isBlankLine line then .lineStart else .content := by
  rw [enterLine, beginLine]
  split <;> rfl

theorem depth_enterLine :
    (state.enterLine line number unread).2.depth =
      if isBlankLine line then state.depth else (leadingBlanks line).length := by
  rw [enterLine, beginLine]
  split <;> rfl

/-- The layout of a blank line is a newline. -/
theorem marker_of_blank (blank : isBlankLine line) :
    (state.enterLine line number unread).1 =
      ⟨state.lexicon.reserved.newline, line, number + 1, 1⟩ := by
  rw [enterLine, beginLine, if_pos blank]
  rfl

/-- The layout of any other line compares its blanks with the width of the line before. -/
theorem marker_of_inked (inked : ¬ isBlankLine line) :
    (state.enterLine line number unread).1 =
      ⟨state.layoutKind (leadingBlanks line).length, leadingBlanks line, number + 1, 1⟩ := by
  rw [enterLine, beginLine, if_neg inked]
  rfl

theorem view_of_blank (blank : isBlankLine line) :
    (state.enterLine line number unread).2.view = ⟨line, []⟩ := by
  rw [enterLine, beginLine, if_pos blank]
  rfl

/-- Blanks are copied as they are. -/
theorem map_blanked_leadingBlanks (line : List Char) :
    (leadingBlanks line).map blanked = leadingBlanks line := by
  refine (List.map_congr_left fun c member => ?_).trans (List.map_id _)
  exact if_pos (List.all_eq_true.mp List.all_takeWhile c member)

/-- Once the layout is read, a caret stands behind the blanks. -/
theorem view_of_inked (inked : ¬ isBlankLine line) :
    (state.enterLine line number unread).2.view = ⟨line, leadingBlanks line⟩ := by
  have taken : line.take (leadingBlanks line).length = leadingBlanks line :=
    (List.prefix_iff_eq_take.mp (List.takeWhile_prefix _)).symm
  rw [enterLine, beginLine, if_neg inked]
  show View.mk line ((blankPrefix (line.take (leadingBlanks line).length) _).reverse ++
    []).reverse = _
  rw [taken, List.append_nil, List.reverse_reverse, blankPrefix, List.take_length,
    map_blanked_leadingBlanks, Nat.sub_self, List.replicate_zero, List.append_nil]

end Enter

/-- What a blank line adds: a newline that carries it. -/
theorem scanLines_blank (state : ScanState) {line : List Char} (blank : isBlankLine line)
    (number : Nat) (rest : List (Line × Nat)) :
    state.scanLines ((.text line, number) :: rest) =
      ⟨.ok ⟨state.lexicon.reserved.newline, line, number + 1, 1⟩, ⟨line, []⟩⟩ ::
        (state.enterLine line number (rest.map (·.1))).2.scanLines rest := by
  rw [scanLines]
  simp only
  rw [if_pos blank, marker_of_blank state blank, view_of_blank state blank]
  rfl

/-- What comes behind the layout of a line that is not blank: its tokens, and what comes behind
them. -/
def scanContents (state : ScanState) (rest : List (Line × Nat)) : List Answer :=
  state.cutLine.1.map handOut ++
    if state.cutLine.2.rest = [] then state.cutLine.2.scanLines rest else [state.cutLine.2.stuck]

/-- What any other line adds: the token for its layout, and its tokens. -/
theorem scanLines_inked (state : ScanState) {line : List Char} (inked : ¬ isBlankLine line)
    (number : Nat) (rest : List (Line × Nat)) :
    state.scanLines ((.text line, number) :: rest) =
      ⟨.ok ⟨state.layoutKind (leadingBlanks line).length, leadingBlanks line, number + 1, 1⟩,
          ⟨line, leadingBlanks line⟩⟩ ::
        (state.enterLine line number (rest.map (·.1))).2.scanContents rest := by
  rw [scanLines]
  simp only
  rw [if_neg inked, marker_of_inked state inked, view_of_inked state inked]
  rfl

section Layout

variable {state : ScanState} {width : Nat}

theorem layoutKind_of_wider (wider : state.depth < width) :
    state.layoutKind width = state.lexicon.reserved.indent := if_pos wider

theorem layoutKind_of_narrower (narrower : width < state.depth) :
    state.layoutKind width = state.lexicon.reserved.deindent := by
  unfold layoutKind
  simp only
  rw [if_neg (Nat.lt_asymm narrower), if_pos narrower]

theorem layoutKind_of_same (same : width = state.depth) :
    state.layoutKind width = state.lexicon.reserved.newline := by
  unfold layoutKind
  simp only
  rw [same, if_neg (Nat.lt_irrefl _), if_neg (Nat.lt_irrefl _)]

theorem layoutKind_cases (state : ScanState) (width : Nat) :
    state.layoutKind width = state.lexicon.reserved.newline ∨
      state.layoutKind width = state.lexicon.reserved.indent ∨
      state.layoutKind width = state.lexicon.reserved.deindent := by
  rcases Nat.lt_trichotomy state.depth width with wider | same | narrower
  · exact .inr (.inl (layoutKind_of_wider wider))
  · exact .inl (layoutKind_of_same same.symm)
  · exact .inr (.inr (layoutKind_of_narrower narrower))

end Layout

/-- A scanner within a line hands out its contents, if it hands out what comes behind them. -/
theorem answers_scanContents {state : ScanState} (within : state.phase = .content)
    {rest : List (Line × Nat)}
    (behind : state.cutLine.2.rest = [] →
      answers (⟨state.cutLine.2, none, none⟩ : Scanner) (state.cutLine.2.scanLines rest).length =
        state.cutLine.2.scanLines rest) :
    answers (⟨state, none, none⟩ : Scanner) (state.scanContents rest).length =
      state.scanContents rest := by
  rw [scanContents, List.length_append, List.length_map, answers_cutLine state within]
  refine congrArg _ ?_
  split
  · rename_i done
    exact behind done
  · rename_i more
    have unmatched := (rest_cutLine state).resolve_left more
    have fails : TokenStage.next state.cutLine.2 =
        (.error (.unrecognizedInput state.cutLine.2.caret), state.cutLine.2) :=
      next_of_stuck ((frame_cutLine state).phase.trans within) more unmatched
    show [answer _] = _
    rw [answer, Rewriter.pop_failed fails]
    rfl

/-- **The first answers of a scanner that is about to read a line.** -/
theorem answers_scanLines (state : ScanState) (ready : state.next = state.nextLine) :
    answers (⟨state, none, none⟩ : Scanner)
      (state.scanLines (state.unread.zipIdx state.row)).length =
      state.scanLines (state.unread.zipIdx state.row) := by
  generalize left : state.unread = lines
  induction lines generalizing state with
  | nil =>
    have produces :
        TokenStage.next state = (.ok ⟨state.lexicon.reserved.eof, ['$'], max state.row 1,
        state.column⟩, { state with phase := .finished }) := by
      show state.next = _
      rw [ready, nextLine, left]
    rw [List.zipIdx_nil, scanLines]
    show [answer _] = _
    rw [answer, Rewriter.pop_produced produces]
    rfl
  | cons line lines ih =>
    cases line with
    | malformed =>
      have fails : TokenStage.next state =
          (.error .malformedText, { state with unread := lines, phase := .lineStart }) := by
        show state.next = _
        rw [ready, nextLine, left]
      rw [List.zipIdx_cons, scanLines]
      show [answer _] = _
      rw [answer, Rewriter.pop_failed fails]
      rfl
    | text line =>
      have produces : TokenStage.next state =
          (.ok (state.enterLine line state.row lines).1,
            (state.enterLine line state.row lines).2) := by
        show state.next = _
        rw [ready, nextLine, left]
        rfl
      have row : (state.enterLine line state.row lines).2.row = state.row + 1 := row_enterLine state
      have unread : (state.enterLine line state.row lines).2.unread = lines :=
        unread_enterLine state
      have phase : (state.enterLine line state.row lines).2.phase = _ := phase_enterLine state
      rw [List.zipIdx_cons, scanLines, List.zipIdx_map_fst]
      generalize state.enterLine line state.row lines = entering at *
      obtain ⟨marker, begun⟩ := entering
      simp only at row unread phase produces ⊢
      rw [List.length_cons, answers, answer, Rewriter.pop_produced produces]
      refine congrArg _ ?_
      show answers (⟨begun, none, none⟩ : Scanner) _ = _
      split at phase
      · rename_i blank
        rw [if_pos blank, ← row]
        refine ih begun ?_ unread
        rw [next, phase]
      · rename_i inked
        have frame := frame_cutLine begun
        have here : begun.cutLine.2.row = state.row + 1 := frame.row.trans row
        rw [if_neg inked]
        refine answers_scanContents phase fun done => ?_
        rw [← here]
        exact ih _ (next_of_rest_eq_nil done) (frame.unread.trans unread)

/-- The token for the layout of a line is no end of input. -/
theorem layoutKind_ne_eof (state : ScanState) (distinct : state.lexicon.reserved.Distinct)
    (width : Nat) : state.layoutKind width ≠ state.lexicon.reserved.eof := by
  rcases layoutKind_cases state width with kind | kind | kind
  · rw [kind]
    exact distinct.newline_ne_eof
  · rw [kind]
    exact Ne.symm distinct.eof_ne_indent
  · rw [kind]
    exact Ne.symm distinct.eof_ne_deindent

/-- What the content of a line hands out: tokens of its row that are of no reserved kind. -/
theorem gives_of_mem_content {state : ScanState} (sound : state.lexicon.Sound) :
    ∀ answer ∈ state.cutLine.1.map handOut, answer.Gives fun token =>
      state.lexicon.reserved.contains token.kind = false ∧ token.row = state.row := by
  intro answer member
  obtain ⟨shown, inLine, rfl⟩ := List.mem_map.mp member
  exact ⟨shown.1, rfl, kind_of_mem_cutLine sound inLine⟩

theorem not_isEnd_of_mem_content {state : ScanState} (sound : state.lexicon.Sound) :
    ∀ answer ∈ state.cutLine.1.map handOut, ¬ answer.IsEnd state.lexicon.reserved.eof := by
  intro answer member isEnd
  obtain ⟨token, given, free, _⟩ := gives_of_mem_content sound answer member
  rw [Answer.IsEnd, given] at isEnd
  exact ReservedKinds.ne_eof_of_free free isEnd

/-- **A scanner under different names ends with the end of input or a failure, and only there.** -/
theorem terminated_scanLines (state : ScanState) (sound : state.lexicon.Sound)
    (lines : List (Line × Nat)) :
    Answer.Terminated state.lexicon.reserved.eof (state.scanLines lines) := by
  induction lines generalizing state with
  | nil => exact .last rfl
  | cons first rest ih =>
    obtain ⟨line, number⟩ := first
    cases line with
    | malformed => exact .last trivial
    | text line =>
      have same : (state.enterLine line number (rest.map (·.1))).2.lexicon = state.lexicon :=
        lexicon_enterLine state
      by_cases blank : isBlankLine line
      · rw [scanLines_blank state blank, ← same]
        refine .more (same ▸ sound.distinct.newline_ne_eof) (ih _ ?_)
        rw [same]
        exact sound
      · rw [scanLines_inked state blank]
        refine .more (layoutKind_ne_eof state sound.distinct _) ?_
        generalize (state.enterLine line number (rest.map (·.1))).2 = begun at same ⊢
        rw [← same] at sound ⊢
        have frame := frame_cutLine begun
        refine Answer.Terminated.append (not_isEnd_of_mem_content sound) ?_
        split
        · rw [← frame.lexicon]
          refine ih _ ?_
          rw [frame.lexicon]
          exact sound
        · exact .last trivial

end ScanState

end Offside
