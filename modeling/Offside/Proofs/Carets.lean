/-
**Carets show the line that they speak of.**

The place of a failure is put together from two sides: row and column come from a token, the line
and what stands in front of the caret from the scanner at the bottom of the stack. That scanner may
have been asked for more than the token that is refused. It has not: nothing reads on between the
token and the failure, so that both belong to the same line.

* `Failure.Truthful`: what a failure says about the document;
* `ScanState.tells_next`: the step. Between two tokens the scanner stands behind a part of the line
  in its row, and the lines that are left are those below (`ScanState.OnLine`);
* `Pipeline.truthful_results`: collapsing hands out indents and deindents with their own line, and
  counting levels takes its places from there;
* `carets`: failures tell the truth, in pipelines whatever is asked of them, and in descriptions.
-/

import Offside.Proofs.Calls
import Offside.Proofs.DescriptionGrammar
import Offside.Proofs.Tiling
import Offside.Proofs.Tokenizing

namespace Offside

open Text TokenSource

/-! ### What a failure says -/

/-- Whether a text is the line in a row; a document without lines passes for an empty line. -/
def IsLine (lines : List Line) (row : Nat) (line : List Char) : Prop :=
  (0 < row ∧ lines[row - 1]? = some (.text line)) ∨ (lines = [] ∧ line = [])

/-- The caret stands in its line or right behind it, under a copy of what is in front of it. -/
structure Caret.Points (lines : List Line) (caret : Caret) : Prop where
  line : IsLine lines caret.row caret.line
  within : 0 < caret.column ∧ caret.column - 1 ≤ caret.line.length
  padding : caret.padding = blankPrefix caret.line (caret.column - 1)

/-- The caret stands behind the leading blanks of its line, and speaks of all of them. -/
structure Caret.AtMargin (lines : List Line) (caret : Caret) : Prop where
  line : IsLine lines caret.row caret.line
  column : caret.column = 1
  padding : caret.padding = leadingBlanks caret.line

/-- What the place of a failure says about the document is so. -/
inductive Failure.Truthful (lines : List Line) : Failure → Prop
  | unrecognizedInput {caret : Caret} :
    caret.Points lines → Truthful lines (.unrecognizedInput caret)
  | unexpectedToken {expected found : List Char} {caret : Caret} :
    caret.Points lines → Truthful lines (.unexpectedToken expected found caret)
  | invalidIndent {caret : Caret} : caret.AtMargin lines → Truthful lines (.invalidIndent caret)
  | invalidDeindent {caret : Caret} : caret.AtMargin lines → Truthful lines (.invalidDeindent caret)
  | unreadable (reason : List Char) : Truthful lines (.unreadable reason)

/-- What is shown of the text when a token has been handed out belongs to the token. -/
structure Token.Shown (kinds : ReservedKinds) (lines : List Line) (token : Token)
    (view : View) : Prop where
  line : IsLine lines token.row view.line
  within : 0 < token.column ∧ token.column - 1 ≤ view.line.length
  margin : token.kind = kinds.indent ∨ token.kind = kinds.deindent →
    token.column = 1 ∧ view.padding = leadingBlanks view.line

/-! ### The scanner -/

namespace ScanState

variable {lines : List Line}

/-- The scanner stands behind a part of the line in its row, and has the lines below before it. -/
structure OnLine (lines : List Line) (state : ScanState) : Prop where
  unread : lines.drop state.row = state.unread
  line : (state.row = 0 ∧ state.line = []) ∨
    (0 < state.row ∧ lines[state.row - 1]? = some (.text state.line))
  within : state.phase = .content → 0 < state.row
  behind : ∃ part, state.Behind part

/-- What a step leads to: the token belongs to what is shown, and the scanner still stands on its
line; or the failure tells the truth. -/
def Tells (kinds : ReservedKinds) (lines : List Line) : Pulled ScanState → Prop
  | (.ok token, later) => token.Shown kinds lines later.view ∧ later.OnLine lines
  | (.error failure, _) => failure.Truthful lines

namespace OnLine

variable {state : ScanState} (onLine : state.OnLine lines)

include onLine

/-- The line of the scanner is that of its row; before the first line that is the empty one. -/
theorem isLine (ended : state.row = 0 → lines = []) :
    IsLine lines (max state.row 1) state.line := by
  rcases onLine.line with ⟨start, empty⟩ | ⟨inside, found⟩
  · exact .inr ⟨ended start, empty⟩
  · rw [Nat.max_eq_left inside]
    exact .inl ⟨inside, found⟩

/-- The column of the scanner is in its line or right behind it. -/
theorem column_within : 0 < state.column ∧ state.column - 1 ≤ state.line.length := by
  obtain ⟨part, behind⟩ := onLine.behind
  rw [behind.column, behind.line, List.length_append, Nat.add_sub_cancel]
  exact ⟨Nat.succ_pos _, Nat.le_add_right _ _⟩

/-- A caret where the scanner stands points at its line. -/
theorem points (inside : 0 < state.row) : state.caret.Points lines := by
  obtain ⟨part, behind⟩ := onLine.behind
  rw [caret_of_behind behind]
  have line := onLine.isLine fun start => absurd start (Nat.ne_of_gt inside)
  rw [Nat.max_eq_left inside] at line
  refine ⟨line, ?_, rfl⟩
  have within := onLine.column_within
  rwa [behind.column] at within

theorem pass (count : Nat) : (state.pass count).OnLine lines := by
  obtain ⟨part, behind⟩ := onLine.behind
  exact ⟨onLine.unread, onLine.line, onLine.within, _, behind_pass behind count⟩

theorem step (found : Match) : (state.step found).OnLine lines := (onLine.pass _).pass _

end OnLine

section Enter

variable {state : ScanState} {line : List Char} {unread : List Line}

/-- In front of a line stands the number of its row, and behind it the lines below. -/
theorem getElem?_of_drop {row : Nat} (left : lines.drop row = .text line :: unread) :
    lines[row]? = some (.text line) ∧ lines.drop (row + 1) = unread := by
  refine ⟨?_, ?_⟩
  · rw [← List.head?_drop, left]
    rfl
  · rw [← List.tail_drop, left]
    rfl

/-- With a new line the scanner stands on it. -/
theorem onLine_enterLine (left : lines.drop state.row = .text line :: unread) :
    (state.enterLine line state.row unread).2.OnLine lines := by
  obtain ⟨found, below⟩ := getElem?_of_drop left
  have row : (state.enterLine line state.row unread).2.row = state.row + 1 := state.row_enterLine
  refine ⟨?_, .inr ⟨?_, ?_⟩, fun _ => ?_, ?_⟩
  · rw [row, state.unread_enterLine, below]
  · rw [row]
    exact Nat.succ_pos _
  · rw [row, Nat.add_sub_cancel, found, state.line_enterLine]
  · rw [row]
    exact Nat.succ_pos _
  · by_cases blank : isBlankLine line
    · refine ⟨[], ?_⟩
      rw [enterLine, beginLine, if_pos blank]
      exact ⟨rfl, rfl, rfl⟩
    · exact ⟨_, (state.behind_enterLine blank).1⟩

end Enter

variable {state : ScanState}

theorem tells_nextLine (distinct : state.lexicon.reserved.Distinct) (onLine : state.OnLine lines) :
    Tells state.lexicon.reserved lines state.nextLine := by
  rcases left : state.unread with _ | ⟨line | _, unread⟩
  · have ended : state.nextLine = (.ok ⟨state.lexicon.reserved.eof, ['$'], max state.row 1,
        state.column⟩, { state with phase := .finished }) := by
      rw [nextLine, left]
    rw [ended]
    refine ⟨⟨onLine.isLine fun start => ?_, onLine.column_within, fun margin => ?_⟩, onLine.unread,
      onLine.line, fun absent => Phase.noConfusion absent, ?_⟩
    · rw [← List.drop_zero (l := lines), ← start, onLine.unread, left]
    · exact (margin.elim distinct.eof_ne_indent distinct.eof_ne_deindent).elim
    · obtain ⟨part, behind⟩ := onLine.behind
      exact ⟨part, behind.line, behind.column, behind.padding⟩
  · have produced : state.nextLine = (.ok (state.enterLine line state.row unread).1,
        (state.enterLine line state.row unread).2) := by
      rw [nextLine, left]
      rfl
    have here := onLine.unread.trans left
    obtain ⟨found, _⟩ := getElem?_of_drop here
    have isLine : IsLine lines (state.row + 1) line := .inl ⟨Nat.succ_pos _, found⟩
    rw [produced]
    refine ⟨?_, onLine_enterLine here⟩
    by_cases blank : isBlankLine line
    · rw [state.marker_of_blank blank, state.view_of_blank blank]
      refine ⟨isLine, ⟨Nat.one_pos, Nat.zero_le _⟩, fun margin => ?_⟩
      exact (margin.elim distinct.newline_ne_indent distinct.newline_ne_deindent).elim
    · rw [state.marker_of_inked blank, state.view_of_inked blank]
      exact ⟨isLine, ⟨Nat.one_pos, Nat.zero_le _⟩, fun _ => ⟨rfl, rfl⟩⟩
  · rw [nextLine, left]
    exact .unreadable _

/-- **What the scanner produces belongs to the line on which it stands.** -/
theorem tells_next (state : ScanState) :
    state.lexicon.Sound → state.OnLine lines → Tells state.lexicon.reserved lines state.next := by
  induction state using next_induction with
  | line state _ => exact fun sound => tells_nextLine sound.distinct
  | stuck state phase =>
    exact fun _ onLine => .unrecognizedInput (onLine.points (onLine.within phase))
  | skip state found _ _ _ _ onward => exact fun sound onLine => onward sound (onLine.step found)
  | give state found phase some matched =>
    intro sound onLine
    have inside := onLine.within phase
    have free := sound.contains_eq_false matched
    have differs := ReservedKinds.contains_eq_false_iff.mp free
    have isLine := onLine.isLine fun start => absurd start (Nat.ne_of_gt inside)
    rw [Nat.max_eq_left inside] at isLine
    exact ⟨⟨isLine, onLine.column_within, fun margin => (margin.elim differs.1 differs.2.1).elim⟩,
      onLine.step found⟩

end ScanState

/-- A token that belongs to what is shown with it, or a failure that tells the truth. -/
def Answer.Tells (kinds : ReservedKinds) (lines : List Line) : Answer → Prop
  | ⟨.ok token, view⟩ => token.Shown kinds lines view
  | ⟨.error failure, _⟩ => failure.Truthful lines

namespace Scanner

variable {lexicon : Lexicon} {lines : List Line} {scanner : Scanner}

/-- A scanner that keeps nothing back stands on its line, unless it has failed with the truth. -/
structure OnLine (lexicon : Lexicon) (lines : List Line) (scanner : Scanner) : Prop where
  empty : scanner.lookahead = none
  lexicon : scanner.stage.lexicon = lexicon
  onLine : scanner.failure = none → scanner.stage.OnLine lines
  truthful : ∀ failure, scanner.failure = some failure → failure.Truthful lines

theorem onLine_ofLines (lexicon : Lexicon) (lines : List Line) :
    OnLine lexicon lines (ofLines lexicon lines) :=
  ⟨rfl, rfl, fun _ => ⟨rfl, .inl ⟨rfl, rfl⟩, fun absent => (nomatch absent), [], rfl, rfl, rfl⟩,
    of_none⟩

/-- Popping a scanner shows what belongs together, and leaves it on its line. -/
theorem OnLine.pop (sound : lexicon.Sound) (onLine : OnLine lexicon lines scanner) :
    (answer scanner).Tells lexicon.reserved lines ∧ OnLine lexicon lines (pop scanner).2 := by
  obtain ⟨stage, lookahead, failure⟩ := scanner
  obtain ⟨empty, rfl, onLine, truthful⟩ := onLine
  cases empty
  rw [answer]
  cases failure with
  | some failure => exact ⟨truthful failure rfl, rfl, rfl, onLine, truthful⟩
  | none =>
    have tells := stage.tells_next sound (onLine rfl)
    have kept := stage.lexicon_next
    rcases produced : stage.next with ⟨failure | token, later⟩
    · rw [produced] at tells kept
      rw [Rewriter.pop_failed produced]
      exact ⟨tells, rfl, kept, fun absent => absurd absent (Option.some_ne_none _),
        fun _ same => Option.some.inj same ▸ tells⟩
    · rw [produced] at tells kept
      rw [Rewriter.pop_produced produced]
      exact ⟨tells.1, rfl, kept, fun _ => tells.2, of_none⟩

theorem OnLine.answers (sound : lexicon.Sound) (onLine : OnLine lexicon lines scanner)
    (count : Nat) :
    ∀ answer ∈ answers scanner count, answer.Tells lexicon.reserved lines := by
  induction count generalizing scanner with
  | zero => exact List.forall_mem_nil _
  | succ count ih =>
    obtain ⟨here, onward⟩ := onLine.pop sound
    exact List.forall_mem_cons.mpr ⟨here, ih onward⟩

theorem OnLine.history (sound : lexicon.Sound) (onLine : OnLine lexicon lines scanner) :
    ∀ pulled ∈ history scanner, Answer.Tells lexicon.reserved lines ⟨pulled.1, view pulled.2⟩ := by
  fun_induction TokenSource.history scanner with
  | case1 scanner failure later popped =>
    have here := (onLine.pop sound).1
    rw [answer, popped] at here
    exact List.forall_mem_singleton.mpr here
  | case2 scanner token later popped isEof =>
    have here := (onLine.pop sound).1
    rw [answer, popped] at here
    exact List.forall_mem_singleton.mpr here
  | case3 scanner token later popped inside ih =>
    obtain ⟨here, onward⟩ := onLine.pop sound
    rw [answer, popped] at here
    rw [popped] at onward
    exact List.forall_mem_cons.mpr ⟨here, ih onward⟩

end Scanner

/-! ### Filters -/

/-- An indent or a deindent that belongs to what is shown with it, any other token, or a failure
that tells the truth. -/
def Answer.TellsMargin (kinds : ReservedKinds) (lines : List Line) : Answer → Prop
  | ⟨.ok token, view⟩ => ¬ Plain kinds token → token.Shown kinds lines view
  | ⟨.error failure, _⟩ => failure.Truthful lines

/-- A failure that tells the truth, or any token. -/
def Answer.Truthful (lines : List Line) (answer : Answer) : Prop :=
  ∀ failure, answer.result = .error failure → failure.Truthful lines

section Filters

variable {kinds : ReservedKinds} {lines : List Line} {list : List Answer}

theorem Answer.Tells.margin {answer : Answer} (tells : answer.Tells kinds lines) :
    answer.TellsMargin kinds lines := by
  obtain ⟨failure | token, view⟩ := answer
  · exact tells
  · exact fun _ => tells

/-- Collapsing hands out indents and deindents with what was shown with them: what it holds back are
newlines. -/
theorem tellsMargin_collapsed (distinct : kinds.Distinct) (trim : Bool)
    (tells : ∀ answer ∈ list, answer.Tells kinds lines) :
    ∀ answer ∈ (Collapsed.rewriter kinds trim).run (.ok {}) list,
      answer.TellsMargin kinds lines := by
  refine @Rewriter.forall_mem_run _ _
    (fun memory => ∀ newline, memory.held = some newline → newline.kind = kinds.newline) _ _
    ?_ ?_ ?_ _ of_none _ tells
  · intro memory view token tokens later newlines shown made
    by_cases newline : token.kind = kinds.newline
    · rw [Collapsed.rewriter_newline newline] at made
      cases made
      exact ⟨fun held same => Option.some.inj same ▸ newline, List.forall_mem_nil _⟩
    · rw [Collapsed.rewriter_other newline] at made
      cases made
      refine ⟨of_none, List.forall_mem_append.mpr ⟨fun handed member margin => ?_, ?_⟩⟩
      · exact absurd (distinct.plain_of_newline (Collapsed.kind_of_mem_kept newlines member)) margin
      · exact List.forall_mem_singleton.mpr fun _ => shown
  · intro memory view token failure _ _ made
    unfold Collapsed.rewriter at made
    split at made <;> cases made
  · exact fun _ _ truthful => truthful

/-- Counting levels takes the places of its failures from the indents and deindents that it
refuses. -/
theorem truthful_leveled (unit : List Char)
    (tells : ∀ answer ∈ list, answer.TellsMargin kinds lines) :
    ∀ answer ∈ (Leveled.rewriter kinds unit).run (.ok 0) list, answer.Truthful lines := by
  refine @Rewriter.forall_mem_run _ _ (fun _ => True) _ _ ?_ ?_ ?_ _ trivial _ tells
  · intro level view token tokens later _ _ _
    refine ⟨trivial, fun handed _ failure absent => ?_⟩
    cases absent
  · intro level view token failure _ margin made same
    rintro ⟨⟩
    cases Leveled.refused_of_rewriter made with
    | indent isIndent _ =>
      have shown := margin fun plain => plain.1 isIndent
      obtain ⟨column, padding⟩ := shown.margin (.inl isIndent)
      exact .invalidIndent ⟨shown.line, column, padding⟩
    | deindent _ isDeindent _ =>
      have shown := margin fun plain => plain.2 isDeindent
      obtain ⟨column, padding⟩ := shown.margin (.inr isDeindent)
      exact .invalidDeindent ⟨shown.line, column, padding⟩
  · intro failure view truthful same
    rintro ⟨⟩
    exact truthful

end Filters

/-! ### Pipelines -/

namespace Pipeline

variable {pipeline : Pipeline}

theorem truthful_rewrite (settings : Settings) {kinds : ReservedKinds} (distinct : kinds.Distinct)
    {lines : List Line} {list : List Answer} (tells : ∀ answer ∈ list, answer.Tells kinds lines) :
    ∀ answer ∈ settings.rewrite kinds list, answer.Truthful lines := by
  have collapsed : ∀ answer ∈ settings.collapsed kinds list, answer.TellsMargin kinds lines := by
    unfold Settings.collapsed
    split
    · exact tellsMargin_collapsed distinct settings.trim tells
    · exact fun answer member => (tells answer member).margin
  unfold Settings.rewrite Settings.leveled
  split
  · exact truthful_leveled settings.unit collapsed
  · rintro ⟨result, view⟩ member failure same
    have tells := collapsed _ member
    rw [show result = .error failure from same] at tells
    exact tells

/-- Whatever is popped from a pipeline, its failures tell the truth. -/
theorem truthful_results (sound : pipeline.lexicon.Sound) (lines : List Line) (count : Nat)
    {failure : Failure} (member : .error failure ∈ results (pipeline.lex lines).layers count) :
    failure.Truthful lines := by
  have renders : Renders (pipeline.lex lines).layers (Scanner.ofLines pipeline.lexicon lines)
      (pipeline.settings.rewrite pipeline.lexicon.reserved) :=
    renders_filters pipeline.settings fun _ => sound.distinct.newline_ne_eof
  obtain ⟨enough, start⟩ := renders count
  obtain ⟨answer, inAnswers, same⟩ := List.mem_map.mp member
  have tells := (Scanner.onLine_ofLines pipeline.lexicon lines).answers sound enough
  exact truthful_rewrite pipeline.settings sound.distinct tells answer
    (start.subset inAnswers) failure same

end Pipeline

/-- What a call returns is what some pop returns. -/
theorem TokenSource.exists_mem_results {σ : Type} [TokenSource σ] (s : σ) (consumer : List Call) :
    ∀ answer ∈ (calls s consumer).1, ∃ count, answer.2 ∈ results s count := by
  induction consumer generalizing s with
  | nil => exact fun _ absent => absurd absent List.not_mem_nil
  | cons next rest ih =>
    refine List.forall_mem_cons.mpr ⟨⟨1, ?_⟩, fun answer member => ?_⟩
    · have here : (call s next).1 = (pop s).1 := by
        cases next with
        | peek => exact peek_result s
        | pop => rfl
      exact List.mem_singleton.mpr here
    · obtain ⟨count, later⟩ := ih (call s next).2 answer member
      cases next with
      | peek =>
        refine ⟨count, ?_⟩
        rwa [results, ← answers_peek]
      | pop => exact ⟨count + 1, List.mem_cons_of_mem _ later⟩

/-! ### Descriptions -/

namespace Description

/-- Every item of a description is a failure that tells the truth or a token with its own line. -/
theorem tells_of_mem_items (lines : List Line) :
    ∀ item ∈ items lines, match item with
      | .ok placed => IsLine lines placed.token.row placed.line ∧
        0 < placed.token.column ∧ placed.token.column - 1 ≤ placed.line.length
      | .error failure => failure.Truthful lines := by
  intro item member
  obtain ⟨⟨result, after⟩, inHistory, rfl⟩ := List.mem_map.mp (List.mem_of_mem_filter member)
  have tells := (Scanner.onLine_ofLines lexicon lines).history sound_lexicon _ inHistory
  cases result with
  | error failure => exact tells
  | ok token => exact ⟨tells.line, tells.within⟩

/-- Reading a description fails with the truth. -/
theorem truthful_loadInto (draft : Draft) (lines : List Line) {failure : Failure}
    (failed : (loadInto draft lines).2 = some failure) : failure.Truthful lines := by
  have outcome : Outcome sentences draft "" (items lines) (loadInto draft lines) :=
    read_cases (ended_items lines) draft .definition "" trivial
  generalize shape : items lines = list at outcome
  generalize loadInto draft lines = result at outcome failed
  cases outcome with
  | complete => cases failed
  | @stopped before item after failure _ _ blames =>
    cases failed
    have member : item ∈ items lines := by
      rw [shape]
      exact List.mem_append_right _ List.mem_cons_self
    have told := tells_of_mem_items lines item member
    cases item with
    | error own =>
      rw [show failure = own from blames]
      exact told
    | ok placed =>
      obtain ⟨expected, rfl⟩ := blames
      exact .unexpectedToken ⟨told.1, told.2, rfl⟩

end Description

/-- **Carets show the line that they speak of.** Whatever a consumer calls, every failure that it
gets from a pipeline tells the truth, and so does every failure to read a description: the line in
its place is the one in its row, the caret points at a column of it under the blanked characters in
front, and where an indentation is refused it stands in the first column behind all leading
blanks. -/
theorem carets {draft : Draft} {pipeline : Pipeline}
    (compiled : draft.compile = .ok pipeline.lexicon)
    (distinct : pipeline.lexicon.reserved.Distinct) (lines : List Line) :
    (∀ consumer, ∀ answer ∈ (calls (pipeline.lex lines).layers consumer).1,
      ∀ failure, answer.2 = .error failure → failure.Truthful lines) ∧
    ∀ rules failure, (Description.loadInto rules lines).2 = some failure →
      failure.Truthful lines := by
  refine ⟨fun consumer answer member failure same => ?_, fun rules failure failed => ?_⟩
  · obtain ⟨count, inResults⟩ :=
      exists_mem_results (pipeline.lex lines).layers consumer answer member
    rw [same] at inResults
    exact Pipeline.truthful_results (Lexicon.sound_of_compile compiled distinct) lines count
      inResults
  · exact Description.truthful_loadInto rules lines failed

/-- The hypotheses hold for compiled rules under four names, and three lines of which the second is
indented by no whole number of units and the third holds what no rule matches. -/
theorem carets_letterPipeline :
    let lines : List Line := [.text "a".toList, .text " a".toList, .text "a\tb".toList]
    Pipeline.letterDraft.compile = .ok Pipeline.letterPipeline.lexicon ∧
      Pipeline.letterPipeline.lexicon.reserved.Distinct ∧
      (∀ consumer, ∀ answer ∈ (calls (Pipeline.letterPipeline.lex lines).layers consumer).1,
        ∀ failure, answer.2 = .error failure → failure.Truthful lines) ∧
      ∀ rules failure, (Description.loadInto rules lines).2 = some failure →
        failure.Truthful lines := by
  have compiled := Pipeline.compile_letterDraft
  have distinct := Pipeline.distinct_letterPipeline
  exact ⟨compiled, distinct, carets compiled distinct _⟩

end Offside
