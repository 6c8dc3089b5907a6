/-
**Leaving a kind out is filtering it out.**

A scanner passes over matches of the ignored kind: it hands nothing out and goes on behind them. All
else it does as if nothing were ignored, since what it has passed counts for the column and the
caret in either case. So between two tokens that both hand out it stands where a scanner stands that
ignores nothing.

* `exists_le_length_without`: a kind that is not the end of input leaves enough of the answers of
  any source;
* `Draft.compile_ignoring`: a kind that is not reserved may be ignored in any table that compiles;
* `ScanState.next_ignoring`: one step, in terms of the step of the scanner that ignores nothing;
* `Scanner.answers_ignoring`: what is left of its answers is answered first. The induction is on the
  number of answers, with the two scanners at the same place as its invariant;
* `Draft.ignoring_filters`: building and scanning with a kind that is ignored.
-/

import Offside.Proofs.Compiling
import Offside.Proofs.LineMarkers

namespace Offside

open Text TokenSource

/-! ### What is left of answers -/

/-- Whether a result stays where a kind is left out. -/
def keeps (kind : String) : Except Failure Token → Bool
  | .ok token => token.kind != kind
  | .error _ => true

theorem keeps_of_ne {kind : String} {token : Token} (other : token.kind ≠ kind) :
    keeps kind (.ok token) = true :=
  bne_iff_ne.mpr other

/-- What does not stay is a token of the kind. -/
theorem exists_of_keeps_eq_false {kind : String} {result : Except Failure Token}
    (dropped : keeps kind result = false) : ∃ token, result = .ok token ∧ token.kind = kind := by
  cases result with
  | error failure => cases dropped
  | ok token => exact ⟨token, rfl, by simpa [keeps] using dropped⟩

namespace Answer

/-- The answers that stay where a kind is left out. -/
def without (kind : String) (list : List Answer) : List Answer :=
  list.filter fun answer => keeps kind answer.result

variable {kind : String} {answer : Answer} {list : List Answer}

theorem without_cons_of_kept (kept : keeps kind answer.result = true) :
    without kind (answer :: list) = answer :: without kind list := by
  simp [without, kept]

theorem without_cons_of_dropped (dropped : keeps kind answer.result = false) :
    without kind (answer :: list) = without kind list := by
  simp [without, dropped]

theorem map_result_without (kind : String) (list : List Answer) :
    (without kind list).map (·.result) = (list.map (·.result)).filter (keeps kind) := by
  rw [without, List.filter_map]
  rfl

/-- Leaving out what is not the end of input leaves the end. -/
theorem Terminated.without {eof : String} (terminated : Terminated eof list) (inside : kind ≠ eof) :
    Terminated eof (without kind list) := by
  induction terminated with
  | @last answer isEnd =>
    have kept : keeps kind answer.result = true := by
      cases shape : keeps kind answer.result with
      | true => rfl
      | false =>
        obtain ⟨token, given, same⟩ := exists_of_keeps_eq_false shape
        rw [IsEnd, given] at isEnd
        exact absurd (same.symm.trans isEnd) inside
    rw [without_cons_of_kept kept]
    exact .last isEnd
  | @more answer rest goesOn _ ih =>
    cases shape : keeps kind answer.result with
    | true =>
      rw [without_cons_of_kept shape]
      exact .more goesOn ih
    | false =>
      rw [without_cons_of_dropped shape]
      exact ih

end Answer

section Sources

variable {σ : Type} [TokenSource σ] {kind : String}

/-- Sources that are popped alike answer alike. -/
theorem answers_of_pop_eq {s other : σ} (same : pop s = pop other) (count : Nat) :
    answers s count = answers other count := by
  cases count with
  | zero => rfl
  | succ count => rw [answers, answers, answer, answer, same]

theorem exists_without_ne_nil (s : σ) (inside : kind ≠ (reserved s).eof) :
    ∃ count, Answer.without kind (answers s count) ≠ [] := by
  induction s using (follows_wf (σ := σ)).induction with
  | _ s ih =>
    cases shape : keeps kind (answer s).result with
    | true =>
      refine ⟨1, ?_⟩
      rw [answers, Answer.without_cons_of_kept shape]
      exact List.cons_ne_nil _ _
    | false =>
      obtain ⟨token, popped, same⟩ := exists_of_keeps_eq_false shape
      have follows : Follows (pop s).2 s := ⟨token, Prod.ext popped rfl, same ▸ inside⟩
      obtain ⟨count, some⟩ := ih (pop s).2 follows (reserved_pop s ▸ inside)
      refine ⟨count + 1, ?_⟩
      rwa [answers, Answer.without_cons_of_dropped shape]

/-- A kind that is not the end of input leaves enough of the answers of any source. -/
theorem exists_le_length_without (s : σ) (inside : kind ≠ (reserved s).eof) (count : Nat) :
    ∃ enough, count ≤ (Answer.without kind (answers s enough)).length := by
  induction count generalizing s with
  | zero => exact ⟨0, Nat.zero_le _⟩
  | succ count ih =>
    obtain ⟨first, some⟩ := exists_without_ne_nil s inside
    obtain ⟨second, longer⟩ := ih (after s first) (reserved_after s first ▸ inside)
    refine ⟨first + second, ?_⟩
    have positive := List.length_pos_iff.mpr some
    rw [answers_add, Answer.without, List.filter_append, List.length_append, Nat.add_comm count]
    exact Nat.add_le_add positive longer

end Sources

/-! ### Tables -/

/-- The rules with another kind whose matches are left out. -/
def Lexicon.ignoring (lexicon : Lexicon) (kind : String) : Lexicon :=
  { lexicon with ignored := some kind }

/-- A kind that is not reserved may be ignored in any table that compiles, and the rules stay the
same. -/
theorem Draft.compile_ignoring (draft : Draft) {kind : String}
    (free : draft.reserved.contains kind = false) :
    Draft.compile { draft with ignored := some kind } =
      (Draft.compile { draft with ignored := none }).map (·.ignoring kind) := by
  have passes : (some kind).filter draft.reserved.contains = none := by
    rw [Option.filter_some, free]
    rfl
  simp only [Draft.compile_eq, passes, Option.filter_none]
  cases draft.rules.mapM fun entry => Rule.compile draft.reserved entry.1 entry.2 with
  | error failure => rfl
  | ok rules => rfl

/-! ### One step -/

namespace ScanState

variable {state : ScanState} {kind : String}

/-- The scanner at the same place, with another kind left out. -/
def ignoring (state : ScanState) (kind : String) : ScanState :=
  { state with lexicon := state.lexicon.ignoring kind }

theorem beginLine_ignoring (state : ScanState) (kind : String) (line : List Char)
    (unread : List Line) :
    (state.ignoring kind).beginLine line unread =
      ((state.beginLine line unread).1, (state.beginLine line unread).2.ignoring kind) := by
  unfold beginLine
  split <;> rfl

/-- Lines are begun in the same way. -/
theorem nextLine_ignoring (state : ScanState) (kind : String) :
    (state.ignoring kind).nextLine = (state.nextLine.1, state.nextLine.2.ignoring kind) := by
  unfold nextLine
  cases shape : state.unread with
  | nil => simp only [ignoring, shape, Lexicon.ignoring]
  | cons line unread =>
    cases line with
    | malformed => simp only [ignoring, shape]
    | text line =>
      have begun := state.beginLine_ignoring kind line unread
      simp only [ignoring, shape] at begun ⊢
      rw [begun]

/-- What stands between lines is of no kind that is not reserved. -/
theorem keeps_nextLine (free : state.lexicon.reserved.contains kind = false) :
    keeps kind state.nextLine.1 = true := by
  obtain ⟨noIndent, noDeindent, noNewline, noEof⟩ := ReservedKinds.contains_eq_false_iff.mp free
  unfold nextLine
  split
  · exact keeps_of_ne noEof.symm
  · rfl
  · refine keeps_of_ne ?_
    rw [beginLine]
    split
    · exact noNewline.symm
    · rename_i line _ _ _
      show state.layoutKind (leadingBlanks line).length ≠ kind
      rcases state.layoutKind_cases (leadingBlanks line).length with same | same | same <;>
        rw [same]
      · exact noNewline.symm
      · exact noIndent.symm
      · exact noDeindent.symm

/-- **One step of a scanner that ignores a kind.** If the scanner that ignores nothing hands out a
match of the kind, it goes on from behind the match; all else it does alike. -/
theorem next_ignoring (everything : state.lexicon.ignored = none)
    (free : state.lexicon.reserved.contains kind = false) :
    (state.ignoring kind).next =
      if keeps kind state.next.1 then (state.next.1, state.next.2.ignoring kind)
      else (state.next.2.ignoring kind).next := by
  by_cases ready : state.Ready
  · have alsoReady : (state.ignoring kind).Ready := ready
    rw [ready.next, alsoReady.next, nextLine_ignoring, if_pos (keeps_nextLine free)]
  · obtain ⟨within, more⟩ := Classical.not_imp.mp ready
    have alsoWithin : (state.ignoring kind).phase = .content := within
    have alsoMore : (state.ignoring kind).rest ≠ [] := more
    cases matched : state.lexicon.longestMatch state.rest with
    | none =>
      rw [next_of_stuck within more matched, next_of_stuck alsoWithin alsoMore matched]
      rfl
    | some found =>
      have kept : ¬ state.lexicon.isIgnored found.kind := by
        rw [Lexicon.isIgnored, everything]
        exact Bool.false_ne_true
      have decides : (state.ignoring kind).lexicon.isIgnored found.kind =
          !keeps kind (.ok (state.token found.kind found.text)) := by
        show (some kind == some found.kind) = !(found.kind != kind)
        rw [Option.some_beq_some, bne, Bool.not_not, Bool.beq_comm]
      rw [next_of_kept within more matched kept, next_of_match alsoWithin alsoMore matched, decides]
      cases keeps kind (.ok (state.token found.kind found.text)) <;> rfl

end ScanState

/-! ### All answers -/

namespace Scanner

variable {scanner : Scanner} {kind : String}

/-- The scanner at the same place, with another kind left out. -/
def ignoring (scanner : Scanner) (kind : String) : Scanner :=
  { scanner with stage := scanner.stage.ignoring kind }

/-- A scanner that ignores nothing and has not been peeked at. -/
structure HandsOutAll (scanner : Scanner) (kind : String) : Prop where
  everything : scanner.stage.lexicon.ignored = none
  free : scanner.stage.lexicon.reserved.contains kind = false
  unseen : scanner.lookahead = none

theorem HandsOutAll.pop (all : scanner.HandsOutAll kind) : HandsOutAll (pop scanner).2 kind := by
  have same : (TokenSource.pop scanner).2.stage.lexicon = scanner.stage.lexicon := by
    obtain ⟨state, lookahead, failure⟩ := scanner
    obtain rfl : lookahead = none := all.unseen
    cases failure with
    | some failure => rfl
    | none =>
      have kept := state.lexicon_next
      rcases produced : state.next with ⟨error | token, later⟩ <;> rw [produced] at kept
      · rw [Rewriter.pop_failed (show TokenStage.next state = _ from produced)]
        exact kept
      · rw [Rewriter.pop_produced (show TokenStage.next state = _ from produced)]
        exact kept
  exact ⟨same ▸ all.everything, same ▸ all.free, Buffered.lookahead_pop scanner⟩

/-- **One pop of a scanner that ignores a kind.** -/
theorem pop_ignoring (all : scanner.HandsOutAll kind) :
    TokenSource.pop (scanner.ignoring kind) =
      if keeps kind (TokenSource.pop scanner).1 then
        ((TokenSource.pop scanner).1, ignoring (TokenSource.pop scanner).2 kind)
      else TokenSource.pop (ignoring (TokenSource.pop scanner).2 kind) := by
  obtain ⟨state, lookahead, failure⟩ := scanner
  obtain ⟨everything, free, unseen⟩ := all
  obtain rfl : lookahead = none := unseen
  cases failure with
  | some failure => rfl
  | none =>
    have step : TokenStage.next (state.ignoring kind) = _ := ScanState.next_ignoring everything free
    rcases produced : state.next with ⟨failure | token, later⟩ <;> rw [produced] at step
    · rw [Rewriter.pop_failed (show TokenStage.next state = _ from produced), ignoring,
        Rewriter.pop_failed step]
      rfl
    · rw [Rewriter.pop_produced (show TokenStage.next state = _ from produced)]
      cases shape : keeps kind (.ok token) with
      | true =>
        rw [shape] at step
        rw [ignoring, Rewriter.pop_produced step]
        rfl
      | false =>
        -- Both look at the same place: what is ignored leaves no trace.
        rw [shape, if_neg Bool.false_ne_true] at step
        rw [if_neg Bool.false_ne_true]
        show Buffered.pop _ = Buffered.pop _
        unfold Buffered.pop
        simp only [ignoring, step]
        rfl

/-- **What is left of the answers is answered first.** -/
theorem answers_ignoring (all : scanner.HandsOutAll kind) (count : Nat) :
    answers (scanner.ignoring kind) (Answer.without kind (answers scanner count)).length =
      Answer.without kind (answers scanner count) := by
  induction count generalizing scanner with
  | zero => rfl
  | succ count ih =>
    have onward := ih all.pop
    have popped := pop_ignoring all
    rw [answers]
    cases shape : keeps kind (answer scanner).result with
    | true =>
      rw [if_pos (show keeps kind (TokenSource.pop scanner).1 = true from shape)] at popped
      rw [Answer.without_cons_of_kept shape, List.length_cons, answers, answer, popped, onward]
      rfl
    | false =>
      rw [if_neg (show ¬ keeps kind (TokenSource.pop scanner).1 = true from
        Bool.eq_false_iff.mp shape)] at popped
      rw [Answer.without_cons_of_dropped shape, answers_of_pop_eq popped, onward]

end Scanner

/-- **Leaving a kind out is filtering it out.** Whether the kind is declared or not, the table
compiles with it ignored just where it compiles without, to the same rules. Up to its end the
scanner then hands out what the one hands out that ignores nothing, less the tokens of the kind; and
however often it is popped, its answers are those that are left of enough answers of the other
one. -/
theorem Draft.ignoring_filters (draft : Draft) {kind : String}
    (free : draft.reserved.contains kind = false) :
    Draft.compile { draft with ignored := some kind } =
        (Draft.compile { draft with ignored := none }).map (·.ignoring kind) ∧
      ∀ lexicon, Draft.compile { draft with ignored := none } = .ok lexicon → ∀ lines,
        (drain (Scanner.ofLines (lexicon.ignoring kind) lines)).1 =
            (drain (Scanner.ofLines lexicon lines)).1.filter (keeps kind) ∧
          ∀ count, ∃ enough, ∀ more, enough ≤ more →
            answers (Scanner.ofLines (lexicon.ignoring kind) lines) count =
              (Answer.without kind (answers (Scanner.ofLines lexicon lines) more)).take count := by
  refine ⟨draft.compile_ignoring free, fun lexicon compiled lines => ?_⟩
  obtain ⟨_, _, sameNames, everything⟩ := Draft.compile_eq_ok_iff.mp compiled
  have all : (Scanner.ofLines lexicon lines).HandsOutAll kind :=
    ⟨everything, (congrArg (·.contains kind) sameNames).trans free, rfl⟩
  have inside : kind ≠ lexicon.reserved.eof :=
    (ReservedKinds.contains_eq_false_iff.mp all.free).2.2.2
  have first := Scanner.answers_ignoring all
  constructor
  · obtain ⟨count, terminated⟩ := exists_terminated (Scanner.ofLines lexicon lines)
    rw [drain_of_terminated terminated]
    have drained := drain_of_answers (first count) (terminated.without inside)
    exact drained.trans (Answer.map_result_without kind _)
  · intro count
    obtain ⟨enough, longer⟩ := exists_le_length_without (Scanner.ofLines lexicon lines) inside count
    refine ⟨enough, fun more le => ?_⟩
    have grows : (Answer.without kind (answers (Scanner.ofLines lexicon lines) enough)).length ≤
        (Answer.without kind (answers (Scanner.ofLines lexicon lines) more)).length :=
      ((prefix_answers_of_le (Scanner.ofLines lexicon lines) le).filter _).length_le
    have start :=
      prefix_answers_of_le (Scanner.ofLines (lexicon.ignoring kind) lines)
        (Nat.le_trans longer grows)
    rw [List.prefix_iff_eq_take, length_answers] at start
    exact start.trans (congrArg (List.take count) (first more))

/-- The hypothesis holds for the kind of the letter, of which the layout is left, and for a kind
that is not declared. -/
theorem Draft.ignoring_filters_letters :
    let lines : List Line := [.text "  a".toList, .text "a".toList]
    let lexicon := Pipeline.letterLexicon
    Pipeline.letterDraft.reserved.contains "WORD" = false ∧
      Pipeline.letterDraft.reserved.contains "BLANK" = false ∧
      (drain (Scanner.ofLines (lexicon.ignoring "WORD") lines)).1 =
        [.ok ⟨"INDENT", "  ".toList, 1, 1⟩, .ok ⟨"DEINDENT", [], 2, 1⟩, .ok ⟨"EOF", ['$'], 2, 2⟩] ∧
      (drain (Scanner.ofLines (lexicon.ignoring "BLANK") lines)).1.length = 5 := by
  intro lines lexicon
  have word : Pipeline.letterDraft.reserved.contains "WORD" = false := by decide
  have blank : Pipeline.letterDraft.reserved.contains "BLANK" = false := by decide
  have drained : (drain (Scanner.ofLines lexicon lines)).1 =
      [.ok ⟨"INDENT", "  ".toList, 1, 1⟩, .ok ⟨"WORD", ['a'], 1, 3⟩, .ok ⟨"DEINDENT", [], 2, 1⟩,
        .ok ⟨"WORD", ['a'], 2, 1⟩, .ok ⟨"EOF", ['$'], 2, 2⟩] := by
    have sound :=
      Lexicon.sound_of_compile Pipeline.compile_letterDraft Pipeline.distinct_letterPipeline
    rw [Pipeline.drain_scanner sound]
    show (ScanState.scanLines _ ((.text _, 0) :: [(.text _, 1)])).map (·.result) = _
    rw [ScanState.scanLines_inked _ (by decide), Pipeline.scanContents_letter rfl rfl,
      ScanState.scanLines_inked _ (by decide), Pipeline.scanContents_letter rfl rfl]
    simp only [Pipeline.letterLexicon_eq]
    rfl
  refine ⟨word, blank, ?_, ?_⟩
  · rw [((Draft.ignoring_filters _ word).2 lexicon Pipeline.compile_letterDraft lines).1, drained]
    decide
  · rw [((Draft.ignoring_filters _ blank).2 lexicon Pipeline.compile_letterDraft lines).1, drained]
    decide

end Offside
