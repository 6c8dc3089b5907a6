/-
**Documents that are put together.**

A document may be taken apart behind any line feed. A scanner over the whole hands out what a
scanner over the first piece hands out, up to its failure or the end of input, and then what one
over the second piece hands out; nothing but the width of the indentation passes the seam.

* `Scanner.Between`: what holds between two pops, with `Between.pop` as its step;
* `Scanner.Between.results_before`: more lines change nothing before the end of input;
* `Scanner.Between.results_at_end`: where the end of input comes, a scanner with more lines reads
  on;
* `Text.linesOfBytes_append`: a line feed is where bytes can be taken apart;
* `Scanner.results_append`: what a scanner hands out for two pieces of a document.
-/

import Offside.Proofs.LineMarkers
import Offside.Proofs.ReadingOn

namespace Offside

open Text TokenSource

/-! ### Between two pops -/

namespace Scanner

/-- The scanner with more lines behind those that are left. -/
def before (scanner : Scanner) (more : List Line) : Scanner :=
  { scanner with stage := scanner.stage.before more }

/-- Whether a scanner has come to the end of its lines. -/
def Finished (scanner : Scanner) : Prop := scanner.stage.phase = .finished

/-- What holds between two pops of a scanner over a number of lines: it keeps no token back, counts
the lines as long as it has not failed, and has neither failed nor lines left if it is finished. -/
structure Between (lexicon : Lexicon) (total : Nat) (scanner : Scanner) : Prop where
  empty : scanner.lookahead = none
  lexicon : scanner.stage.lexicon = lexicon
  counted : scanner.failure = none → scanner.stage.row + scanner.stage.unread.length = total
  finished : scanner.Finished → scanner.failure = none ∧ scanner.stage.unread = []

variable {lexicon : Lexicon} {total : Nat} {scanner : Scanner} {more : List Line}

namespace Between

theorem ofLines (lexicon : Lexicon) (lines : List Line) :
    Between lexicon lines.length (Scanner.ofLines lexicon lines) :=
  ⟨rfl, rfl, fun _ => Nat.zero_add _, fun absent => nomatch absent⟩

variable (between : Between lexicon total scanner)

include between

theorem pop : Between lexicon total (pop scanner).2 := by
  obtain ⟨stage, lookahead, failure⟩ := scanner
  obtain ⟨empty, rfl, counted, finished⟩ := between
  cases empty
  cases failure with
  | some failure => exact ⟨rfl, rfl, counted, finished⟩
  | none =>
    have lexicon := stage.lexicon_next
    have counts := stage.counts_next
    have reads := stage.next_before []
    rcases produced : stage.next with ⟨failure | token, later⟩
    · rw [produced] at counts lexicon
      rw [Rewriter.pop_failed produced]
      exact ⟨rfl, lexicon, fun absent => (nomatch absent), fun ended => absurd ended counts⟩
    · rw [produced] at counts lexicon
      rw [Rewriter.pop_produced produced]
      refine ⟨rfl, lexicon, fun _ => counts.trans (counted rfl), fun ended => ⟨rfl, ?_⟩⟩
      rcases reads with ⟨unfinished, _⟩ | ⟨last, closing⟩
      · rw [produced] at unfinished
        exact absurd ended unfinished
      · have same := closing.now
        rw [produced, ScanState.next_of_ended closing.phase closing.unread] at same
        cases same
        exact closing.unread

theorem after (count : Nat) : Between lexicon total (after scanner count) := by
  induction count generalizing scanner with
  | zero => exact between
  | succ count ih => exact ih between.pop

/-- A scanner that is finished hands out the end of input, and is finished. -/
theorem pop_of_finished (finished : scanner.Finished) :
    (∃ token, (TokenSource.pop scanner).1 = .ok token) ∧ Finished (TokenSource.pop scanner).2 := by
  obtain ⟨stage, lookahead, failure⟩ := scanner
  obtain ⟨rfl, ended⟩ := between.finished finished
  cases between.empty
  have now : stage.next = (.ok ⟨stage.lexicon.reserved.eof, ['$'], max stage.row 1, stage.column⟩,
      { stage with phase := .finished }) := by
    have phase : stage.phase = .finished := finished
    rw [ScanState.next, phase]
    simp only
    rw [ScanState.nextLine, ended]
  rw [Rewriter.pop_produced now]
  exact ⟨⟨_, rfl⟩, rfl⟩

/-- More lines are not seen before those in front of them are used up. -/
theorem pop_before (unfinished : ¬ Finished (TokenSource.pop scanner).2) :
    TokenSource.pop (scanner.before more) =
      ((TokenSource.pop scanner).1, Scanner.before (TokenSource.pop scanner).2 more) := by
  obtain ⟨stage, lookahead, failure⟩ := scanner
  cases between.empty
  cases failure with
  | some failure => rfl
  | none =>
    rcases stage.next_before more with ⟨_, longer⟩ | ⟨last, closing⟩
    · rcases produced : stage.next with ⟨failure | token, later⟩
      · rw [produced] at longer
        rw [Rewriter.pop_failed produced]
        exact Rewriter.pop_failed longer
      · rw [produced] at longer
        rw [Rewriter.pop_produced produced]
        exact Rewriter.pop_produced longer
    · have ended := closing.now.trans (ScanState.next_of_ended closing.phase closing.unread)
      rw [Rewriter.pop_produced ended] at unfinished
      exact absurd rfl unfinished

/-- A scanner that has come to its end stays there. -/
theorem finished_after (finished : scanner.Finished) (count : Nat) :
    Finished (TokenSource.after scanner count) := by
  induction count generalizing scanner with
  | zero => exact finished
  | succ count ih => exact ih between.pop (between.pop_of_finished finished).2

/-- Until a scanner has failed it has handed out tokens only. -/
theorem exists_results (count : Nat) (fine : (TokenSource.after scanner count).failure = none) :
    ∃ tokens : List Token, results scanner count = tokens.map .ok := by
  induction count generalizing scanner with
  | zero => exact ⟨[], rfl⟩
  | succ count ih =>
    obtain ⟨tokens, others⟩ := ih between.pop fine
    cases popped : (TokenSource.pop scanner).1 with
    | ok token =>
      refine ⟨token :: tokens, ?_⟩
      rw [List.map_cons, ← others, ← popped]
      rfl
    | error failure =>
      obtain ⟨empty, failed⟩ := Buffered.failure_of_pop_error (Prod.ext popped rfl)
      have stays : TokenSource.pop (TokenSource.pop scanner).2 = _ :=
        Buffered.pop_of_failure empty failed
      have kept : TokenSource.after (TokenSource.pop scanner).2 count =
          (TokenSource.pop scanner).2 := by
        clear ih others fine
        induction count with
        | zero => rfl
        | succ count ih => rw [TokenSource.after, stays, ih]
      rw [TokenSource.after, kept] at fine
      exact absurd (failed.symm.trans fine) (Option.some_ne_none _)

/-- A scanner that fails never comes to the end of its lines. -/
theorem not_finished_of_error {failed : Nat} {failure : Failure}
    (member : .error failure ∈ results scanner failed) (count : Nat) :
    ¬ Finished (TokenSource.after scanner count) := by
  intro finished
  have later := (between.after count).finished_after finished failed
  rw [← after_add, Nat.add_comm] at later
  obtain ⟨tokens, fine⟩ := between.exists_results _ ((between.after _).finished later).1
  have inside : .error failure ∈ results scanner (failed + count) := by
    rw [results, answers_add, List.map_append]
    exact List.mem_append_left _ member
  rw [fine] at inside
  obtain ⟨_, _, absent⟩ := List.mem_map.mp inside
  cases absent

/-- As long as a scanner is not finished, more lines change nothing. -/
theorem results_before (count : Nat)
    (unfinished : ∀ fewer ≤ count, ¬ Finished (TokenSource.after scanner fewer)) :
    results (scanner.before more) count = results scanner count ∧
      TokenSource.after (scanner.before more) count =
        Scanner.before (TokenSource.after scanner count) more := by
  induction count generalizing scanner with
  | zero => exact ⟨rfl, rfl⟩
  | succ count ih =>
    have here : TokenSource.pop (scanner.before more) = _ :=
      between.pop_before (unfinished 1 (Nat.succ_pos _))
    obtain ⟨others, onward⟩ := ih between.pop fun fewer le =>
      unfinished (fewer + 1) (Nat.succ_le_succ le)
    refine ⟨?_, ?_⟩
    · rw [results, answers, List.map_cons, answer, here]
      exact congrArg (_ :: ·) others
    · rw [TokenSource.after, here]
      exact onward

/-- Where a scanner comes to its end, one with more lines reads on from the first of them. -/
theorem results_at_end (unfinished : ¬ scanner.Finished)
    (ends : Finished (TokenSource.pop scanner).2) (some : more ≠ []) :
    (∃ column, (TokenSource.pop scanner).1 =
      .ok ⟨lexicon.reserved.eof, ['$'], max total 1, column⟩) ∧
      ∀ count, results (scanner.before more) count =
        (remarked lexicon.reserved scanner.depth more
          (results (Scanner.ofLines lexicon more) count)).map (resultBelow total) := by
  obtain ⟨stage, lookahead, failure⟩ := scanner
  cases between.empty
  cases failure with
  | some failure => exact absurd ends unfinished
  | none =>
    rcases stage.next_before more with ⟨inside, _⟩ | ⟨last, closing⟩
    · rcases produced : stage.next with ⟨failure | token, later⟩
      · rw [produced] at inside
        rw [Rewriter.pop_failed produced] at ends
        exact absurd ends inside
      · rw [produced] at inside
        rw [Rewriter.pop_produced produced] at ends
        exact absurd ends inside
    · have row : last.row = total := by
        rw [closing.row, ← between.counted rfl, closing.ended]
        rfl
      have rules : last.lexicon = lexicon := closing.lexicon.trans between.lexicon
      have produced := closing.now.trans (ScanState.next_of_ended closing.phase closing.unread)
      refine ⟨⟨last.column, ?_⟩, fun count => ?_⟩
      · rw [Rewriter.pop_produced produced, row, rules]
      · have same : TokenSource.pop (⟨stage.before more, none, none⟩ : Scanner) =
            TokenSource.pop (⟨last.before more, none, none⟩ : Scanner) := by
          have longer : TokenStage.next (stage.before more) = TokenStage.next (last.before more) :=
            closing.longer
          show Buffered.pop _ = Buffered.pop _
          rw [Buffered.pop, Buffered.pop]
          simp only
          rw [longer]
        have resumes : Resumes total { lexicon := lexicon, unread := more } (last.before more) := by
          refine ⟨rfl, ?_, rules, ?_, ?_, fun none => absurd none some⟩
          · rw [ScanState.next, ScanState.before, closing.phase]
          · rw [ScanState.before, closing.unread]
            rfl
          · rw [Nat.zero_add]
            exact row
        have depth : (last.before more).depth = stage.depth := closing.depth
        have onward := resumes.results more rfl count
        rw [depth] at onward
        exact (results_congr same count).trans onward

end Between

/-- Whether a scanner comes to the end of its lines with the pop behind some others. -/
def EndsAfter (scanner : Scanner) (inside : Nat) : Prop :=
  ¬ Finished (after scanner inside) ∧ Finished (after scanner (inside + 1))

/-- A scanner that fails does not see more lines. -/
theorem results_of_error (between : Between lexicon total scanner) {failed : Nat}
    {failure : Failure} (member : .error failure ∈ results scanner failed) (count : Nat) :
    results (scanner.before more) count = results scanner count :=
  (between.results_before count fun fewer _ => between.not_finished_of_error member fewer).1

/-- A scanner that comes to the end of its lines reads on instead if there are more of them. -/
theorem results_of_endsAfter (between : Between lexicon total scanner) {inside : Nat}
    (endsAfter : scanner.EndsAfter inside) (some : more ≠ []) :
    ∃ (front : List Token) (column : Nat),
      results scanner (inside + 1) =
        front.map .ok ++ [.ok ⟨lexicon.reserved.eof, ['$'], max total 1, column⟩] ∧
      ∀ count, results (scanner.before more) (inside + count) = front.map .ok ++
        (remarked lexicon.reserved (depth (after scanner inside)) more
          (results (ofLines lexicon more) count)).map (resultBelow total) := by
  obtain ⟨unfinished, ends⟩ := endsAfter
  rw [after_add] at ends
  have here := between.after inside
  obtain ⟨⟨column, eof⟩, onward⟩ := here.results_at_end unfinished ends some
  have fine : (after scanner inside).failure = none := by
    cases failed : (after scanner inside).failure with
    | none => rfl
    | some failure =>
      have stays : TokenSource.pop (after scanner inside) = _ :=
        Buffered.pop_of_failure here.empty failed
      rw [stays] at eof
      cases eof
  have inFront : ∀ fewer ≤ inside, ¬ Finished (after scanner fewer) := by
    intro fewer le finished
    obtain ⟨rest, rfl⟩ := Nat.exists_eq_add_of_le le
    rw [after_add] at unfinished
    exact unfinished ((between.after fewer).finished_after finished rest)
  obtain ⟨front, tokens⟩ := between.exists_results inside fine
  have start : results (scanner.before more) inside = _ ∧ _ := between.results_before inside inFront
  obtain ⟨same, reached⟩ := start
  refine ⟨front, column, ?_, fun count => ?_⟩
  · rw [results_add, tokens, ← eof]
    rfl
  · rw [results_add, same, reached, tokens, onward]

end Scanner

/-! ### Bytes -/

namespace Text

/-- Bytes can be taken apart behind a line feed. -/
theorem linesOfBytes_append {first : List UInt8} (closed : ∀ last ∈ first.getLast?, last = 10)
    (second : List UInt8) :
    linesOfBytes (first ++ second) = linesOfBytes first ++ linesOfBytes second := by
  rw [linesOfBytes, stretches_append_of_closed closed, List.map_append]
  rfl

theorem linesOfBytes_ne_nil {bytes : List UInt8} (some : bytes ≠ []) : linesOfBytes bytes ≠ [] := by
  rw [linesOfBytes, Ne, List.map_eq_nil_iff]
  exact stretches_ne_nil some

end Text

/-- **Scanning composes over lines.** Let the first of two pieces be empty or end with a line feed,
and let the second not be empty. If a scanner over the first piece fails, the second makes no
difference to any of its results. If it comes to the end, a scanner over both hands out the same
tokens without the end of input, and then what one over the second piece alone hands out, be it
tokens or a failure, as many rows further down as the first piece has lines; only the kind of the
token for the layout of the first line there that is not blank depends on the width of the
indentation before. -/
theorem Scanner.results_append (lexicon : Lexicon) {first second : List UInt8}
    (closed : ∀ last ∈ first.getLast?, last = 10) (some : second ≠ []) :
    let alone := ofLines lexicon (linesOfBytes first)
    let fresh := ofLines lexicon (linesOfBytes second)
    let whole := ofLines lexicon (linesOfBytes (first ++ second))
    (∀ failed failure, .error failure ∈ results alone failed →
      ∀ count, results whole count = results alone count) ∧
    ∀ inside, alone.EndsAfter inside →
      ∃ (front : List Token) (column : Nat),
        results alone (inside + 1) = front.map .ok ++
          [.ok ⟨lexicon.reserved.eof, ['$'], max (linesOfBytes first).length 1, column⟩] ∧
        ∀ count, results whole (inside + count) = front.map .ok ++
          (remarked lexicon.reserved (depth (after alone inside)) (linesOfBytes second)
            (results fresh count)).map (resultBelow (linesOfBytes first).length) := by
  intro alone fresh whole
  have between : Between lexicon (linesOfBytes first).length alone := .ofLines lexicon _
  have longer : whole = alone.before (linesOfBytes second) := by
    show ofLines lexicon (linesOfBytes (first ++ second)) = _
    rw [linesOfBytes_append closed]
    rfl
  rw [longer]
  exact ⟨fun failed failure member => results_of_error between member,
    fun inside endsAfter => results_of_endsAfter between endsAfter (linesOfBytes_ne_nil some)⟩

namespace Scanner

open Pipeline

/-- An indented line that holds the letter is read with the third pop. -/
theorem endsAfter_letter :
    (ofLines letterLexicon [.text "  a".toList]).EndsAfter 2 ∧
      depth (after (ofLines letterLexicon [.text "  a".toList]) 2) = 2 := by
  obtain ⟨begun, shape⟩ : ∃ begun, begun =
      (ScanState.enterLine { lexicon := letterLexicon, unread := [] } "  a".toList 0 []).2 :=
        ⟨_, rfl⟩
  have marker : pop (ofLines letterLexicon [.text "  a".toList]) =
      (.ok ⟨letterLexicon.reserved.indent, "  ".toList, 1, 1⟩, ⟨begun, none, none⟩) := by
    rw [shape]
    rfl
  have rest : begun.rest = ['a'] := by
    rw [shape]
    rfl
  have matched : begun.lexicon.longestMatch begun.rest = some ⟨"WORD", ['a']⟩ := by
    rw [rest, ← longestMatch_letterLexicon, shape]
    rfl
  have kept : ¬ begun.lexicon.isIgnored "WORD" = true := by
    rw [shape]
    show ¬ letterLexicon.isIgnored "WORD" = true
    rw [letterLexicon_eq]
    decide
  have word : begun.next = (.ok (begun.token "WORD" ['a']), begun.step ⟨"WORD", ['a']⟩) := by
    rw [ScanState.next_of_match (by rw [shape]; rfl) (by rw [rest]; exact List.cons_ne_nil _ _)
      matched, if_neg kept]
  have behind : after (ofLines letterLexicon [.text "  a".toList]) 2 =
      ⟨begun.step ⟨"WORD", ['a']⟩, none, none⟩ := by
    rw [after, after, after, marker, Rewriter.pop_produced word]
  have eof : (begun.step ⟨"WORD", ['a']⟩).next = (.ok ⟨letterLexicon.reserved.eof, ['$'], 1, 4⟩,
      { begun.step ⟨"WORD", ['a']⟩ with phase := .finished }) := by
    rw [ScanState.next_of_rest_eq_nil (by rw [ScanState.rest_step, rest]; rfl), shape]
    rfl
  refine ⟨⟨?_, ?_⟩, ?_⟩
  · rw [behind, shape]
    exact Phase.noConfusion
  · rw [after_add, behind, after, after, Rewriter.pop_produced eof]
    exact rfl
  · rw [behind, shape]
    rfl

/-- The hypotheses hold for an indented line, which is read to its end, and for bytes that are no
UTF-8, with a blank line and the letter behind them. -/
theorem results_append_letters :
    let first : List UInt8 := [32, 32, 97, 10]
    let broken : List UInt8 := [255, 10]
    let second : List UInt8 := [10, 97]
    let scanner := fun bytes => ofLines letterLexicon (linesOfBytes bytes)
    (∀ last ∈ first.getLast?, last = 10) ∧ (∀ last ∈ broken.getLast?, last = 10) ∧ second ≠ [] ∧
      .error .malformedText ∈ results (scanner broken) 1 ∧
      (∀ count, results (scanner (broken ++ second)) count = results (scanner broken) count) ∧
      (scanner first).EndsAfter 2 ∧ depth (after (scanner first) 2) = 2 ∧
      ∃ (front : List Token) (column : Nat),
        results (scanner first) 3 = front.map .ok ++
          [.ok ⟨letterLexicon.reserved.eof, ['$'], max (linesOfBytes first).length 1, column⟩] ∧
        ∀ count, results (scanner (first ++ second)) (2 + count) = front.map .ok ++
          (remarked letterLexicon.reserved (depth (after (scanner first) 2)) (linesOfBytes second)
            (results (scanner second) count)).map (resultBelow (linesOfBytes first).length) := by
  intro first broken second scanner
  have closed : ∀ last ∈ first.getLast?, last = 10 := fun _ same => (Option.some.inj same).symm
  have closed' : ∀ last ∈ broken.getLast?, last = 10 := fun _ same => (Option.some.inj same).symm
  have some : second ≠ [] := List.cons_ne_nil _ _
  have indented : linesOfBytes first = [.text "  a".toList] := by decide +kernel
  have undecoded : linesOfBytes broken = [.malformed] := by decide +kernel
  have fails : .error .malformedText ∈ results (scanner broken) 1 := by
    have same : results (scanner broken) 1 = List.replicate 1 (.error .malformedText) :=
      results_malformed rfl undecoded 1
    rw [same]
    exact List.mem_cons_self
  obtain ⟨ends, depth⟩ := endsAfter_letter
  rw [← indented] at ends depth
  exact ⟨closed, closed', some, fails, (results_append letterLexicon closed' some).1 1 _ fails,
    ends,
    depth, (results_append letterLexicon closed some).2 2 ends⟩

end Scanner

end Offside
