/-
**Sources that end for good.**

A source may come to the end of input, or fail. Either is meant to be final. A buffer repeats its
failure and leaves its stage alone from then on, whatever the stage would do next. No such rule is
written down for the end of input: that it is final follows from the scanner, and every filter keeps
it so.

* `Settled`: all further calls return the same;
* `Buffered.calls_of_failed`: a buffer that has failed is settled and does not change any more;
* `Lasting`: after each end of input the next pop returns the same token;
* `Lasting.settled`: a lasting source is settled once it shows the end of input;
* `Rewriter.isChain_run`: a machine that passes the end of input keeps it lasting;
* `lasting_scanner`, `Lasting.collapsed`, `Lasting.leveled`: the scanner is lasting, and so is
  everything that filters make of a lasting source.
-/

import Mathlib.Data.List.Chain
import Offside.Proofs.Calls
import Offside.Proofs.Collapsing
import Offside.Proofs.Leveling
import Offside.Proofs.LineByLine

namespace Offside

open Text TokenSource

section Settled

variable {σ : Type} [TokenSource σ]

/-- Whatever a consumer calls, it gets the same result. -/
def Settled (s : σ) (result : Except Failure Token) : Prop :=
  ∀ consumer, ∀ answer ∈ (calls s consumer).1, answer.2 = result

/-- A source whose calls all return the same and lead back to it. -/
theorem settled_of_calls {s : σ} {result : Except Failure Token}
    (same : ∀ consumer, (calls s consumer).1 = consumer.map fun next => (next, result)) :
    Settled s result := by
  intro consumer answer member
  rw [same] at member
  obtain ⟨next, _, rfl⟩ := List.mem_map.mp member
  rfl

end Settled

/-! ### Failures -/

namespace Buffered

variable {ζ : Type} [TokenStage ζ]

/-- A buffer that has failed repeats its failure and stays as it is. -/
theorem calls_of_failed {source : Buffered ζ} {failure : Failure} (empty : source.lookahead = none)
    (failed : source.failure = some failure) (consumer : List Call) :
    calls source consumer = (consumer.map fun next => (next, .error failure), source) := by
  induction consumer with
  | nil => rfl
  | cons next rest ih =>
    have called : call source next = (.error failure, source) := by
      cases next with
      | peek => exact peek_of_failure empty failed
      | pop => exact pop_of_failure empty failed
    rw [calls, called, ih]
    rfl

/-- **A call that fails is the last one that does anything.** -/
theorem calls_of_call_error {source : Buffered ζ} {next : Call} {failure : Failure}
    (failed : (call source next).1 = .error failure) (consumer : List Call) :
    calls (call source next).2 consumer =
      (consumer.map fun later => (later, .error failure), (call source next).2) := by
  have recorded : (call source next).2.lookahead = none ∧
      (call source next).2.failure = some failure := by
    cases next with
    | peek => exact failure_of_peek_error (Prod.ext failed rfl)
    | pop => exact failure_of_pop_error (Prod.ext failed rfl)
  exact calls_of_failed recorded.1 recorded.2 consumer

end Buffered

/-! ### The end of input -/

/-- Behind an end of input stands the same token once more. -/
def Repeats (eof : String) (first second : Answer) : Prop :=
  ∀ token, first.result = .ok token → token.kind = eof → second.result = .ok token

section Lasting

variable {σ : Type} [TokenSource σ]

/-- After each end of input the next pop returns the same token. -/
def Lasting (s : σ) : Prop := ∀ count, (answers s count).IsChain (Repeats (reserved s).eof)

namespace Lasting

variable {s : σ}

theorem pop (lasting : Lasting s) : Lasting (TokenSource.pop s).2 := by
  intro count
  rw [reserved_pop]
  exact (lasting (count + 1)).tail

theorem peek (lasting : Lasting s) : Lasting (TokenSource.peek s).2 := by
  intro count
  rw [reserved_peek, answers_peek]
  exact lasting count

theorem call (lasting : Lasting s) (next : Call) : Lasting (TokenSource.call s next).2 := by
  cases next with
  | peek => exact lasting.peek
  | pop => exact lasting.pop

theorem repeats (lasting : Lasting s) {token : Token} (popped : (TokenSource.pop s).1 = .ok token)
    (isEof : token.kind = (reserved s).eof) :
    (TokenSource.pop (TokenSource.pop s).2).1 = .ok token := by
  have chain := lasting 2
  rw [answers, answers, answers, List.isChain_pair] at chain
  exact chain token popped isEof

/-- **A lasting source is settled once it shows the end of input.** -/
theorem settled (lasting : Lasting s) {token : Token} (popped : (TokenSource.pop s).1 = .ok token)
    (isEof : token.kind = (reserved s).eof) : Settled s (.ok token) := by
  intro consumer
  induction consumer generalizing s with
  | nil =>
    intro answer member
    cases member
  | cons next rest ih =>
    intro answer member
    have onward : (TokenSource.call s next).1 = .ok token ∧
        (TokenSource.pop (TokenSource.call s next).2).1 = .ok token ∧
        (reserved (TokenSource.call s next).2).eof = (reserved s).eof := by
      cases next with
      | peek =>
        refine ⟨(peek_result s).trans popped, ?_, congrArg _ (reserved_peek s)⟩
        exact (congrArg Prod.fst (pop_peek s)).trans popped
      | pop => exact ⟨popped, lasting.repeats popped isEof, congrArg _ (reserved_pop s)⟩
    obtain ⟨here, later, kinds⟩ := onward
    rcases List.mem_cons.mp member with rfl | member
    · exact here
    · exact ih (lasting.call next) later (kinds ▸ isEof) answer member

end Lasting

/-- A source is lasting if each end of input leads to a state that repeats it. -/
theorem lasting_of_pop {Good : σ → Prop} (next : ∀ s, Good s → Good (pop s).2)
    (repeats : ∀ s token, Good s → (pop s).1 = .ok token → token.kind = (reserved s).eof →
      (pop (pop s).2).1 = .ok token) {s : σ} (good : Good s) : Lasting s := by
  intro count
  induction count generalizing s with
  | zero => exact .nil
  | succ count ih =>
    have onward := ih (next s good)
    rw [reserved_pop] at onward
    rw [answers, List.isChain_cons]
    refine ⟨fun second head token popped isEof => ?_, onward⟩
    cases count with
    | zero => cases head
    | succ count =>
      cases head
      exact repeats s token good popped isEof

end Lasting

/-! ### Machines -/

namespace Rewriter

variable {ς : Type} {rewrite : Rewriter ς} {eof : String}

/-- A machine that hands out an end of input for nothing but an end of input, as the last token, and
then lets the same token through alone. -/
structure PassesEnd (eof : String) (rewrite : Rewriter ς) (Good : ς → Prop) : Prop where
  good : ∀ {state view token tokens later}, Good state →
    rewrite state view token = .ok (tokens, later) → Good later
  inside : ∀ {state view token tokens later}, Good state →
    rewrite state view token = .ok (tokens, later) → token.kind ≠ eof →
    ∀ handed ∈ tokens, handed.kind ≠ eof
  last : ∀ {state view token tokens later}, Good state →
    rewrite state view token = .ok (tokens, later) → token.kind = eof →
    ∃ front, tokens = front ++ [token] ∧ ∀ handed ∈ front, handed.kind ≠ eof
  again : ∀ {state view token tokens later}, Good state →
    rewrite state view token = .ok (tokens, later) → token.kind = eof →
    ∀ view, ∃ next, rewrite later view token = .ok ([token], next)

/-- In front of a chain may stand whatever is no end of input. -/
theorem isChain_append_of_inside {tokens : List Token} (inside : ∀ token ∈ tokens, token.kind ≠ eof)
    (view : View) {rest : List Answer} (chain : rest.IsChain (Repeats eof)) :
    (tokens.map (fun token => (⟨.ok token, view⟩ : Answer)) ++ rest).IsChain (Repeats eof) := by
  induction tokens with
  | nil => exact chain
  | cons first tokens ih =>
    rw [List.map_cons, List.cons_append, List.isChain_cons]
    refine ⟨fun second _ token same isEof => ?_, ih fun token member => ?_⟩
    · cases same
      exact absurd isEof (inside first List.mem_cons_self)
    · exact inside token (List.mem_cons_of_mem _ member)

theorem isChain_replicate_error (count : Nat) (failure : Failure) (view : View) :
    (List.replicate count (⟨.error failure, view⟩ : Answer)).IsChain (Repeats eof) := by
  refine List.isChain_replicate_of_rel count fun token absent => ?_
  cases absent

/-- **A machine that passes the end of input makes a lasting list of a lasting one.** -/
theorem isChain_run {Good : ς → Prop} (passes : PassesEnd eof rewrite Good) {state : ς}
    (good : Good state) {list : List Answer} (chain : list.IsChain (Repeats eof)) :
    (run rewrite (.ok state) list).IsChain (Repeats eof) := by
  induction list generalizing state with
  | nil => exact .nil
  | cons first rest ih =>
    obtain ⟨result, view⟩ := first
    cases result with
    | error failure =>
      rw [run_error]
      exact isChain_replicate_error _ failure view
    | ok token =>
      cases produced : rewrite state view token with
      | error failure =>
        rw [run_refused rewrite produced]
        exact isChain_replicate_error _ failure view
      | ok handed =>
        obtain ⟨tokens, later⟩ := handed
        have onward := ih (passes.good good produced) chain.tail
        rw [run_accepted rewrite produced]
        by_cases isEof : token.kind = eof
        · obtain ⟨front, rfl, inside⟩ := passes.last good produced isEof
          rw [List.map_append, List.append_assoc]
          refine isChain_append_of_inside inside view ?_
          rw [List.map_singleton, List.singleton_append, List.isChain_cons]
          refine ⟨fun second head seen same _ => ?_, onward⟩
          cases same
          cases rest with
          | nil => cases head
          | cons next rest =>
            -- The answer behind the end of input is the same token, which passes alone.
            have again : next.result = .ok token :=
              (List.isChain_cons_cons.mp chain).1 token rfl isEof
            obtain ⟨result, view⟩ := next
            obtain rfl : result = .ok token := again
            obtain ⟨last, alone⟩ := passes.again good produced isEof view
            rw [run_accepted rewrite alone] at head
            cases head
            rfl
        · exact isChain_append_of_inside (passes.inside good produced isEof) view onward

end Rewriter

/-! ### Filters -/

theorem Collapsed.passesEnd {kinds : ReservedKinds} (distinct : kinds.newline ≠ kinds.eof)
    (trim : Bool) : Rewriter.PassesEnd kinds.eof (rewriter kinds trim) fun memory =>
      ∀ newline, memory.held = some newline → newline.kind = kinds.newline := by
  refine ⟨?_, ?_, ?_, ?_⟩
  all_goals intro memory view token tokens later newlines made
  · by_cases newline : token.kind = kinds.newline
    · rw [rewriter_newline newline] at made
      cases made
      exact fun held same => Option.some.inj same ▸ newline
    · rw [rewriter_other newline] at made
      cases made
      exact of_none
  · intro inside handed member
    by_cases newline : token.kind = kinds.newline
    · rw [rewriter_newline newline] at made
      cases made
      cases member
    · rw [rewriter_other newline] at made
      cases made
      rcases List.mem_append.mp member with inKept | isToken
      · rw [kind_of_mem_kept newlines inKept]
        exact distinct
      · rw [List.mem_singleton.mp isToken]
        exact inside
  · intro isEof
    rw [rewriter_other (isEof ▸ Ne.symm distinct)] at made
    cases made
    refine ⟨_, rfl, fun handed member => ?_⟩
    rw [kind_of_mem_kept newlines member]
    exact distinct
  · intro isEof view
    have other : token.kind ≠ kinds.newline := isEof ▸ Ne.symm distinct
    rw [rewriter_other other] at made
    cases made
    refine ⟨⟨false, none⟩, ?_⟩
    rw [rewriter_other other, Option.toList_none, ite_self, List.nil_append]

theorem Leveled.passesEnd {kinds : ReservedKinds} (noIndent : kinds.eof ≠ kinds.indent)
    (noDeindent : kinds.eof ≠ kinds.deindent) (unit : List Char) :
    Rewriter.PassesEnd kinds.eof (rewriter kinds unit) fun _ => True := by
  have plain : ∀ {token : Token}, token.kind = kinds.eof → Plain kinds token := fun isEof =>
    ⟨isEof ▸ noIndent, isEof ▸ noDeindent⟩
  refine ⟨fun _ _ => trivial, ?_, ?_, ?_⟩
  all_goals intro level view token tokens later _ made
  · intro inside handed member
    rw [kind_of_rewriter made handed member]
    exact inside
  · intro isEof
    rw [rewriter_of_plain level view (plain isEof)] at made
    cases made
    exact ⟨[], rfl, List.forall_mem_nil _⟩
  · intro isEof view
    exact ⟨later, rewriter_of_plain later view (plain isEof)⟩

section Filters

variable {σ τ : Type} [TokenSource σ] [TokenSource τ]

/-- What is made from a lasting source by a function that keeps lists lasting is lasting. -/
theorem TokenSource.Renders.lasting {outer : σ} {inner : τ} {make : List Answer → List Answer}
    (renders : Renders outer inner make) (same : reserved outer = reserved inner)
    (keeps : ∀ list : List Answer, list.IsChain (Repeats (reserved inner).eof) →
      (make list).IsChain (Repeats (reserved inner).eof))
    (lasting : Lasting inner) : Lasting outer := by
  intro count
  obtain ⟨enough, more, begins⟩ := renders count
  have chain := keeps _ (lasting enough)
  rw [← begins] at chain
  rw [same]
  exact chain.left_of_append

theorem Lasting.collapsed {s : σ} (lasting : Lasting s)
    (distinct : (reserved s).newline ≠ (reserved s).eof) (trim : Bool) :
    Lasting (Collapsed.of s trim) :=
  (Collapsed.renders s trim distinct).lasting rfl
    (fun _ chain => Rewriter.isChain_run (Collapsed.passesEnd distinct trim) of_none chain) lasting

theorem Lasting.leveled {s : σ} (lasting : Lasting s)
    (noIndent : (reserved s).eof ≠ (reserved s).indent)
    (noDeindent : (reserved s).eof ≠ (reserved s).deindent) (unit : List Char) :
    Lasting (Leveled.of s unit) :=
  (Leveled.renders s unit).lasting rfl
    (fun _ chain => Rewriter.isChain_run (Leveled.passesEnd noIndent noDeindent unit) trivial chain)
    lasting

end Filters

/-! ### Scanners -/

namespace ScanState

variable {state later : ScanState} {token : Token}

/-- When there are no more lines, the scanner stays where it is. -/
theorem next_of_nextLine_eof (distinct : state.lexicon.reserved.Distinct)
    (produced : state.nextLine = (.ok token, later))
    (isEof : token.kind = state.lexicon.reserved.eof) : later.next = (.ok token, later) := by
  rw [nextLine] at produced
  split at produced
  · rename_i finished
    cases produced
    show nextLine _ = _
    rw [nextLine]
    simp only [finished]
  · cases produced
  · rename_i line unread _
    cases produced
    refine absurd isEof ?_
    show (state.enterLine line state.row unread).1.kind ≠ _
    by_cases blank : isBlankLine line
    · rw [marker_of_blank state blank]
      exact distinct.newline_ne_eof
    · rw [marker_of_inked state blank]
      exact layoutKind_ne_eof state distinct _

theorem next_of_scanContent_eof (sound : state.lexicon.Sound)
    (produced : state.scanContent = (.ok token, later))
    (isEof : token.kind = state.lexicon.reserved.eof) : later.next = (.ok token, later) := by
  fun_induction scanContent state with
  | case1 => exact next_of_nextLine_eof sound.distinct produced isEof
  | case2 => cases produced
  | case3 state _ found _ _ ih => exact ih sound produced isEof
  | case4 state _ found matched _ =>
    cases produced
    exact absurd isEof (ReservedKinds.ne_eof_of_free (sound.contains_eq_false matched))

/-- A scanner that has produced the end of input produces it again and again. -/
theorem next_of_next_eof (sound : state.lexicon.Sound) (produced : state.next = (.ok token, later))
    (isEof : token.kind = state.lexicon.reserved.eof) : later.next = (.ok token, later) := by
  rw [next] at produced
  split at produced
  · exact next_of_scanContent_eof sound produced isEof
  · exact next_of_nextLine_eof sound.distinct produced isEof
  · exact next_of_nextLine_eof sound.distinct produced isEof

end ScanState

/-- **A scanner over sound rules is lasting.** -/
theorem lasting_scanner {lexicon : Lexicon} (sound : lexicon.Sound) (lines : List Line) :
    Lasting (Scanner.ofLines lexicon lines) := by
  refine @lasting_of_pop Scanner _
    (fun scanner => scanner.lookahead = none ∧ scanner.stage.lexicon = lexicon) ?_ ?_ _ ⟨rfl, rfl⟩
  · rintro scanner ⟨_, rfl⟩
    refine ⟨Buffered.lookahead_pop scanner, ?_⟩
    rcases Buffered.stage_call scanner .pop with same | produced
    · exact congrArg ScanState.lexicon same
    · exact (congrArg ScanState.lexicon produced).trans (ScanState.lexicon_next scanner.stage)
  · rintro scanner token ⟨empty, rfl⟩ popped isEof
    rcases Buffered.pop_eq_ok (Prod.ext popped rfl) with ⟨buffered, _⟩ | ⟨_, _, later, produced,
      rest⟩
    · rw [empty] at buffered
      cases buffered
    · have again : TokenStage.next later = (.ok token, later) :=
        ScanState.next_of_next_eof sound produced isEof
      have stays : (pop scanner).2 = ⟨later, none, none⟩ := rest
      rw [stays, Rewriter.pop_produced again]

end Offside
