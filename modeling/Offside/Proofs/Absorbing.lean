/-
**Stacks that end for good.**

Filters may be put around a scanner and taken off again at any time, between calls of all kinds.
Each layer of such a stack is lasting, so whatever ends it first, a failure or the end of input,
stays as it is. The loop over the tokens of a source relies on this: it stops at the first end and
gives the source back.

* `Tokens.take_of_terminated`: one by one, tokens are handed out up to the first end;
* `Finishes`, `exists_finishes`: a source that is settled by each of its ends finishes;
* `CollapseStage.exists_calls_next`, `LevelStage.exists_calls_next`: what a filter does to the
  source below it is to call it, so `Buffered.holds_inner` carries over what calls preserve;
* `Layers.Sturdy`: every layer of a stack over a scanner is lasting; `Sturdy.call` is the step and
  `holds_calls` the run;
* `Scanning`: all stacks over a scanner, with their history;
* `absorbing`: failures and ends of input are final.
-/

import Offside.Proofs.Endings
import Offside.Proofs.Tokenizing

namespace Offside

open Text TokenSource

/-! ### Tokens one by one -/

namespace Tokens

variable {σ : Type} [TokenSource σ]

/-- What `next` gives if it is asked several times, and what it leads to. -/
def take (tokens : Tokens σ) : Nat → List (Option (Except Failure Token)) × Tokens σ
  | 0 => ([], tokens)
  | count + 1 => (tokens.next.1 :: (tokens.next.2.take count).1, (tokens.next.2.take count).2)

theorem take_of_done (s : σ) (count : Nat) :
    take ⟨s, true⟩ count = (List.replicate count none, ⟨s, true⟩) := by
  induction count with
  | zero => rfl
  | succ count ih =>
    have stays : next (⟨s, true⟩ : Tokens σ) = (none, ⟨s, true⟩) := rfl
    rw [take, stays, ih]
    rfl

/-- **One by one, the results up to the first end are handed out, and nothing after them.** -/
theorem take_of_terminated {s : σ} {count : Nat}
    (terminated : Answer.Terminated (reserved s).eof (answers s count)) (more : Nat) :
    (tokens s).take (count + more) =
      ((results s count).map some ++ List.replicate more none, ⟨after s count, true⟩) := by
  induction count generalizing s with
  | zero => cases terminated
  | succ count ih =>
    rw [answers] at terminated
    rw [Nat.succ_add, take]
    rcases Answer.terminated_cons_iff.mp terminated with ⟨isEnd, none⟩ | ⟨inside, rest⟩
    · obtain rfl := eq_zero_of_answers_eq_nil none
      rw [next_of_fresh.1 isEnd, take_of_done, Nat.zero_add]
      rfl
    · rw [← reserved_pop s] at rest
      rw [next_of_fresh.2 inside, ih rest]
      rfl

end Tokens

namespace TokenSource

variable {σ : Type} [TokenSource σ]

/-- A source that comes to an end for good. -/
structure Finishes (s : σ) (count : Nat) (final : Except Failure Token) : Prop where
  /-- The last of some pops, and no other, returns the end of input or fails. -/
  terminated : Answer.Terminated (reserved s).eof (answers s count)
  last : (results s count).getLast? = some final
  /-- What is drained is what these pops return. -/
  drains : drain s = (results s count, after s count)
  /-- So is what is handed out one by one, however often one asks. -/
  tokens : ∀ more, (TokenSource.tokens s).take (count + more) =
    ((results s count).map some ++ List.replicate more none, ⟨after s count, true⟩)
  /-- The source that is left answers all further calls like the last pop. -/
  settled : Settled (after s count) final

/-- A source comes to an end for good if every end settles it. -/
theorem exists_finishes {s : σ}
    (settles : ∀ count, (answer (after s count)).IsEnd (reserved s).eof →
      Settled (pop (after s count)).2 (pop (after s count)).1) :
    ∃ count final, Finishes s count final := by
  obtain ⟨count, terminated⟩ := exists_terminated s
  cases count with
  | zero => cases terminated
  | succ count =>
    have ends := terminated
    rw [answers_add] at ends
    have settled := settles count ends.isEnd_of_concat
    refine ⟨count + 1, (pop (after s count)).1, terminated, ?_, drain_of_terminated terminated,
      Tokens.take_of_terminated terminated, ?_⟩
    · rw [results, answers_add, List.map_append]
      exact List.getLast?_concat
    · rw [after_add]
      exact settled

/-! ### Calls of the source below a filter -/

/-- What one call preserves, any number of calls preserve. -/
theorem holds_calls {holds : σ → Prop} (step : ∀ s next, holds s → holds (call s next).2) {s : σ}
    (start : holds s) (list : List Call) : holds (calls s list).2 := by
  induction list generalizing s with
  | nil => exact start
  | cons next rest ih => exact ih (step s next start)

theorem calls_pops (s : σ) (count : Nat) :
    (calls s (List.replicate count .pop)).2 = after s count := by
  induction count generalizing s with
  | zero => rfl
  | succ count ih => exact ih (pop s).2

end TokenSource

theorem CollapseStage.Runs.exists_calls {σ : Type} [TokenSource σ] {inner : σ} {last : Option Token}
    {found : Found σ} (runs : Runs inner last found) : ∃ list, found.2 = (calls inner list).2 := by
  induction runs with
  | failure => exact ⟨[.peek], rfl⟩
  | newline popped _ _ ih =>
    obtain ⟨list, same⟩ := ih
    refine ⟨.pop :: list, ?_⟩
    rw [same, calls, call, popped]
  | other => exact ⟨[.peek], rfl⟩

theorem CollapseStage.exists_calls_next {σ : Type} [TokenSource σ] (stage : CollapseStage σ) :
    ∃ list, stage.next.2.inner = (calls stage.inner list).2 := by
  rcases inner_next stage with same | ⟨found, runs, same | same⟩ <;> rw [same]
  · exact ⟨[], rfl⟩
  · exact runs.exists_calls
  · obtain ⟨list, taken⟩ := runs.exists_calls
    refine ⟨list ++ [.pop], ?_⟩
    rw [calls_append, taken]
    rfl

theorem LevelStage.exists_calls_next {σ : Type} [TokenSource σ] (stage : LevelStage σ) :
    ∃ list, stage.next.2.inner = (calls stage.inner list).2 := by
  rw [next]
  split
  · exact ⟨[], rfl⟩
  · refine ⟨[.pop], ?_⟩
    show _ = (pop stage.inner).2
    split <;> rename_i popped <;> rw [popped]
    exact inner_check _ _

/-- A call of a filter whose stage only calls the source below it preserves whatever is preserved by
the calls of that source. -/
theorem Buffered.holds_inner {ζ σ : Type} [TokenStage ζ] [TokenSource σ] (inner : ζ → σ)
    (pulls : ∀ stage, ∃ list, inner (TokenStage.next stage).2 = (calls (inner stage) list).2)
    {holds : σ → Prop} (step : ∀ s next, holds s → holds (call s next).2) {source : Buffered ζ}
    (below : holds (inner source.stage)) (next : Call) :
    holds (inner (call source next).2.stage) := by
  rcases stage_call source next with same | produced
  · rw [same]
    exact below
  · obtain ⟨list, same⟩ := pulls source.stage
    rw [produced, same]
    exact holds_calls step below list

/-! ### Failures -/

/-- A source that fails once and for all: behind a call that fails, every call returns the same
failure and leaves the source as it is, whatever is observed of it. -/
def Sticky {σ : Type} [TokenSource σ] (s : σ) : Prop :=
  ∀ next failure, (call s next).1 = .error failure → ∀ consumer,
    calls (call s next).2 consumer =
      (consumer.map fun later => (later, .error failure), (call s next).2)

theorem Buffered.sticky {ζ : Type} [TokenStage ζ] (source : Buffered ζ) : Sticky source :=
  fun _ _ => calls_of_call_error

section Inl

variable {σ τ : Type} [TokenSource σ] [TokenSource τ] {s : σ}

theorem call_inl (s : σ) (next : Call) :
    call (Sum.inl s : σ ⊕ τ) next = mapSource Sum.inl (call s next) := by
  cases next <;> rfl

theorem calls_inl (s : σ) (list : List Call) :
    calls (Sum.inl s : σ ⊕ τ) list = ((calls s list).1, Sum.inl (calls s list).2) := by
  induction list generalizing s with
  | nil => rfl
  | cons next rest ih =>
    rw [calls, call_inl, mapSource, ih]
    rfl

theorem Sticky.inl (sticky : Sticky s) : Sticky (Sum.inl s : σ ⊕ τ) := by
  intro next failure failed consumer
  rw [call_inl] at failed ⊢
  show calls (Sum.inl (call s next).2) consumer = (_, Sum.inl (call s next).2)
  rw [calls_inl, sticky next failure failed]

theorem Lasting.inl (lasting : Lasting s) : Lasting (Sum.inl s : σ ⊕ τ) := by
  intro count
  rw [answers_inl]
  exact lasting count

end Inl

/-! ### Stacks over a scanner -/

namespace Layers

/-- The stacks over a scanner all of whose layers are lasting. -/
def Sturdy : {shape : List FilterKind} → Layers shape → Prop
  | [], .inl scanner => Lasting scanner
  | [], .inr _ => False
  | .collapse :: _, layers => Lasting layers ∧ Sturdy layers.stage.inner
  | .levels :: _, layers => Lasting layers ∧ Sturdy layers.stage.inner

theorem Sturdy.lasting : {shape : List FilterKind} → {layers : Layers shape} → Sturdy layers →
    Lasting layers
  | [], .inl _, lasting => lasting.inl
  | [], .inr _, absent => absent.elim
  | .collapse :: _, _, sturdy => sturdy.1
  | .levels :: _, _, sturdy => sturdy.1

theorem Sturdy.sticky : {shape : List FilterKind} → {layers : Layers shape} → Sturdy layers →
    Sticky layers
  | [], .inl scanner, _ => Sticky.inl (Buffered.sticky scanner)
  | [], .inr _, absent => absent.elim
  | .collapse :: _, layers, _ => Buffered.sticky layers
  | .levels :: _, layers, _ => Buffered.sticky layers

/-- A call of a stack makes calls of the layer below, which stays sturdy by them. -/
theorem Sturdy.call : {shape : List FilterKind} → {layers : Layers shape} → Sturdy layers →
    (next : Call) → Sturdy (TokenSource.call layers next).2
  | [], .inl scanner, lasting, next => by
    rw [show TokenSource.call (σ := Layers []) (.inl scanner) next = _ from call_inl scanner next]
    exact Lasting.call lasting next
  | [], .inr _, absent, _ => absent.elim
  | .collapse :: _, _, ⟨lasting, below⟩, next =>
    ⟨lasting.call next, Buffered.holds_inner CollapseStage.inner CollapseStage.exists_calls_next
      (fun _ next sturdy => sturdy.call next) below next⟩
  | .levels :: _, _, ⟨lasting, below⟩, next =>
    ⟨lasting.call next, Buffered.holds_inner LevelStage.inner LevelStage.exists_calls_next
      (fun _ next sturdy => sturdy.call next) below next⟩

/-- **Whatever ends a sturdy stack settles it.** -/
theorem Sturdy.settled {shape : List FilterKind} {layers : Layers shape} (sturdy : Sturdy layers)
    (isEnd : (answer layers).IsEnd (TokenSource.reserved layers).eof) :
    Settled (TokenSource.pop layers).2 (TokenSource.pop layers).1 := by
  cases popped : (TokenSource.pop layers).1 with
  | error failure =>
    refine settled_of_calls fun consumer => ?_
    exact congrArg Prod.fst (sturdy.sticky .pop failure popped consumer)
  | ok token =>
    have isEof : token.kind = (TokenSource.reserved layers).eof := by
      rw [answer, popped] at isEnd
      exact isEnd
    refine sturdy.lasting.pop.settled (sturdy.lasting.repeats popped isEof) ?_
    rw [TokenSource.reserved_pop]
    exact isEof

end Layers

/-- The stacks that come about over a scanner: filters are put around it and taken off again, and
in between it is called in any way. -/
inductive Scanning (lexicon : Lexicon) : Stack → Prop
  | scanner (lines : List Line) : Scanning lexicon (.ofScanner (.ofLines lexicon lines))
  | collapse {stack : Stack} (trim : Bool) : Scanning lexicon stack →
    Scanning lexicon (stack.collapse trim)
  | countLevels {stack : Stack} (unit : List Char) : Scanning lexicon stack →
    Scanning lexicon (stack.countLevels unit)
  | peek {stack : Stack} : Scanning lexicon stack → Scanning lexicon stack.peek.2
  | pop {stack : Stack} : Scanning lexicon stack → Scanning lexicon stack.pop.2
  | unwrap {stack inner : Stack} : Scanning lexicon stack → stack.unwrap = some inner →
    Scanning lexicon inner

theorem Scanning.sturdy_and_reserved {lexicon : Lexicon} (sound : lexicon.Sound) {stack : Stack}
    (scanning : Scanning lexicon stack) :
    stack.layers.Sturdy ∧ stack.reserved = lexicon.reserved := by
  have distinct := sound.distinct
  induction scanning with
  | scanner lines => exact ⟨lasting_scanner sound lines, rfl⟩
  | @collapse stack trim _ ih =>
    obtain ⟨sturdy, kinds⟩ := ih
    rw [← kinds] at distinct
    exact ⟨⟨sturdy.lasting.collapsed distinct.newline_ne_eof trim, sturdy⟩, kinds⟩
  | @countLevels stack unit _ ih =>
    obtain ⟨sturdy, kinds⟩ := ih
    rw [← kinds] at distinct
    exact ⟨⟨sturdy.lasting.leveled distinct.eof_ne_indent distinct.eof_ne_deindent unit, sturdy⟩,
      kinds⟩
  | @peek stack _ ih => exact ⟨ih.1.call .peek, (reserved_peek stack.layers).trans ih.2⟩
  | @pop stack _ ih => exact ⟨ih.1.call .pop, (reserved_pop stack.layers).trans ih.2⟩
  | @unwrap stack inner _ unwrapped ih =>
    obtain ⟨shape, layers⟩ := stack
    obtain ⟨sturdy, kinds⟩ := ih
    cases shape with
    | nil => cases unwrapped
    | cons filter shape =>
      cases filter with
      | collapse =>
        cases unwrapped
        exact ⟨sturdy.2, kinds⟩
      | levels =>
        cases unwrapped
        exact ⟨sturdy.2, kinds⟩

theorem Scanning.sturdy {lexicon : Lexicon} (sound : lexicon.Sound) {stack : Stack}
    (scanning : Scanning lexicon stack) : stack.layers.Sturdy :=
  (scanning.sturdy_and_reserved sound).1

/-- What ends a stack is final. -/
structure Stack.EndsForGood (stack : Stack) : Prop where
  /-- Behind an end of input that is popped, every call returns the same token. -/
  eof : ∀ token, stack.pop.1 = .ok token → token.kind = stack.reserved.eof →
    Settled stack.pop.2.layers (.ok token)
  finishes : ∃ count final, Finishes stack.layers count final

/-- **Failures and ends of input are final.** A scanner, and a filter around any source, fails once
and for all; a stack over a scanner ends for good in either way. -/
theorem absorbing :
    (∀ scanner : Scanner, Sticky scanner) ∧
      (∀ {σ : Type} [TokenSource σ],
        (∀ source : Collapsed σ, Sticky source) ∧ ∀ source : Leveled σ, Sticky source) ∧
      ∀ {draft : Draft} {lexicon : Lexicon}, draft.compile = .ok lexicon →
        lexicon.reserved.Distinct → ∀ {stack : Stack}, Scanning lexicon stack →
        stack.EndsForGood := by
  refine ⟨Buffered.sticky, ⟨Buffered.sticky, Buffered.sticky⟩, ?_⟩
  intro draft lexicon compiled distinct stack scanning
  have sturdy := scanning.sturdy (Lexicon.sound_of_compile compiled distinct)
  constructor
  · intro token popped isEof
    have same : (pop stack.layers).1 = .ok token := popped
    refine same ▸ sturdy.settled ?_
    rw [answer, same]
    exact isEof
  · refine exists_finishes fun count isEnd => ?_
    have onward : (after stack.layers count).Sturdy := by
      rw [← calls_pops]
      exact holds_calls (fun _ next sturdy => sturdy.call next) sturdy _
    refine onward.settled ?_
    rw [reserved_after]
    exact isEnd

/-- A list that fails once and goes on. -/
def brokenReplay : Replay :=
  ⟨[.ok ⟨"NEWLINE", [], 1, 1⟩, .error .malformedText, .ok ⟨"WORD", ['a'], 2, 1⟩], 0⟩

/-- A stack over an empty document. -/
def emptyStack : Stack := .ofScanner (.ofLines Pipeline.letterLexicon [])

/-- A stack whose outer filter was put around it when the inner one had been peeked at. -/
def letterStack : Stack :=
  let scanner := Stack.ofScanner (.ofText Pipeline.letterLexicon "a\n\n  a".toList)
  ((scanner.collapse true).peek.2.countLevels "  ".toList).pop.2

/-- A filter around the list fails at a peek, an empty document ends with its first token, and the
hypotheses hold for compiled rules and a stack over them. -/
theorem absorbing_letterStack :
    (call (Collapsed.of brokenReplay true) .peek).1 = .error .malformedText ∧
      (∀ consumer, calls (call (Collapsed.of brokenReplay true) .peek).2 consumer =
        (consumer.map fun later => (later, .error .malformedText),
          (call (Collapsed.of brokenReplay true) .peek).2)) ∧
      Pipeline.letterDraft.compile = .ok Pipeline.letterLexicon ∧
      Pipeline.letterLexicon.reserved.Distinct ∧
      Settled emptyStack.pop.2.layers (.ok ⟨Pipeline.letterLexicon.reserved.eof, ['$'], 1, 1⟩) ∧
      Scanning Pipeline.letterLexicon letterStack ∧ letterStack.EndsForGood := by
  have failed : (call (Collapsed.of brokenReplay true) .peek).1 = .error .malformedText := by cbv
  have compiled := Pipeline.compile_letterDraft
  have distinct := Pipeline.distinct_letterPipeline
  have scanning : Scanning Pipeline.letterLexicon letterStack :=
    ((((Scanning.scanner _).collapse true).peek).countLevels _).pop
  refine ⟨failed, absorbing.2.1.1 _ .peek _ failed, compiled, distinct, ?_, scanning,
    absorbing.2.2 compiled distinct scanning⟩
  exact (absorbing.2.2 compiled distinct (.scanner [])).eof _ rfl rfl

-- The list itself forgets its failure; the filter never asks for the word behind it.
example :
    let broken : Replay := ⟨[.error .malformedText, .ok ⟨"WORD", ['a'], 1, 1⟩], 0⟩
    (calls (Collapsed.of broken true) [.peek, .pop]).1 =
        [(.peek, .error .malformedText), (.pop, .error .malformedText)] ∧
      (pop (pop broken).2).1 = .ok ⟨"WORD", ['a'], 1, 1⟩ := by
  cbv

end Offside
