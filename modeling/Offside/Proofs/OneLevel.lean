/-
**Indents and deindents go one level at a time.**

A consumer of a pipeline that counts levels peeks and pops as it likes. If it counts one up for
every indent and one down for every deindent that it pops, then its counter is the number of open
levels: every indent and every deindent carries the unit as often as the counter says afterwards.
This holds although the filter itself lets indents through to any level up to the next one, and
deindents to any level: the depth of the scanner and the level of the filter keep in step.

* `Balanced`: the invariant of the filter. The depth below is as wide as the level says, and the
  deindents that wait lead down to the level one by one;
* `balanced_next`: producing a token keeps the filter balanced and moves the counter by one or not;
* `walk_calls`: a whole run of calls, by induction on the calls;
* `oneLevel`: the pipeline.
-/

import Offside.Pipeline
import Offside.Proofs.Calls
import Offside.Proofs.Depth
import Offside.Proofs.Leveling
import Offside.Proofs.Tokenizing

namespace Offside

open Text TokenSource

/-! ### Counters -/

/-- The tokens that are popped by calls. -/
def poppedTokens (answers : List (Call × Except Failure Token)) : List Token :=
  answers.filterMap fun
    | (.pop, .ok token) => some token
    | _ => none

/-- What a token adds to the counter: one for an indent, minus one for a deindent. -/
def levelChange (kinds : ReservedKinds) (token : Token) : Int :=
  if token.kind = kinds.indent then 1 else if token.kind = kinds.deindent then -1 else 0

/-- The counter after some tokens. -/
def balance (kinds : ReservedKinds) : List Token → Int
  | [] => 0
  | token :: rest => levelChange kinds token + balance kinds rest

/-- A token moves a counter by at most one, and carries the unit as often as the counter says after
it. -/
def Moves (kinds : ReservedKinds) (unit : List Char) (token : Token) (before after : Nat) : Prop :=
  if token.kind = kinds.indent then after = before + 1 ∧ token.text = repeatUnit unit after
  else if token.kind = kinds.deindent then before = after + 1 ∧ token.text = repeatUnit unit after
  else after = before

/-- Tokens that move a counter one after the other. -/
inductive Walk (kinds : ReservedKinds) (unit : List Char) : Nat → List Token → Nat → Prop
  | nil (count : Nat) : Walk kinds unit count [] count
  | cons {token : Token} {tokens : List Token} {first second last : Nat} :
    Moves kinds unit token first second → Walk kinds unit second tokens last →
    Walk kinds unit first (token :: tokens) last

section Counters

variable {kinds : ReservedKinds} {unit : List Char} {token : Token} {before after : Nat}

theorem Moves.levelChange (moves : Moves kinds unit token before after) :
    (after : Int) = before + levelChange kinds token := by
  unfold Moves at moves
  unfold Offside.levelChange
  split at moves
  · rename_i isIndent
    rw [if_pos isIndent]
    omega
  · rename_i noIndent
    rw [if_neg noIndent]
    split at moves
    · rename_i isDeindent
      rw [if_pos isDeindent]
      omega
    · rename_i noDeindent
      rw [if_neg noDeindent]
      omega

theorem Moves.text (moves : Moves kinds unit token before after)
    (indentation : token.kind = kinds.indent ∨ token.kind = kinds.deindent) :
    token.text = repeatUnit unit after := by
  unfold Moves at moves
  split at moves
  · exact moves.2
  · rename_i noIndent
    rw [if_pos (indentation.resolve_left noIndent)] at moves
    exact moves.2

/-- A deindent by one level. -/
theorem moves_deindent (distinct : kinds.Distinct) (isDeindent : token.kind = kinds.deindent)
    (text : token.text = repeatUnit unit after) : Moves kinds unit token (after + 1) after := by
  unfold Moves
  rw [if_neg (isDeindent ▸ Ne.symm distinct.indent_ne_deindent), if_pos isDeindent]
  exact ⟨rfl, text⟩

/-- The counter is what the walk leads to. -/
theorem Walk.balance {tokens : List Token} (walk : Walk kinds unit before tokens after) :
    (after : Int) = before + balance kinds tokens := by
  induction walk with
  | nil count => exact (Int.add_zero _).symm
  | cons moves _ ih =>
    have first := moves.levelChange
    rw [Offside.balance]
    omega

theorem Walk.split {first second : List Token}
    (walk : Walk kinds unit before (first ++ second) after) :
    ∃ between, Walk kinds unit before first between ∧ Walk kinds unit between second after := by
  induction first generalizing before with
  | nil => exact ⟨before, .nil before, walk⟩
  | cons token first ih =>
    cases walk with
    | cons moves rest =>
      obtain ⟨between, front, back⟩ := ih rest
      exact ⟨between, .cons moves front, back⟩

/-- A walk that starts at zero never leads below, whatever part of it was done. -/
theorem Walk.balance_nonneg {tokens part : List Token} (walk : Walk kinds unit 0 tokens after)
    (start : part <+: tokens) : 0 ≤ Offside.balance kinds part := by
  obtain ⟨rest, rfl⟩ := start
  obtain ⟨between, front, _⟩ := walk.split
  have counted := front.balance
  omega

/-- Every indent and deindent of a walk that starts at zero carries the unit as often as the counter
says after it. -/
theorem Walk.text {tokens part : List Token} (walk : Walk kinds unit 0 tokens after)
    (start : part ++ [token] <+: tokens)
    (indentation : token.kind = kinds.indent ∨ token.kind = kinds.deindent) :
    ∃ level : Nat, Offside.balance kinds (part ++ [token]) = level ∧
      token.text = repeatUnit unit level := by
  obtain ⟨rest, rfl⟩ := start
  obtain ⟨level, front, _⟩ := walk.split
  have counted := front.balance
  obtain ⟨between, _, last⟩ := front.split
  cases last with
  | cons moves done =>
    cases done
    exact ⟨level, by omega, moves.text indentation⟩

end Counters

/-! ### The filter -/

/-- Deindents that lead down to a level one by one. -/
inductive Descends (kinds : ReservedKinds) (unit : List Char) (level : Nat) : List Token → Prop
  | nil : Descends kinds unit level []
  | cons {token : Token} {rest : List Token} :
    token.kind = kinds.deindent → token.text = repeatUnit unit (level + rest.length) →
    Descends kinds unit level rest → Descends kinds unit level (token :: rest)

section Filter

variable {kinds : ReservedKinds} {unit : List Char}

/-- The deindents that become of one lead down from its level. -/
theorem descends_deindentSteps {origin : Token} {fromLevel toLevel : Nat}
    (isDeindent : origin.kind = kinds.deindent) (text : origin.text = repeatUnit unit toLevel)
    (lower : toLevel < fromLevel) :
    Descends kinds unit toLevel (deindentSteps kinds unit origin fromLevel toLevel) ∧
      (deindentSteps kinds unit origin fromLevel toLevel).length = fromLevel - toLevel := by
  unfold deindentSteps
  split
  · refine ⟨?_, by rw [List.length_map, List.length_reverse, List.length_range']⟩
    generalize fromLevel - toLevel = count
    induction count with
    | zero => exact .nil
    | succ count ih =>
      rw [List.range'_concat, List.reverse_append, List.reverse_singleton, List.singleton_append,
        List.map_cons, Nat.one_mul]
      refine .cons rfl ?_ ih
      rw [List.length_map, List.length_reverse, List.length_range']
  · exact ⟨.cons isDeindent text .nil, by rw [List.length_singleton]; omega⟩

namespace Leveled

/-- Checking a token that shifts the depth keeps depth and level in step. The tokens that are made
of it lead from the old level to the new one. -/
theorem moves_of_rewriter (distinct : kinds.Distinct) (nonempty : unit ≠ [])
    {level next depth : Nat} {view : View} {token first : Token} {rest : List Token}
    (shifts : Shifts kinds token (level * unit.length) depth)
    (made : rewriter kinds unit level view token = .ok (first :: rest, next)) :
    depth = next * unit.length ∧ Descends kinds unit next rest ∧
      Moves kinds unit first level (next + rest.length) := by
  have width : ∀ {count : Nat}, token.text = repeatUnit unit count →
      token.text.length = count * unit.length := by
    intro count text
    rw [text, length_repeatUnit]
  have accepted := accepted_of_rewriter made
  generalize handed : first :: rest = tokens at accepted
  unfold Shifts at shifts
  cases accepted with
  | indent isIndent counted shallow =>
    cases handed
    rw [if_pos isIndent] at shifts
    have text := (repetitions?_eq_some_iff nonempty).mp counted
    -- The filter would accept any level up to the next one; that it is the next is due to the
    -- scanner.
    have deeper : level < next := by
      rw [← shifts.2, width text] at shifts
      exact Nat.lt_of_mul_lt_mul_right shifts.1
    refine ⟨shifts.2.symm.trans (width text), .nil, ?_⟩
    unfold Moves
    rw [if_pos isIndent]
    exact ⟨Nat.le_antisymm shallow deeper, text⟩
  | deindent noIndent isDeindent counted =>
    rw [if_neg noIndent, if_pos isDeindent] at shifts
    have text := (repetitions?_eq_some_iff nonempty).mp counted
    have lower : next < level := by
      rw [← shifts.2, width text] at shifts
      exact Nat.lt_of_mul_lt_mul_right shifts.1
    obtain ⟨descends, length⟩ := descends_deindentSteps isDeindent text lower
    rw [← handed] at descends length
    rw [List.length_cons] at length
    cases descends with
    | cons kind label descends =>
      refine ⟨shifts.2.symm.trans (width text), descends, ?_⟩
      have down : level = next + rest.length + 1 := by omega
      rw [down]
      exact moves_deindent distinct kind label
  | plain plain =>
    cases handed
    rw [if_neg plain.1, if_neg plain.2] at shifts
    refine ⟨shifts, .nil, ?_⟩
    unfold Moves
    rw [if_neg plain.1, if_neg plain.2]
    rfl

end Leveled

variable {σ : Type} [TokenSource σ] {depth : σ → Nat} {Calm : σ → Prop}

/-- The depth below is as wide as the level says, and the deindents that wait lead from the counter
down to the level. -/
structure Balanced (kinds : ReservedKinds) (unit : List Char) (depth : σ → Nat) (Calm : σ → Prop)
    (stage : LevelStage σ) (count : Nat) : Prop where
  known : stage.unit = unit
  calm : Calm stage.inner
  width : depth stage.inner = stage.level * unit.length
  descends : Descends kinds unit stage.level stage.pending
  count : count = stage.level + stage.pending.length

/-- **Producing a token keeps the filter balanced.** -/
theorem balanced_next (measured : Measured kinds depth Calm) (distinct : kinds.Distinct)
    (nonempty : unit ≠ []) {stage later : LevelStage σ} {token : Token} {count : Nat}
    (balanced : Balanced kinds unit depth Calm stage count)
    (produced : LevelStage.next stage = (.ok token, later)) :
    ∃ after, Moves kinds unit token count after ∧ Balanced kinds unit depth Calm later after := by
  obtain ⟨inner, known, level, pending⟩ := stage
  obtain ⟨rfl, calm, width, descends, rfl⟩ := balanced
  simp only at calm width descends ⊢
  cases descends with
  | cons isDeindent text rest =>
    cases produced
    exact ⟨_, moves_deindent distinct isDeindent text, rfl, calm, width, rest, rfl⟩
  | nil =>
    rw [LevelStage.next] at produced
    simp only at produced
    split at produced
    · cases produced
    · rename_i popped
      rename_i pulled next
      obtain ⟨calmNext, shifts⟩ := measured.pop calm popped
      have names := measured.reserved calmNext
      rw [width] at shifts
      cases made : Leveled.rewriter (reserved next) known level (view next) pulled with
      | error failure =>
        rw [LevelStage.check_of_error ⟨next, known, level, []⟩ made] at produced
        cases produced
      | ok handed =>
        obtain ⟨tokens, reached⟩ := handed
        obtain ⟨first, rest, rfl⟩ := List.exists_cons_of_ne_nil (Leveled.rewriter_ne_nil made)
        rw [LevelStage.check_of_ok ⟨next, known, level, []⟩ rfl made] at produced
        cases produced
        rw [names] at made
        obtain ⟨depths, descends, moves⟩ :=
          Leveled.moves_of_rewriter distinct nonempty shifts made
        exact ⟨_, moves, rfl, calmNext, depths, descends, rfl⟩

/-! ### Runs of calls -/

/-- How the filter stands to the counter as long as nothing has failed: it is balanced, and if it
was peeked at it is balanced but for the token that it holds back. -/
inductive Standing (kinds : ReservedKinds) (unit : List Char) (depth : σ → Nat) (Calm : σ → Prop) :
    Leveled σ → Nat → Prop
  | ready {stage : LevelStage σ} {count : Nat} :
    Balanced kinds unit depth Calm stage count →
    Standing kinds unit depth Calm ⟨stage, none, none⟩ count
  | shown {stage later : LevelStage σ} {token : Token} {count : Nat} :
    Balanced kinds unit depth Calm stage count → LevelStage.next stage = (.ok token, later) →
    Standing kinds unit depth Calm ⟨later, some token, none⟩ count

/-- A filter that has failed. -/
def Broken (source : Leveled σ) : Prop :=
  ∃ stage failure, source = ⟨stage, none, some failure⟩

/-- A filter that has failed returns nothing but its failure. -/
theorem poppedTokens_of_broken {source : Leveled σ} (broken : Broken source) (list : List Call) :
    poppedTokens (calls source list).1 = [] := by
  obtain ⟨stage, failure, rfl⟩ := broken
  induction list with
  | nil => rfl
  | cons next rest ih =>
    cases next with
    | peek => exact ih
    | pop => exact ih

/-- Popping moves the counter, or breaks the filter. -/
theorem standing_pop (measured : Measured kinds depth Calm) (distinct : kinds.Distinct)
    (nonempty : unit ≠ []) {source : Leveled σ} {count : Nat}
    (standing : Standing kinds unit depth Calm source count) :
    (∃ failure later, pop source = (.error failure, later) ∧ Broken later) ∨
      ∃ token later after, pop source = (.ok token, later) ∧ Moves kinds unit token count after ∧
        Standing kinds unit depth Calm later after := by
  cases standing with
  | @ready stage _ balanced =>
    rcases produced : TokenStage.next stage with ⟨result, later⟩
    cases result with
    | error failure =>
      exact .inl ⟨failure, _, Rewriter.pop_failed produced, later, failure, rfl⟩
    | ok token =>
      obtain ⟨after, moves, next⟩ := balanced_next measured distinct nonempty balanced produced
      exact .inr ⟨token, _, after, Rewriter.pop_produced produced, moves, .ready next⟩
  | @shown stage later token _ balanced produced =>
    obtain ⟨after, moves, next⟩ := balanced_next measured distinct nonempty balanced produced
    exact .inr ⟨token, _, after, rfl, moves, .ready next⟩

/-- Peeking leaves the counter as it is, or breaks the filter. -/
theorem standing_peek {source : Leveled σ} {count : Nat}
    (standing : Standing kinds unit depth Calm source count) :
    (∃ failure later, peek source = (.error failure, later) ∧ Broken later) ∨
      ∃ token later, peek source = (.ok token, later) ∧
        Standing kinds unit depth Calm later count := by
  cases standing with
  | @ready stage _ balanced =>
    rcases produced : TokenStage.next stage with ⟨result, later⟩
    cases result with
    | error failure =>
      have failed : peek (⟨stage, none, none⟩ : Leveled σ) =
          (.error failure, ⟨later, none, some failure⟩) := by
        show Buffered.peek _ = _
        rw [Buffered.peek, Buffered.pop, produced]
      exact .inl ⟨failure, _, failed, later, failure, rfl⟩
    | ok token =>
      have shows : peek (⟨stage, none, none⟩ : Leveled σ) =
          (.ok token, ⟨later, some token, none⟩) := by
        show Buffered.peek _ = _
        rw [Buffered.peek, Buffered.pop, produced]
      exact .inr ⟨token, _, shows, .shown balanced produced⟩
  | @shown stage later token _ balanced produced =>
    exact .inr ⟨token, _, rfl, .shown balanced produced⟩

/-- **A run of calls walks the counter.** As long as no call fails the filter stands at the
counter. -/
theorem walk_calls (measured : Measured kinds depth Calm) (distinct : kinds.Distinct)
    (nonempty : unit ≠ []) {source : Leveled σ} {count : Nat}
    (standing : Standing kinds unit depth Calm source count) (list : List Call) :
    ∃ last, Walk kinds unit count (poppedTokens (calls source list).1) last ∧
      ((∀ answer ∈ (calls source list).1, ∃ token, answer.2 = .ok token) →
        Standing kinds unit depth Calm (calls source list).2 last) := by
  induction list generalizing source count with
  | nil => exact ⟨count, .nil count, fun _ => standing⟩
  | cons next rest ih =>
    have failing : ∀ {failure : Failure} {later : Leveled σ},
        call source next = (.error failure, later) → Broken later →
        ∃ last, Walk kinds unit count (poppedTokens (calls source (next :: rest)).1) last ∧
          ((∀ answer ∈ (calls source (next :: rest)).1, ∃ token, answer.2 = .ok token) →
            Standing kinds unit depth Calm (calls source (next :: rest)).2 last) := by
      intro failure later called broken
      have nothing : poppedTokens (calls source (next :: rest)).1 = [] := by
        rw [calls, called]
        cases next with
        | peek => exact poppedTokens_of_broken broken rest
        | pop => exact poppedTokens_of_broken broken rest
      refine ⟨count, nothing ▸ .nil count, fun fine => ?_⟩
      obtain ⟨token, absent⟩ := fine (next, (call source next).1) List.mem_cons_self
      rw [called] at absent
      cases absent
    cases next with
    | peek =>
      rcases standing_peek standing with
        ⟨failure, later, called, broken⟩ | ⟨token, later, called, goesOn⟩
      · exact failing called broken
      · obtain ⟨last, walk, stands⟩ := ih goesOn
        have called : call source .peek = (.ok token, later) := called
        rw [calls, called]
        refine ⟨last, walk, fun fine => stands fun answer member => ?_⟩
        exact fine answer (List.mem_cons_of_mem _ member)
    | pop =>
      rcases standing_pop measured distinct nonempty standing with
        ⟨failure, later, called, broken⟩ | ⟨token, later, after, called, moves, goesOn⟩
      · exact failing called broken
      · obtain ⟨last, walk, stands⟩ := ih goesOn
        have called : call source .pop = (.ok token, later) := called
        rw [calls, called]
        refine ⟨last, .cons moves walk, fun fine => stands fun answer member => ?_⟩
        exact fine answer (List.mem_cons_of_mem _ member)

end Filter

/-! ### Pipelines -/

namespace Layers

/-- What the outermost layer of a stack holds back after a peek. -/
def lookahead : {shape : List FilterKind} → Layers shape → Option Token
  | [], .inl scanner => scanner.lookahead
  | [], .inr _ => none
  | .collapse :: _, layers => Buffered.lookahead layers
  | .levels :: _, layers => Buffered.lookahead layers

/-- The deindents that wait in the outermost layer of a stack. -/
def pending : {shape : List FilterKind} → Layers shape → List Token
  | [], _ => []
  | .collapse :: _, _ => []
  | .levels :: _, layers => layers.stage.pending

end Layers

/-- A stack that starts at depth zero and is measured by the depth of the scanner at its bottom. -/
def Anchored (kinds : ReservedKinds) (stack : Stack) : Prop :=
  ∃ (depth : Layers stack.shape → Nat) (Calm : Layers stack.shape → Prop),
    Measured kinds depth Calm ∧ Calm stack.layers ∧ depth stack.layers = 0 ∧
      ∀ layers, Calm layers → layers.depth? = some (depth layers)

theorem anchored_ofLines {lexicon : Lexicon} (sound : lexicon.Sound) (lines : List Line) :
    Anchored lexicon.reserved (.ofScanner (Scanner.ofLines lexicon lines)) := by
  have measured : @Measured Origin _ lexicon.reserved _ _ := (measured_scanner sound).inl
  refine ⟨_, _, measured, ⟨rfl, of_none⟩, rfl, ?_⟩
  rintro (scanner | replay) calm
  · rfl
  · exact calm.elim

theorem Anchored.collapse {kinds : ReservedKinds} (distinct : kinds.Distinct) {stack : Stack}
    (anchored : Anchored kinds stack) (trim : Bool) : Anchored kinds (stack.collapse trim) := by
  obtain ⟨depth, Calm, measured, calm, start, depths⟩ := anchored
  refine ⟨_, _, measured.collapsed distinct, ⟨calm, of_none⟩, start, ?_⟩
  intro layers calm
  exact depths _ calm.stage

/-- What a consumer of a stack can rely on that counts levels, whatever it calls. -/
structure OneLevel (kinds : ReservedKinds) (unit : List Char) {shape : List FilterKind}
    (layers : Layers shape) (consumer : List Call) : Prop where
  /-- The counter of the popped tokens never gets negative. -/
  nonneg : ∀ part, part <+: poppedTokens (calls layers consumer).1 → 0 ≤ balance kinds part
  /-- Every indent and deindent carries the unit as often as the counter says after it. -/
  text : ∀ part token, part ++ [token] <+: poppedTokens (calls layers consumer).1 →
    token.kind = kinds.indent ∨ token.kind = kinds.deindent →
    ∃ level : Nat, balance kinds (part ++ [token]) = level ∧ token.text = repeatUnit unit level
  /-- As long as nothing has failed and nothing is held back, the counter is the level of the
  filter, and the depth of the scanner is as wide as it says. -/
  level : (∀ answer ∈ (calls layers consumer).1, ∃ token, answer.2 = .ok token) →
    (calls layers consumer).2.lookahead = none → (calls layers consumer).2.pending = [] →
    ∃ level : Nat, balance kinds (poppedTokens (calls layers consumer).1) = level ∧
      (calls layers consumer).2.level? = some level ∧
      (calls layers consumer).2.depth? = some (level * unit.length)

/-- Counting levels over an anchored stack. -/
theorem Anchored.countLevels {kinds : ReservedKinds} (distinct : kinds.Distinct) {unit : List Char}
    (nonempty : unit ≠ []) {stack : Stack} (anchored : Anchored kinds stack)
    (consumer : List Call) : OneLevel kinds unit (stack.countLevels unit).layers consumer := by
  obtain ⟨depth, Calm, measured, calm, start, depths⟩ := anchored
  have balanced : Balanced kinds unit depth Calm { inner := stack.layers, unit := unit } 0 :=
    ⟨rfl, calm, start.trans (Nat.zero_mul _).symm, .nil, rfl⟩
  obtain ⟨last, walk, stands⟩ := walk_calls measured distinct nonempty (.ready balanced) consumer
  refine ⟨fun part => walk.balance_nonneg, fun part token => walk.text, ?_⟩
  intro fine empty idle
  have standing : Standing kinds unit depth Calm (calls (Leveled.of stack.layers unit) consumer).2
    last := stands fine
  have counted : (last : Int) =
      0 + balance kinds (poppedTokens (calls (Leveled.of stack.layers unit) consumer).1) :=
    walk.balance
  rw [Int.zero_add] at counted
  refine ⟨last, counted.symm, ?_⟩
  change (calls (Leveled.of stack.layers unit) consumer).2.lookahead = none at empty
  change (calls (Leveled.of stack.layers unit) consumer).2.stage.pending = [] at idle
  show some (calls (Leveled.of stack.layers unit) consumer).2.stage.level = some last ∧
    (calls (Leveled.of stack.layers unit) consumer).2.stage.inner.depth? = some (last * unit.length)
  generalize (calls (Leveled.of stack.layers unit) consumer).2 = source at standing empty idle ⊢
  cases standing with
  | ready balanced =>
    have reached := balanced.count
    rw [idle, List.length_nil, Nat.add_zero] at reached
    rw [depths _ balanced.calm, balanced.width, reached]
    exact ⟨rfl, rfl⟩
  | shown => cases empty

namespace Pipeline

/-- **Indents and deindents of a pipeline go one level at a time**, whatever its consumer calls. -/
theorem oneLevel {draft : Draft} {pipeline : Pipeline}
    (compiled : draft.compile = .ok pipeline.lexicon)
    (distinct : pipeline.lexicon.reserved.Distinct) (levels : pipeline.settings.levels = true)
    (lines : List Line) (consumer : List Call) :
    OneLevel pipeline.lexicon.reserved pipeline.settings.unit (pipeline.lex lines).layers
      consumer := by
  have sound := Lexicon.sound_of_compile compiled distinct
  have anchored := anchored_ofLines sound lines
  have nonempty := pipeline.unit_ne_nil levels
  unfold lex filters
  rw [if_pos levels]
  refine Anchored.countLevels distinct nonempty ?_ consumer
  split
  · exact anchored.collapse distinct _
  · exact anchored

/-- The hypotheses hold for a pipeline over one rule; the lines open two levels and close both at
once, and the consumer peeks while a deindent waits. -/
theorem oneLevel_letterPipeline :
    letterDraft.compile = .ok letterPipeline.lexicon ∧ letterPipeline.lexicon.reserved.Distinct ∧
      letterPipeline.settings.levels = true ∧
      OneLevel letterPipeline.lexicon.reserved letterPipeline.settings.unit
        (letterPipeline.lex [.text "a".toList, .text "  a".toList, .text [], .text "    a".toList,
          .text "a".toList]).layers
        [.pop, .peek, .pop, .pop, .pop, .pop, .pop, .peek, .pop, .pop] :=
  ⟨compile_letterDraft, distinct_letterPipeline, rfl,
    oneLevel compile_letterDraft distinct_letterPipeline rfl _ _⟩

end Pipeline

end Offside
