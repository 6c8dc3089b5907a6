/-
**Lookahead and memory for failures.**

A stage produces tokens one after the other. `Buffered` makes it a token source: it keeps a token
that was peeked at, and once the stage has failed it answers every call with that failure and
leaves the stage alone.
-/

import Offside.Source.Basic

namespace Offside

/-- Something that produces tokens, and is not asked again once it has failed. -/
class TokenStage (σ : Type) where
  reserved : σ → ReservedKinds
  /-- Produces the next token. -/
  next : σ → Pulled σ
  line : σ → List Char
  padding : σ → List Char
  reserved_next : ∀ stage, reserved (next stage).2 = reserved stage
  ends : WellFounded (Advances reserved next)

/-- A stage with a place for a token that was peeked at and one for its failure. -/
structure Buffered (σ : Type) where
  stage : σ
  lookahead : Option Token := none
  failure : Option Failure := none

namespace Buffered

variable {σ : Type} [TokenStage σ]

/-- Takes the next token: the one peeked at, the failure so far, or a new one. -/
def pop (source : Buffered σ) : Pulled (Buffered σ) :=
  match source.lookahead, source.failure with
  | some token, _ => (.ok token, { source with lookahead := none })
  | none, some failure => (.error failure, source)
  | none, none =>
    match TokenStage.next source.stage with
    | (.ok token, stage) => (.ok token, ⟨stage, none, none⟩)
    | (.error failure, stage) => (.error failure, ⟨stage, none, some failure⟩)

/-- Shows the next token, and keeps it. -/
def peek (source : Buffered σ) : Pulled (Buffered σ) :=
  match source.lookahead with
  | some token => (.ok token, source)
  | none =>
    match source.pop with
    | (.ok token, source) => (.ok token, { source with lookahead := some token })
    | (.error failure, source) => (.error failure, source)

theorem lookahead_pop (source : Buffered σ) : source.pop.2.lookahead = none := by
  obtain ⟨stage, lookahead, failure⟩ := source
  cases lookahead <;> cases failure <;> simp only [pop]
  split <;> rfl

theorem failure_of_pop_error {source later : Buffered σ} {failure : Failure}
    (failed : source.pop = (.error failure, later)) :
    later.lookahead = none ∧ later.failure = some failure := by
  obtain ⟨stage, lookahead, previous⟩ := source
  cases lookahead with
  | some token => simp [pop] at failed
  | none =>
    cases previous with
    | some previous =>
      simp only [pop, Prod.mk.injEq, Except.error.injEq] at failed
      obtain ⟨rfl, rfl⟩ := failed
      exact ⟨rfl, rfl⟩
    | none =>
      simp only [pop] at failed
      split at failed
      · cases failed
      · cases failed
        exact ⟨rfl, rfl⟩

theorem pop_of_failure {source : Buffered σ} {failure : Failure} (empty : source.lookahead = none)
    (failed : source.failure = some failure) : source.pop = (.error failure, source) := by
  rw [pop, empty, failed]

theorem peek_result (source : Buffered σ) : source.peek.1 = source.pop.1 := by
  obtain ⟨stage, lookahead, failure⟩ := source
  cases lookahead with
  | some token => rfl
  | none =>
    simp only [peek]
    split <;> rename_i popped <;> rw [popped]

theorem pop_peek (source : Buffered σ) : source.peek.2.pop = source.pop := by
  cases buffered : source.lookahead with
  | some token => simp only [peek, buffered]
  | none =>
    simp only [peek, buffered]
    split
    · rename_i token later popped
      have empty : later.lookahead = none := by
        have := lookahead_pop source
        rwa [popped] at this
      rw [popped]
      simp only [pop]
      rw [← empty]
    · rename_i failure later popped
      obtain ⟨empty, failed⟩ := failure_of_pop_error popped
      rw [popped, pop_of_failure empty failed]

/-- A stage that is peeked at goes on as far as one that is popped. -/
theorem stage_peek (source : Buffered σ) : source.peek.2.stage = source.pop.2.stage := by
  obtain ⟨stage, lookahead, failure⟩ := source
  cases lookahead with
  | some token => rfl
  | none =>
    simp only [peek]
    split <;> rename_i popped <;> rw [popped]

theorem reserved_pop (source : Buffered σ) :
    TokenStage.reserved source.pop.2.stage = TokenStage.reserved source.stage := by
  obtain ⟨stage, lookahead, failure⟩ := source
  cases lookahead with
  | some token => rfl
  | none =>
    cases failure with
    | some failure => rfl
    | none =>
      have kept := TokenStage.reserved_next stage
      simp only [pop]
      split <;> rename_i produced <;> rw [produced] at kept <;> exact kept

theorem reserved_peek (source : Buffered σ) :
    TokenStage.reserved source.peek.2.stage = TokenStage.reserved source.stage := by
  cases buffered : source.lookahead with
  | some token => simp only [peek, buffered]
  | none =>
    have kept := reserved_pop source
    simp only [peek, buffered]
    split <;> rename_i popped <;> rw [popped] at kept <;> exact kept

/-- Whether a token that is not the end of input is buffered. -/
def waiting (source : Buffered σ) : Nat :=
  match source.lookahead with
  | none => 0
  | some token => if token.kind = (TokenStage.reserved source.stage).eof then 0 else 1

/-- A token that is popped comes from the buffer or from the stage. -/
theorem pop_cases {source later : Buffered σ} {token : Token}
    (popped : source.pop = (.ok token, later)) :
    (source.lookahead = some token ∧ later = { source with lookahead := none }) ∨
      ∃ stage, TokenStage.next source.stage = (.ok token, stage) ∧ source.lookahead = none ∧
        later = ⟨stage, none, none⟩ := by
  obtain ⟨stage, lookahead, failure⟩ := source
  cases lookahead with
  | some buffered =>
    cases popped
    exact .inl ⟨rfl, rfl⟩
  | none =>
    cases failure with
    | some failure => cases popped
    | none =>
      simp only [pop] at popped
      split at popped
      · rename_i produced
        cases popped
        exact .inr ⟨_, produced, rfl, rfl⟩
      · cases popped

theorem ends : WellFounded
    (Advances (fun source : Buffered σ => TokenStage.reserved source.stage) pop) := by
  refine Advances.wellFounded_of_rank
    (Prod.lex ⟨_, TokenStage.ends (σ := σ)⟩ Nat.lt_wfRel).wf
    (fun source => (source.stage, source.waiting)) (fun {source later token} popped => ?_)
    (fun {source later token} popped inside => ?_)
  · rcases pop_cases popped with ⟨buffered, rfl⟩ | ⟨stage, produced, empty, rfl⟩
    · intro less below
      cases below with
      | left _ _ advances => exact .left _ _ advances
      | right _ fewer => exact absurd fewer (Nat.not_lt_zero _)
    · intro less below
      cases below with
      | left _ _ advances => exact .left _ _ (.more produced advances)
      | right _ fewer => exact absurd fewer (Nat.not_lt_zero _)
  · rcases pop_cases popped with ⟨buffered, rfl⟩ | ⟨stage, produced, empty, rfl⟩
    · refine .right _ ?_
      rw [waiting, waiting, buffered]
      simp only [if_neg inside]
      exact Nat.zero_lt_one
    · exact .left _ _ (.last produced inside)

instance : TokenSource (Buffered σ) where
  reserved source := TokenStage.reserved source.stage
  peek := peek
  pop := pop
  line source := TokenStage.line source.stage
  padding source := TokenStage.padding source.stage
  peek_result := peek_result
  pop_peek := pop_peek
  line_peek source := congrArg TokenStage.line (stage_peek source)
  padding_peek source := congrArg TokenStage.padding (stage_peek source)
  reserved_peek := reserved_peek
  reserved_pop := reserved_pop
  ends := ends

end Buffered

end Offside
