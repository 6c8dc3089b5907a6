/-
**Calls in any order.**

A consumer peeks at a source and pops it as it likes. `calls s list` lists what its calls return.
The laws of a source speak of one peek and one pop; here they are carried over to whole runs of
calls, and to every stack of filters.

* `result_of_next_pop`: behind some peeks the next pop returns what it would return without them;
* `popped_calls`: what is popped does not depend on the peeks in between;
* `Layers.peek_peek`: peeking once more leaves a stack as it is. This is no law of all sources; it
  holds because every stage keeps either the token that it has shown or its failure;
* `Layers.transparent`: peeking is transparent in every stack.
-/

import Offside.Proofs.Answers
import Offside.Source.Stack

namespace Offside

open TokenSource

/-! ### Calls -/

/-- What a consumer can ask a source for. -/
inductive Call
  | peek
  | pop
  deriving DecidableEq

/-- What calls returned, each with its call. -/
abbrev Transcript := List (Call × Except Failure Token)

/-- The results that were popped. -/
def Transcript.popped (transcript : Transcript) : List (Except Failure Token) :=
  transcript.filterMap fun (next, result) => if next = .pop then some result else none

namespace TokenSource

variable {σ : Type} [TokenSource σ]

/-- What a call returns, and the source after it. -/
def call (s : σ) : Call → Pulled σ
  | .peek => peek s
  | .pop => pop s

/-- What each of several calls returns, and the source after them. -/
def calls (s : σ) : List Call → List (Call × Except Failure Token) × σ
  | [] => ([], s)
  | next :: rest =>
    ((next, (call s next).1) :: (calls (call s next).2 rest).1, (calls (call s next).2 rest).2)

/-- Later calls go on from where the first ones lead to. -/
theorem calls_append (s : σ) (first second : List Call) :
    calls s (first ++ second) =
      ((calls s first).1 ++ (calls (calls s first).2 second).1,
        (calls (calls s first).2 second).2) := by
  induction first generalizing s with
  | nil => rfl
  | cons next rest ih => rw [List.cons_append, calls, ih]; rfl

/-- What is returned from some call on was returned by a source on the way. -/
theorem exists_of_calls_eq_append {s : σ} {list : List Call} {front back : Transcript}
    (made : (calls s list).1 = front ++ back) :
    ∃ (later : σ) (rest : List Call), (calls later rest).1 = back := by
  induction front generalizing s list with
  | nil => exact ⟨s, list, made⟩
  | cons first front ih =>
    cases list with
    | nil => cases made
    | cons next rest =>
      injection made with _ onward
      exact ih onward

/-- Behind some peeks the next pop returns what it would return without them. -/
theorem result_of_next_pop {s : σ} {list : List Call} {middle back : Transcript}
    {taken : Except Failure Token} (made : (calls s list).1 = middle ++ (.pop, taken) :: back)
    (peeks : ∀ answer ∈ middle, answer.1 = .peek) : taken = (pop s).1 := by
  induction middle generalizing s list with
  | nil =>
    cases list with
    | nil => cases made
    | cons next rest =>
      injection made with first
      obtain ⟨rfl, result⟩ := Prod.mk.inj first
      exact result.symm
  | cons shown middle ih =>
    cases list with
    | nil => cases made
    | cons next rest =>
      injection made with first onward
      obtain rfl : next = .peek := by
        rw [← peeks shown List.mem_cons_self, ← first]
      have same := ih onward fun answer member => peeks answer (List.mem_cons_of_mem _ member)
      rw [same]
      exact congrArg Prod.fst (pop_peek s)

theorem answers_peek (s : σ) (count : Nat) : answers (peek s).2 count = answers s count := by
  cases count with
  | zero => rfl
  | succ count => rw [answers, answers, answer, answer, pop_peek]

/-- **What is popped does not depend on the peeks in between.** -/
theorem popped_calls (s : σ) (list : List Call) :
    Transcript.popped (calls s list).1 = results s (list.count .pop) := by
  induction list generalizing s with
  | nil => rfl
  | cons next rest ih =>
    cases next with
    | peek =>
      have onward := ih (peek s).2
      rw [results, answers_peek] at onward
      exact onward
    | pop =>
      rw [List.count_cons_self, results, answers, List.map_cons]
      exact congrArg ((pop s).1 :: ·) (ih (pop s).2)

end TokenSource

/-! ### Calls of a buffer -/

namespace Buffered

variable {ζ : Type} [TokenStage ζ] {source later : Buffered ζ} {token : Token} {failure : Failure}

/-- A token that is popped was buffered, or comes from the stage. -/
theorem pop_eq_ok (popped : pop source = (.ok token, later)) :
    (source.lookahead = some token ∧ later = { source with lookahead := none }) ∨
      (source.lookahead = none ∧ source.failure = none ∧
        ∃ stage, TokenStage.next source.stage = (.ok token, stage) ∧
          later = ⟨stage, none, none⟩) := by
  obtain ⟨stage, lookahead, failure⟩ := source
  cases lookahead with
  | some buffered =>
    cases popped
    exact .inl ⟨rfl, rfl⟩
  | none =>
    cases failure with
    | some failure => cases popped
    | none =>
      rw [pop] at popped
      simp only at popped
      split at popped
      · rename_i produced
        cases popped
        exact .inr ⟨rfl, rfl, _, produced, rfl⟩
      · cases popped

/-- A buffer that holds back nothing pops for a peek, and keeps what it gets. -/
theorem peek_of_empty (empty : source.lookahead = none) :
    source.peek = match source.pop with
      | (.ok token, later) => (.ok token, { later with lookahead := some token })
      | (.error failure, later) => (.error failure, later) := by
  obtain ⟨stage, lookahead, failure⟩ := source
  cases lookahead with
  | none => rfl
  | some token => cases empty

/-- A token that is shown was buffered, or comes from the stage and is buffered now. -/
theorem peek_eq_ok (shown : peek source = (.ok token, later)) :
    (source.lookahead = some token ∧ later = source) ∨
      (source.lookahead = none ∧ source.failure = none ∧
        ∃ stage, TokenStage.next source.stage = (.ok token, stage) ∧
          later = ⟨stage, some token, none⟩) := by
  cases buffered : source.lookahead with
  | some seen =>
    rw [peek, buffered] at shown
    cases shown
    exact .inl ⟨rfl, rfl⟩
  | none =>
    rw [peek_of_empty buffered] at shown
    split at shown
    · rename_i popped
      cases shown
      rcases pop_eq_ok popped with ⟨absent, _⟩ | ⟨_, fresh, stage, produced, rfl⟩
      · rw [buffered] at absent
        cases absent
      · exact .inr ⟨rfl, fresh, stage, produced, rfl⟩
    · cases shown

theorem failure_of_peek_error (failed : source.peek = (.error failure, later)) :
    later.lookahead = none ∧ later.failure = some failure := by
  cases buffered : source.lookahead with
  | some token =>
    rw [peek, buffered] at failed
    cases failed
  | none =>
    rw [peek_of_empty buffered] at failed
    split at failed
    · cases failed
    · rename_i popped
      cases failed
      exact failure_of_pop_error popped

theorem peek_of_failure (empty : source.lookahead = none) (failed : source.failure = some failure) :
    source.peek = (.error failure, source) := by
  rw [peek_of_empty empty, pop_of_failure empty failed]

/-- A call leaves the stage as it is, or lets it produce one token. -/
theorem stage_call (source : Buffered ζ) (next : Call) :
    (call source next).2.stage = source.stage ∨
      (call source next).2.stage = (TokenStage.next source.stage).2 := by
  have popped : (pop source).2.stage = source.stage ∨
      (pop source).2.stage = (TokenStage.next source.stage).2 := by
    obtain ⟨stage, lookahead, failure⟩ := source
    cases lookahead with
    | some token => exact .inl rfl
    | none =>
      cases failure with
      | some failure => exact .inl rfl
      | none =>
        refine .inr ?_
        rw [pop]
        simp only
        split <;> rename_i produced <;> rw [produced]
  cases next with
  | peek => exact stage_peek source ▸ popped
  | pop => exact popped

theorem peek_peek (source : Buffered ζ) : source.peek.2.peek = source.peek := by
  rcases shown : source.peek with ⟨result, later⟩
  cases result with
  | error failure =>
    obtain ⟨empty, failed⟩ := failure_of_peek_error shown
    exact peek_of_failure empty failed
  | ok token =>
    have kept : later.lookahead = some token := by
      rcases peek_eq_ok shown with ⟨buffered, rfl⟩ | ⟨_, _, stage, _, rfl⟩
      · exact buffered
      · rfl
    rw [peek, kept]

end Buffered

/-! ### Peeking once more -/

theorem Replay.peek_snd (source : Replay) : source.peek.2 = source := by
  rw [peek]
  split <;> rfl

/-- Peeking at a stack once more shows the same and leaves the stack as it is. -/
theorem Layers.peek_peek : {shape : List FilterKind} → (layers : Layers shape) →
    TokenSource.peek (TokenSource.peek layers).2 = TokenSource.peek layers
  | [], .inl scanner => congrArg (mapSource Sum.inl) (Buffered.peek_peek scanner)
  | [], .inr replay => congrArg (mapSource Sum.inr) (congrArg Replay.peek (Replay.peek_snd replay))
  | .collapse :: _, layers => Buffered.peek_peek layers
  | .levels :: _, layers => Buffered.peek_peek layers

/-! ### Peeking is transparent -/

/-- What a consumer of a source can rely on that peeks at it. -/
structure Transparent {σ : Type} [TokenSource σ] (s : σ) (consumer : List Call) : Prop where
  /-- Every peek returns the token or the failure that the next pop returns. -/
  shows : ∀ front middle back shown taken,
    (calls s consumer).1 = front ++ (.peek, shown) :: (middle ++ (.pop, taken) :: back) →
    (∀ answer ∈ middle, answer.1 = .peek) → shown = taken
  /-- The same is popped if all peeks are left out. -/
  pops : Transcript.popped (calls s consumer).1 =
    Transcript.popped (calls s (consumer.filter (· = .pop))).1
  /-- A peek that follows a peek changes nothing in the source, whatever is observed of it. -/
  rests : ∀ front, front ++ [.peek, .peek] <+: consumer →
    (calls s (front ++ [.peek, .peek])).2 = (calls s (front ++ [.peek])).2

/-- **Peeking is transparent in every stack**, whatever filters it has, whatever was called before
and whatever its bottom returns. -/
theorem Layers.transparent {shape : List FilterKind} (layers : Layers shape)
    (consumer : List Call) : Transparent layers consumer where
  shows := by
    intro front middle back shown taken made peeks
    obtain ⟨later, rest, made⟩ := exists_of_calls_eq_append made
    have here : shown = (TokenSource.peek later).1 := by
      cases rest with
      | nil => cases made
      | cons next rest =>
        injection made with first
        obtain ⟨rfl, result⟩ := Prod.mk.inj first
        exact result.symm
    -- The peek itself is one of the peeks in front of the pop.
    have next : taken = (TokenSource.pop later).1 := by
      rw [← List.cons_append] at made
      refine result_of_next_pop made fun answer member => ?_
      rcases List.mem_cons.mp member with rfl | member
      · rfl
      · exact peeks answer member
    rw [here, next, peek_result]
  pops := by
    have kept : (consumer.filter (· = .pop)).count .pop = consumer.count .pop :=
      List.count_filter (decide_eq_true rfl)
    rw [popped_calls, popped_calls, kept]
  rests := by
    intro front _
    rw [calls_append, calls_append]
    show (TokenSource.peek (TokenSource.peek (calls layers front).2).2).2 =
      (TokenSource.peek (calls layers front).2).2
    rw [peek_peek]

end Offside
