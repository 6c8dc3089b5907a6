/-
**The tokens of a source one by one.**

`Tokens` hands out the tokens of a source and stops behind the end of input or the first failure.
Draining and collecting a source run it to its end.
-/

import Offside.Source.Basic

namespace Offside

/-- The tokens of a source, up to the end of input or the first failure. -/
structure Tokens (σ : Type) where
  source : σ
  /-- Whether the last of them was handed out. -/
  done : Bool := false

namespace Tokens

variable {σ : Type} [TokenSource σ]

open TokenSource

/-- The next result, if there is one. -/
def next (tokens : Tokens σ) : Option (Except Failure Token) × Tokens σ :=
  if tokens.done then (none, tokens)
  else
    match pop tokens.source with
    | (.ok token, source) => (some (.ok token), ⟨source, token.kind == (reserved source).eof⟩)
    | (.error failure, source) => (some (.error failure), ⟨source, true⟩)

/-- How much is still to come: it matters first whether all of it was handed out. -/
def ahead (tokens : Tokens σ) : Nat × σ := (if tokens.done then 0 else 1, tokens.source)

theorem ahead_of_next {tokens later : Tokens σ} {result : Except Failure Token}
    (handed : tokens.next = (some result, later)) :
    Prod.Lex (· < ·) Follows later.ahead tokens.ahead := by
  obtain ⟨source, done⟩ := tokens
  cases done with
  | true => cases handed
  | false =>
    simp only [next, Bool.false_eq_true, if_false] at handed
    split at handed <;> rename_i popped
    · rename_i token rest
      have kept : reserved rest = reserved source := by
        rw [← reserved_pop source, popped]
      cases handed
      by_cases isEof : token.kind = (reserved source).eof
      · refine .left _ _ ?_
        rw [kept, beq_iff_eq.mpr isEof]
        exact Nat.zero_lt_one
      · rw [ahead, kept, beq_false_of_ne isEof]
        exact .right _ (follows_of_pop popped isEof)
    · cases handed
      exact .left _ _ Nat.zero_lt_one

/-- Everything that is still to come, and what is left then. -/
def rest (tokens : Tokens σ) : List (Except Failure Token) × Tokens σ :=
  match _handed : tokens.next with
  | (none, tokens) => ([], tokens)
  | (some result, later) =>
    let (results, last) := rest later
    (result :: results, last)
termination_by tokens.ahead
decreasing_by exact ahead_of_next _handed

theorem rest_of_none {tokens later : Tokens σ} (stopped : tokens.next = (none, later)) :
    tokens.rest = ([], later) := by
  rw [rest]
  split <;> rename_i handed <;> rw [handed] at stopped <;> cases stopped
  rfl

theorem rest_of_some {tokens later : Tokens σ} {result : Except Failure Token}
    (handed : tokens.next = (some result, later)) :
    tokens.rest = (result :: later.rest.1, later.rest.2) := by
  rw [rest]
  split <;> rename_i same <;> rw [same] at handed <;> cases handed
  rfl

end Tokens

namespace TokenSource

variable {σ : Type} [TokenSource σ]

/-- The tokens of a source one by one. -/
def tokens (s : σ) : Tokens σ := ⟨s, false⟩

/-- The results up to the end of input or the first failure, and the source after them. -/
def drain (s : σ) : List (Except Failure Token) × σ :=
  let (results, last) := (tokens s).rest
  (results, last.source)

/-- The tokens up to the end of input, or the first failure. -/
def collect (s : σ) : Except Failure (List Token) := (tokens s).rest.1.mapM id

end TokenSource

end Offside
