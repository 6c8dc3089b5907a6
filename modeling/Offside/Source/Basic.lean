/-
**Token sources.**

A token source hands out tokens one at a time. `peek` shows the next token and `pop` takes it;
either may fail. Both return the source as it is afterwards, since looking at a token may read on in
the text. The laws of the class say what a consumer may rely on:

* peeking shows what popping returns, and does not change what is popped;
* peeking reads as far in the text as popping does;
* the kinds that stand for layout stay the same;
* no source hands out tokens other than the end of input for ever, not even if one goes on behind an
  end of input.

The last law makes `history` end, which takes everything up to the end of input or the first
failure.
-/

import Offside.Failure

namespace Offside

/-- What a source answers, and the source after it. -/
abbrev Pulled (σ : Type) := Except Failure Token × σ

/-- A source is reached from another one by taking tokens; the last of them is not the end of
input. -/
inductive Advances {σ : Type} (reserved : σ → ReservedKinds) (next : σ → Pulled σ) (later : σ) :
    σ → Prop
  | last {s : σ} {token : Token} : next s = (.ok token, later) → token.kind ≠ (reserved s).eof →
    Advances reserved next later s
  | more {s between : σ} {token : Token} : next s = (.ok token, between) →
    Advances reserved next later between → Advances reserved next later s

namespace Advances

variable {σ : Type} {reserved : σ → ReservedKinds} {next : σ → Pulled σ}

/-- A source comes to an end if every token leaves no more to come than before, and every token
other than the end of input leaves less. -/
theorem wellFounded_of_rank {α : Type} {below : α → α → Prop} (wf : WellFounded below)
    (rank : σ → α)
    (keeps : ∀ {s later token}, next s = (.ok token, later) →
      ∀ less, below less (rank later) → below less (rank s))
    (falls : ∀ {s later token}, next s = (.ok token, later) → token.kind ≠ (reserved s).eof →
      below (rank later) (rank s)) :
    WellFounded (Advances reserved next) := by
  refine Subrelation.wf (fun {later s} advances => ?_) (InvImage.wf rank wf)
  induction advances with
  | last produced inside => exact falls produced inside
  | more produced _ ih => exact keeps produced _ ih

/-- The same if what is to come is a number: an end of input may leave it as it is. -/
theorem wellFounded_of_measure (size : σ → Nat)
    (spends : ∀ {s later token}, next s = (.ok token, later) →
      size later < size s ∨ token.kind = (reserved s).eof ∧ size later ≤ size s) :
    WellFounded (Advances reserved next) := by
  refine wellFounded_of_rank Nat.lt_wfRel.wf size (fun produced less lt => ?_)
    (fun produced inside => ?_)
  · have le := (spends produced).elim Nat.le_of_lt And.right
    exact Nat.lt_of_lt_of_le lt le
  · exact (spends produced).resolve_right fun both => inside both.1

end Advances

/-- Something that hands out tokens. -/
class TokenSource (σ : Type) where
  /-- The kinds that stand for layout. -/
  reserved : σ → ReservedKinds
  /-- Shows the next token. -/
  peek : σ → Pulled σ
  /-- Takes the next token. -/
  pop : σ → Pulled σ
  /-- The line that is being read. -/
  line : σ → List Char
  /-- What stands in front of a caret that points at the next token of the line. -/
  padding : σ → List Char
  peek_result : ∀ s, (peek s).1 = (pop s).1
  pop_peek : ∀ s, pop (peek s).2 = pop s
  line_peek : ∀ s, line (peek s).2 = line (pop s).2
  padding_peek : ∀ s, padding (peek s).2 = padding (pop s).2
  reserved_peek : ∀ s, reserved (peek s).2 = reserved s
  reserved_pop : ∀ s, reserved (pop s).2 = reserved s
  ends : WellFounded (Advances reserved pop)

namespace TokenSource

variable {σ : Type} [TokenSource σ]

/-- A source follows another if popping one token other than the end of input leads to it. -/
def Follows (later s : σ) : Prop :=
  ∃ token, pop s = (.ok token, later) ∧ token.kind ≠ (reserved s).eof

theorem Follows.advances {later s : σ} (follows : Follows later s) :
    Advances reserved pop later s := by
  obtain ⟨token, popped, inside⟩ := follows
  exact .last popped inside

theorem follows_wf : WellFounded (Follows (σ := σ)) := Subrelation.wf Follows.advances ends

instance wellFoundedRelation : WellFoundedRelation σ := ⟨Follows, follows_wf⟩

theorem follows_of_pop {s later : σ} {token : Token} (popped : pop s = (.ok token, later))
    (inside : token.kind ≠ (reserved s).eof) : Follows later s :=
  ⟨token, popped, inside⟩

theorem reserved_of_pop {s later : σ} {result : Except Failure Token}
    (popped : pop s = (result, later)) : reserved later = reserved s := by
  have kept := reserved_pop s
  rwa [popped] at kept

/-- A peek shows what popping returns. -/
theorem peek_of_pop {s later : σ} {result : Except Failure Token}
    (popped : pop s = (result, later)) : peek s = (result, (peek s).2) := by
  refine Prod.ext ?_ rfl
  rw [peek_result, popped]

/-- The results up to the end of input or the first failure, each with the source after it. -/
def history (s : σ) : List (Pulled σ) :=
  match _popped : pop s with
  | (.error failure, later) => [(.error failure, later)]
  | (.ok token, later) =>
    if token.kind = (reserved s).eof then [(.ok token, later)]
    else (.ok token, later) :: history later
termination_by s
decreasing_by exact follows_of_pop _popped ‹_›

end TokenSource

end Offside
