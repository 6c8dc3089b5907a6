/-
**Collapsing newlines, token by token.**

What the filter that collapses newlines hands out depends on the tokens of its source, on whether
anything was handed out before, and on the newline that is held back. `Collapsed.rewriter` says what
becomes of one token. The filter itself holds no newline back: it looks ahead in its source until it
knows what follows. `Live` relates the two: what the filter still has to take from its source is
what is left after the newlines that the rewriter has seen.

* `Collapsed.handles`: what one answer of the source leads to, in the filter and in the rewriter;
* `Collapsed.renders`: the filter hands out what the rewriter makes of the answers of its source, if
  newlines are told from the end of input.
-/

import Offside.Proofs.Rewriting
import Offside.Source.Collapse

namespace Offside

open TokenSource

/-- What collapsing remembers between two tokens. -/
structure CollapseMemory where
  /-- Whether nothing has been handed out yet. -/
  first : Bool := true
  /-- The newline that is held back. -/
  held : Option Token := none

namespace Collapsed

/-- Whether a newline that is held back is dropped before the given token. -/
def drops (kinds : ReservedKinds) (trim first : Bool) (token : Token) : Bool :=
  (trim && (first || token.kind == kinds.eof)) ||
    token.kind == kinds.indent || token.kind == kinds.deindent

/-- What collapsing does with one token. -/
def rewriter (kinds : ReservedKinds) (trim : Bool) : Rewriter CollapseMemory :=
  fun memory _ token =>
    if token.kind = kinds.newline then .ok ([], { memory with held := some token })
    else
      let kept := if drops kinds trim memory.first token then [] else memory.held.toList
      .ok (kept ++ [token], ⟨false, none⟩)

variable {kinds : ReservedKinds} {trim : Bool} {memory : CollapseMemory} {view : View}
  {token : Token}

theorem rewriter_newline (newline : token.kind = kinds.newline) :
    rewriter kinds trim memory view token = .ok ([], { memory with held := some token }) := by
  rw [rewriter, if_pos newline]

theorem rewriter_other (other : token.kind ≠ kinds.newline) :
    rewriter kinds trim memory view token =
      .ok ((if drops kinds trim memory.first token then [] else memory.held.toList) ++ [token],
        ⟨false, none⟩) := by
  rw [rewriter, if_neg other]

/-- What is let through of the memory is the newline that was held back. -/
theorem kind_of_mem_kept
    (newlines : ∀ newline, memory.held = some newline → newline.kind = kinds.newline)
    {handed : Token}
    (member : handed ∈ if drops kinds trim memory.first token then [] else memory.held.toList) :
    handed.kind = kinds.newline := by
  split at member
  · cases member
  · exact newlines handed (Option.mem_toList.mp member)

/-- Nothing is handed out for newlines only. -/
theorem kind_of_silent {later : CollapseMemory}
    (silent : rewriter kinds trim memory view token = .ok ([], later)) :
    token.kind = kinds.newline := by
  by_contra other
  rw [rewriter_other other] at silent
  simp only [Except.ok.injEq, Prod.mk.injEq, List.append_eq_nil_iff, List.cons_ne_nil, and_false,
    false_and] at silent

end Collapsed

/-! ### The filter follows the rewriter -/

namespace Collapsed

variable {σ : Type} [TokenSource σ]

/-- What the filter has still to take from its source is what is left once the machine has seen some
newlines, the last of which it holds back. -/
structure Live (kinds : ReservedKinds) (trim : Bool) (stage : CollapseStage σ) (s : σ)
    (memory : CollapseMemory) : Prop where
  ahead : CollapseStage.takeNewlines stage.inner none = CollapseStage.takeNewlines s memory.held
  inner : reserved stage.inner = kinds
  source : reserved s = kinds
  trimmed : stage.trim = trim
  first : stage.first = memory.first

variable {kinds : ReservedKinds} {trim : Bool}

/-- A filter that stands right over its source. -/
theorem live_of_fresh (s : σ) (first : Bool) :
    Live (reserved s) trim ⟨s, trim, first⟩ s ⟨first, none⟩ :=
  ⟨rfl, rfl, rfl, rfl, rfl⟩

variable {stage : CollapseStage σ} {s later : σ} {memory : CollapseMemory}

theorem handles_failure (live : Live kinds trim stage s memory) {failure : Failure}
    (popped : pop s = (.error failure, later)) :
    Rewriter.Handles (Live kinds trim) ⟨stage, none, none⟩ s
      ([⟨.error failure, view later⟩], .error ⟨.error failure, view later⟩) := by
  have fails : CollapseStage.next stage = (.error failure, { stage with inner := (peek s).2 }) := by
    rw [CollapseStage.next, live.ahead, CollapseStage.takeNewlines_error popped]
  refine Rewriter.handles_error fails ?_
  show view (peek s).2 = view later
  rw [view_peek, popped]

/-- A newline is looked over: nothing is handed out, and the filter stays where it is. -/
theorem handles_newline (live : Live kinds trim stage s memory) {token : Token}
    (popped : pop s = (.ok token, later)) (newline : token.kind = kinds.newline) :
    Rewriter.Handles (Live kinds trim) ⟨stage, none, none⟩ s
      ([], .ok { memory with held := some token }) := by
  have kept := reserved_pop s
  rw [popped, live.source] at kept
  rw [← live.source] at newline
  refine Rewriter.handles_nil ?_
  rw [popped]
  refine ⟨?_, live.inner, kept, live.trimmed, live.first⟩
  show CollapseStage.takeNewlines stage.inner none = _
  rw [live.ahead, CollapseStage.takeNewlines_newline popped newline]

/-- The stage once it has looked as far as a token that is no newline. -/
theorem next_other (live : Live kinds trim stage s memory) {token : Token}
    (popped : pop s = (.ok token, later)) (other : token.kind ≠ kinds.newline) :
    CollapseStage.next stage =
      match if drops kinds trim memory.first token then none else memory.held with
      | some newline => (.ok newline, { stage with inner := (peek s).2, first := false })
      | none => (.ok token, { stage with inner := later, first := false }) := by
  have onward : pop (peek s).2 = (.ok token, later) := by rw [pop_peek, popped]
  have same : stage.drops token = drops kinds trim memory.first token := by
    rw [← live.inner, ← live.trimmed, ← live.first]
    rfl
  rw [← live.source] at other
  rw [CollapseStage.next, live.ahead, CollapseStage.takeNewlines_other popped other]
  cases held : memory.held with
  | none =>
    simp only [onward, ite_self]
  | some newline =>
    simp only [same, onward]
    split <;> rfl

theorem handles_other (live : Live kinds trim stage s memory) {token : Token}
    (popped : pop s = (.ok token, later)) (other : token.kind ≠ kinds.newline) :
    Rewriter.Handles (Live kinds trim) ⟨stage, none, none⟩ s
      (((if drops kinds trim memory.first token then [] else memory.held.toList) ++ [token]).map
        (fun token => ⟨.ok token, view later⟩), .ok ⟨false, none⟩) := by
  have kept := reserved_pop s
  rw [popped, live.source] at kept
  have fresh : Live kinds trim { stage with inner := later, first := false } (pop s).2
      ⟨false, none⟩ := by
    rw [popped]
    exact ⟨rfl, kept, kept, live.trimmed, rfl⟩
  have produces := next_other live popped other
  split at produces
  · rename_i newline chosen
    -- The newline comes first; the token behind it has been looked at and comes with the next pop.
    split at chosen
    · cases chosen
    · rename_i notDropped
      have onward : pop (peek s).2 = (.ok token, later) := by rw [pop_peek, popped]
      have keptPeek : reserved (peek s).2 = kinds := by rw [reserved_peek, live.source]
      have looking : Live kinds trim { stage with inner := (peek s).2, first := false } (peek s).2
          ⟨false, none⟩ := ⟨rfl, keptPeek, keptPeek, live.trimmed, rfl⟩
      have second := next_other looking onward other
      simp only [ite_self] at second
      have seen : view (peek s).2 = view later := by rw [view_peek, popped]
      rw [if_neg notDropped, chosen]
      refine Rewriter.handles_cons produces seen (Rewriter.handles_cons second rfl ?_)
      exact Rewriter.handles_nil fresh
  · rename_i chosen
    have nothing :
        (if drops kinds trim memory.first token then [] else memory.held.toList) = [] := by
      split at chosen <;> rename_i dropped
      · rw [if_pos dropped]
      · rw [if_neg dropped, chosen, Option.toList_none]
    rw [nothing]
    exact Rewriter.handles_cons produces rfl (Rewriter.handles_nil fresh)

theorem handles (live : Live kinds trim stage s memory) :
    Rewriter.Handles (Live kinds trim) ⟨stage, none, none⟩ s
      ((rewriter kinds trim).feed (.ok memory) (answer s)) := by
  rcases popped : pop s with ⟨result, later⟩
  have given : answer s = ⟨result, view later⟩ := by rw [answer, popped]
  rw [given]
  cases result with
  | error failure => exact handles_failure live popped
  | ok token =>
    by_cases newline : token.kind = kinds.newline
    · rw [Rewriter.feed_ok _ (rewriter_newline newline)]
      exact handles_newline live popped newline
    · rw [Rewriter.feed_ok _ (rewriter_other newline)]
      exact handles_other live popped newline

/-- **The filter that collapses newlines hands out what its rewriter makes of the answers
below.** -/
theorem renders (s : σ) (trim : Bool) (distinct : (reserved s).newline ≠ (reserved s).eof) :
    Renders (Collapsed.of s trim) s ((rewriter (reserved s) trim).run (.ok {})) :=
  Rewriter.renders_of_live handles (reserved s)
    (fun silent => kind_of_silent silent ▸ distinct) ⟨rfl, rfl, live_of_fresh s true⟩ rfl

end Collapsed

end Offside
