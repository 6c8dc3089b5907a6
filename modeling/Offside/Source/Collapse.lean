/-
**Collapsing newlines.**

A filter that lets at most one newline through where several follow each other: the last one. None
comes through before an indent or a deindent, which mark a new line themselves, and if the ends are
trimmed none comes through before the first other token or right before the end of input.

The filter looks for the end of a run of newlines, and a run need not have one: where newlines and
the end of input are of one kind, the end of input belongs to the run and is handed out for ever.
The search is a partial function, and the filter does not answer then.

* `Runs`: a run of newlines that comes to an end, step by step;
* `runs_of_takeNewlines`: what the search finds is the end of a run;
* `goesOn_next`: with a token the source has gone on, whether or not its runs all end.
-/

import Offside.Source.Buffered

namespace Offside

/-- A source whose newlines are collapsed. -/
structure CollapseStage (σ : Type) where
  inner : σ
  /-- Whether newlines at both ends of the stream are dropped. -/
  trim : Bool
  /-- Whether nothing has been produced yet. -/
  first : Bool := true

namespace CollapseStage

variable {σ : Type} [TokenSource σ]

open TokenSource

/-- What looking for the end of a run of newlines leads to: a failure, or the last of the newlines
and the token that follows, which stays in the source. -/
abbrev Found (σ : Type) := Except Failure (Option Token × Token) × σ

/-- Takes the newlines in front of a source. There is no result if they never end. -/
def takeNewlines (inner : σ) (last : Option Token) : Option (Found σ) :=
  match peek inner with
  | (.error failure, inner) => some (.error failure, inner)
  | (.ok seen, peeked) =>
    if seen.kind = (reserved inner).newline then
      match pop peeked with
      | (.error failure, inner) => some (.error failure, inner)
      | (.ok newline, inner) => by
        -- Written as a term, the call would carry its place in the file along.
        apply takeNewlines
        · exact inner
        · exact some newline
    else some (.ok (last, seen), peeked)
partial_fixpoint

section Step

variable {inner later : σ} {last : Option Token} {token : Token}

theorem takeNewlines_error {failure : Failure} (popped : pop inner = (.error failure, later)) :
    takeNewlines inner last = some (.error failure, (peek inner).2) := by
  rw [takeNewlines, peek_of_pop popped]

theorem takeNewlines_newline (popped : pop inner = (.ok token, later))
    (newline : token.kind = (reserved inner).newline) :
    takeNewlines inner last = takeNewlines later (some token) := by
  rw [takeNewlines, peek_of_pop popped]
  simp only [if_pos newline, pop_peek, popped]

theorem takeNewlines_other (popped : pop inner = (.ok token, later))
    (other : token.kind ≠ (reserved inner).newline) :
    takeNewlines inner last = some (.ok (last, token), (peek inner).2) := by
  rw [takeNewlines, peek_of_pop popped]
  simp only [if_neg other]

end Step

/-- Whether newlines before the given token are dropped. -/
def drops (stage : CollapseStage σ) (seen : Token) : Bool :=
  let kinds := reserved stage.inner
  (stage.trim && (stage.first || seen.kind == kinds.eof)) ||
    seen.kind == kinds.indent || seen.kind == kinds.deindent

/-- Produces the next token: the last of several newlines, unless they are dropped, or the next
token of the source. Nothing is produced at the beginning of newlines that never end. -/
def next (stage : CollapseStage σ) : Pulled (CollapseStage σ) :=
  match takeNewlines stage.inner none with
  | none => (.error .endless, stage)
  | some (.error failure, inner) => (.error failure, { stage with inner := inner })
  | some (.ok (some newline, seen), inner) =>
    if stage.drops seen then
      match pop inner with
      | (.error failure, inner) => (.error failure, { stage with inner := inner })
      | (.ok token, inner) => (.ok token, { stage with inner := inner, first := false })
    else (.ok newline, { stage with inner := inner, first := false })
  | some (.ok (none, _), inner) =>
    match pop inner with
    | (.error failure, inner) => (.error failure, { stage with inner := inner })
    | (.ok token, inner) => (.ok token, { stage with inner := inner, first := false })

/-! ### Runs of newlines -/

/-- A run of newlines in front of a source comes to an end. -/
inductive Runs : σ → Option Token → Found σ → Prop
  | failure {inner later : σ} {last : Option Token} {failure : Failure} :
    pop inner = (.error failure, later) → Runs inner last (.error failure, (peek inner).2)
  | newline {inner later : σ} {last : Option Token} {newline : Token} {found : Found σ} :
    pop inner = (.ok newline, later) → newline.kind = (reserved inner).newline →
    Runs later (some newline) found → Runs inner last found
  | other {inner later : σ} {last : Option Token} {seen : Token} :
    pop inner = (.ok seen, later) → seen.kind ≠ (reserved inner).newline →
    Runs inner last (.ok (last, seen), (peek inner).2)

/-- What the search finds is the end of a run. The search is a partial function, so the induction is
on its approximations. -/
theorem runs_of_takeNewlines {inner : σ} {last : Option Token} {found : Found σ}
    (took : takeNewlines inner last = some found) : Runs inner last found := by
  refine takeNewlines.partial_correctness (fun inner last found => Runs inner last found)
    (fun search ih inner last found took => ?_) inner last found took
  rcases popped : pop inner with ⟨result, later⟩
  have shown := peek_of_pop popped
  have onward : pop (peek inner).2 = (result, later) := by rw [pop_peek, popped]
  rw [shown] at took
  cases result with
  | error failure =>
    cases took
    exact .failure popped
  | ok token =>
    simp only [onward] at took
    split at took
    · rename_i isNewline
      exact .newline popped isNewline (ih _ _ _ took)
    · rename_i notNewline
      cases took
      exact .other popped notNewline

theorem Runs.reserved_eq {inner : σ} {last : Option Token} {found : Found σ}
    (runs : Runs inner last found) : reserved found.2 = reserved inner := by
  induction runs with
  | failure => exact reserved_peek _
  | newline popped _ _ ih => exact ih.trans (reserved_of_pop popped)
  | other => exact reserved_peek _

/-! ### The filter comes to an end -/

/-- What becomes of one token of the filter: the run of newlines in front of it was dropped, or
there was none, or its last newline is let through. -/
theorem next_cases {stage later : CollapseStage σ} {token : Token}
    (produced : stage.next = (.ok token, later)) :
    (∃ last seen before, Runs stage.inner none (.ok (last, seen), before) ∧
        pop before = (.ok token, later.inner)) ∨
      ∃ seen, Runs stage.inner none (.ok (some token, seen), later.inner) ∧
        ¬ stage.drops seen := by
  rw [next] at produced
  split at produced
  · cases produced
  · cases produced
  · rename_i newline seen before took
    split at produced
    · split at produced
      · cases produced
      · rename_i popped
        cases produced
        exact .inl ⟨_, _, _, runs_of_takeNewlines took, popped⟩
    · rename_i kept
      cases produced
      exact .inr ⟨seen, runs_of_takeNewlines took, kept⟩
  · rename_i seen before took
    split at produced
    · cases produced
    · rename_i popped
      cases produced
      exact .inl ⟨_, _, _, runs_of_takeNewlines took, popped⟩

/-- What becomes of the source: it is left alone, or a run of newlines is taken from it, and perhaps
what follows. -/
theorem inner_next (stage : CollapseStage σ) :
    stage.next.2.inner = stage.inner ∨ ∃ found, Runs stage.inner none found ∧
      (stage.next.2.inner = found.2 ∨ stage.next.2.inner = (pop found.2).2) := by
  rw [next]
  split
  · exact .inl rfl
  · rename_i took
    exact .inr ⟨_, runs_of_takeNewlines took, .inl rfl⟩
  · rename_i took
    refine .inr ⟨_, runs_of_takeNewlines took, ?_⟩
    split
    · right
      split <;> rename_i popped <;> rw [popped]
    · exact .inl rfl
  · rename_i took
    refine .inr ⟨_, runs_of_takeNewlines took, .inr ?_⟩
    split <;> rename_i popped <;> rw [popped]

theorem reserved_next (stage : CollapseStage σ) :
    reserved stage.next.2.inner = reserved stage.inner := by
  rcases inner_next stage with same | ⟨found, runs, same | same⟩ <;> rw [same]
  · exact runs.reserved_eq
  · rw [reserved_pop, runs.reserved_eq]

/-- A source that goes on like one that was reached; it may have been peeked at. -/
def GoesOn (later s : σ) : Prop :=
  ∃ source, Advances reserved pop source s ∧ pop later = pop source ∧
    reserved later = reserved source

theorem GoesOn.more {later between s : σ} {token : Token} (popped : pop s = (.ok token, between))
    (goesOn : GoesOn later between) : GoesOn later s := by
  obtain ⟨source, advances, same⟩ := goesOn
  exact ⟨source, .more popped advances, same⟩

theorem goesOn_of_pop {later s : σ} {token : Token} (popped : pop s = (.ok token, later))
    (inside : token.kind ≠ (reserved s).eof) : GoesOn later s :=
  ⟨later, .last popped inside, rfl, rfl⟩

theorem advances_congr {first second later : σ} (same : pop first = pop second)
    (kinds : reserved first = reserved second) (advances : Advances reserved pop later first) :
    Advances reserved pop later second := by
  cases advances with
  | last popped inside => exact .last (same ▸ popped) (kinds ▸ inside)
  | more popped onward => exact .more (same ▸ popped) onward

theorem goesOn_wf : WellFounded (GoesOn (σ := σ)) := by
  refine ⟨fun s => ?_⟩
  induction s using (TokenSource.ends (σ := σ)).induction with
  | _ s ih =>
    refine Acc.intro s ?_
    rintro later ⟨source, reached, same, kinds⟩
    refine Acc.intro later ?_
    rintro last ⟨other, fromLater, sameOther⟩
    exact (ih source reached).inv ⟨other, advances_congr same kinds fromLater, sameOther⟩

namespace Runs

variable {inner later before : σ} {last result : Option Token} {seen : Token}

/-- What comes behind a run comes behind the source in front of it. -/
theorem goesOn_trans (runs : Runs inner last (.ok (result, seen), before))
    (goesOn : GoesOn later before) : GoesOn later inner := by
  generalize shape : ((.ok (result, seen), before) : Found σ) = found at runs
  induction runs with
  | failure => cases shape
  | newline popped _ _ ih => exact .more popped (ih shape)
  | other =>
    cases shape
    obtain ⟨source, advances, same⟩ := goesOn
    exact ⟨source, advances_congr (pop_peek _) (reserved_peek _) advances, same⟩

/-- A run is empty, or it has a last newline. -/
theorem empty_or_exists (runs : Runs inner last (.ok (result, seen), before)) :
    (result = last ∧ pop before = pop inner) ∨
      ∃ newline, result = some newline ∧
        (newline.kind ≠ (reserved inner).eof → GoesOn before inner) := by
  generalize shape : ((.ok (result, seen), before) : Found σ) = found at runs
  induction runs with
  | failure => cases shape
  | @newline inner later last newline found popped isNewline runs ih =>
    subst shape
    right
    rcases ih rfl with ⟨isLast, same⟩ | ⟨newline', isLast, goesOn⟩
    · refine ⟨newline, isLast, fun inside => ⟨later, .last popped inside, same, ?_⟩⟩
      exact runs.reserved_eq
    · rw [reserved_of_pop popped] at goesOn
      exact ⟨newline', isLast, fun inside => .more popped (goesOn inside)⟩
  | other =>
    cases shape
    exact .inl ⟨rfl, pop_peek _⟩

end Runs

theorem goesOn_of_next {stage later : CollapseStage σ} {less : σ} {token : Token}
    (produced : stage.next = (.ok token, later)) (goesOn : GoesOn less later.inner) :
    GoesOn less stage.inner := by
  rcases next_cases produced with ⟨_, _, _, runs, popped⟩ | ⟨_, runs, _⟩
  · exact runs.goesOn_trans (.more popped goesOn)
  · exact runs.goesOn_trans goesOn

theorem goesOn_next {stage later : CollapseStage σ} {token : Token}
    (produced : stage.next = (.ok token, later))
    (inside : token.kind ≠ (reserved stage.inner).eof) : GoesOn later.inner stage.inner := by
  rcases next_cases produced with ⟨_, _, _, runs, popped⟩ | ⟨_, runs, _⟩
  · rw [← runs.reserved_eq] at inside
    exact runs.goesOn_trans (goesOn_of_pop popped inside)
  · rcases runs.empty_or_exists with ⟨absurd, _⟩ | ⟨newline, isLast, goesOn⟩
    · cases absurd
    · cases isLast
      exact goesOn inside

instance : TokenStage (CollapseStage σ) where
  reserved stage := reserved stage.inner
  next := next
  line stage := line stage.inner
  padding stage := padding stage.inner
  reserved_next := reserved_next
  ends := Advances.wellFounded_of_rank goesOn_wf CollapseStage.inner
    (fun produced _ goesOn => goesOn_of_next produced goesOn) goesOn_next

end CollapseStage

/-- A source whose newlines are collapsed. -/
abbrev Collapsed (σ : Type) := Buffered (CollapseStage σ)

/-- Collapses the newlines of a source. -/
def Collapsed.of {σ : Type} (inner : σ) (trim : Bool) : Collapsed σ :=
  ⟨{ inner, trim }, none, none⟩

end Offside
