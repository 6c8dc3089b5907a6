/-
**Counting levels as a fold.**

What counting levels means for a list of tokens and failures, in good order or not: a level is
carried from token to token, and each of them is handed out, taken apart, or refused. `Becomes`
lists what can become of one token, by its text and without counting units in it; `Folds` carries
the level along.

* `becomes_iff`: the relation is what the machine does with one token;
* `folds_iff`: the fold is the run of the machine;
* `inner_after_feed`: while the filter hands out what becomes of one token, it pulls no other;
* `results_of_folds`: popping the filter returns what the fold makes of its source;
* `foldsLevels`: the fold says all about the filter, also that it pulls its source for a new token
  only when nothing is left of the one before.
-/

import Offside.Proofs.Calls
import Offside.Proofs.Leveling
import Offside.Source.Replay

namespace Offside

open TokenSource

/-! ### The fold -/

/-- The deindents that lead from a level down to a lower one, one level each, at the place of
another token. -/
def descent (kinds : ReservedKinds) (unit : List Char) (origin : Token) (fromLevel toLevel : Nat) :
    List Token :=
  (List.range (fromLevel - toLevel)).map fun closed =>
    ⟨kinds.deindent, repeatUnit unit (fromLevel - 1 - closed), origin.row, origin.column⟩

/-- What can become of a token at a level: the tokens handed out for it with the next level, or a
failure at its place. -/
inductive Becomes (kinds : ReservedKinds) (unit : List Char) (level : Nat) (view : View)
    (token : Token) : Except Failure (List Token × Nat) → Prop
  /-- An indent of whole units that opens one level at most. -/
  | indent {next : Nat} :
    token.kind = kinds.indent → token.text = repeatUnit unit next → next ≤ level + 1 →
    Becomes kinds unit level view token (.ok ([token], next))
  /-- Any other indent. -/
  | badIndent :
    token.kind = kinds.indent → (∀ next ≤ level + 1, token.text ≠ repeatUnit unit next) →
    Becomes kinds unit level view token
      (.error (.invalidIndent ⟨view.line, token.row, token.column, view.padding⟩))
  /-- A deindent of whole units that closes one level at most. -/
  | deindent {next : Nat} :
    token.kind = kinds.deindent → token.text = repeatUnit unit next → level < next + 2 →
    Becomes kinds unit level view token (.ok ([token], next))
  /-- A deindent of whole units that closes several levels. -/
  | deindents {next : Nat} :
    token.kind = kinds.deindent → token.text = repeatUnit unit next → next + 2 ≤ level →
    Becomes kinds unit level view token (.ok (descent kinds unit token level next, next))
  /-- Any other deindent. -/
  | badDeindent :
    token.kind = kinds.deindent → (∀ next, token.text ≠ repeatUnit unit next) →
    Becomes kinds unit level view token
      (.error (.invalidDeindent ⟨view.line, token.row, token.column, view.padding⟩))
  /-- A token that is no indentation. -/
  | other :
    token.kind ≠ kinds.indent → token.kind ≠ kinds.deindent →
    Becomes kinds unit level view token (.ok ([token], level))

/-- What a level and a list of answers fold to. The first failure, of the source or of a token that
is refused, is repeated for all answers from there on. -/
inductive Folds (kinds : ReservedKinds) (unit : List Char) :
    Nat → List Answer → List (Except Failure Token) → Prop
  | nil {level : Nat} : Folds kinds unit level [] []
  | failed {level : Nat} {failure : Failure} {view : View} {rest : List Answer} :
    Folds kinds unit level (⟨.error failure, view⟩ :: rest)
      (List.replicate (rest.length + 1) (.error failure))
  | refused {level : Nat} {token : Token} {failure : Failure} {view : View} {rest : List Answer} :
    Becomes kinds unit level view token (.error failure) →
    Folds kinds unit level (⟨.ok token, view⟩ :: rest)
      (List.replicate (rest.length + 1) (.error failure))
  | accepted {level next : Nat} {token : Token} {tokens : List Token} {view : View}
      {rest : List Answer} {folded : List (Except Failure Token)} :
    Becomes kinds unit level view token (.ok (tokens, next)) → Folds kinds unit next rest folded →
    Folds kinds unit level (⟨.ok token, view⟩ :: rest) (tokens.map .ok ++ folded)

section Fold

variable {kinds : ReservedKinds} {unit : List Char}

theorem deindentSteps_of_le {origin : Token} {fromLevel toLevel : Nat}
    (several : toLevel + 2 ≤ fromLevel) :
    deindentSteps kinds unit origin fromLevel toLevel =
      descent kinds unit origin fromLevel toLevel := by
  have ends : toLevel + (fromLevel - toLevel) = fromLevel := by omega
  rw [deindentSteps, if_pos (by omega), descent, List.reverse_range', List.map_map, ends]
  rfl

theorem deindentSteps_of_lt {origin : Token} {fromLevel toLevel : Nat}
    (single : fromLevel < toLevel + 2) :
    deindentSteps kinds unit origin fromLevel toLevel = [origin] := by
  rw [deindentSteps, if_neg (by omega)]

/-- **What becomes of a token is what the machine does with it.** -/
theorem becomes_iff (distinct : kinds.indent ≠ kinds.deindent) (nonempty : unit ≠ []) {level : Nat}
    {view : View} {token : Token} {outcome : Except Failure (List Token × Nat)} :
    Becomes kinds unit level view token outcome ↔
      Leveled.rewriter kinds unit level view token = outcome := by
  have count : ∀ {next : Nat}, token.text = repeatUnit unit next →
      repetitions? unit token.text = some next := (repetitions?_eq_some_iff nonempty).mpr
  have text : ∀ {next : Nat}, repetitions? unit token.text = some next →
      token.text = repeatUnit unit next := (repetitions?_eq_some_iff nonempty).mp
  have noIndent : token.kind = kinds.deindent → token.kind ≠ kinds.indent := fun isDeindent =>
    isDeindent ▸ Ne.symm distinct
  constructor
  · intro becomes
    unfold Leveled.rewriter
    simp only
    cases becomes with
    | indent isIndent units shallow =>
      rw [if_pos isIndent, count units]
      exact if_pos shallow
    | badIndent isIndent bad =>
      rw [if_pos isIndent]
      split
      · rename_i next counted
        rw [if_neg fun shallow => bad next shallow (text counted)]
      · rfl
    | deindent isDeindent units single =>
      rw [if_neg (noIndent isDeindent), if_pos isDeindent, count units]
      simp only
      rw [deindentSteps_of_lt single]
    | deindents isDeindent units several =>
      rw [if_neg (noIndent isDeindent), if_pos isDeindent, count units]
      simp only
      rw [deindentSteps_of_le several]
    | badDeindent isDeindent bad =>
      rw [if_neg (noIndent isDeindent), if_pos isDeindent]
      split
      · rename_i next counted
        exact absurd (text counted) (bad next)
      · rfl
    | other noIndent noDeindent => rw [if_neg noIndent, if_neg noDeindent]
  · intro made
    cases outcome with
    | error failure =>
      cases Leveled.refused_of_rewriter made with
      | indent isIndent deep =>
        exact .badIndent isIndent fun next shallow units =>
          absurd shallow (Nat.not_le.mpr (deep next (count units)))
      | deindent _ isDeindent none =>
        refine .badDeindent isDeindent fun next units => ?_
        rw [count units] at none
        cases none
    | ok handed =>
      obtain ⟨tokens, next⟩ := handed
      cases Leveled.accepted_of_rewriter made with
      | indent isIndent counted shallow => exact .indent isIndent (text counted) shallow
      | deindent _ isDeindent counted =>
        by_cases single : level < next + 2
        · rw [deindentSteps_of_lt single]
          exact .deindent isDeindent (text counted) single
        · rw [deindentSteps_of_le (Nat.not_lt.mp single)]
          exact .deindents isDeindent (text counted) (Nat.not_lt.mp single)
      | plain plain => exact .other plain.1 plain.2

/-- **The fold is what the machine makes of a list of answers.** -/
theorem folds_iff (distinct : kinds.indent ≠ kinds.deindent) (nonempty : unit ≠ []) {level : Nat}
    {list : List Answer} {folded : List (Except Failure Token)} :
    Folds kinds unit level list folded ↔
      ((Leveled.rewriter kinds unit).run (.ok level) list).map (·.result) = folded := by
  constructor
  · intro folds
    induction folds with
    | nil => rfl
    | failed => rw [Rewriter.run_error, List.map_replicate]
    | refused becomes =>
      rw [Rewriter.run_refused _ ((becomes_iff distinct nonempty).mp becomes), List.map_replicate]
    | accepted becomes _ ih =>
      rw [Rewriter.run_accepted _ ((becomes_iff distinct nonempty).mp becomes), List.map_append, ih,
        List.map_map]
      rfl
  · rintro rfl
    induction list generalizing level with
    | nil => exact .nil
    | cons first rest ih =>
      obtain ⟨result, view⟩ := first
      cases result with
      | error failure =>
        rw [Rewriter.run_error, List.map_replicate]
        exact .failed
      | ok token =>
        cases made : Leveled.rewriter kinds unit level view token with
        | error failure =>
          rw [Rewriter.run_refused _ made, List.map_replicate]
          exact .refused ((becomes_iff distinct nonempty).mpr made)
        | ok handed =>
          obtain ⟨tokens, next⟩ := handed
          rw [Rewriter.run_accepted _ made, List.map_append, List.map_map]
          exact .accepted ((becomes_iff distinct nonempty).mpr made) ih

end Fold

/-! ### How far the source is pulled -/

namespace Leveled

variable {σ : Type} [TokenSource σ] {unit : List Char} {level count : Nat}

/-- As long as deindents wait, a call leaves the source alone. -/
theorem inner_call_of_pending {filter : Leveled σ} (waiting : filter.stage.pending ≠ [])
    (next : Call) : (call filter next).2.stage.inner = filter.stage.inner := by
  have alone : (TokenStage.next filter.stage).2.inner = filter.stage.inner := by
    show (LevelStage.next filter.stage).2.inner = _
    obtain ⟨first, rest, shape⟩ := List.exists_cons_of_ne_nil waiting
    rw [LevelStage.next, shape]
  rcases Buffered.stage_call filter next with same | produced
  · rw [same]
  · rw [produced, alone]

/-- Popping as many tokens as there are deindents that wait leaves the source alone. -/
theorem inner_after_of_le_pending {inner : σ} {pending : List Token} (le : count ≤ pending.length) :
    (after (⟨⟨inner, unit, level, pending⟩, none, none⟩ : Leveled σ) count).stage.inner =
      inner := by
  induction pending generalizing count with
  | nil =>
    rw [Nat.le_zero.mp le]
    rfl
  | cons first rest ih =>
    cases count with
    | zero => rfl
    | succ count => exact ih (Nat.le_of_succ_le_succ le)

/-- While the filter hands out what becomes of one token, the source is popped for this token
only. -/
theorem inner_after_feed {s : σ} (positive : 0 < count)
    (le : count ≤ ((rewriter (reserved s) unit).feed (.ok level) (answer s)).1.length) :
    (after (⟨⟨s, unit, level, []⟩, none, none⟩ : Leveled σ) count).stage.inner = (pop s).2 := by
  obtain ⟨more, rfl⟩ : ∃ more, count = more + 1 := ⟨count - 1, by omega⟩
  rcases popped : pop s with ⟨result, later⟩
  rw [answer, popped] at le
  rw [after]
  cases result with
  | error failure =>
    obtain rfl : more = 0 := Nat.le_zero.mp (Nat.le_of_succ_le_succ le)
    rw [Rewriter.pop_failed (LevelStage.next_of_error popped), after]
  | ok token =>
    cases produced : rewriter (reserved s) unit level (view later) token with
    | error failure =>
      rw [Rewriter.feed_refused _ produced] at le
      obtain rfl : more = 0 := Nat.le_zero.mp (Nat.le_of_succ_le_succ le)
      rw [Rewriter.pop_failed (LevelStage.next_of_refused popped produced), after]
    | ok handed =>
      obtain ⟨tokens, next⟩ := handed
      obtain ⟨first, rest, rfl⟩ := List.exists_cons_of_ne_nil (rewriter_ne_nil produced)
      rw [Rewriter.feed_ok _ produced, List.length_map] at le
      rw [Rewriter.pop_produced (LevelStage.next_of_accepted popped produced)]
      exact inner_after_of_le_pending (Nat.le_of_succ_le_succ le)

end Leveled

/-! ### The filter -/

section Filter

variable {σ : Type} [TokenSource σ] {source : σ} {unit : List Char}
  (distinct : (reserved source).indent ≠ (reserved source).deindent) (nonempty : unit ≠ [])
  {count : Nat} {folded : List (Except Failure Token)}

include distinct nonempty

/-- The filter returns what its source folds to. -/
theorem results_of_folds
    (folds : Folds (reserved source) unit 0 (answers source count) folded) :
    results (Leveled.of source unit) count = folded.take count := by
  have made := (folds_iff distinct nonempty).mp folds
  have stands :
      Rewriter.Stands (Leveled.Live (reserved source) unit) (Leveled.of source unit) source
      (.ok 0) := ⟨rfl, rfl, rfl, rfl⟩
  have enough := Rewriter.length_le_length_run (Leveled.rewriter (reserved source) unit)
    (fun _ _ _ _ made => Leveled.rewriter_ne_nil made rfl) (.ok 0) (answers source count)
  rw [length_answers] at enough
  have begins := prefix_answers_of_le (Leveled.of source unit) enough
  rw [Rewriter.answers_eq_run Leveled.handles stands count] at begins
  have begins := begins.map (·.result)
  rw [made, List.prefix_iff_eq_take, List.length_map, length_answers] at begins
  exact begins

/-- While the filter hands out what one answer of its source folds to, it has popped the source up
to this answer. -/
theorem inner_after_of_folds {more : List (Except Failure Token)} {handed : Nat}
    (folds : Folds (reserved source) unit 0 (answers source count) folded)
    (fine : ∀ result ∈ folded, ∃ token, result = .ok token)
    (folds' : Folds (reserved source) unit 0 (answers source (count + 1)) more)
    (above : folded.length < handed) (within : handed ≤ more.length) :
    (after (Leveled.of source unit) handed).stage.inner = after source (count + 1) := by
  have made := (folds_iff distinct nonempty).mp folds
  have made' := (folds_iff distinct nonempty).mp folds'
  have start : Rewriter.Stands (Leveled.Live (reserved source) unit) (Leveled.of source unit) source
      (.ok 0) := ⟨rfl, rfl, rfl, rfl⟩
  have stands := Rewriter.stands_run Leveled.handles start count
  obtain ⟨level, stopped⟩ := Rewriter.exists_finish_eq_ok
    (Leveled.rewriter (reserved source) unit) (fun answer member => by
      obtain ⟨token, result⟩ := fine answer.result (made ▸ List.mem_map_of_mem member)
      exact ⟨token, result⟩)
  rw [stopped] at stands
  rw [answers_add, Rewriter.run_append, stopped] at made'
  have length := congrArg List.length made
  have length' := congrArg List.length made'
  rw [List.length_map] at length length'
  rw [List.length_append, length, answers, answers, Rewriter.run, Rewriter.run,
    List.append_nil] at length'
  -- Between the two answers the filter is idle, and the other pops are made from there.
  obtain ⟨pops, rfl⟩ := Nat.exists_eq_add_of_le (Nat.le_of_lt above)
  rw [← length, after_add]
  generalize after (Leveled.of source unit) _ = filter at stands ⊢
  obtain ⟨stage, lookahead, failure⟩ := filter
  obtain ⟨rfl, rfl, rfl, kinds⟩ := stands
  rw [← kinds] at length'
  rw [Leveled.inner_after_feed (by omega) (by omega), after_add]
  rfl

end Filter

/-- Counting the levels of a source is a fold over what the source returns. -/
structure FoldsLevels {σ : Type} [TokenSource σ] (source : σ) (unit : List Char) : Prop where
  /-- Whatever the source returns folds to something. -/
  total : ∀ count, ∃ folded, Folds (reserved source) unit 0 (answers source count) folded
  /-- The filter returns what it folds to. -/
  returns : ∀ count folded, Folds (reserved source) unit 0 (answers source count) folded →
    results (Leveled.of source unit) count = folded.take count
  /-- While the filter hands out what has become of one token, it has popped the source for this
  token and for no later one. -/
  pulls : ∀ count folded more handed, Folds (reserved source) unit 0 (answers source count) folded →
    (∀ result ∈ folded, ∃ token, result = .ok token) →
    Folds (reserved source) unit 0 (answers source (count + 1)) more →
    folded.length < handed → handed ≤ more.length →
    (after (Leveled.of source unit) handed).stage.inner = after source (count + 1)
  /-- As long as deindents wait, no call of a consumer reaches the source. -/
  waits : ∀ consumer next, (calls (Leveled.of source unit) consumer).2.stage.pending ≠ [] →
    (call (calls (Leveled.of source unit) consumer).2 next).2.stage.inner =
      (calls (Leveled.of source unit) consumer).2.stage.inner

/-- **Counting levels is a fold**, whatever the source returns and in whatever order. -/
theorem foldsLevels {σ : Type} [TokenSource σ] (source : σ) (unit : List Char)
    (distinct : (reserved source).indent ≠ (reserved source).deindent) (nonempty : unit ≠ []) :
    FoldsLevels source unit where
  total _ := ⟨_, (folds_iff distinct nonempty).mpr rfl⟩
  returns _ _ folds := results_of_folds distinct nonempty folds
  pulls _ _ _ _ folds fine folds' := inner_after_of_folds distinct nonempty folds fine folds'
  waits _ next waiting := Leveled.inner_call_of_pending waiting next

/-- A list that no scanner makes: an indent to a lower level, a deindent to a higher one, one that
closes three levels, and an indent that opens two. The unit has two characters of several bytes. -/
def unrulyReplay : Replay :=
  ⟨[.ok ⟨"INDENT", "·→".toList, 1, 1⟩, .ok ⟨"INDENT", "·→·→".toList, 2, 1⟩,
    .ok ⟨"INDENT", "·→".toList, 3, 1⟩, .ok ⟨"DEINDENT", "·→·→·→".toList, 4, 1⟩,
    .ok ⟨"WORD", ['a'], 4, 7⟩, .ok ⟨"DEINDENT", [], 5, 1⟩, .ok ⟨"INDENT", "·→·→".toList, 6, 1⟩,
    .ok ⟨"WORD", ['b'], 6, 5⟩], 0⟩

/-- The hypotheses hold for a list that is in no good order. -/
theorem foldsLevels_unrulyReplay :
    (reserved unrulyReplay).indent ≠ (reserved unrulyReplay).deindent ∧ "·→".toList ≠ [] ∧
      FoldsLevels unrulyReplay "·→".toList := by
  have distinct : (reserved unrulyReplay).indent ≠ (reserved unrulyReplay).deindent := by decide
  have nonempty : "·→".toList ≠ [] := by decide
  exact ⟨distinct, nonempty, foldsLevels unrulyReplay "·→".toList distinct nonempty⟩

example :
    let steep : Replay := ⟨[.ok ⟨"INDENT", [' '], 1, 1⟩, .ok ⟨"INDENT", "  ".toList, 2, 1⟩,
      .ok ⟨"DEINDENT", [], 3, 1⟩, .ok ⟨"INDENT", "  ".toList, 4, 1⟩], 0⟩
    (results (Leveled.of steep [' ']) 5).drop 2 =
      [.ok ⟨"DEINDENT", [' '], 3, 1⟩, .ok ⟨"DEINDENT", [], 3, 1⟩,
        .error (.invalidIndent ⟨[], 4, 1, []⟩)] := by
  cbv

end Offside
