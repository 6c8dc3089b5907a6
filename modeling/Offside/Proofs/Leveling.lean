/-
**Counting levels, token by token.**

What the filter that counts levels hands out depends on the tokens of its source and on the level
alone. `Leveled.rewriter` says what becomes of one token; the queue of deindents that the filter
works off before it asks its source again does not show in it.

* `Leveled.Accepted`, `Leveled.Refused`: all that can become of one token;
* `check_of_ok`, `check_of_error`: checking a token is what the rewriter does with it;
* `handles_pending`: deindents that wait are handed out one after the other;
* `Leveled.renders`: the filter hands out what the rewriter makes of the answers of its source.
-/

import Mathlib.Data.List.Forall2
import Offside.Proofs.Kinds
import Offside.Proofs.Rewriting
import Offside.Source.Leveled

namespace Offside

open TokenSource

/-- The deindents that become of one that leads from a level to another: one for each level, if
there are at least two. -/
def deindentSteps (kinds : ReservedKinds) (unit : List Char) (origin : Token)
    (fromLevel toLevel : Nat) :
    List Token :=
  if toLevel + 1 < fromLevel then
    (List.range' toLevel (fromLevel - toLevel)).reverse.map fun level =>
      ⟨kinds.deindent, repeatUnit unit level, origin.row, origin.column⟩
  else [origin]

/-- What counting levels does with one token; the state is the level. -/
def Leveled.rewriter (kinds : ReservedKinds) (unit : List Char) : Rewriter Nat :=
  fun level view token =>
    let place : Caret := ⟨view.line, token.row, token.column, view.padding⟩
    if token.kind = kinds.indent then
      match repetitions? unit token.text with
      | some next =>
        if next ≤ level + 1 then .ok ([token], next) else .error (.invalidIndent place)
      | none => .error (.invalidIndent place)
    else if token.kind = kinds.deindent then
      match repetitions? unit token.text with
      | some next => .ok (deindentSteps kinds unit token level next, next)
      | none => .error (.invalidDeindent place)
    else .ok ([token], level)

/-- All tokens that become of a token are of its kind. -/
theorem kind_of_mem_deindentSteps {kinds : ReservedKinds} {unit : List Char} {origin token : Token}
    {fromLevel toLevel : Nat} (isDeindent : origin.kind = kinds.deindent)
    (member : token ∈ deindentSteps kinds unit origin fromLevel toLevel) :
    token.kind = kinds.deindent := by
  unfold deindentSteps at member
  split at member
  · obtain ⟨level, _, rfl⟩ := List.mem_map.mp member
    rfl
  · rw [List.mem_singleton.mp member, isDeindent]

theorem deindentSteps_ne_nil (kinds : ReservedKinds) (unit : List Char) (origin : Token)
    (fromLevel toLevel : Nat) : deindentSteps kinds unit origin fromLevel toLevel ≠ [] := by
  unfold deindentSteps
  split
  · intro none
    have lengths := congrArg List.length none
    rw [List.length_map, List.length_reverse, List.length_range', List.length_nil] at lengths
    omega
  · exact List.cons_ne_nil _ _

/-- A relation that holds of two deindents, and of those that may become of them on each level,
holds one by one of what does. -/
theorem forall₂_deindentSteps {related : Token → Token → Prop} {kinds kinds' : ReservedKinds}
    {unit unit' : List Char} {origin origin' : Token} (origins : related origin origin')
    (steps : ∀ level, related ⟨kinds.deindent, repeatUnit unit level, origin.row, origin.column⟩
      ⟨kinds'.deindent, repeatUnit unit' level, origin'.row, origin'.column⟩)
    (fromLevel toLevel : Nat) :
    List.Forall₂ related (deindentSteps kinds unit origin fromLevel toLevel)
      (deindentSteps kinds' unit' origin' fromLevel toLevel) := by
  unfold deindentSteps
  split
  · rw [List.forall₂_map_left_iff, List.forall₂_map_right_iff, List.forall₂_same]
    exact fun level _ => steps level
  · exact .cons origins .nil

namespace Leveled

section Steps

variable {kinds : ReservedKinds} {unit : List Char} {level : Nat} {token : Token}

/-- What is accepted: an indent that opens one level at most, a deindent of whole units, and every
token that is neither. -/
inductive Accepted (kinds : ReservedKinds) (unit : List Char) (level : Nat) (token : Token) :
    List Token → Nat → Prop
  | indent {next : Nat} :
    token.kind = kinds.indent → repetitions? unit token.text = some next → next ≤ level + 1 →
    Accepted kinds unit level token [token] next
  | deindent {next : Nat} :
    token.kind ≠ kinds.indent → token.kind = kinds.deindent →
    repetitions? unit token.text = some next →
    Accepted kinds unit level token (deindentSteps kinds unit token level next) next
  | plain : Plain kinds token → Accepted kinds unit level token [token] level

/-- What is refused: an indent that is no whole number of units or opens several levels, and a
deindent that is no whole number of units. -/
inductive Refused (kinds : ReservedKinds) (unit : List Char) (level : Nat) (view : View)
    (token : Token) : Failure → Prop
  | indent :
    token.kind = kinds.indent →
    (∀ next, repetitions? unit token.text = some next → level + 1 < next) →
    Refused kinds unit level view token
      (.invalidIndent ⟨view.line, token.row, token.column, view.padding⟩)
  | deindent :
    token.kind ≠ kinds.indent → token.kind = kinds.deindent → repetitions? unit token.text = none →
    Refused kinds unit level view token
      (.invalidDeindent ⟨view.line, token.row, token.column, view.padding⟩)

theorem accepted_of_rewriter {view : View} {tokens : List Token} {next : Nat}
    (made : rewriter kinds unit level view token = .ok (tokens, next)) :
    Accepted kinds unit level token tokens next := by
  unfold rewriter at made
  simp only at made
  split at made
  · rename_i isIndent
    split at made
    · rename_i counted
      split at made
      · rename_i shallow
        cases made
        exact .indent isIndent counted shallow
      · cases made
    · cases made
  · rename_i noIndent
    split at made
    · rename_i isDeindent
      split at made
      · rename_i counted
        cases made
        exact .deindent noIndent isDeindent counted
      · cases made
    · rename_i noDeindent
      cases made
      exact .plain ⟨noIndent, noDeindent⟩

theorem refused_of_rewriter {view : View} {failure : Failure}
    (made : rewriter kinds unit level view token = .error failure) :
    Refused kinds unit level view token failure := by
  unfold rewriter at made
  simp only at made
  split at made
  · rename_i isIndent
    split at made
    · rename_i count counted
      split at made
      · cases made
      · rename_i deep
        cases made
        refine .indent isIndent fun next again => ?_
        cases counted.symm.trans again
        exact Nat.lt_of_not_le deep
    · rename_i none
      cases made
      refine .indent isIndent fun next counted => ?_
      cases none.symm.trans counted
  · rename_i noIndent
    split at made
    · rename_i isDeindent
      split at made
      · cases made
      · rename_i none
        cases made
        exact .deindent noIndent isDeindent none
    · cases made

theorem rewriter_ne_nil {view : View} {tokens : List Token} {next : Nat}
    (made : rewriter kinds unit level view token = .ok (tokens, next)) : tokens ≠ [] := by
  cases accepted_of_rewriter made with
  | indent => exact List.cons_ne_nil _ _
  | deindent => exact deindentSteps_ne_nil _ _ _ _ _
  | plain => exact List.cons_ne_nil _ _

/-- All tokens that become of a token are of its kind. -/
theorem kind_of_rewriter {view : View} {tokens : List Token} {next : Nat}
    (made : rewriter kinds unit level view token = .ok (tokens, next)) :
    ∀ handed ∈ tokens, handed.kind = token.kind := by
  intro handed member
  cases accepted_of_rewriter made with
  | indent => rw [List.mem_singleton.mp member]
  | deindent _ isDeindent => rw [kind_of_mem_deindentSteps isDeindent member, isDeindent]
  | plain => rw [List.mem_singleton.mp member]

/-- A token that is neither an indent nor a deindent stays as it is. -/
theorem rewriter_of_plain (level : Nat) (view : View) (plain : Plain kinds token) :
    rewriter kinds unit level view token = .ok ([token], level) := by
  unfold rewriter
  simp only
  rw [if_neg plain.1, if_neg plain.2]

end Steps

end Leveled

/-! ### The filter follows the rewriter -/

namespace LevelStage

variable {σ : Type} [TokenSource σ]

theorem check_of_error (stage : LevelStage σ) {token : Token} {failure : Failure}
    (refused : Leveled.rewriter (reserved stage.inner) stage.unit stage.level (view stage.inner)
      token =
      .error failure) : stage.check token = (.error failure, stage) := by
  rw [check]
  cases Leveled.refused_of_rewriter refused with
  | indent isIndent deep =>
    rw [if_pos isIndent, indent]
    split
    · rename_i level counted
      rw [if_neg (Nat.not_le.mpr (deep level counted))]
      rfl
    · rfl
  | deindent noIndent isDeindent none =>
    rw [if_neg noIndent, if_pos isDeindent, deindent, none]
    rfl

theorem check_of_ok (stage : LevelStage σ) {token first : Token} {later : List Token} {level : Nat}
    (idle : stage.pending = [])
    (accepted : Leveled.rewriter (reserved stage.inner) stage.unit stage.level (view stage.inner)
      token =
      .ok (first :: later, level)) :
    stage.check token = (.ok first, { stage with level := level, pending := later }) := by
  obtain ⟨inner, unit, known, pending⟩ := stage
  subst idle
  have made := Leveled.accepted_of_rewriter accepted
  generalize handed : first :: later = tokens at made
  rw [check]
  cases made with
  | indent isIndent counted shallow =>
    cases handed
    rw [if_pos isIndent, indent, counted]
    exact if_pos shallow
  | deindent noIndent isDeindent counted =>
    rw [if_neg noIndent, if_pos isDeindent, deindent, counted]
    unfold deindentSteps at handed
    simp only
    by_cases several : level + 1 < known
    · rw [if_pos several] at handed ⊢
      have expanded : deindents (⟨inner, unit, known, []⟩ : LevelStage σ) token known level =
        first :: later := handed.symm
      rw [expanded]
    · rw [if_neg several] at handed ⊢
      cases handed
      rfl
  | plain plain =>
    cases handed
    rw [if_neg plain.1, if_neg plain.2]

section Next

variable {s later : σ} {unit : List Char} {level : Nat}

theorem next_of_error {failure : Failure} (popped : pop s = (.error failure, later)) :
    TokenStage.next (⟨s, unit, level, []⟩ : LevelStage σ) =
      (.error failure, ⟨later, unit, level, []⟩) := by
  show LevelStage.next _ = _
  rw [next]
  simp only [popped]

variable {token : Token} (popped : pop s = (.ok token, later))

include popped

theorem next_of_popped :
    TokenStage.next (⟨s, unit, level, []⟩ : LevelStage σ) =
      (⟨later, unit, level, []⟩ : LevelStage σ).check token := by
  show LevelStage.next _ = _
  rw [next]
  simp only [popped]

theorem reserved_later : reserved later = reserved s := by
  have kept := reserved_pop s
  rwa [popped] at kept

/-- A token that is refused makes the stage fail. -/
theorem next_of_refused {failure : Failure}
    (refused : Leveled.rewriter (reserved s) unit level (view later) token = .error failure) :
    TokenStage.next (⟨s, unit, level, []⟩ : LevelStage σ) =
      (.error failure, ⟨later, unit, level, []⟩) := by
  rw [← reserved_later popped] at refused
  rw [next_of_popped popped, check_of_error ⟨later, unit, level, []⟩ refused]

/-- Of a token that is accepted the first part is produced, and the others wait. -/
theorem next_of_accepted {first : Token} {rest : List Token} {reached : Nat}
    (accepted : Leveled.rewriter (reserved s) unit level (view later) token =
      .ok (first :: rest, reached)) :
    TokenStage.next (⟨s, unit, level, []⟩ : LevelStage σ) =
      (.ok first, ⟨later, unit, reached, rest⟩) := by
  rw [← reserved_later popped] at accepted
  rw [next_of_popped popped, check_of_ok ⟨later, unit, level, []⟩ rfl accepted]

end Next

end LevelStage

namespace Leveled

variable {σ : Type} [TokenSource σ]

/-- The filter stands over a source, at a level, with no deindents that wait. -/
def Live (kinds : ReservedKinds) (unit : List Char) (stage : LevelStage σ) (s : σ) (level : Nat) :
    Prop :=
  stage = ⟨s, unit, level, []⟩ ∧ reserved s = kinds

/-- Deindents that wait are handed out one after the other, and the source is not asked. -/
theorem handles_pending {kinds : ReservedKinds} {unit : List Char} {s inner : σ} {level : Nat}
    (live : Live kinds unit ⟨inner, unit, level, []⟩ (pop s).2 level) (pending : List Token) :
    Rewriter.Handles (Live kinds unit) ⟨⟨inner, unit, level, pending⟩, none, none⟩ s
      (pending.map fun token => ⟨.ok token, view inner⟩, .ok level) := by
  induction pending with
  | nil => exact Rewriter.handles_nil live
  | cons first rest ih =>
    have produced : LevelStage.next (⟨inner, unit, level, first :: rest⟩ : LevelStage σ) =
        (.ok first, ⟨inner, unit, level, rest⟩) := rfl
    exact Rewriter.handles_cons produced rfl ih

theorem handles {kinds : ReservedKinds} {unit : List Char} {stage : LevelStage σ} {s : σ}
    {level : Nat} (live : Live kinds unit stage s level) :
    Rewriter.Handles (Live kinds unit) ⟨stage, none, none⟩ s
      ((rewriter kinds unit).feed (.ok level) (answer s)) := by
  obtain ⟨rfl, rfl⟩ := live
  rcases popped : pop s with ⟨result, later⟩
  have given : answer s = ⟨result, view later⟩ := by rw [answer, popped]
  rw [given]
  cases result with
  | error failure => exact Rewriter.handles_error (LevelStage.next_of_error popped) rfl
  | ok token =>
    cases produced : rewriter (reserved s) unit level (view later) token with
    | error failure =>
      rw [Rewriter.feed_refused _ produced]
      exact Rewriter.handles_error (LevelStage.next_of_refused popped produced) rfl
    | ok handed =>
      obtain ⟨tokens, next⟩ := handed
      obtain ⟨first, rest, rfl⟩ := List.exists_cons_of_ne_nil (rewriter_ne_nil produced)
      rw [Rewriter.feed_ok _ produced]
      refine Rewriter.handles_cons (LevelStage.next_of_accepted popped produced) rfl
        (handles_pending ?_ rest)
      rw [popped]
      exact ⟨rfl, LevelStage.reserved_later popped⟩

/-- **The filter that counts levels hands out what its rewriter makes of the answers below.** -/
theorem renders (s : σ) (unit : List Char) :
    Renders (Leveled.of s unit) s ((rewriter (reserved s) unit).run (.ok 0)) :=
  Rewriter.renders_of_live handles (reserved s)
    (fun accepted => absurd rfl (rewriter_ne_nil accepted)) ⟨rfl, rfl, rfl, rfl⟩ rfl

end Leveled

end Offside
