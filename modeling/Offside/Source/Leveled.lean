/-
**Levels of indentation.**

A filter that counts indentation in units. An indent has to be a whole number of units and may open
one level at most; a deindent has to be a whole number of units as well, and if it closes several
levels at once it becomes that many deindents, one for each level, all at the place of the first.

* `repetitions?_eq_some_iff`: counting units inverts repeating them.
-/

import Offside.Source.Buffered

namespace Offside

/-- A unit written several times. -/
def repeatUnit (unit : List Char) (count : Nat) : List Char := (List.replicate count unit).flatten

/-- How often a unit is repeated in a text that consists of nothing else. -/
def repetitions? (unit text : List Char) : Option Nat :=
  let count := text.length / unit.length
  if repeatUnit unit count = text then some count else none

theorem length_repeatUnit (unit : List Char) (count : Nat) :
    (repeatUnit unit count).length = count * unit.length := by
  rw [repeatUnit, List.length_flatten, List.map_replicate, List.sum_replicate_nat]

theorem repetitions?_eq_some_iff {unit text : List Char} (nonempty : unit ≠ []) {count : Nat} :
    repetitions? unit text = some count ↔ text = repeatUnit unit count := by
  have positive : 0 < unit.length := List.length_pos_iff.mpr nonempty
  rw [repetitions?]
  constructor
  · intro counted
    split at counted
    · rename_i same
      injection counted with counted
      rw [← same, counted]
    · cases counted
  · rintro rfl
    rw [length_repeatUnit, Nat.mul_div_cancel _ positive, if_pos rfl]

/-- A source whose indentation is counted in units. -/
structure LevelStage (σ : Type) where
  inner : σ
  /-- One level of indentation. -/
  unit : List Char
  /-- The number of levels that are open. -/
  level : Nat := 0
  /-- Deindents that are still to be handed out. -/
  pending : List Token := []

namespace LevelStage

variable {σ : Type} [TokenSource σ]

open TokenSource

/-- A deindent to a level, at the place of another token. -/
def deindentTo (stage : LevelStage σ) (origin : Token) (level : Nat) : Token :=
  ⟨(reserved stage.inner).deindent, repeatUnit stage.unit level, origin.row, origin.column⟩

/-- The deindents that lead from one level to a lower one, step by step. -/
def deindents (stage : LevelStage σ) (origin : Token) (fromLevel toLevel : Nat) : List Token :=
  (List.range' toLevel (fromLevel - toLevel)).reverse.map (stage.deindentTo origin)

/-- A place at a token of the source. -/
def caretAt (stage : LevelStage σ) (token : Token) : Caret :=
  ⟨line stage.inner, token.row, token.column, padding stage.inner⟩

/-- Checks an indent. -/
def indent (stage : LevelStage σ) (token : Token) : Pulled (LevelStage σ) :=
  match repetitions? stage.unit token.text with
  | some level =>
    if level ≤ stage.level + 1 then (.ok token, { stage with level := level })
    else (.error (.invalidIndent (stage.caretAt token)), stage)
  | none => (.error (.invalidIndent (stage.caretAt token)), stage)

/-- Checks a deindent, and takes it apart if it closes several levels. -/
def deindent (stage : LevelStage σ) (token : Token) : Pulled (LevelStage σ) :=
  match repetitions? stage.unit token.text with
  | none => (.error (.invalidDeindent (stage.caretAt token)), stage)
  | some level =>
    if level + 1 < stage.level then
      match stage.deindents token stage.level level with
      | [] => (.ok token, { stage with level := level })
      | first :: later => (.ok first, { stage with level := level, pending := later })
    else (.ok token, { stage with level := level })

/-- Checks a token of the source. -/
def check (stage : LevelStage σ) (token : Token) : Pulled (LevelStage σ) :=
  if token.kind = (reserved stage.inner).indent then stage.indent token
  else if token.kind = (reserved stage.inner).deindent then stage.deindent token
  else (.ok token, stage)

/-- Produces the next token: a deindent that is still to be handed out, or the next token of the
source. -/
def next (stage : LevelStage σ) : Pulled (LevelStage σ) :=
  match stage.pending with
  | token :: pending => (.ok token, { stage with pending := pending })
  | [] =>
    match pop stage.inner with
    | (.error failure, inner) => (.error failure, { stage with inner := inner })
    | (.ok token, inner) => { stage with inner := inner }.check token

/-! ### The filter comes to an end -/

theorem inner_check (stage : LevelStage σ) (token : Token) :
    (stage.check token).2.inner = stage.inner := by
  rw [check]
  split
  · rw [indent]
    split
    · split <;> rfl
    · rfl
  · split
    · rw [deindent]
      split
      · rfl
      · split
        · split <;> rfl
        · rfl
    · rfl

/-- What the filter hands out for a token is of the kind of that token. -/
theorem kind_check {stage later : LevelStage σ} {token checked : Token}
    (accepted : stage.check token = (.ok checked, later)) : checked.kind = token.kind := by
  rw [check] at accepted
  split at accepted
  · rw [indent] at accepted
    split at accepted
    · split at accepted
      · simp_all
      · simp at accepted
    · simp at accepted
  · split at accepted
    · rename_i isDeindent
      rw [deindent] at accepted
      split at accepted
      · simp at accepted
      · split at accepted
        · split at accepted
          · simp_all
          · rename_i first others shape
            simp only [Prod.mk.injEq, Except.ok.injEq] at accepted
            obtain ⟨rfl, _⟩ := accepted
            have member := shape ▸ List.mem_cons_self (a := first) (l := others)
            obtain ⟨level, _, rfl⟩ := List.mem_map.mp member
            exact isDeindent.symm
        · simp_all
    · simp_all

theorem reserved_next (stage : LevelStage σ) :
    reserved stage.next.2.inner = reserved stage.inner := by
  rw [next]
  split
  · rfl
  · have kept := reserved_pop stage.inner
    split <;> rename_i popped <;> rw [popped] at kept
    · exact kept
    · rw [inner_check]
      exact kept

/-- How many of the deindents that are still to be handed out are not ends of input. -/
def waiting (stage : LevelStage σ) : Nat :=
  stage.pending.countP fun token => token.kind ≠ (reserved stage.inner).eof

/-- Behind an end of input of the source only ends of input wait. -/
theorem waiting_check {stage later : LevelStage σ} {token checked : Token}
    (empty : stage.pending = []) (isEof : token.kind = (reserved stage.inner).eof)
    (accepted : stage.check token = (.ok checked, later)) : later.waiting = 0 := by
  have nothing : ∀ level, waiting { stage with level := level } = 0 := by
    intro level
    rw [waiting, empty]
    rfl
  rw [check] at accepted
  split at accepted
  · rw [indent] at accepted
    split at accepted
    · split at accepted <;> cases accepted
      exact nothing _
    · cases accepted
  · split at accepted
    · rename_i isDeindent
      rw [deindent] at accepted
      split at accepted
      · cases accepted
      · split at accepted
        · split at accepted
          · cases accepted
            exact nothing _
          · rename_i first others shape
            simp only [Prod.mk.injEq, Except.ok.injEq] at accepted
            obtain ⟨_, rfl⟩ := accepted
            refine List.countP_eq_zero.mpr fun deindent member => ?_
            have listed := shape ▸ List.mem_cons_of_mem first member
            obtain ⟨level, _, rfl⟩ := List.mem_map.mp listed
            rw [decide_eq_true_iff]
            exact fun inside => inside (isDeindent.symm.trans isEof)
        · cases accepted
          exact nothing _
    · cases accepted
      exact nothing _

/-- A token that is produced waited, or is what becomes of a token of the source. -/
theorem next_cases {stage later : LevelStage σ} {token : Token}
    (produced : stage.next = (.ok token, later)) :
    (∃ pending, stage.pending = token :: pending ∧ later = { stage with pending := pending }) ∨
      ∃ pulled, pop stage.inner = (.ok pulled, later.inner) ∧ token.kind = pulled.kind ∧
        (pulled.kind = (reserved stage.inner).eof → later.waiting = 0) := by
  rw [next] at produced
  split at produced
  · rename_i pending shape
    cases produced
    exact .inl ⟨pending, shape, rfl⟩
  · rename_i empty
    split at produced
    · cases produced
    · rename_i pulled inner popped
      have sameInner := inner_check { stage with inner := inner } pulled
      rw [produced] at sameInner
      have kept := reserved_pop stage.inner
      rw [popped] at kept
      refine .inr ⟨pulled, ?_, kind_check produced, fun isEof => ?_⟩
      · rw [popped, sameInner]
      · have isEof : pulled.kind = (reserved inner).eof := kept ▸ isEof
        exact @waiting_check _ _ { stage with inner := inner } _ _ _ empty isEof produced

theorem ends : WellFounded (Advances (fun stage : LevelStage σ => reserved stage.inner) next) := by
  refine Advances.wellFounded_of_rank (Prod.lex ⟨_, TokenSource.ends (σ := σ)⟩ Nat.lt_wfRel).wf
    (fun stage => (stage.inner, stage.waiting)) (fun {stage later token} produced less below => ?_)
    (fun {stage later token} produced inside => ?_)
  · rcases next_cases produced with ⟨pending, shape, rfl⟩ | ⟨pulled, popped, _, silent⟩
    · cases below with
      | left _ _ advances => exact .left _ _ advances
      | right _ fewer =>
        refine .right _ (Nat.lt_of_lt_of_le fewer ?_)
        rw [waiting, waiting, shape]
        exact (List.sublist_cons_self _ _).countP_le
    · cases below with
      | left _ _ advances => exact .left _ _ (.more popped advances)
      | right _ fewer =>
        by_cases isEof : pulled.kind = (reserved stage.inner).eof
        · rw [silent isEof] at fewer
          exact absurd fewer (Nat.not_lt_zero _)
        · exact .left _ _ (.last popped isEof)
  · rcases next_cases produced with ⟨pending, shape, rfl⟩ | ⟨pulled, popped, sameKind, _⟩
    · refine .right _ ?_
      have counted : stage.waiting = waiting { stage with pending := pending } + 1 := by
        rw [waiting, shape]
        exact List.countP_cons_of_pos (decide_eq_true inside)
      rw [counted]
      exact Nat.lt_succ_self _
    · exact .left _ _ (.last popped (sameKind ▸ inside))

instance : TokenStage (LevelStage σ) where
  reserved stage := reserved stage.inner
  next := next
  line stage := line stage.inner
  padding stage := padding stage.inner
  reserved_next := reserved_next
  ends := ends

end LevelStage

/-- A source whose indentation is counted in units. -/
abbrev Leveled (σ : Type) := Buffered (LevelStage σ)

namespace Leveled

variable {σ : Type}

/-- Counts the indentation of a source in units. -/
def of (inner : σ) (unit : List Char) : Leveled σ := ⟨{ inner, unit }, none, none⟩

/-- Counts the indentation of a source in units, which may not be empty. -/
def of? (inner : σ) (unit : List Char) : Except RuleError (Leveled σ) :=
  if unit = [] then .error .emptyIndentUnit else .ok (of inner unit)

/-- The number of levels that are open after the last token. -/
def level (source : Leveled σ) : Nat := source.stage.level

end Leveled

end Offside
