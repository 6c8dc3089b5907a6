/-
**Indents and deindents tell the depth.**

The width of the indentation that a scanner remembers, its depth, changes with the indents and
deindents that it hands out and with nothing else: each of them carries as many characters as the
new depth. `Shifts` says this of one token, and `Measured` of a source that knows some depth.

A source that was peeked at is ahead of the tokens that were taken from it. This does no harm as
long as what it holds back is neither an indent nor a deindent; the states in which this is so are
called calm.

* `shifts_next`: a scanner shifts its depth with every token;
* `measured_scanner`, `Measured.inl`, `Measured.collapsed`: a calm scanner, alone or with its
  newlines collapsed, is measured by its depth. Collapsing looks ahead, but never past an indent or
  deindent that it does not hand out.
-/

import Offside.Proofs.Calls
import Offside.Proofs.Collapsing
import Offside.Proofs.LineByLine
import Offside.Source.Stack

namespace Offside

open Text TokenSource

/-! ### Scanners -/

/-- How a token changes the depth: an indent or a deindent carries the new one, and any other token
leaves it as it is. -/
def Shifts (kinds : ReservedKinds) (token : Token) (before after : Nat) : Prop :=
  if token.kind = kinds.indent then before < after ∧ token.text.length = after
  else if token.kind = kinds.deindent then after < before ∧ token.text.length = after
  else after = before

theorem Shifts.of_plain {kinds : ReservedKinds} {token : Token} (plain : Plain kinds token)
    (depth : Nat) : Shifts kinds token depth depth := by
  unfold Shifts
  rw [if_neg plain.1, if_neg plain.2]

theorem Shifts.eq_of_plain {kinds : ReservedKinds} {token : Token} {before after : Nat}
    (shifts : Shifts kinds token before after) (plain : Plain kinds token) : after = before := by
  unfold Shifts at shifts
  rwa [if_neg plain.1, if_neg plain.2] at shifts

namespace ScanState

variable {state later : ScanState} {token : Token}

/-- The layout of a line shifts the depth to the width of its blanks. -/
theorem shifts_layoutKind (distinct : state.lexicon.reserved.Distinct) (blanks : List Char)
    (row : Nat) :
    Shifts state.lexicon.reserved ⟨state.layoutKind blanks.length, blanks, row, 1⟩ state.depth
      blanks.length := by
  unfold Shifts
  simp only
  rcases Nat.lt_trichotomy state.depth blanks.length with wider | same | narrower
  · rw [layoutKind_of_wider wider, if_pos rfl]
    exact ⟨wider, trivial⟩
  · rw [layoutKind_of_same same.symm, if_neg distinct.newline_ne_indent,
      if_neg distinct.newline_ne_deindent]
    exact same.symm
  · rw [layoutKind_of_narrower narrower, if_neg (Ne.symm distinct.indent_ne_deindent), if_pos rfl]
    exact ⟨narrower, trivial⟩

theorem shifts_nextLine (distinct : state.lexicon.reserved.Distinct)
    (produced : state.nextLine = (.ok token, later)) :
    Shifts state.lexicon.reserved token state.depth later.depth := by
  rw [nextLine] at produced
  split at produced
  · cases produced
    exact .of_plain (distinct.plain_of_eof rfl) _
  · cases produced
  · rename_i line unread _
    cases produced
    show Shifts _ (state.enterLine line state.row unread).1 _
      (state.enterLine line state.row unread).2.depth
    rw [depth_enterLine]
    by_cases blank : isBlankLine line
    · rw [marker_of_blank state blank, if_pos blank]
      exact .of_plain (distinct.plain_of_newline rfl) _
    · rw [marker_of_inked state blank, if_neg blank]
      exact shifts_layoutKind distinct _ _

theorem shifts_scanContent (sound : state.lexicon.Sound)
    (produced : state.scanContent = (.ok token, later)) :
    Shifts state.lexicon.reserved token state.depth later.depth := by
  fun_induction scanContent state with
  | case1 => exact shifts_nextLine sound.distinct produced
  | case2 => cases produced
  | case3 state _ found _ _ ih => exact ih sound produced
  | case4 state _ found matched _ =>
    cases produced
    exact .of_plain (ReservedKinds.plain_of_free (sound.contains_eq_false matched)) _

theorem lexicon_of_next {result : Except Failure Token} (produced : state.next = (result, later)) :
    later.lexicon = state.lexicon := by
  have kept := lexicon_next state
  rwa [produced] at kept

/-- Every token of a scanner shifts its depth. -/
theorem shifts_next (sound : state.lexicon.Sound) (produced : state.next = (.ok token, later)) :
    Shifts state.lexicon.reserved token state.depth later.depth := by
  rw [next] at produced
  split at produced
  · exact shifts_scanContent sound produced
  · exact shifts_nextLine sound.distinct produced
  · exact shifts_nextLine sound.distinct produced

end ScanState

/-! ### Measured sources -/

/-- In calm states every token that is popped shifts the depth of the source. -/
structure Measured {σ : Type} [TokenSource σ] (kinds : ReservedKinds) (depth : σ → Nat)
    (Calm : σ → Prop) : Prop where
  reserved : ∀ {s}, Calm s → TokenSource.reserved s = kinds
  pop : ∀ {s token later}, Calm s → TokenSource.pop s = (.ok token, later) →
    Calm later ∧ Shifts kinds token (depth s) (depth later)
  /-- Tokens that are neither indents nor deindents may be held back. -/
  peek : ∀ {s token later}, Calm s → TokenSource.peek s = (.ok token, later) → Plain kinds token →
    Calm later ∧ depth later = depth s

/-- A buffer that holds back neither an indent nor a deindent, around a stage in a good state. -/
structure Buffered.Calm {ζ : Type} (kinds : ReservedKinds) (Good : ζ → Prop) (source : Buffered ζ) :
    Prop where
  stage : Good source.stage
  lookahead : ∀ token, source.lookahead = some token → Plain kinds token

/-- A buffer is measured if its stage shifts the depth with every token. -/
theorem measured_of_next {ζ : Type} [TokenStage ζ] {kinds : ReservedKinds} (depth : ζ → Nat)
    {Good : ζ → Prop} (reserved : ∀ stage, Good stage → TokenStage.reserved stage = kinds)
    (next : ∀ stage token later, Good stage → TokenStage.next stage = (.ok token, later) →
      Good later ∧ Shifts kinds token (depth stage) (depth later)) :
    Measured kinds (fun source : Buffered ζ => depth source.stage) (Buffered.Calm kinds Good) where
  reserved calm := reserved _ calm.stage
  pop := by
    intro source token later calm popped
    rcases Buffered.pop_eq_ok popped with ⟨buffered, rfl⟩ | ⟨_, _, stage, produced, rfl⟩
    · exact ⟨⟨calm.stage, of_none⟩, .of_plain (calm.lookahead token buffered) _⟩
    · obtain ⟨good, shifts⟩ := next _ _ _ calm.stage produced
      exact ⟨⟨good, of_none⟩, shifts⟩
  peek := by
    intro source token later calm shown plain
    rcases Buffered.peek_eq_ok shown with ⟨_, rfl⟩ | ⟨_, _, stage, produced, rfl⟩
    · exact ⟨calm, rfl⟩
    · obtain ⟨good, shifts⟩ := next _ _ _ calm.stage produced
      exact ⟨⟨good, fun _ now => Option.some.inj now ▸ plain⟩, shifts.eq_of_plain plain⟩

/-- A scanner over sound rules is measured by its depth. -/
theorem measured_scanner {lexicon : Lexicon} (sound : lexicon.Sound) :
    Measured lexicon.reserved Scanner.depth
      (Buffered.Calm lexicon.reserved fun state : ScanState => state.lexicon = lexicon) := by
  refine measured_of_next ScanState.depth (fun _ same => congrArg Lexicon.reserved same) ?_
  intro state token later same produced
  subst same
  exact ⟨ScanState.lexicon_of_next produced, ScanState.shifts_next sound produced⟩

namespace Measured

variable {σ τ : Type} [TokenSource σ] [TokenSource τ] {kinds : ReservedKinds} {depth : σ → Nat}
  {Calm : σ → Prop}

/-- One of two sources is measured as it is alone. -/
theorem inl (measured : Measured kinds depth Calm) :
    Measured kinds (Sum.elim depth (fun _ : τ => 0)) (Sum.elim Calm (fun _ : τ => False)) where
  reserved := by
    rintro (s | s) calm
    · exact measured.reserved calm
    · exact calm.elim
  pop := by
    rintro (s | s) token later calm popped
    · rcases inner : TokenSource.pop s with ⟨result, next⟩
      have wrapped : TokenSource.pop (Sum.inl s : σ ⊕ τ) = (result, .inl next) :=
        congrArg (mapSource Sum.inl) inner
      rw [wrapped] at popped
      cases popped
      exact measured.pop calm inner
    · exact calm.elim
  peek := by
    rintro (s | s) token later calm shown plain
    · rcases inner : TokenSource.peek s with ⟨result, next⟩
      have wrapped : TokenSource.peek (Sum.inl s : σ ⊕ τ) = (result, .inl next) :=
        congrArg (mapSource Sum.inl) inner
      rw [wrapped] at shown
      cases shown
      exact measured.peek calm inner plain
    · exact calm.elim

/-- A run of newlines changes no depth, and shows the token behind it. -/
theorem runs (measured : Measured kinds depth Calm) (distinct : kinds.Distinct) {s later : σ}
    {last result : Option Token} {seen : Token} (calm : Calm s)
    (newlines : ∀ newline, last = some newline → newline.kind = kinds.newline)
    (runs : CollapseStage.Runs s last (.ok (result, seen), later)) :
    (∀ newline, result = some newline → newline.kind = kinds.newline) ∧
      ∃ base, Calm base ∧ depth base = depth s ∧ TokenSource.peek base = (.ok seen, later) := by
  generalize shape : ((.ok (result, seen), later) : CollapseStage.Found σ) = found at runs
  induction runs with
  | failure => cases shape
  | newline popped isNewline _ ih =>
    rw [measured.reserved calm] at isNewline
    obtain ⟨calmNext, shifts⟩ := measured.pop calm popped
    have level := shifts.eq_of_plain (distinct.plain_of_newline isNewline)
    obtain ⟨results, base, calmBase, depths, shows⟩ :=
      ih calmNext (fun _ now => Option.some.inj now ▸ isNewline) shape
    exact ⟨results, base, calmBase, depths.trans level, shows⟩
  | other popped _ =>
    cases shape
    exact ⟨newlines, _, calm, rfl, peek_of_pop popped⟩

/-- **Collapsing newlines keeps a source measured.** -/
theorem collapsed (measured : Measured kinds depth Calm) (distinct : kinds.Distinct) :
    Measured kinds (fun source : Collapsed σ => depth source.stage.inner)
      (Buffered.Calm kinds fun stage : CollapseStage σ => Calm stage.inner) := by
  have names : ∀ stage : CollapseStage σ, Calm stage.inner → TokenStage.reserved stage = kinds :=
    fun _ calm => measured.reserved calm
  refine measured_of_next (fun stage => depth stage.inner) names ?_
  intro stage token later calm produced
  have produced : CollapseStage.next stage = (.ok token, later) := produced
  have nothing : ∀ newline : Token, none = some newline → newline.kind = kinds.newline :=
    of_none
  rcases CollapseStage.next_cases produced with
    ⟨last, seen, before, runs, popped⟩ | ⟨seen, runs, kept⟩
  · -- Behind the newlines the token that was looked at comes with the next pop of the source.
    obtain ⟨_, base, calmBase, depths, shows⟩ := measured.runs distinct calm nothing runs
    have fromBase : TokenSource.pop base = (.ok token, later.inner) := by
      rw [← pop_peek, shows, popped]
    show Calm later.inner ∧ Shifts kinds token (depth stage.inner) (depth later.inner)
    rw [← depths]
    exact measured.pop calmBase fromBase
  · -- A newline is kept only before a token that changes no depth.
    have seenPlain : Plain kinds seen := by
      unfold CollapseStage.drops at kept
      simp only [measured.reserved calm, Bool.or_eq_true, beq_iff_eq, not_or] at kept
      exact ⟨kept.1.2, kept.2⟩
    obtain ⟨newlines, base, calmBase, depths, shows⟩ := measured.runs distinct calm nothing runs
    obtain ⟨calmAhead, same⟩ := measured.peek calmBase shows seenPlain
    refine ⟨calmAhead, ?_⟩
    show Shifts kinds token (depth stage.inner) (depth later.inner)
    rw [same, depths]
    exact .of_plain (distinct.plain_of_newline (newlines token rfl)) _

end Measured

end Offside
