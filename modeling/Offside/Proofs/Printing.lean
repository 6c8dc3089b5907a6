/-
**Reading printed tokens back.**

Tokens are printed one a line, with their texts as they are: nothing is escaped, so that a text may
look like the rest of its own line, `x') @ 1:1`, or like other tokens. Each line can be read back
all the same, from both ends. Behind the last colon stands the column and behind the last blank the
row; in front, the kind ends where `('` first occurs. What is left between them is the text,
whatever it is.

Only a line feed would be read as the end of a line. A scanner hands out pieces of lines, collapsing
hands out what it gets, and counting levels writes units of indentation, but only ever fewer of them
than it has found in a text.

* `eq_of_append_cons`: a list is cut at the last separator in one way;
* `Token.render_injOn`, `Token.renderAll_injOn`: printing loses nothing of tokens that are legible;
* `Yields`: what holds of all tokens that a source hands out, whatever is asked of it;
  `yields_buffered` is the run for the stages of a stack, and each stage has its step;
* `printing`: printed lists are unambiguous, and the texts of a pipeline are as they need to be.
-/

import Offside.Proofs.Absorbing
import Offside.Proofs.Appending
import Offside.Proofs.Compiling

namespace Offside

open Text TokenSource

/-! ### Cutting at the last separator -/

/-- A list is cut at the last separator in one way. -/
theorem eq_of_append_cons {α : Type} {separator : α} {front front' back back' : List α}
    (free : separator ∉ back) (free' : separator ∉ back')
    (same : front ++ separator :: back = front' ++ separator :: back') :
    front = front' ∧ back = back' := by
  -- If one front is longer, the other separator stands behind the last one.
  have shorter : ∀ {between left right : List α}, separator ∉ left →
      separator :: left = between ++ separator :: right → between = [] ∧ left = right := by
    intro between left right free onward
    cases between with
    | nil => exact ⟨rfl, (List.cons.inj onward).2⟩
    | cons head between =>
      rw [(List.cons.inj onward).2] at free
      exact absurd (List.mem_append_right _ List.mem_cons_self) free
  rcases List.append_eq_append_iff.mp same with ⟨between, shape, onward⟩ | ⟨between, shape, onward⟩
  · obtain ⟨rfl, backs⟩ := shorter free onward
    exact ⟨(shape.trans (List.append_nil _)).symm, backs⟩
  · obtain ⟨rfl, backs⟩ := shorter free' onward
    exact ⟨shape.trans (List.append_nil _), backs.symm⟩

namespace Text

theorem decimal_injective : Function.Injective decimal := by
  intro first second same
  have read := congrArg (Nat.ofDigitChars 10 · 0) same
  simp only [decimal] at read
  rwa [Nat.ofDigitChars_toDigits (by decide) (by decide),
    Nat.ofDigitChars_toDigits (by decide) (by decide)] at read

/-- Only digits are in a number. -/
theorem notMem_decimal {c : Char} (other : c.isDigit = false) (n : Nat) : c ∉ decimal n := by
  intro member
  rw [Nat.isDigit_of_mem_toDigits (by decide) (by decide) member] at other
  cases other

end Text

/-! ### Tokens -/

namespace Token

/-- No line feed is in the text. -/
def Unbroken (token : Token) : Prop := '\n' ∉ token.text

/-- What it takes to read a token back: a line ends in neither its kind nor its text, and what
begins a text is not in its kind. -/
structure Legible (token : Token) : Prop where
  unbroken : token.Unbroken
  kind_unbroken : '\n' ∉ token.kind.toList
  kind_closed : ¬ ['(', '\''] <:+: token.kind.toList

instance (token : Token) : Decidable token.Unbroken := inferInstanceAs (Decidable (_ ∉ _))

instance (token : Token) : Decidable token.Legible :=
  decidable_of_iff (token.Unbroken ∧ '\n' ∉ token.kind.toList ∧
    ¬ ['(', '\''] <:+: token.kind.toList)
    ⟨fun ⟨text, kind, closed⟩ => ⟨text, kind, closed⟩,
      fun ⟨text, kind, closed⟩ => ⟨text, kind, closed⟩⟩

/-- A kind ends where a text first begins. -/
theorem eq_of_append_quote {kind kind' text text' : List Char} (closed : ¬ ['(', '\''] <:+: kind)
    (closed' : ¬ ['(', '\''] <:+: kind')
    (same : kind ++ ['(', '\''] ++ text = kind' ++ ['(', '\''] ++ text') :
    kind = kind' ∧ text = text' := by
  -- Of two kinds one is the beginning of the other; if it is shorter, the other goes on with a
  -- quote.
  have shorter : ∀ {first second between left right : List Char}, ¬ ['(', '\''] <:+: second →
      second = first ++ between → ['(', '\''] ++ left = between ++ (['(', '\''] ++ right) →
      first = second ∧ left = right := by
    rintro first second between left right closed rfl onward
    match between with
    | [] => exact ⟨(List.append_nil _).symm, List.append_cancel_left onward⟩
    | [c] =>
      injection onward with _ onward
      injection onward with absurdity
      exact absurd absurdity (by decide)
    | c :: d :: between =>
      injection onward with first onward
      injection onward with second
      subst first second
      exact absurd (List.infix_append' _ _ _ : ['(', '\''] <:+: _ ++ (['(', '\''] ++ between))
        closed
  rw [List.append_assoc, List.append_assoc] at same
  rcases List.append_eq_append_iff.mp same with ⟨between, shape, onward⟩ | ⟨between, shape, onward⟩
  · exact shorter closed' shape onward
  · obtain ⟨kinds, texts⟩ := shorter closed shape onward
    exact ⟨kinds.symm, texts.symm⟩

/-- **A legible token is read back from its line**: the column behind the last colon, the row behind
the last blank, the kind in front of the first quote. -/
theorem render_injOn {first second : Token} (legible : first.Legible) (legible' : second.Legible)
    (same : first.render = second.render) : first = second := by
  have colon : (':' : Char).isDigit = false := by decide
  have blank : (' ' : Char).isDigit = false := by decide
  have spelled : ∀ token : Token, token.render =
      (token.label ++ [' ', '@'] ++ ' ' :: decimal token.row) ++ ':' :: decimal token.column := by
    intro token
    simp only [render, List.append_assoc, List.cons_append, List.nil_append]
  rw [spelled, spelled] at same
  obtain ⟨same, column⟩ := eq_of_append_cons (notMem_decimal colon _) (notMem_decimal colon _) same
  obtain ⟨same, row⟩ := eq_of_append_cons (notMem_decimal blank _) (notMem_decimal blank _) same
  have labels : first.label = second.label := List.append_cancel_right same
  obtain ⟨kind, text⟩ := eq_of_append_quote legible.kind_closed legible'.kind_closed
    (List.append_cancel_right labels)
  cases first
  cases second
  cases String.toList_injective kind
  cases text
  cases decimal_injective row
  cases decimal_injective column
  rfl

/-- A legible token is printed on one line. -/
theorem notMem_render {token : Token} (legible : token.Legible) : '\n' ∉ token.render := by
  have feed : ('\n' : Char).isDigit = false := by decide
  have unbroken : '\n' ∉ token.text := legible.unbroken
  simp [render, label, unbroken, legible.kind_unbroken, notMem_decimal feed]

theorem eq_of_map_render {first second : List Token} (legible : ∀ token ∈ first, token.Legible)
    (legible' : ∀ token ∈ second, token.Legible) (same : first.map render = second.map render) :
    first = second := by
  induction first generalizing second with
  | nil => exact (List.map_eq_nil_iff.mp same.symm).symm
  | cons token first ih =>
    cases second with
    | nil => cases same
    | cons token' second =>
      obtain ⟨head, tail⟩ := List.cons.inj same
      rw [List.forall_mem_cons] at legible legible'
      rw [render_injOn legible.1 legible'.1 head, ih legible.2 legible'.2 tail]

/-- The lines of what is printed are those of the tokens. -/
theorem splitOn_renderAll {tokens : List Token} (legible : ∀ token ∈ tokens, token.Legible)
    (some : tokens ≠ []) : (renderAll tokens).splitOn '\n' = tokens.map render := by
  refine List.splitOn_intercalate '\n' (fun line member => ?_) (List.map_eq_nil_iff.not.mpr some)
  obtain ⟨token, listed, rfl⟩ := List.mem_map.mp member
  exact notMem_render (legible token listed)

/-- Only where there are no tokens nothing is printed. -/
theorem eq_nil_of_renderAll {tokens : List Token} (legible : ∀ token ∈ tokens, token.Legible)
    (nothing : renderAll tokens = []) : tokens = [] := by
  by_contra some
  have lines := splitOn_renderAll legible some
  rw [nothing, List.splitOn_nil] at lines
  obtain ⟨token, _, empty⟩ : ∃ token ∈ tokens, token.render = [] :=
    List.mem_map.mp (lines ▸ List.mem_singleton_self [])
  have colon : ':' ∈ token.render := by simp [render]
  rw [empty] at colon
  cases colon

/-- **Legible tokens are read back from what is printed**, line by line. -/
theorem renderAll_injOn {first second : List Token} (legible : ∀ token ∈ first, token.Legible)
    (legible' : ∀ token ∈ second, token.Legible) (same : renderAll first = renderAll second) :
    first = second := by
  by_cases none : first = []
  · subst none
    exact (eq_nil_of_renderAll legible' same.symm).symm
  · by_cases none' : second = []
    · subst none'
      exact eq_nil_of_renderAll legible same
    · refine eq_of_map_render legible legible' ?_
      rw [← splitOn_renderAll legible none, ← splitOn_renderAll legible' none', same]

end Token

/-! ### What holds of all tokens of a source -/

/-- All tokens that a source shows or hands out, whatever is asked of it, have a property. -/
def Yields {σ : Type} [TokenSource σ] (holds : Token → Prop) (s : σ) : Prop :=
  ∀ consumer, ∀ answer ∈ (calls s consumer).1, ∀ token, answer.2 = .ok token → holds token

/-- What a step produces has a property, if it is a token, and what it leads to has another one. -/
def Produces {σ : Type} (holds : Token → Prop) (good : σ → Prop) (result : Pulled σ) : Prop :=
  (∀ token, result.1 = .ok token → holds token) ∧ good result.2

section Yields

variable {σ : Type} {holds : Token → Prop} {good : σ → Prop} {s : σ}

theorem Produces.token {token : Token} (here : holds token) (onward : good s) :
    Produces holds good (.ok token, s) :=
  ⟨fun _ same => Except.ok.inj same ▸ here, onward⟩

theorem Produces.failure (failure : Failure) (onward : good s) :
    Produces holds good (.error failure, s) := by
  refine ⟨fun token result => ?_, onward⟩
  cases result

variable [TokenSource σ]

theorem Yields.call (yields : Yields holds s) (next : Call) :
    Produces holds (Yields holds) (TokenSource.call s next) := by
  refine ⟨fun token result => ?_, fun consumer answer member => ?_⟩
  · exact yields [next] _ List.mem_cons_self token result
  · exact yields (next :: consumer) answer (List.mem_cons_of_mem _ member)

/-- What every call preserves, and requires of its token, holds of all tokens. -/
theorem yields_of_step (step : ∀ s next, good s → Produces holds good (call s next))
    (start : good s) : Yields holds s := by
  intro consumer
  induction consumer generalizing s with
  | nil => exact fun _ absent => absurd absent List.not_mem_nil
  | cons next consumer ih =>
    obtain ⟨here, onward⟩ := step s next start
    intro answer member
    rcases List.mem_cons.mp member with rfl | member
    · exact here
    · exact ih onward answer member

theorem Yields.of_mem_results (yields : Yields holds s) {count : Nat} {token : Token}
    (member : .ok token ∈ results s count) : holds token := by
  induction count generalizing s with
  | zero => cases member
  | succ count ih =>
    obtain ⟨here, onward⟩ := yields.call .pop
    rcases List.mem_cons.mp member with first | member
    · exact here token first.symm
    · exact ih onward member

/-- What holds of the tokens of a source holds of all tokens up to its end. -/
theorem Yields.of_mem_collect (yields : Yields holds s) {tokens : List Token}
    (collected : collect s = .ok tokens) {token : Token} (member : token ∈ tokens) :
    holds token := by
  obtain ⟨count, terminated⟩ := exists_terminated s
  rw [collect, rest_of_terminated terminated] at collected
  obtain ⟨result, listed, same⟩ :=
    exists_of_mem_forall₂ (mapM_eq_ok_iff.mp collected).flip member
  have same : result = .ok token := same
  exact yields.of_mem_results (same ▸ listed)

end Yields

/-- What is kept behind a peek is what it has shown. -/
theorem Buffered.peek_of_lookahead {ζ : Type} [TokenStage ζ] {source : Buffered ζ} {token : Token}
    (kept : source.peek.2.lookahead = some token) : source.peek.1 = .ok token := by
  rcases shown : source.peek with ⟨result, later⟩
  rw [shown] at kept
  cases result with
  | error failure =>
    rw [show later.lookahead = none from (failure_of_peek_error shown).1] at kept
    cases kept
  | ok seen =>
    have same : later.lookahead = some seen := by
      rcases peek_eq_ok shown with ⟨buffered, rfl⟩ | ⟨_, _, stage, _, rfl⟩
      · exact buffered
      · rfl
    rw [show later.lookahead = some token from kept] at same
    exact congrArg Except.ok (Option.some.inj same).symm

section Buffer

variable {ζ : Type} [TokenStage ζ] {holds : Token → Prop} {good : ζ → Prop}

/-- A stage with lookahead that has one property, where a token that is kept back has another
one. -/
structure Buffered.Keeps (holds : Token → Prop) (good : ζ → Prop) (source : Buffered ζ) : Prop where
  stage : good source.stage
  lookahead : ∀ token, source.lookahead = some token → holds token

theorem Buffered.Keeps.pop {source : Buffered ζ} (keeps : source.Keeps holds good)
    (step : ∀ stage, good stage → Produces holds good (TokenStage.next stage)) :
    Produces holds (fun later => good later.stage) (TokenSource.pop source) := by
  obtain ⟨stage, lookahead, failure⟩ := source
  obtain ⟨start, kept⟩ := keeps
  cases lookahead with
  | some token => exact .token (kept token rfl) start
  | none =>
    cases failure with
    | some failure => exact .failure failure start
    | none =>
      have produced := step stage start
      show Produces _ _ (Buffered.pop _)
      rw [Buffered.pop]
      simp only
      split <;> rename_i result <;> rw [result] at produced
      · exact produced
      · exact .failure _ produced.2

theorem Buffered.Keeps.call {source : Buffered ζ} (keeps : source.Keeps holds good)
    (step : ∀ stage, good stage → Produces holds good (TokenStage.next stage)) (next : Call) :
    Produces holds (Buffered.Keeps holds good) (TokenSource.call source next) := by
  obtain ⟨here, onward⟩ := keeps.pop step
  cases next with
  | pop =>
    have emptied : (TokenSource.call source .pop).2.lookahead = none := lookahead_pop source
    refine ⟨here, onward, fun token shown => ?_⟩
    rw [emptied] at shown
    cases shown
  | peek =>
    have shows : ∀ token, (TokenSource.peek source).1 = .ok token → holds token := by
      rw [TokenSource.peek_result]
      exact here
    refine ⟨shows, ?_, fun token kept => shows token (peek_of_lookahead kept)⟩
    show good (Buffered.peek source).2.stage
    rw [stage_peek]
    exact onward

/-- **What every step of a stage preserves, and requires of its token, holds of all tokens** that
are handed out with lookahead. -/
theorem yields_buffered (step : ∀ stage, good stage → Produces holds good (TokenStage.next stage))
    {stage : ζ} (start : good stage) : Yields holds (⟨stage, none, none⟩ : Buffered ζ) := by
  have fresh : Buffered.Keeps holds good ⟨stage, none, none⟩ := by
    refine ⟨start, fun token kept => ?_⟩
    cases kept
  exact yields_of_step (fun _ next keeps => keeps.call step next) fresh

end Buffer

/-! ### Filters -/

namespace Collapsed

variable {σ : Type} [TokenSource σ] {holds : Token → Prop}

theorem yields_of_runs {inner : σ} {last : Option Token} {found : CollapseStage.Found σ}
    (runs : CollapseStage.Runs inner last found) (yields : Yields holds inner)
    (kept : ∀ token, last = some token → holds token) :
    (∀ newline seen, found.1 = .ok (some newline, seen) → holds newline) ∧
      Yields holds found.2 := by
  induction runs with
  | failure => exact ⟨fun _ _ absent => (by cases absent), (yields.call .peek).2⟩
  | newline popped _ _ ih =>
    obtain ⟨here, behind⟩ := yields.call .pop
    rw [TokenSource.call, popped] at here behind
    exact ih behind fun token same => Option.some.inj same ▸ here _ rfl
  | other =>
    exact ⟨fun newline _ same => kept newline (Prod.mk.inj (Except.ok.inj same)).1,
      (yields.call .peek).2⟩

/-- Collapsing newlines hands out tokens of its source only. -/
theorem yields {inner : σ} (yields : Yields holds inner) (trim : Bool) :
    Yields holds (Collapsed.of inner trim) := by
  refine @yields_buffered (CollapseStage σ) _ holds (fun stage => Yields holds stage.inner) ?_ _
    yields
  intro stage below
  have nothing : ∀ token : Token, none = some token → holds token := fun _ => of_none _
  constructor
  · intro token produced
    rcases CollapseStage.next_cases (Prod.ext produced rfl) with
      ⟨last, seen, before, runs, popped⟩ | ⟨seen, runs, _⟩
    · have onward := (yields_of_runs runs below nothing).2
      exact (onward.call .pop).1 token (congrArg Prod.fst popped)
    · exact (yields_of_runs runs below nothing).1 token seen rfl
  · show Yields holds (CollapseStage.next stage).2.inner
    rcases CollapseStage.inner_next stage with same | ⟨found, runs, same | same⟩ <;> rw [same]
    · exact below
    · exact (yields_of_runs runs below nothing).2
    · exact ((yields_of_runs runs below nothing).2.call .pop).2

end Collapsed

namespace Leveled

variable {σ : Type} [TokenSource σ]

/-- A text that a unit is found in, but no line feed, has no line feed in the unit. -/
theorem unbroken_of_repetitions {unit text : List Char} {count : Nat} (unbroken : '\n' ∉ text)
    (counted : repetitions? unit text = some count) : count = 0 ∨ '\n' ∉ unit := by
  have same : repeatUnit unit count = text := by
    rw [repetitions?] at counted
    split at counted
    · rename_i whole
      rwa [Option.some.inj counted] at whole
    · cases counted
  refine (Nat.eq_zero_or_pos count).imp_right fun positive member => unbroken ?_
  rw [← same, repeatUnit]
  exact List.mem_flatten.mpr ⟨unit, List.mem_replicate.mpr ⟨positive.ne', rfl⟩, member⟩

theorem notMem_repeatUnit {unit : List Char} (unbroken : '\n' ∉ unit) (count : Nat) :
    '\n' ∉ repeatUnit unit count := by
  intro member
  obtain ⟨piece, copies, member⟩ := List.mem_flatten.mp member
  rw [(List.mem_replicate.mp copies).2] at member
  exact unbroken member

/-- A filter that has found units in texts without line feeds, and writes no others. -/
structure Clean (stage : LevelStage σ) : Prop where
  inner : Yields Token.Unbroken stage.inner
  pending : ∀ token ∈ stage.pending, token.Unbroken
  /-- Levels are open only of a unit that was found in a text. -/
  unit : stage.level = 0 ∨ '\n' ∉ stage.unit

theorem produces_check {stage : LevelStage σ} {token : Token} (clean : Clean stage)
    (unbroken : token.Unbroken) : Produces Token.Unbroken Clean (stage.check token) := by
  have plain : ∀ {level : Nat}, level = 0 ∨ '\n' ∉ stage.unit →
      Produces Token.Unbroken Clean (.ok token, { stage with level := level }) := fun unit =>
    .token unbroken ⟨clean.inner, clean.pending, unit⟩
  rw [LevelStage.check]
  split
  · rw [LevelStage.indent]
    split
    · rename_i level counted
      split
      · exact plain (unbroken_of_repetitions unbroken counted)
      · exact .failure _ clean
    · exact .failure _ clean
  · split
    · rw [LevelStage.deindent]
      split
      · exact .failure _ clean
      · rename_i level counted
        split
        · rename_i several
          -- Levels are closed, so that some were open.
          have free :=
            clean.unit.resolve_left (Nat.ne_of_gt (Nat.lt_of_le_of_lt (Nat.zero_le _) several))
          have written : ∀ step ∈ stage.deindents token stage.level level, step.Unbroken := by
            intro step member
            obtain ⟨count, _, rfl⟩ := List.mem_map.mp member
            exact notMem_repeatUnit free count
          split
          · exact plain (.inr free)
          · rename_i first later shape
            rw [shape, List.forall_mem_cons] at written
            exact .token written.1 ⟨clean.inner, written.2, .inr free⟩
        · exact plain (unbroken_of_repetitions unbroken counted)
    · exact plain clean.unit

/-- **Counting levels writes no line feeds**, even if there are some in the unit. -/
theorem yields {inner : σ} (yields : Yields Token.Unbroken inner) (unit : List Char) :
    Yields Token.Unbroken (Leveled.of inner unit) := by
  have start : Clean (Leveled.of inner unit).stage :=
    ⟨yields, fun _ absent => absurd absent List.not_mem_nil, .inl rfl⟩
  refine yields_buffered ?_ start
  intro stage clean
  show Produces _ _ (LevelStage.next stage)
  rw [LevelStage.next]
  split
  · rename_i token pending shape
    have waiting := clean.pending
    rw [shape, List.forall_mem_cons] at waiting
    exact .token waiting.1 ⟨clean.inner, waiting.2, clean.unit⟩
  · obtain ⟨here, behind⟩ := clean.inner.call .pop
    rw [TokenSource.call] at here behind
    split <;> rename_i popped <;> rw [popped] at here behind
    · exact .failure _ ⟨behind, clean.pending, clean.unit⟩
    · exact produces_check ⟨behind, clean.pending, clean.unit⟩ (here _ rfl)

end Leveled

/-! ### Documents -/

/-- No line feed is in a line. -/
def Text.Line.Unbroken : Line → Prop
  | .text chars => '\n' ∉ chars
  | .malformed => True

/-- The lines of bytes or of a text. -/
def IsDocument (lines : List Line) : Prop :=
  (∃ bytes, lines = linesOfBytes bytes) ∨ ∃ text, lines = linesOfText text

namespace Text

theorem notMem_of_mem_stretches {α : Type} [DecidableEq α] {separator : α} {list : List α} :
    ∀ part ∈ stretches separator list, separator ∉ part.1 := by
  fun_induction stretches separator list with
  | case1 => exact fun _ absent => absurd absent List.not_mem_nil
  | case2 rest ih => exact List.forall_mem_cons.mpr ⟨List.not_mem_nil, ih⟩
  | case3 head rest other none ih =>
    rw [List.forall_mem_singleton]
    exact fun member => other (List.mem_singleton.mp member).symm
  | case4 head rest other stretch terminated others shape ih =>
    rw [shape, List.forall_mem_cons] at ih
    rw [List.forall_mem_cons]
    refine ⟨fun member => ?_, ih.2⟩
    rcases List.mem_cons.mp member with same | member
    · exact other same.symm
    · exact ih.1 member

end Text

/-- No line feed is in the lines of a document. -/
theorem IsDocument.unbroken {lines : List Line} (document : IsDocument lines) :
    ∀ line ∈ lines, line.Unbroken := by
  rcases document with ⟨bytes, rfl⟩ | ⟨text, rfl⟩
  · intro line member
    obtain ⟨⟨stretch, terminated⟩, part, rfl⟩ := List.mem_map.mp member
    simp only
    split
    · rename_i chars decoded
      exact fun feed =>
        notMem_of_decode? decoded (notMem_of_mem_stretches _ part) (mem_of_mem_lineText feed)
    · trivial
  · intro line member
    obtain ⟨⟨stretch, terminated⟩, part, rfl⟩ := List.mem_map.mp member
    exact fun feed => notMem_of_mem_stretches _ part (mem_of_mem_lineText feed)

namespace ScanState

/-- No line feed is in what is still to be read. -/
structure Unbroken (state : ScanState) : Prop where
  unread : ∀ line ∈ state.unread, line.Unbroken
  rest : '\n' ∉ state.rest

variable {state : ScanState}

theorem Unbroken.pass (unbroken : state.Unbroken) (count : Nat) : (state.pass count).Unbroken :=
  ⟨unbroken.unread, fun member => unbroken.rest (List.mem_of_mem_drop member)⟩

theorem Unbroken.step (unbroken : state.Unbroken) (found : Match) : (state.step found).Unbroken :=
  (unbroken.pass _).pass _

theorem unbroken_beginLine (state : ScanState) {line : List Char} {unread : List Line}
    (unbroken : '\n' ∉ line) (below : ∀ line ∈ unread, line.Unbroken) :
    (state.beginLine line unread).1.Unbroken ∧ (state.beginLine line unread).2.Unbroken := by
  rw [beginLine]
  split
  · exact ⟨unbroken, below, unbroken⟩
  · refine ⟨fun member => unbroken ?_, below, fun member => unbroken ?_⟩
    · exact (List.takeWhile_prefix _).subset member
    · exact List.mem_of_mem_drop member

theorem produces_nextLine (unbroken : state.Unbroken) :
    Produces Token.Unbroken ScanState.Unbroken state.nextLine := by
  have below := unbroken.unread
  rw [nextLine]
  split
  · exact .token (by simp [Token.Unbroken]) ⟨below, unbroken.rest⟩
  · rename_i unread shape
    rw [shape, List.forall_mem_cons] at below
    exact .failure _ ⟨below.2, unbroken.rest⟩
  · rename_i line unread shape
    rw [shape, List.forall_mem_cons] at below
    obtain ⟨here, onward⟩ := unbroken_beginLine state below.1 below.2
    exact .token here onward

/-- **A scanner hands out pieces of lines**, and `$` at the end of input. -/
theorem produces_next (state : ScanState) :
    state.Unbroken → Produces Token.Unbroken ScanState.Unbroken state.next := by
  induction state using next_induction with
  | line state _ => exact produces_nextLine
  | stuck state => exact fun unbroken => .failure _ unbroken
  | skip state found _ _ _ _ onward => exact fun unbroken => onward (unbroken.step found)
  | give state found _ _ matched =>
    intro unbroken
    refine .token (fun member => unbroken.rest ?_) (unbroken.step found)
    exact (Lexicon.longestMatch_text_isPrefix matched).subset member

end ScanState

/-! ### Pipelines -/

/-- The texts of all tokens of a pipeline are free of line feeds, whatever is asked of it. -/
theorem Pipeline.yields_lex (pipeline : Pipeline) {lines : List Line}
    (document : IsDocument lines) :
    Yields Token.Unbroken (pipeline.lex lines).layers := by
  have scanned : Yields Token.Unbroken (Scanner.ofLines pipeline.lexicon lines) :=
    yields_buffered ScanState.produces_next ⟨document.unbroken, List.not_mem_nil⟩
  have bottom : Yields Token.Unbroken
      (Stack.ofScanner (Scanner.ofLines pipeline.lexicon lines)).layers := by
    intro consumer
    have same := @calls_inl Scanner Replay _ _ (Scanner.ofLines pipeline.lexicon lines) consumer
    exact fun answer member => scanned consumer answer (congrArg Prod.fst same ▸ member)
  have collapsed : ∀ stack : Stack, Yields Token.Unbroken stack.layers → Yields Token.Unbroken
      (if pipeline.settings.collapse then stack.collapse pipeline.settings.trim
        else stack).layers := by
    intro stack below
    by_cases asked : pipeline.settings.collapse = true
    · rw [if_pos asked]
      exact Collapsed.yields below _
    · rw [if_neg asked]
      exact below
  rw [lex, filters]
  by_cases asked : pipeline.settings.levels = true
  · rw [if_pos asked]
    exact Leveled.yields (collapsed _ bottom) _
  · rw [if_neg asked]
    exact collapsed _ bottom

/-- **Printed lists of tokens are unambiguous.** Legible tokens are told apart by what is printed;
and of any pipeline, over any document, the texts are as legible tokens need them. -/
theorem printing :
    (∀ first second : List Token, (∀ token ∈ first, token.Legible) →
      (∀ token ∈ second, token.Legible) →
      Token.renderAll first = Token.renderAll second → first = second) ∧
    ∀ (pipeline : Pipeline) (lines : List Line), IsDocument lines →
      Yields Token.Unbroken (pipeline.lex lines).layers ∧
      ∀ tokens, pipeline.tokenize lines = .ok tokens → ∀ token ∈ tokens, token.Unbroken := by
  refine ⟨fun _ _ => Token.renderAll_injOn, fun pipeline lines document => ?_⟩
  have yields := pipeline.yields_lex document
  exact ⟨yields, fun tokens tokenized token => yields.of_mem_collect tokenized⟩

/-- A token whose text looks like the end of its line, and one whose text looks like that token. -/
def imitations : List Token :=
  [⟨"WORD", "x') @ 1:1".toList, 2, 3⟩, ⟨"WORD", "WORD('x') @ 1:1') @ 2:3".toList, 4, 5⟩]

/-- A pipeline whose unit of indentation is a line feed. -/
def feedPipeline : Pipeline :=
  ⟨Pipeline.letterLexicon, { trim := false, unit := ['\n'] }, fun _ => List.cons_ne_nil _ _⟩

/-- The tokens of a blank line. -/
def blankTokens : List Token := [⟨"NEWLINE", [' ', ' '], 1, 1⟩, ⟨"EOF", ['$'], 1, 1⟩]

theorem tokenize_feedPipeline :
    feedPipeline.tokenize (linesOfText [' ', ' ']) = .ok blankTokens := by
  have sound : feedPipeline.lexicon.Sound :=
    Lexicon.sound_of_compile Pipeline.compile_letterDraft Pipeline.distinct_letterPipeline
  rw [Pipeline.tokenize_eq feedPipeline sound]
  decide +kernel

/-- The tokens that imitate each other are told apart from those in reverse, and the tokens of a
pipeline with a line feed as its unit of indentation have none in their texts. -/
theorem printing_imitations :
    (∀ token ∈ imitations, token.Legible) ∧ (∀ token ∈ imitations.reverse, token.Legible) ∧
      Token.renderAll imitations ≠ Token.renderAll imitations.reverse ∧
      IsDocument (linesOfText [' ', ' ']) ∧
      Yields Token.Unbroken (feedPipeline.lex (linesOfText [' ', ' '])).layers ∧
      feedPipeline.tokenize (linesOfText [' ', ' ']) = .ok blankTokens ∧
      ∀ token ∈ blankTokens, token.Unbroken := by
  have legible : ∀ token ∈ imitations, token.Legible := by decide
  have legible' : ∀ token ∈ imitations.reverse, token.Legible := by decide
  have document : IsDocument (linesOfText [' ', ' ']) := .inr ⟨_, rfl⟩
  obtain ⟨yields, unbroken⟩ := printing.2 feedPipeline _ document
  refine ⟨legible, legible', fun same => ?_, document, yields, tokenize_feedPipeline,
    unbroken _ tokenize_feedPipeline⟩
  exact absurd (printing.1 _ _ legible legible' same) (by decide)

-- Where a kind holds what begins a text, it is not known where it ends.
example : Token.render ⟨"A('x", ['y'], 1, 1⟩ = Token.render ⟨"A", "x('y".toList, 1, 1⟩ := by decide

end Offside
