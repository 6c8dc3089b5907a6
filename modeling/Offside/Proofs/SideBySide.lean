/-
**Two runs side by side.**

Two sources may answer alike in a sense that differs from case to case: it is a relation between
their tokens and one between their failures. `Answer.Matches` is that relation for answers. Two
machines keep it if they keep it token by token, each in its own state.

* `Rewriter.forall₂_run_of_feed`: machines that match answer by answer make matching lists of
  matching lists, in whatever sense answers match. The induction is on the lists; behind a refusal
  both repeat their failures;
* `Rewriter.forall₂_run`: machines that match token by token do so;
* `Answer.matches_collect`: what is collected from matching lists matches;
* `Collapsed.matches_rewriter`: collapsing newlines matches itself, whatever tokens stand for each
  other, as long as their kinds play the same part, perhaps under different names.
-/

import Mathlib.Data.List.Forall2
import Offside.Proofs.FilterOrder

namespace Offside

variable {tokens tokens' : Token → Token → Prop} {failures : Failure → Failure → Prop}

/-- Two kinds that play the same part in the layout, each under names of its own. -/
structure ReservedKinds.SamePart (kinds kinds' : ReservedKinds) (kind kind' : String) : Prop where
  indent : kind = kinds.indent ↔ kind' = kinds'.indent
  deindent : kind = kinds.deindent ↔ kind' = kinds'.deindent
  newline : kind = kinds.newline ↔ kind' = kinds'.newline
  eof : kind = kinds.eof ↔ kind' = kinds'.eof

theorem ReservedKinds.SamePart.of_eq (kinds : ReservedKinds) {kind kind' : String}
    (same : kind = kind') : kinds.SamePart kinds kind kind' := by
  subst same
  exact ⟨.rfl, .rfl, .rfl, .rfl⟩

/-- Answers that hand out tokens that belong together, or fail with failures that do. -/
inductive Answer.Matches (tokens : Token → Token → Prop) (failures : Failure → Failure → Prop) :
    Answer → Answer → Prop
  | ok {token token' : Token} (view view' : View) :
    tokens token token' → Matches tokens failures ⟨.ok token, view⟩ ⟨.ok token', view'⟩
  | error {failure failure' : Failure} (view view' : View) :
    failures failure failure' →
      Matches tokens failures ⟨.error failure, view⟩ ⟨.error failure', view'⟩

/-- Lists of tokens that belong together one by one, or failures that belong together. -/
inductive MatchingResults (tokens : Token → Token → Prop) (failures : Failure → Failure → Prop) :
    Except Failure (List Token) → Except Failure (List Token) → Prop
  | ok {list list' : List Token} :
    List.Forall₂ tokens list list' → MatchingResults tokens failures (.ok list) (.ok list')
  | error {failure failure' : Failure} :
    failures failure failure' → MatchingResults tokens failures (.error failure) (.error failure')

/-- What is collected from matching lists matches, if what ends the one ends the other. -/
theorem Answer.matches_collect {eof eof' : String}
    (ends : ∀ {token token'}, tokens token token' → (token.kind = eof ↔ token'.kind = eof'))
    {list list' : List Answer}
    (matching : List.Forall₂ (Answer.Matches tokens failures) list list') :
    MatchingResults tokens failures (Answer.collect eof list) (Answer.collect eof' list') := by
  induction matching with
  | nil => exact .ok .nil
  | @cons _ _ rest rest' first _ ih =>
    cases first with
    | error view view' same => exact .error same
    | ok view view' same =>
      simp only [Answer.collect, ends same]
      split
      · exact .ok (.cons same .nil)
      · generalize Answer.collect eof rest = result at ih ⊢
        generalize Answer.collect eof' rest' = result' at ih ⊢
        cases ih with
        | ok rest => exact .ok (.cons same rest)
        | error failed => exact .error failed

/-! ### Machines -/

/-- Steps of two machines that both refuse, or hand out tokens that belong together and lead to
states that do. -/
inductive MatchingSteps {ς ς' : Type} (states : ς → ς' → Prop) (tokens : Token → Token → Prop)
    (failures : Failure → Failure → Prop) :
    Except Failure (List Token × ς) → Except Failure (List Token × ς') → Prop
  | refused {failure failure' : Failure} :
    failures failure failure' →
      MatchingSteps states tokens failures (.error failure) (.error failure')
  | accepted {list list' : List Token} {state : ς} {state' : ς'} :
    List.Forall₂ tokens list list' → states state state' →
    MatchingSteps states tokens failures (.ok (list, state)) (.ok (list', state'))

/-- Where two machines stand between two answers: both have failed, with answers that belong
together, or they are in states that do. -/
inductive MatchingStands {ς ς' : Type} (answers : Answer → Answer → Prop) (states : ς → ς' → Prop) :
    Except Answer ς → Except Answer ς' → Prop
  | failed {answer answer' : Answer} :
    answers answer answer' → MatchingStands answers states (.error answer) (.error answer')
  | running {state : ς} {state' : ς'} :
    states state state' → MatchingStands answers states (.ok state) (.ok state')

namespace Rewriter

variable {ς ς' : Type} {states : ς → ς' → Prop} {given handed : Answer → Answer → Prop}
  {rewrite : Rewriter ς} {rewrite' : Rewriter ς'}

/-- What two machines make of one answer each. -/
def MatchingFeeds (handed : Answer → Answer → Prop) (states : ς → ς' → Prop)
    (fed : List Answer × Except Answer ς) (fed' : List Answer × Except Answer ς') : Prop :=
  List.Forall₂ handed fed.1 fed'.1 ∧ MatchingStands handed states fed.2 fed'.2

/-- Machines that fail alike. -/
theorem matchingFeeds_error {failed failed' : Answer} (both : handed failed failed') :
    MatchingFeeds handed states ([failed], .error failed) ([failed'], .error failed') :=
  ⟨.cons both .nil, .failed both⟩

/-- Steps that match, seen as answers. -/
theorem matchingFeeds_of_step {state : ς} {state' : ς'} {token token' : Token} {view view' : View}
    (step : MatchingSteps states tokens failures (rewrite state view token)
      (rewrite' state' view' token'))
    (oks : ∀ {token token'}, tokens token token' → handed ⟨.ok token, view⟩ ⟨.ok token', view'⟩)
    (errors : ∀ {failure failure'}, failures failure failure' →
      handed ⟨.error failure, view⟩ ⟨.error failure', view'⟩) :
    MatchingFeeds handed states (feed rewrite (.ok state) ⟨.ok token, view⟩)
      (feed rewrite' (.ok state') ⟨.ok token', view'⟩) := by
  generalize made : rewrite state view token = result at step
  generalize made' : rewrite' state' view' token' = result' at step
  cases step with
  | refused failed =>
    rw [feed_refused rewrite made, feed_refused rewrite' made']
    exact matchingFeeds_error (errors failed)
  | accepted belong onward =>
    rw [feed_ok rewrite made, feed_ok rewrite' made']
    refine ⟨?_, .running onward⟩
    rw [List.forall₂_map_left_iff, List.forall₂_map_right_iff]
    exact belong.imp fun _ _ => oks

/-- **Machines that match answer by answer make matching lists of matching lists.** -/
theorem forall₂_run_of_feed
    (feeds : ∀ {state state' answer answer'}, states state state' → given answer answer' →
      MatchingFeeds handed states (feed rewrite (.ok state) answer)
        (feed rewrite' (.ok state') answer'))
    {list list' : List Answer} (matching : List.Forall₂ given list list') {stand : Except Answer ς}
    {stand' : Except Answer ς'} (start : MatchingStands handed states stand stand') :
    List.Forall₂ handed (run rewrite stand list) (run rewrite' stand' list') := by
  induction matching generalizing stand stand' with
  | nil => exact .nil
  | cons here _ ih =>
    rw [run, run]
    cases start with
    | failed both => exact .cons both (ih (.failed both))
    | running both =>
      obtain ⟨now, onward⟩ := feeds both here
      exact List.rel_append now (ih onward)

end Rewriter

/-- Machines that match step by step: for tokens that belong together they hand out tokens that
belong together, perhaps in another sense. -/
def Rewriter.Matching {ς ς' : Type} (states : ς → ς' → Prop) (tokens tokens' : Token → Token → Prop)
    (failures : Failure → Failure → Prop) (rewrite : Rewriter ς) (rewrite' : Rewriter ς') : Prop :=
  ∀ ⦃state state' token token'⦄ (view view' : View), states state state' → tokens token token' →
    MatchingSteps states tokens' failures (rewrite state view token) (rewrite' state' view' token')

/-- **Machines that match step by step make matching lists of matching lists.** -/
theorem Rewriter.forall₂_run {ς ς' : Type} {states : ς → ς' → Prop} {rewrite : Rewriter ς}
    {rewrite' : Rewriter ς'} (steps : Matching states tokens tokens' failures rewrite rewrite')
    {list list' : List Answer} (matching : List.Forall₂ (Answer.Matches tokens failures) list list')
    {state : ς} {state' : ς'} (start : states state state') :
    List.Forall₂ (Answer.Matches tokens' failures) (run rewrite (.ok state) list)
      (run rewrite' (.ok state') list') := by
  refine forall₂_run_of_feed ?_ matching (.running start)
  intro state state' answer answer' both here
  cases here with
  | error view view' same => exact matchingFeeds_error (.error view view' same)
  | ok view view' same =>
    exact matchingFeeds_of_step (steps view view' both same) (.ok view view') (.error view view')

namespace Collapsed

/-- Memories that hold back newlines that belong together, or none. -/
structure MatchingMemories (tokens : Token → Token → Prop)
    (memory memory' : CollapseMemory) : Prop where
  first : memory.first = memory'.first
  held : List.Forall₂ tokens memory.held.toList memory'.held.toList

/-- What a newline is dropped before depends on the part alone that a token plays. -/
theorem drops_of_samePart {kinds kinds' : ReservedKinds} {trim first : Bool} {token token' : Token}
    (part : kinds.SamePart kinds' token.kind token'.kind) :
    drops kinds trim first token = drops kinds' trim first token' := by
  simp only [drops, Bool.beq_eq_decide_eq, part.indent, part.deindent, part.eof]

/-- Collapsing newlines keeps any relation between tokens that play the same part. -/
theorem matches_rewriter {kinds kinds' : ReservedKinds} (trim : Bool)
    (part : ∀ {token token'}, tokens token token' → kinds.SamePart kinds' token.kind token'.kind) :
    Rewriter.Matching (MatchingMemories tokens) tokens tokens failures (rewriter kinds trim)
      (rewriter kinds' trim) := by
  intro memory memory' token token' view view' memories both
  by_cases newline : token.kind = kinds.newline
  · rw [rewriter_newline newline, rewriter_newline ((part both).newline.mp newline)]
    exact .accepted .nil ⟨memories.first, .cons both .nil⟩
  · have other : token'.kind ≠ kinds'.newline := fun same => newline ((part both).newline.mpr same)
    rw [rewriter_other newline, rewriter_other other, memories.first, drops_of_samePart (part both)]
    refine .accepted (List.rel_append ?_ (.cons both .nil)) ⟨rfl, .nil⟩
    split
    · exact .nil
    · exact memories.held

end Collapsed

end Offside
