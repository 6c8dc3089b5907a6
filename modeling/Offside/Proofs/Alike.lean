/-
**Results that are alike up to rows.**

Two documents with the same lines in different rows give results that differ in rows only. Which row
of one document belongs to which row of the other is a relation; `Token.Alike`, `Failure.Alike` and
`AlikeAnswers` carry it over to tokens, to failures and to all that a source answers. The place of
the end of input is left open.

* `AlikeAnswers.collect`: alike answers give alike results;
* `AlikeAnswers.leveled`: counting levels makes alike answers of alike answers;
* `AlikeLines`: answers that begin with a line. Collapsing makes alike answers of them whatever
  newline it holds back, since every line begins with a token before which newlines are dropped or
  replaced; `AlikeLines.marker` puts a line in front.
-/

import Mathlib.Data.List.Forall2
import Offside.Proofs.FilterOrder

namespace Offside

variable {same : Nat → Nat → Prop}

/-- Tokens that differ in their rows only, which belong together. -/
structure Token.Alike (same : Nat → Nat → Prop) (first second : Token) : Prop where
  kind : first.kind = second.kind
  text : first.text = second.text
  column : first.column = second.column
  row : same first.row second.row

/-- Places that differ in their rows only, which belong together. -/
structure Caret.Alike (same : Nat → Nat → Prop) (first second : Caret) : Prop where
  line : first.line = second.line
  column : first.column = second.column
  padding : first.padding = second.padding
  row : same first.row second.row

/-- Failures of the same kind at places that belong together. -/
inductive Failure.Alike (same : Nat → Nat → Prop) : Failure → Failure → Prop
  | unrecognizedInput {first second : Caret} :
    first.Alike same second → Alike same (.unrecognizedInput first) (.unrecognizedInput second)
  | invalidIndent {first second : Caret} :
    first.Alike same second → Alike same (.invalidIndent first) (.invalidIndent second)
  | invalidDeindent {first second : Caret} :
    first.Alike same second → Alike same (.invalidDeindent first) (.invalidDeindent second)
  | unreadable (reason : List Char) : Alike same (.unreadable reason) (.unreadable reason)

/-- Both succeed with alike tokens and an end of input of the same text, or fail alike. -/
inductive AlikeResults (eof : String) (same : Nat → Nat → Prop) :
    Except Failure (List Token) → Except Failure (List Token) → Prop
  | ok {tokens tokens' : List Token} {last last' : Token} :
    List.Forall₂ (Token.Alike same) tokens tokens' →
    last.kind = eof → last'.kind = eof → last.text = last'.text →
    AlikeResults eof same (.ok (tokens ++ [last])) (.ok (tokens' ++ [last']))
  | error {failure failure' : Failure} :
    failure.Alike same failure' → AlikeResults eof same (.error failure) (.error failure')

/-- Alike tokens in front of alike results. -/
theorem AlikeResults.cons {eof : String} {token token' : Token} (tokens : token.Alike same token')
    {result result' : Except Failure (List Token)} (alike : AlikeResults eof same result result') :
    AlikeResults eof same (result.map (token :: ·)) (result'.map (token' :: ·)) := by
  cases alike with
  | ok rest isEof isEof' text => exact .ok (.cons tokens rest) isEof isEof' text
  | error failures => exact .error failures

/-- Answers that are alike up to their end. -/
inductive AlikeAnswers (eof : String) (same : Nat → Nat → Prop) : List Answer → List Answer → Prop
  | finished {last last' : Token} {view view' : View} {rest rest' : List Answer} :
    last.kind = eof → last'.kind = eof → last.text = last'.text →
    AlikeAnswers eof same (⟨.ok last, view⟩ :: rest) (⟨.ok last', view'⟩ :: rest')
  | failed {failure failure' : Failure} {view view' : View} {rest rest' : List Answer} :
    failure.Alike same failure' →
    AlikeAnswers eof same (⟨.error failure, view⟩ :: rest) (⟨.error failure', view'⟩ :: rest')
  | handed {token token' : Token} {view : View} {rest rest' : List Answer} :
    token.kind ≠ eof → token.Alike same token' → AlikeAnswers eof same rest rest' →
    AlikeAnswers eof same (⟨.ok token, view⟩ :: rest) (⟨.ok token', view⟩ :: rest')

namespace AlikeAnswers

variable {eof : String} {list list' : List Answer}

/-- Alike answers give alike results. -/
theorem collect (alike : AlikeAnswers eof same list list') :
    AlikeResults eof same (Answer.collect eof list) (Answer.collect eof list') := by
  induction alike with
  | finished isEof isEof' text =>
    rw [Answer.collect, Answer.collect, if_pos isEof, if_pos isEof']
    exact @AlikeResults.ok eof same [] [] _ _ .nil isEof isEof' text
  | failed failures => exact .error failures
  | handed inside tokens _ ih =>
    rw [Answer.collect, Answer.collect, if_neg inside, if_neg (tokens.kind ▸ inside)]
    exact ih.cons tokens

/-- Alike tokens in front of alike answers. -/
theorem append {front front' : List Token} (tokens : List.Forall₂ (Token.Alike same) front front')
    (inside : ∀ token ∈ front, token.kind ≠ eof) (view : View)
    (alike : AlikeAnswers eof same list list') :
    AlikeAnswers eof same (front.map (fun token => ⟨.ok token, view⟩) ++ list)
      (front'.map (fun token => ⟨.ok token, view⟩) ++ list') := by
  induction tokens with
  | nil => exact alike
  | cons first _ ih =>
    refine .handed (inside _ List.mem_cons_self) first (ih fun token member => ?_)
    exact inside token (List.mem_cons_of_mem _ member)

end AlikeAnswers

/-! ### Counting levels -/

/-- What a filter does with alike tokens. -/
inductive AlikeSteps {ς : Type} (same : Nat → Nat → Prop) :
    Except Failure (List Token × ς) → Except Failure (List Token × ς) → Prop
  | refused {failure failure' : Failure} :
    failure.Alike same failure' → AlikeSteps same (.error failure) (.error failure')
  | accepted {tokens tokens' : List Token} {state : ς} :
    List.Forall₂ (Token.Alike same) tokens tokens' →
    AlikeSteps same (.ok (tokens, state)) (.ok (tokens', state))

namespace Leveled

variable {kinds : ReservedKinds} {unit : List Char} {token token' : Token}

theorem alike_rewriter (alike : token.Alike same token') (level : Nat) (view : View) :
    AlikeSteps same (rewriter kinds unit level view token)
      (rewriter kinds unit level view token') := by
  have places : Caret.Alike same ⟨view.line, token.row, token.column, view.padding⟩
      ⟨view.line, token'.row, token'.column, view.padding⟩ :=
    ⟨rfl, alike.column, rfl, alike.row⟩
  unfold rewriter
  simp only [← alike.kind, ← alike.text]
  split
  · split
    · split
      · exact .accepted (.cons alike .nil)
      · exact .refused (.invalidIndent places)
    · exact .refused (.invalidIndent places)
  · split
    · split
      · exact .accepted (forall₂_deindentSteps alike
          (fun _ => ⟨rfl, rfl, alike.column, alike.row⟩) _ _)
      · exact .refused (.invalidDeindent places)
    · exact .accepted (.cons alike .nil)

end Leveled

/-- **Counting levels makes alike answers of alike answers.** -/
theorem AlikeAnswers.leveled {kinds : ReservedKinds} (distinct : kinds.Distinct) (unit : List Char)
    {list list' : List Answer}
    (alike : AlikeAnswers kinds.eof same list list') (level : Nat) :
    AlikeAnswers kinds.eof same ((Leveled.rewriter kinds unit).run (.ok level) list)
      ((Leveled.rewriter kinds unit).run (.ok level) list') := by
  induction alike generalizing level with
  | finished isEof isEof' text =>
    rw [Rewriter.run, Rewriter.run,
      Rewriter.feed_ok _ (Leveled.rewriter_of_plain _ _ (distinct.plain_of_eof isEof)),
      Rewriter.feed_ok _ (Leveled.rewriter_of_plain _ _ (distinct.plain_of_eof isEof'))]
    exact .finished isEof isEof' text
  | failed failures => exact .failed failures
  | @handed token token' view rest rest' inside tokens _ ih =>
    rw [Rewriter.run, Rewriter.run]
    have steps : AlikeSteps same (Leveled.rewriter kinds unit level view token)
      (Leveled.rewriter kinds unit level view token') := Leveled.alike_rewriter tokens level view
    generalize produced : Leveled.rewriter kinds unit level view token = result at steps
    generalize produced' : Leveled.rewriter kinds unit level view token' = result' at steps
    cases steps with
    | refused failures =>
      rw [Rewriter.feed_refused _ produced, Rewriter.feed_refused _ produced']
      exact .failed failures
    | accepted handed =>
      rw [Rewriter.feed_ok _ produced, Rewriter.feed_ok _ produced']
      refine .append handed (fun made member => ?_) view (ih _)
      rw [Leveled.kind_of_rewriter produced made member]
      exact inside

/-! ### Collapsing newlines -/

/-- The tokens of a line, each with the same to be seen after it. -/
abbrev AlikeContent (kinds : ReservedKinds) (same : Nat → Nat → Prop) :
    List Answer → List Answer → Prop :=
  List.Forall₂ fun first second => ∃ token token', token.Alike same token' ∧
    token.kind ≠ kinds.newline ∧ token.kind ≠ kinds.eof ∧
    first.result = .ok token ∧ second.result = .ok token' ∧ first.view = second.view

/-- Answers at the start of a line: what collapsing makes of them is alike, whatever newlines it
holds back. -/
def AlikeLines (kinds : ReservedKinds) (same : Nat → Nat → Prop)
    (list list' : List Answer) : Prop :=
  ∀ first held held',
    AlikeAnswers kinds.eof same ((Collapsed.rewriter kinds true).run (.ok ⟨first, held⟩) list)
      ((Collapsed.rewriter kinds true).run (.ok ⟨first, held'⟩) list')

namespace AlikeLines

variable {kinds : ReservedKinds} {list list' : List Answer}

open Collapsed in
/-- Before the end of input newlines are dropped. -/
theorem eof (distinct : kinds.newline ≠ kinds.eof) {last last' : Token}
    (isEof : last.kind = kinds.eof)
    (isEof' : last'.kind = kinds.eof) (text : last.text = last'.text) (view view' : View) :
    AlikeLines kinds same [⟨.ok last, view⟩] [⟨.ok last', view'⟩] := by
  intro first held held'
  have other : last.kind ≠ kinds.newline := isEof ▸ Ne.symm distinct
  have other' : last'.kind ≠ kinds.newline := isEof' ▸ Ne.symm distinct
  have dropped : drops kinds true first last = true := by simp [drops, isEof]
  have dropped' : drops kinds true first last' = true := by simp [drops, isEof']
  have passes := @rewriter_other kinds true ⟨first, held⟩ view last other
  have passes' := @rewriter_other kinds true ⟨first, held'⟩ view' last' other'
  rw [if_pos dropped] at passes
  rw [if_pos dropped'] at passes'
  simp only [Rewriter.run, Rewriter.feed_ok _ passes, Rewriter.feed_ok _ passes']
  exact .finished isEof isEof' text

theorem error {failure failure' : Failure} (failures : failure.Alike same failure')
    (view view' : View) (rest rest' : List Answer) :
    AlikeLines kinds same (⟨.error failure, view⟩ :: rest) (⟨.error failure', view'⟩ :: rest') :=
  fun _ _ _ => .failed failures

/-- A newline before a line is replaced or dropped. -/
theorem newline_left {token : Token} (newline : token.kind = kinds.newline) (view : View)
    (alike : AlikeLines kinds same list list') :
    AlikeLines kinds same (⟨.ok token, view⟩ :: list) list' := by
  intro first held held'
  rw [Rewriter.run, Rewriter.feed_ok _ (Collapsed.rewriter_newline newline)]
  exact alike first (some token) held'

theorem newline_right {token : Token} (newline : token.kind = kinds.newline) (view : View)
    (alike : AlikeLines kinds same list list') :
    AlikeLines kinds same list (⟨.ok token, view⟩ :: list') := by
  intro first held held'
  rw [Rewriter.run, Rewriter.feed_ok _ (Collapsed.rewriter_newline newline)]
  exact alike first held (some token)

/-- Newlines that are held back alike come out alike before the tokens of a line. -/
theorem content (distinct : kinds.newline ≠ kinds.eof) {front front' : List Answer}
    (tokens : AlikeContent kinds same front front') (alike : AlikeLines kinds same list list')
    (first : Bool) {held held' : Option Token}
    (newlines : ∀ newline, held = some newline → newline.kind = kinds.newline)
    (heldAlike : List.Forall₂ (Token.Alike same) held.toList held'.toList) :
    AlikeAnswers kinds.eof same
      ((Collapsed.rewriter kinds true).run (.ok ⟨first, held⟩) (front ++ list))
      ((Collapsed.rewriter kinds true).run (.ok ⟨first, held'⟩) (front' ++ list')) := by
  induction tokens generalizing first held held' with
  | nil => exact alike first held held'
  | @cons answer answer' _ _ both _ ih =>
    obtain ⟨result, view⟩ := answer
    obtain ⟨result', view'⟩ := answer'
    obtain ⟨token, token', tokens, other, inside, rfl, rfl, rfl⟩ := both
    have other' : token'.kind ≠ kinds.newline := tokens.kind ▸ other
    rw [List.cons_append, List.cons_append, Rewriter.run, Rewriter.run,
      Rewriter.feed_ok _ (Collapsed.rewriter_other other),
      Rewriter.feed_ok _ (Collapsed.rewriter_other other'), Collapsed.drops_congr tokens.kind]
    refine .append ?_ ?_ view (ih false of_none .nil)
    · refine List.rel_append ?_ (.cons tokens .nil)
      split
      · exact .nil
      · exact heldAlike
    · intro handed member
      rcases List.mem_append.mp member with member | member
      · rw [@Collapsed.kind_of_mem_kept kinds true ⟨first, held⟩ token' newlines handed member]
        exact distinct
      · rw [List.mem_singleton.mp member]
        exact inside

/-- **A line in front.** If it begins with a newline, the newlines that are held back are replaced
by alike ones, and if it begins with an indentation they are dropped. -/
theorem marker (distinct : kinds.newline ≠ kinds.eof) {token token' : Token}
    (tokens : token.Alike same token')
    (layout : token.kind = kinds.newline ∨ token.kind = kinds.indent ∨ token.kind = kinds.deindent)
    (inside : token.kind ≠ kinds.eof) (view : View) {front front' : List Answer}
    (contents : AlikeContent kinds same front front') (alike : AlikeLines kinds same list list') :
    AlikeLines kinds same (⟨.ok token, view⟩ :: (front ++ list))
      (⟨.ok token', view⟩ :: (front' ++ list')) := by
  intro first held held'
  rw [Rewriter.run, Rewriter.run]
  by_cases newline : token.kind = kinds.newline
  · rw [Rewriter.feed_ok _ (Collapsed.rewriter_newline newline),
      Rewriter.feed_ok _ (Collapsed.rewriter_newline (tokens.kind ▸ newline))]
    exact content distinct contents alike first (fun kept now => Option.some.inj now ▸ newline)
      (.cons tokens .nil)
  · have dropped : Collapsed.drops kinds true first token = true :=
      Collapsed.drops_of_indentation (layout.resolve_left newline)
    have passes := @Collapsed.rewriter_other kinds true ⟨first, held⟩ view token newline
    have passes' := @Collapsed.rewriter_other kinds true ⟨first, held'⟩ view token'
      (tokens.kind ▸ newline)
    rw [if_pos dropped] at passes
    rw [← Collapsed.drops_congr tokens.kind, if_pos dropped] at passes'
    rw [Rewriter.feed_ok _ passes, Rewriter.feed_ok _ passes']
    exact .handed inside tokens
      (content distinct contents alike false of_none .nil)

end AlikeLines

end Offside
