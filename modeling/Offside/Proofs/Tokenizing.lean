/-
**What a pipeline makes of its lines.**

The settings say which filters stand around the scanner; `Settings.rewrite` is what they make of the
answers of the scanner, as functions on lists one after the other.

* `renders_filters`: the filters around a scanner hand out what the settings make of its answers;
* `collect_filters`: what is collected from them, read off a list of first answers;
* `tokenize_eq`: what a pipeline makes of its lines is what the settings make of `scanLines`;
* `answers_lex`: so are the first answers of its source.
-/

import Offside.Pipeline
import Offside.Proofs.FilterOrder
import Offside.Proofs.LineByLine

namespace Offside

open Text TokenSource

/-! ### What passes through the machines -/

namespace Collapsed

/-- The end of input comes through. -/
theorem passes {kinds : ReservedKinds} {trim : Bool} (distinct : kinds.newline ≠ kinds.eof)
    {memory later : CollapseMemory} {view : View} {token : Token} {tokens : List Token}
    (accepted : rewriter kinds trim memory view token = .ok (tokens, later))
    (isEof : token.kind = kinds.eof) : ∃ passed ∈ tokens, passed.kind = kinds.eof := by
  have other : token.kind ≠ kinds.newline := isEof ▸ Ne.symm distinct
  rw [rewriter_other other] at accepted
  cases accepted
  exact ⟨token, List.mem_append_right _ List.mem_cons_self, isEof⟩

/-- Collapsing newlines changes nothing about whether and how a list of answers fails. -/
theorem verdict_run {kinds : ReservedKinds} {trim : Bool} (distinct : kinds.newline ≠ kinds.eof)
    (memory : CollapseMemory)
    (newlines : ∀ newline, memory.held = some newline → newline.kind = kinds.newline)
    (list : List Answer) :
    Answer.verdict kinds.eof ((rewriter kinds trim).run (.ok memory) list) =
      Answer.verdict kinds.eof list := by
  induction list generalizing memory with
  | nil => rfl
  | cons first rest ih =>
    obtain ⟨result, view⟩ := first
    cases result with
    | error failure => rfl
    | ok token =>
      by_cases newline : token.kind = kinds.newline
      · have inside : ∀ answer ∈ [(⟨.ok token, view⟩ : Answer)], ¬ answer.IsEnd kinds.eof := by
          intro answer member isEnd
          rw [List.mem_singleton.mp member, Answer.isEnd_ok_iff, newline] at isEnd
          exact distinct isEnd
        rw [Rewriter.run, Rewriter.feed_ok _ (rewriter_newline newline)]
        show Answer.verdict _ (Rewriter.run _ _ rest) = Answer.verdict _ ([_] ++ rest)
        rw [Answer.verdict_append inside]
        exact ih _ fun held same => Option.some.inj same ▸ newline
      · rw [Rewriter.run, Rewriter.feed_ok _ (rewriter_other newline)]
        generalize kept : (if drops kinds trim memory.first token then []
          else memory.held.toList) = front
        have inside : ∀ answer ∈ front.map (fun token => (⟨.ok token, view⟩ : Answer)),
            ¬ answer.IsEnd kinds.eof := by
          intro answer member
          obtain ⟨held, inFront, rfl⟩ := List.mem_map.mp member
          rw [← kept] at inFront
          rw [Answer.isEnd_ok_iff, kind_of_mem_kept newlines inFront]
          exact distinct
        simp only
        rw [List.map_append, List.append_assoc, Answer.verdict_append inside]
        by_cases isEof : token.kind = kinds.eof
        · rw [List.map_cons, List.cons_append, Answer.verdict_eof isEof, Answer.verdict_eof isEof]
        · have inside : ∀ answer ∈ [(⟨.ok token, view⟩ : Answer)], ¬ answer.IsEnd kinds.eof := by
            intro answer member
            rw [List.mem_singleton.mp member]
            exact isEof
          show Answer.verdict _ ([_] ++ Rewriter.run _ _ rest) = Answer.verdict _ ([_] ++ rest)
          rw [Answer.verdict_append inside, Answer.verdict_append inside]
          exact ih _ of_none

end Collapsed

namespace Leveled

/-- The end of input comes through. -/
theorem passes {kinds : ReservedKinds} {unit : List Char} {level later : Nat} {view : View}
    {token : Token} {tokens : List Token}
    (accepted : rewriter kinds unit level view token = .ok (tokens, later))
    (isEof : token.kind = kinds.eof) : ∃ passed ∈ tokens, passed.kind = kinds.eof := by
  obtain ⟨first, rest, rfl⟩ := List.exists_cons_of_ne_nil (rewriter_ne_nil accepted)
  refine ⟨first, List.mem_cons_self, ?_⟩
  rw [kind_of_rewriter accepted first List.mem_cons_self, isEof]

end Leveled

/-! ### The filters that the settings ask for -/

namespace Settings

/-- What collapsing makes of the answers of a source, if it is asked for. -/
def collapsed (settings : Settings) (kinds : ReservedKinds) (list : List Answer) : List Answer :=
  if settings.collapse then (Collapsed.rewriter kinds settings.trim).run (.ok {}) list else list

/-- What counting levels makes of the answers of a source, if it is asked for. -/
def leveled (settings : Settings) (kinds : ReservedKinds) (list : List Answer) : List Answer :=
  if settings.levels then (Leveled.rewriter kinds settings.unit).run (.ok 0) list else list

/-- What all filters that are asked for make of the answers of a source. -/
def rewrite (settings : Settings) (kinds : ReservedKinds) (list : List Answer) : List Answer :=
  settings.leveled kinds (settings.collapsed kinds list)

theorem extends_collapsed (settings : Settings) (kinds : ReservedKinds) :
    Extends (settings.collapsed kinds) := by
  intro shorter longer start
  unfold collapsed
  split
  · exact Rewriter.extends_run _ _ start
  · exact start

theorem extends_leveled (settings : Settings) (kinds : ReservedKinds) :
    Extends (settings.leveled kinds) := by
  intro shorter longer start
  unfold leveled
  split
  · exact Rewriter.extends_run _ _ start
  · exact start

theorem extends_rewrite (settings : Settings) (kinds : ReservedKinds) :
    Extends (settings.rewrite kinds) :=
  (settings.extends_leveled kinds).comp (settings.extends_collapsed kinds)

variable {settings : Settings} {kinds : ReservedKinds} {list : List Answer}

theorem exists_isEnd_collapsed (distinct : kinds.newline ≠ kinds.eof)
    (ended : ∃ answer ∈ list, answer.IsEnd kinds.eof) :
    ∃ answer ∈ settings.collapsed kinds list, answer.IsEnd kinds.eof := by
  unfold collapsed
  split
  · exact Rewriter.exists_isEnd_run _ (Collapsed.passes distinct) (.ok {}) of_ok ended
  · exact ended

theorem exists_isEnd_leveled (ended : ∃ answer ∈ list, answer.IsEnd kinds.eof) :
    ∃ answer ∈ settings.leveled kinds list, answer.IsEnd kinds.eof := by
  unfold leveled
  split
  · exact Rewriter.exists_isEnd_run _ Leveled.passes (.ok 0) of_ok ended
  · exact ended

/-- What the filters make of answers that come to an end comes to an end. -/
theorem exists_isEnd_rewrite (distinct : kinds.newline ≠ kinds.eof)
    (ended : ∃ answer ∈ list, answer.IsEnd kinds.eof) :
    ∃ answer ∈ settings.rewrite kinds list, answer.IsEnd kinds.eof :=
  exists_isEnd_leveled (exists_isEnd_collapsed distinct ended)

end Settings

/-! ### The filters around a scanner -/

/-- One of two sources answers as it does alone. -/
theorem answers_inl {σ τ : Type} [TokenSource σ] [TokenSource τ] (s : σ) (count : Nat) :
    answers (Sum.inl s : σ ⊕ τ) count = answers s count := by
  induction count generalizing s with
  | zero => rfl
  | succ count ih => exact congrArg _ (ih (pop s).2)

namespace Pipeline

variable {settings : Settings} {scanner : Scanner}

theorem reserved_filters (settings : Settings) (scanner : Scanner) :
    reserved (filters settings (.ofScanner scanner)).layers = reserved scanner := by
  unfold filters
  cases settings.collapse <;> cases settings.levels <;> rfl

theorem renders_ofScanner (scanner : Scanner) :
    Renders (Stack.ofScanner scanner).layers scanner fun list => list := by
  intro count
  have same : answers (Stack.ofScanner scanner).layers count = answers scanner count :=
    answers_inl scanner count
  exact ⟨count, same ▸ List.prefix_refl _⟩

/-- **The filters hand out what the settings make of the answers of the scanner.** -/
theorem renders_filters (settings : Settings)
    (distinct : settings.collapse = true → (reserved scanner).newline ≠ (reserved scanner).eof) :
    Renders (filters settings (.ofScanner scanner)).layers scanner
      (settings.rewrite (reserved scanner)) := by
  have scans := renders_ofScanner scanner
  have collapses :
      Renders
        (if settings.collapse then (Stack.ofScanner scanner).collapse settings.trim
          else Stack.ofScanner scanner).layers
        scanner (settings.collapsed (reserved scanner)) := by
    unfold Settings.collapsed
    cases collapse : settings.collapse with
    | false => exact scans
    | true =>
      exact (Collapsed.renders (Stack.ofScanner scanner).layers settings.trim
        (distinct collapse)).comp (Rewriter.extends_run _ _) scans
  have kinds : reserved (if settings.collapse then (Stack.ofScanner scanner).collapse settings.trim
      else Stack.ofScanner scanner).layers = reserved scanner := by
    cases settings.collapse <;> rfl
  unfold filters Settings.rewrite Settings.leveled
  generalize (if settings.collapse then (Stack.ofScanner scanner).collapse settings.trim
    else Stack.ofScanner scanner) = inner at collapses kinds ⊢
  cases settings.levels with
  | false => exact collapses
  | true =>
    have counts := (Leveled.renders inner.layers settings.unit).comp (Rewriter.extends_run _ _)
      collapses
    rw [kinds] at counts
    exact counts

/-- What is collected from the filters is collected from what the settings make of the first answers
of the scanner, if these come to an end. -/
theorem collect_filters (settings : Settings) (scanner : Scanner)
    (distinct : (reserved scanner).newline ≠ (reserved scanner).eof) {list : List Answer}
    (first : answers scanner list.length = list)
    (ended : ∃ answer ∈ list, answer.IsEnd (reserved scanner).eof) :
    (filters settings (.ofScanner scanner)).collect =
      Answer.collect (reserved scanner).eof (settings.rewrite (reserved scanner) list) := by
  have kinds : (reserved (filters settings (.ofScanner scanner)).layers).eof =
      (reserved scanner).eof := by rw [reserved_filters]
  obtain ⟨enough, same⟩ := (renders_filters settings fun _ => distinct).collect_eq
    (settings.extends_rewrite _) kinds
  have start : list <+: answers scanner (max enough list.length) := by
    have := prefix_answers_of_le scanner (Nat.le_max_right enough list.length)
    rwa [first] at this
  show TokenSource.collect (filters settings (.ofScanner scanner)).layers = _
  rw [same _ (Nat.le_max_left _ _)]
  exact Answer.collect_of_prefix (Settings.exists_isEnd_rewrite distinct ended)
    (settings.extends_rewrite _ start)

/-! ### The lines of a document -/

/-- The numbered lines of a document, before the first of which the scanner stands. -/
def scanned (lexicon : Lexicon) (lines : List Line) : List Answer :=
  ScanState.scanLines { lexicon, unread := lines } (lines.zipIdx)

variable {lexicon : Lexicon}

theorem terminated_scanned (sound : lexicon.Sound) (lines : List Line) :
    Answer.Terminated lexicon.reserved.eof (scanned lexicon lines) :=
  ScanState.terminated_scanLines { lexicon, unread := lines } sound _

theorem answers_scanned (lexicon : Lexicon) (lines : List Line) :
    answers (Scanner.ofLines lexicon lines) (scanned lexicon lines).length =
      scanned lexicon lines :=
  ScanState.answers_scanLines { lexicon, unread := lines } rfl

theorem collect_scanner (sound : lexicon.Sound) (lines : List Line) :
    TokenSource.collect (Scanner.ofLines lexicon lines) =
      Answer.collect lexicon.reserved.eof (scanned lexicon lines) :=
  collect_of_answers (answers_scanned lexicon lines) (terminated_scanned sound lines)

theorem drain_scanner (sound : lexicon.Sound) (lines : List Line) :
    (TokenSource.drain (Scanner.ofLines lexicon lines)).1 =
      (scanned lexicon lines).map (·.result) :=
  drain_of_answers (answers_scanned lexicon lines) (terminated_scanned sound lines)

/-- **What a pipeline makes of its lines is what its settings make of the scanned lines.** -/
theorem tokenize_eq (pipeline : Pipeline) (sound : pipeline.lexicon.Sound) (lines : List Line) :
    pipeline.tokenize lines =
      Answer.collect pipeline.lexicon.reserved.eof
        (pipeline.settings.rewrite pipeline.lexicon.reserved (scanned pipeline.lexicon lines)) :=
  collect_filters pipeline.settings (Scanner.ofLines pipeline.lexicon lines)
    sound.distinct.newline_ne_eof (answers_scanned pipeline.lexicon lines)
    (terminated_scanned sound lines).exists_isEnd

/-- Collapsing plays no part in whether and how a pipeline that counts levels fails. -/
theorem verdict_tokenize {pipeline : Pipeline} (sound : pipeline.lexicon.Sound)
    (levels : pipeline.settings.levels = true) (lines : List Line) :
    outcome (pipeline.tokenize lines) =
      Answer.verdict pipeline.lexicon.reserved.eof
        ((Leveled.rewriter pipeline.lexicon.reserved pipeline.settings.unit).run (.ok 0)
          (scanned pipeline.lexicon lines)) := by
  have distinct := sound.distinct
  have ended := (terminated_scanned sound lines).exists_isEnd
  have counted : ∀ list, pipeline.settings.leveled pipeline.lexicon.reserved list =
      (Leveled.rewriter pipeline.lexicon.reserved pipeline.settings.unit).run (.ok 0) list :=
    fun list => if_pos levels
  rw [tokenize_eq pipeline sound]
  show Answer.verdict _ (pipeline.settings.rewrite _ _) = _
  rw [← counted, Settings.rewrite]
  cases collapse : pipeline.settings.collapse with
  | false => rw [Settings.collapsed, if_neg (Bool.eq_false_iff.mp collapse)]
  | true =>
    have collapses : ∀ list, pipeline.settings.collapsed pipeline.lexicon.reserved list =
        (Collapsed.rewriter pipeline.lexicon.reserved pipeline.settings.trim).run (.ok {}) list :=
      fun list => if_pos collapse
    have agree := runs_agree pipeline.settings.trim pipeline.settings.unit
      distinct.newline_ne_indent distinct.newline_ne_deindent 0 {} of_none
      (scanned pipeline.lexicon lines)
    rw [OrdersAgree, ← collapses, ← collapses, ← counted, ← counted] at agree
    have same := collect_of_agree agree
      (Settings.exists_isEnd_rewrite distinct.newline_ne_eof ended)
      (Settings.exists_isEnd_collapsed distinct.newline_ne_eof
        (Settings.exists_isEnd_leveled ended))
    rw [Answer.verdict, same, collapses]
    exact Collapsed.verdict_run distinct.newline_ne_eof {} of_none _

/-! ### A small pipeline -/

/-- One rule, for the letter `a`. -/
def letterDraft : Draft := { rules := [("WORD", [.literal ['a']])] }

/-- The compiled rule. -/
def letterLexicon : Lexicon := letterDraft.compile.toOption.getD ⟨[], {}, none⟩

theorem compile_letterDraft : letterDraft.compile = .ok letterLexicon := by
  have compiles : letterDraft.compile.isOk = true := by decide +kernel
  unfold letterLexicon
  cases result : letterDraft.compile with
  | error failure =>
    rw [result] at compiles
    cases compiles
  | ok lexicon => rfl

/-- A pipeline for texts that consist of that letter, with two spaces to the level. -/
def letterPipeline : Pipeline :=
  ⟨letterLexicon, { unit := "  ".toList }, fun _ => List.cons_ne_nil _ _⟩

theorem distinct_letterPipeline : letterPipeline.lexicon.reserved.Distinct := by
  have same : letterPipeline.lexicon.reserved = letterDraft.reserved :=
    reserved_of_compile compile_letterDraft
  rw [same]
  decide

end Pipeline

end Offside
