/-
**Names for layout are only names.**

The four kinds that stand for layout are compared with, and nothing else is done with them. If they
get other names, which differ from each other and from the kinds of all rules as the old ones did,
every token of the layout gets the corresponding name, and nothing else changes.

* `ReservedKinds.Counterpart`, `Token.Renamed`: which kinds and which tokens belong together;
  `Counterpart.samePart` says that comparing with the names cannot tell them apart;
* `Draft.compile_under`: rules compile alike under both sets of names;
* `ScanState.renamed_scanLines`: scanners hand out renamed tokens. The induction is on the lines,
  and between two of them the scanners differ in nothing but the names;
* `Collapsed.matches_rewriter`, `Leveled.renamed_rewriter`: so do the filters around them;
* `Pipeline.ofRules_renamed`: pipelines are made or refused alike, and tokens are renamed.
-/

import Offside.Proofs.SideBySide
import Offside.Proofs.Tokenizing

namespace Offside

open Text TokenSource

/-! ### Kinds and tokens that belong together -/

namespace ReservedKinds

variable {kinds kinds' : ReservedKinds} {kind kind' : String}

/-- The kind under other names: a name for layout becomes the corresponding one, and every other
kind stays as it is. -/
def rename (kinds kinds' : ReservedKinds) (kind : String) : String :=
  if kind = kinds.indent then kinds'.indent
  else if kind = kinds.deindent then kinds'.deindent
  else if kind = kinds.newline then kinds'.newline
  else if kind = kinds.eof then kinds'.eof
  else kind

/-- Kinds that belong together under two sets of names: the names of the same kind of layout, and
kinds that are reserved under neither. -/
inductive Counterpart (kinds kinds' : ReservedKinds) : String → String → Prop
  | indent : Counterpart kinds kinds' kinds.indent kinds'.indent
  | deindent : Counterpart kinds kinds' kinds.deindent kinds'.deindent
  | newline : Counterpart kinds kinds' kinds.newline kinds'.newline
  | eof : Counterpart kinds kinds' kinds.eof kinds'.eof
  | free {kind : String} :
    kinds.contains kind = false → kinds'.contains kind = false → Counterpart kinds kinds' kind kind

variable (distinct : kinds.Distinct)

include distinct

/-- If the names differ from each other, a kind has one counterpart. -/
theorem Counterpart.rename_eq (counterpart : Counterpart kinds kinds' kind kind') :
    kinds.rename kinds' kind = kind' := by
  unfold rename
  cases counterpart with
  | indent => rw [if_pos rfl]
  | deindent => rw [if_neg (Ne.symm distinct.indent_ne_deindent), if_pos rfl]
  | newline =>
    rw [if_neg distinct.newline_ne_indent, if_neg distinct.newline_ne_deindent, if_pos rfl]
  | eof =>
    rw [if_neg distinct.eof_ne_indent, if_neg distinct.eof_ne_deindent,
      if_neg (Ne.symm distinct.newline_ne_eof), if_pos rfl]
  | free free =>
    obtain ⟨noIndent, noDeindent, noNewline, noEof⟩ := contains_eq_false_iff.mp free
    rw [if_neg noIndent, if_neg noDeindent, if_neg noNewline, if_neg noEof]

/-- Counterparts compare alike with the names. -/
theorem Counterpart.samePart (distinct' : kinds'.Distinct)
    (counterpart : Counterpart kinds kinds' kind kind') : kinds.SamePart kinds' kind kind' := by
  simp only [Distinct, List.nodup_cons, List.mem_cons, not_or] at distinct distinct'
  cases counterpart with
  | free free free' =>
    have differs := contains_eq_false_iff.mp free
    have differs' := contains_eq_false_iff.mp free'
    constructor <;> grind
  | _ => constructor <;> grind

end ReservedKinds

/-- The token with its kind under other names. -/
def Token.rename (kinds kinds' : ReservedKinds) (token : Token) : Token :=
  { token with kind := kinds.rename kinds' token.kind }

/-- Tokens that are the same but for the names of their kinds. -/
inductive Token.Renamed (kinds kinds' : ReservedKinds) : Token → Token → Prop
  | same {kind kind' : String} {text : List Char} {row column : Nat} :
    kinds.Counterpart kinds' kind kind' →
    Renamed kinds kinds' ⟨kind, text, row, column⟩ ⟨kind', text, row, column⟩

/-- Answers that are the same but for the names of kinds. -/
inductive Answer.Renamed (kinds kinds' : ReservedKinds) : Answer → Answer → Prop
  | ok {token token' : Token} (view : View) :
    token.Renamed kinds kinds' token' → Renamed kinds kinds' ⟨.ok token, view⟩ ⟨.ok token', view⟩
  | error (failure : Failure) (view : View) :
    Renamed kinds kinds' ⟨.error failure, view⟩ ⟨.error failure, view⟩

variable {kinds kinds' : ReservedKinds}

theorem Answer.Renamed.matches {answer answer' : Answer}
    (renamed : answer.Renamed kinds kinds' answer') :
    answer.Matches (Token.Renamed kinds kinds') (· = ·) answer' := by
  cases renamed with
  | ok view tokens => exact .ok view view tokens
  | error failure view => exact .error view view rfl

section Distinct

variable (distinct : kinds.Distinct)

include distinct

theorem Token.Renamed.eq_rename {token token' : Token}
    (renamed : token.Renamed kinds kinds' token') :
    token' = token.rename kinds kinds' := by
  obtain ⟨counterpart⟩ := renamed
  rw [Token.rename, counterpart.rename_eq distinct]

theorem Token.Renamed.samePart (distinct' : kinds'.Distinct) {token token' : Token}
    (renamed : token.Renamed kinds kinds' token') :
    kinds.SamePart kinds' token.kind token'.kind := by
  obtain ⟨counterpart⟩ := renamed
  exact counterpart.samePart distinct distinct'

/-- Results that match in this sense are the same once the first one is renamed. -/
theorem MatchingResults.eq_rename {result result' : Except Failure (List Token)}
    (matching : MatchingResults (Token.Renamed kinds kinds') (· = ·) result result') :
    result' = result.map (List.map (Token.rename kinds kinds')) := by
  cases matching with
  | error same => rw [same]; rfl
  | @ok list list' tokens =>
    have renamed : list.map (Token.rename kinds kinds') = list' := by
      rw [← List.forall₂_eq_eq_eq, List.forall₂_map_left_iff]
      exact tokens.imp fun _ _ here => (here.eq_rename distinct).symm
    rw [← renamed]
    rfl

end Distinct

/-! ### The filters -/

/-- Machines whose steps hand out renamed tokens for renamed tokens hand out renamed answers for
renamed answers. Unlike in `Rewriter.forall₂_run`, the steps are taken before the same view. -/
theorem Rewriter.renamed_run {ς ς' : Type} {states : ς → ς' → Prop} {rewrite : Rewriter ς}
    {rewrite' : Rewriter ς'}
    (steps : ∀ {state state' token token'} (view : View), states state state' →
      token.Renamed kinds kinds' token' →
      MatchingSteps states (Token.Renamed kinds kinds') (· = ·) (rewrite state view token)
        (rewrite' state' view token'))
    {list list' : List Answer} (renamed : List.Forall₂ (Answer.Renamed kinds kinds') list list')
    {state : ς} {state' : ς'} (start : states state state') :
    List.Forall₂ (Answer.Renamed kinds kinds') (run rewrite (.ok state) list)
      (run rewrite' (.ok state') list') := by
  refine forall₂_run_of_feed ?_ renamed (.running start)
  intro state state' answer answer' both here
  cases here with
  | error failure view => exact matchingFeeds_error (.error failure view)
  | ok view tokens =>
    refine matchingFeeds_of_step (steps view both tokens) (.ok view) ?_
    rintro failure _ rfl
    exact .error failure view

namespace Leveled

/-- Counting levels renames what it hands out, and refuses with the same failures. -/
theorem renamed_rewriter (distinct : kinds.Distinct) (distinct' : kinds'.Distinct)
    (unit : List Char)
    {level level' : Nat} {token token' : Token} (view : View) (levels : level = level')
    (renamed : token.Renamed kinds kinds' token') :
    MatchingSteps (· = ·) (Token.Renamed kinds kinds') (· = ·)
      (rewriter kinds unit level view token) (rewriter kinds' unit level' view token') := by
  subst levels
  have part := renamed.samePart distinct distinct'
  obtain ⟨counterpart⟩ := renamed
  unfold rewriter
  simp only [part.indent, part.deindent]
  split
  · cases repetitions? unit _ with
    | none => exact .refused rfl
    | some next =>
      simp only
      split
      · exact .accepted (.cons (.same counterpart) .nil) rfl
      · exact .refused rfl
  · split
    · rename_i isDeindent
      obtain rfl := part.deindent.mpr isDeindent
      obtain rfl := isDeindent
      cases repetitions? unit _ with
      | none => exact .refused rfl
      | some next =>
        have renames :
            ∀ text row column, Token.Renamed kinds kinds' ⟨kinds.deindent, text, row, column⟩
            ⟨kinds'.deindent, text, row, column⟩ := fun _ _ _ => .same .deindent
        exact .accepted (forall₂_deindentSteps (renames ..) (fun _ => renames ..) level next) rfl
    · exact .accepted (.cons (.same counterpart) .nil) rfl

end Leveled

namespace Settings

/-- What the filters make of renamed answers is renamed. -/
theorem renamed_rewrite (settings : Settings) (names : ReservedKinds) (distinct : kinds.Distinct)
    (distinct' : kinds'.Distinct) {list list' : List Answer}
    (renamed : List.Forall₂ (Answer.Renamed kinds kinds') list list') :
    List.Forall₂ (Answer.Renamed kinds kinds') (settings.rewrite kinds list)
      (({ settings with reserved := names } : Settings).rewrite kinds' list') := by
  have collapses : List.Forall₂ (Answer.Renamed kinds kinds') (settings.collapsed kinds list)
      (({ settings with reserved := names } : Settings).collapsed kinds' list') := by
    unfold Settings.collapsed
    simp only
    split
    · have steps := @Collapsed.matches_rewriter (Token.Renamed kinds kinds') (· = ·) kinds kinds'
        settings.trim fun both => both.samePart distinct distinct'
      exact Rewriter.renamed_run (fun view => steps view view) renamed ⟨rfl, .nil⟩
    · exact renamed
  unfold Settings.rewrite Settings.leveled
  simp only
  split
  · exact Rewriter.renamed_run (Leveled.renamed_rewriter distinct distinct' settings.unit) collapses
      rfl
  · exact collapses

end Settings

/-! ### Compiling -/

section Compiling

/-- The compiled rules under other names. -/
def Lexicon.under (lexicon : Lexicon) (names : ReservedKinds) : Lexicon :=
  { lexicon with reserved := names }

/-- Compiling a rule asks of the names only whether its kind is among them. -/
theorem Rule.compile_congr {kind : String} (same : kinds'.contains kind = kinds.contains kind)
    (matchers : List Matcher) :
    Rule.compile kinds' kind matchers = Rule.compile kinds kind matchers := by
  unfold Rule.compile Rule.compileBy
  rw [same]

/-- Steps that agree on all inputs give the same results. -/
theorem mapM_congr {ε α β : Type} {step step' : α → Except ε β} {inputs : List α}
    (same : ∀ input ∈ inputs, step' input = step input) : inputs.mapM step' = inputs.mapM step := by
  induction inputs with
  | nil => rfl
  | cons input inputs ih =>
    rw [List.mapM_cons, List.mapM_cons, same input List.mem_cons_self,
      ih fun other member => same other (List.mem_cons_of_mem _ member)]

/-- If the ignored kind is free, nothing but the rules can be refused. -/
theorem Draft.compile_of_free {draft : Draft}
    (free : ∀ kind ∈ draft.ignored, draft.reserved.contains kind = false) :
    draft.compile = (draft.rules.mapM fun rule => Rule.compile draft.reserved rule.1 rule.2).map
      fun rules => ⟨rules, draft.reserved, draft.ignored⟩ := by
  have fine : draft.ignored.filter draft.reserved.contains = none :=
    Option.filter_eq_none_iff.mpr fun kind named => Bool.eq_false_iff.mp (free kind named)
  rw [Draft.compile_eq, fine]
  show (draft.rules.mapM (fun rule => Rule.compile draft.reserved rule.1 rule.2) >>= fun rules =>
    .ok (⟨rules, draft.reserved, draft.ignored⟩ : Lexicon)) = _
  cases draft.rules.mapM fun rule => Rule.compile draft.reserved rule.1 rule.2 <;> rfl

/-- **Rules that are free under both sets of names compile alike.** -/
theorem Draft.compile_under (draft : Draft) (names : ReservedKinds)
    (rulesFree : ∀ kind ∈ draft.kinds,
      draft.reserved.contains kind = false ∧ names.contains kind = false)
    (ignoredFree : ∀ kind ∈ draft.ignored,
      draft.reserved.contains kind = false ∧ names.contains kind = false) :
    ({ draft with reserved := names } : Draft).compile = draft.compile.map (·.under names) := by
  have rules : (draft.rules.mapM fun rule => Rule.compile names rule.1 rule.2) =
      draft.rules.mapM fun rule => Rule.compile draft.reserved rule.1 rule.2 := by
    refine mapM_congr fun rule member => ?_
    obtain ⟨free, free'⟩ := rulesFree rule.1 (List.mem_map_of_mem member)
    exact Rule.compile_congr (free'.trans free.symm) rule.2
  rw [Draft.compile_of_free fun kind named => (ignoredFree kind named).1, Draft.compile_of_free]
  · show (draft.rules.mapM fun rule => Rule.compile names rule.1 rule.2).map _ = _
    rw [rules]
    cases draft.rules.mapM fun rule => Rule.compile draft.reserved rule.1 rule.2 <;> rfl
  · exact fun kind named => (ignoredFree kind named).2

end Compiling

/-! ### Scanning -/

namespace ScanState

variable {lexicon : Lexicon} {state : ScanState}

/-- The scanner under other names. -/
def under (state : ScanState) (names : ReservedKinds) : ScanState :=
  { state with lexicon := state.lexicon.under names }

/-- The tokens of a line do not depend on the names for layout. -/
theorem cutLine_under (state : ScanState) (names : ReservedKinds) :
    (state.under names).cutLine = (state.cutLine.1, state.cutLine.2.under names) := by
  have cut := @cutLine_map (·.under names) id (fun _ => rfl) (fun _ => rfl) (fun _ => rfl)
    (fun _ _ => rfl) (fun _ _ _ => rfl) (fun _ => rfl) state
  rw [cut]
  exact congrArg (·, _) (List.map_id _)

theorem enterLine_under (state : ScanState) (names : ReservedKinds) (line : List Char)
    (number : Nat) (unread : List Line) :
    ((state.under names).enterLine line number unread).2 =
      (state.enterLine line number unread).2.under names := by
  rw [enterLine, enterLine, beginLine, beginLine]
  split <;> rfl

/-- The kinds for the layout of a line belong together. -/
theorem counterpart_layoutKind (state : ScanState) (names : ReservedKinds) (width : Nat) :
    state.lexicon.reserved.Counterpart names (state.layoutKind width)
      ((state.under names).layoutKind width) := by
  unfold layoutKind
  simp only
  show ReservedKinds.Counterpart _ _ _ (if state.depth < width then names.indent
    else if width < state.depth then names.deindent else names.newline)
  split
  · exact .indent
  · split
    · exact .deindent
    · exact .newline

/-- The contents of a line stay as they are, and what comes behind them is renamed. -/
theorem renamed_scanContents (same : state.lexicon = lexicon) (sound : lexicon.Sound)
    (sound' : (lexicon.under kinds').Sound) {lines : List (Line × Nat)}
    (onward : List.Forall₂ (Answer.Renamed lexicon.reserved kinds')
      (state.cutLine.2.scanLines lines)
      ((state.cutLine.2.under kinds').scanLines lines)) :
    List.Forall₂ (Answer.Renamed lexicon.reserved kinds') (state.scanContents lines)
      ((state.under kinds').scanContents lines) := by
  subst same
  rw [scanContents, scanContents, cutLine_under]
  refine List.rel_append ?_ ?_
  · rw [List.forall₂_map_left_iff, List.forall₂_map_right_iff, List.forall₂_same]
    intro shown member
    have free := (kind_of_mem_cutLine sound member).1
    have inLine : shown ∈ (state.under kinds').cutLine.1 := by
      rw [cutLine_under]
      exact member
    exact .ok _ (.same (.free free (kind_of_mem_cutLine sound' inLine).1))
  · show List.Forall₂ _ _ (if state.cutLine.2.rest = [] then _ else _)
    split
    · exact onward
    · exact .cons (.error _ _) .nil

/-- **Scanners that differ in their names only hand out renamed tokens.** -/
theorem renamed_scanLines (sound : lexicon.Sound) (sound' : (lexicon.under kinds').Sound)
    (lines : List (Line × Nat)) {state : ScanState} (same : state.lexicon = lexicon) :
    List.Forall₂ (Answer.Renamed lexicon.reserved kinds') (state.scanLines lines)
      ((state.under kinds').scanLines lines) := by
  induction lines generalizing state with
  | nil =>
    subst same
    rw [scanLines, scanLines]
    exact .cons (.ok _ (.same .eof)) .nil
  | cons first rest ih =>
    obtain ⟨line, number⟩ := first
    cases line with
    | malformed =>
      rw [scanLines, scanLines]
      exact .cons (.error _ _) .nil
    | text line =>
      have begun : (state.enterLine line number (rest.map (·.1))).2.lexicon = lexicon :=
        (lexicon_enterLine state).trans same
      by_cases blank : isBlankLine line
      · rw [scanLines_blank state blank, scanLines_blank _ blank, enterLine_under]
        refine .cons (.ok _ (.same ?_)) (ih begun)
        subst same
        exact .newline
      · rw [scanLines_inked state blank, scanLines_inked _ blank, enterLine_under]
        refine .cons (.ok _ (.same ?_)) (renamed_scanContents begun sound sound' (ih ?_))
        · subst same
          exact counterpart_layoutKind state kinds' _
        · rw [(frame_cutLine _).lexicon, begun]

end ScanState

/-! ### Pipelines -/

namespace Pipeline

/-- Pipelines that differ in their names only make renamed tokens or the same failure. -/
theorem tokenize_renamed {pipeline pipeline' : Pipeline} (sound : pipeline.lexicon.Sound)
    (sound' : pipeline'.lexicon.Sound) (lexicon : pipeline'.lexicon = pipeline.lexicon.under kinds')
    (settings : pipeline'.settings = { pipeline.settings with reserved := kinds' })
    (lines : List Line) :
    pipeline'.tokenize lines =
      (pipeline.tokenize lines).map (List.map (Token.rename pipeline.lexicon.reserved kinds')) := by
  have distinct := sound.distinct
  have distinct' := sound'.distinct
  have names : pipeline'.lexicon.reserved = kinds' := by rw [lexicon]; rfl
  rw [names] at distinct'
  rw [tokenize_eq pipeline sound, tokenize_eq pipeline' sound', names, settings, lexicon]
  rw [lexicon] at sound'
  have scans : List.Forall₂ (Answer.Renamed pipeline.lexicon.reserved kinds')
      (scanned pipeline.lexicon lines) (scanned (pipeline.lexicon.under kinds') lines) :=
    ScanState.renamed_scanLines sound sound' _ rfl
  have rewrites := pipeline.settings.renamed_rewrite kinds' distinct distinct' scans
  refine MatchingResults.eq_rename distinct
    (Answer.matches_collect ?_ (rewrites.imp fun _ _ => (·.matches)))
  exact fun both => (both.samePart distinct distinct').eof

/-- **Names for layout are only names.** Let settings differ in the four names only, where in both
the names differ from each other, from the kinds of all rules and from the ignored kind. Then either
both are refused with the same error, or both make pipelines, and of every document the second makes
the tokens of the first, those of the layout under their new names, or the same failure. -/
theorem ofRules_renamed (draft : Draft) (settings : Settings) (names : ReservedKinds)
    (distinct : settings.reserved.Distinct) (distinct' : names.Distinct)
    (rulesFree : ∀ kind ∈ draft.kinds,
      settings.reserved.contains kind = false ∧ names.contains kind = false)
    (ignoredFree : ∀ kind ∈ settings.ignored <|> draft.ignored,
      settings.reserved.contains kind = false ∧ names.contains kind = false) :
    (∃ error, ofRules draft settings = .error error ∧
        ofRules draft { settings with reserved := names } = .error error) ∨
      ∃ pipeline pipeline', ofRules draft settings = .ok pipeline ∧
        ofRules draft { settings with reserved := names } = .ok pipeline' ∧
        ∀ lines, pipeline'.tokenize lines =
          (pipeline.tokenize lines).map (List.map (Token.rename settings.reserved names)) := by
  have compiles : (applyNames draft { settings with reserved := names }).compile =
      (applyNames draft settings).compile.map (·.under names) :=
    (applyNames draft settings).compile_under names rulesFree ignoredFree
  simp only [ofRules_eq]
  rw [compiles]
  cases compiled : (applyNames draft settings).compile with
  | error error => exact .inl ⟨error, rfl, rfl⟩
  | ok lexicon =>
    have reserved : lexicon.reserved = settings.reserved := reserved_of_compile compiled
    rw [compiled] at compiles
    have sound := Lexicon.sound_of_compile compiled (reserved ▸ distinct)
    have sound' : (lexicon.under names).Sound := Lexicon.sound_of_compile compiles distinct'
    show (∃ error, ofLexicon lexicon settings = _ ∧ ofLexicon (lexicon.under names) _ = _) ∨
      ∃ pipeline pipeline',
        ofLexicon lexicon settings = _ ∧ ofLexicon (lexicon.under names) _ = _ ∧ _
    by_cases empty : settings.levels = true ∧ settings.unit = []
    · exact .inl ⟨.emptyIndentUnit, dif_pos empty, dif_pos empty⟩
    · have given : settings.levels = true → settings.unit ≠ [] :=
        fun counted none => empty ⟨counted, none⟩
      have renames := @tokenize_renamed names ⟨lexicon, settings, given⟩
        ⟨lexicon.under names, { settings with reserved := names }, given⟩ sound sound' rfl rfl
      rw [reserved] at renames
      exact .inr ⟨_, _, dif_neg empty, dif_neg empty, renames⟩

/-- Names that exchange two of the default ones and replace the other two. -/
def swappedNames : ReservedKinds := ⟨"DEINDENT", "INDENT", "LINE", "END"⟩

/-- The hypotheses hold for names that exchange indents and deindents, and the pipeline is made. -/
theorem ofRules_swappedNames :
    (letterPipeline.settings.reserved.Distinct ∧ swappedNames.Distinct ∧
      (∀ kind ∈ letterDraft.kinds, letterPipeline.settings.reserved.contains kind = false ∧
        swappedNames.contains kind = false) ∧
      ∀ kind ∈ letterPipeline.settings.ignored <|> letterDraft.ignored,
        letterPipeline.settings.reserved.contains kind = false ∧
          swappedNames.contains kind = false) ∧
    ∃ pipeline pipeline', ofRules letterDraft letterPipeline.settings = .ok pipeline ∧
      ofRules letterDraft { letterPipeline.settings with reserved := swappedNames } =
        .ok pipeline' ∧
      ∀ lines, pipeline'.tokenize lines = (pipeline.tokenize lines).map
        (List.map (Token.rename letterPipeline.settings.reserved swappedNames)) := by
  have distinct : letterPipeline.settings.reserved.Distinct := by decide
  have distinct' : swappedNames.Distinct := by decide
  have rulesFree : ∀ kind ∈ letterDraft.kinds,
      letterPipeline.settings.reserved.contains kind = false ∧
        swappedNames.contains kind = false := by decide
  have ignoredFree : ∀ kind ∈ letterPipeline.settings.ignored <|> letterDraft.ignored,
      letterPipeline.settings.reserved.contains kind = false ∧
        swappedNames.contains kind = false := by decide
  refine ⟨⟨distinct, distinct', rulesFree, ignoredFree⟩, ?_⟩
  rcases ofRules_renamed letterDraft letterPipeline.settings swappedNames distinct distinct'
    rulesFree
    ignoredFree with ⟨error, refused, _⟩ | made
  · have accepted : ofRules letterDraft letterPipeline.settings = .ok letterPipeline := by
      have compiles : (applyNames letterDraft letterPipeline.settings).compile =
          .ok letterLexicon :=
        compile_letterDraft
      rw [ofRules_eq, compiles]
      rfl
    cases accepted.symm.trans refused
  · exact made

end Pipeline

end Offside
