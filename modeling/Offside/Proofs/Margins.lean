/-
**Which documents a pipeline that counts levels accepts.**

Of every line that is not blank only the leading blanks matter, and of the lines before it only the
width and the level that they leave behind, its `Margin`. `firstViolation` goes through the lines
and stops at the first that breaks the margin. It knows neither tokens nor filters.

* `rewriter_of_broken`, `rewriter_of_kept`: the check of one line marker is the check of the line
  against the margin. It needs that the margin is as wide as its level says, `Margin.Tight`, which
  every line that keeps to the margin preserves (`tight_after`);
* `judges_all`: the induction over all lines;
* `tokenize_iff`: a pipeline succeeds exactly if the scanner does and no line breaks the margin, and
  otherwise it reports what comes first in the tokens of the scanner.
-/

import Offside.Proofs.Tokenizing

namespace Offside

open Text TokenSource

/-! ### Lines against a margin -/

/-- What the lines read so far leave behind: the width of the last one that is not blank, and the
level that the last change of width led to. -/
structure Margin where
  width : Nat := 0
  level : Nat := 0

namespace Margin

/-- A line breaks the margin if it is wider and not by one unit to the next level, or if it is
narrower and no whole number of units. -/
def Broken (unit : List Char) (margin : Margin) (run : List Char) : Prop :=
  (margin.width < run.length ∧ run ≠ repeatUnit unit (margin.level + 1)) ∨
    (run.length < margin.width ∧ ∀ count, run ≠ repeatUnit unit count)

/-- The margin after a line; a line of another width sets the level to its number of units. -/
def after (unit : List Char) (margin : Margin) (run : List Char) : Margin :=
  ⟨run.length,
    if run.length = margin.width then margin.level
    else (repetitions? unit run).getD margin.level⟩

/-- The margin is as wide as its level says. -/
def Tight (unit : List Char) (margin : Margin) : Prop :=
  margin.width = margin.level * unit.length

end Margin

/-- A text that is no whole number of units has no number of repetitions. -/
theorem repetitions?_eq_none_iff {unit text : List Char} :
    repetitions? unit text = none ↔ ∀ count, text ≠ repeatUnit unit count := by
  constructor
  · intro uncounted count same
    by_cases empty : unit = []
    · have nothing : ∀ count, repeatUnit unit count = [] := fun count =>
        List.length_eq_zero_iff.mp (by rw [length_repeatUnit, empty, List.length_nil, Nat.mul_zero])
      rw [repetitions?, nothing, same, nothing, if_pos rfl] at uncounted
      cases uncounted
    · rw [(repetitions?_eq_some_iff empty).mpr same] at uncounted
      cases uncounted
  · intro none
    rw [repetitions?]
    exact if_neg fun same => none _ same.symm

instance (unit : List Char) (margin : Margin) (run : List Char) :
    Decidable (margin.Broken unit run) :=
  decidable_of_iff ((margin.width < run.length ∧ run ≠ repeatUnit unit (margin.level + 1)) ∨
      (run.length < margin.width ∧ repetitions? unit run = none))
    (by rw [Margin.Broken, repetitions?_eq_none_iff])

/-- A line that breaks the margin. -/
structure Violation where
  row : Nat
  line : List Char
  /-- Whether the line is wider than the one before. -/
  wider : Bool
  deriving DecidableEq

namespace Violation

/-- What is reported: the place at the start of the line. -/
def failure (violation : Violation) : Failure :=
  let start : Caret := ⟨violation.line, violation.row, 1, leadingBlanks violation.line⟩
  if violation.wider then .invalidIndent start else .invalidDeindent start

/-- The token with which the scanner begins the line. -/
def marker (kinds : ReservedKinds) (violation : Violation) : Token :=
  ⟨if violation.wider then kinds.indent else kinds.deindent, leadingBlanks violation.line,
    violation.row, 1⟩

end Violation

/-- The first line that breaks the margin; blank lines do not count. -/
def firstViolation (unit : List Char) (margin : Margin) (before : Nat) :
    List Line → Option Violation
  | [] => none
  | .malformed :: rest => firstViolation unit margin (before + 1) rest
  | .text line :: rest =>
    if isBlankLine line then firstViolation unit margin (before + 1) rest
    else if margin.Broken unit (leadingBlanks line) then
      some ⟨before + 1, line, decide (margin.width < (leadingBlanks line).length)⟩
    else firstViolation unit (margin.after unit (leadingBlanks line)) (before + 1) rest

example : firstViolation "  ".toList {} 0
    [.text "a".toList, .text "  a".toList, .text [], .text "     a".toList, .text " a".toList] =
      some ⟨4, "     a".toList, true⟩ := by decide

/-- Lines are numbered in order. -/
theorem lt_row_of_firstViolation {unit : List Char} {margin : Margin} {before : Nat}
    {lines : List Line} {violation : Violation}
    (first : firstViolation unit margin before lines = some violation) :
    before < violation.row := by
  induction lines generalizing margin before with
  | nil => cases first
  | cons line rest ih =>
    cases line with
    | malformed => exact Nat.lt_of_succ_lt (ih first)
    | text line =>
      rw [firstViolation] at first
      split at first
      · exact Nat.lt_of_succ_lt (ih first)
      · split at first
        · cases first
          exact Nat.lt_succ_self before
        · exact Nat.lt_of_succ_lt (ih first)

/-! ### One line -/

namespace Margin

variable {unit : List Char} {margin : Margin} {run : List Char}

/-- A line that keeps to a tight margin leaves a tight margin. -/
theorem tight_after (nonempty : unit ≠ []) (tight : margin.Tight unit)
    (kept : ¬ margin.Broken unit run) : (margin.after unit run).Tight unit := by
  unfold Tight after
  simp only
  split
  · rename_i same
    rw [same, tight]
  · rename_i different
    have whole : ∃ count, run = repeatUnit unit count := by
      by_contra none
      refine kept ?_
      rw [not_exists] at none
      rcases Nat.lt_or_gt_of_ne different with narrower | wider
      · exact .inr ⟨narrower, none⟩
      · exact .inl ⟨wider, none _⟩
    obtain ⟨count, rfl⟩ := whole
    rw [(repetitions?_eq_some_iff nonempty).mpr rfl, length_repeatUnit]
    rfl

end Margin

namespace ScanState

variable {state : ScanState} {unit : List Char} {margin : Margin} {line : List Char}

/-- A line that breaks the margin begins with the marker of its violation. -/
theorem marker_of_broken (depth : state.depth = margin.width) (row : Nat)
    (broken : margin.Broken unit (leadingBlanks line)) :
    (⟨state.layoutKind (leadingBlanks line).length, leadingBlanks line, row, 1⟩ : Token) =
      Violation.marker state.lexicon.reserved
        ⟨row, line, decide (margin.width < (leadingBlanks line).length)⟩ := by
  unfold Violation.marker
  simp only [decide_eq_true_eq]
  rw [← depth]
  rcases broken with ⟨wider, _⟩ | ⟨narrower, _⟩
  · rw [← depth] at wider
    rw [layoutKind_of_wider wider, if_pos wider]
  · rw [← depth] at narrower
    rw [layoutKind_of_narrower narrower, if_neg (Nat.lt_asymm narrower)]

/-- Counting levels reports the violation of a line that breaks the margin. -/
theorem rewriter_of_broken {kinds : ReservedKinds} (distinct : kinds.Distinct)
    (nonempty : unit ≠ [])
    (tight : margin.Tight unit) (row : Nat) (broken : margin.Broken unit (leadingBlanks line)) :
    let violation : Violation := ⟨row, line, decide (margin.width < (leadingBlanks line).length)⟩
    Leveled.rewriter kinds unit margin.level ⟨line, leadingBlanks line⟩ (violation.marker kinds) =
      .error violation.failure := by
  unfold Violation.marker Violation.failure Leveled.rewriter
  simp only [decide_eq_true_eq]
  rcases broken with ⟨wider, other⟩ | ⟨narrower, none⟩
  · rw [if_pos wider, if_pos rfl, if_pos wider]
    split
    · rename_i count counted
      have counts := (repetitions?_eq_some_iff nonempty).mp counted
      refine if_neg fun shallow => other ?_
      -- A run that is wider than the margin holds more units than there are levels.
      have deeper : margin.level < count := by
        rw [counts, length_repeatUnit, tight] at wider
        exact Nat.lt_of_mul_lt_mul_right wider
      rw [counts, Nat.le_antisymm shallow deeper]
    · rfl
  · have notWider := Nat.lt_asymm narrower
    rw [if_neg notWider, if_neg (Ne.symm distinct.indent_ne_deindent), if_pos rfl,
      repetitions?_eq_none_iff.mpr none, if_neg notWider]

/-- A line that keeps to the margin goes on to the margin after it. -/
theorem rewriter_of_kept (distinct : state.lexicon.reserved.Distinct) (nonempty : unit ≠ [])
    (depth : state.depth = margin.width) (row : Nat) (view : View) {run : List Char}
    (kept : ¬ margin.Broken unit run) :
    ∃ tokens, Leveled.rewriter state.lexicon.reserved unit margin.level view
        ⟨state.layoutKind run.length, run, row, 1⟩ =
      .ok (tokens, (margin.after unit run).level) := by
  unfold Margin.after
  rcases Nat.lt_trichotomy run.length margin.width with narrower | same | wider
  · have kind := layoutKind_of_narrower (depth ▸ narrower)
    have whole : ∃ count, run = repeatUnit unit count := by
      by_contra none
      exact kept (.inr ⟨narrower, not_exists.mp none⟩)
    obtain ⟨count, counted⟩ := whole
    have counts := (repetitions?_eq_some_iff nonempty).mpr counted
    unfold Leveled.rewriter
    simp only
    rw [kind, if_neg (Ne.symm distinct.indent_ne_deindent), if_pos rfl, counts,
      if_neg (Nat.ne_of_lt narrower)]
    exact ⟨_, rfl⟩
  · have kind := layoutKind_of_same (same.trans depth.symm)
    simp only
    rw [if_pos same, kind]
    exact ⟨_, Leveled.rewriter_of_plain _ _ (distinct.plain_of_newline rfl)⟩
  · have kind := layoutKind_of_wider (depth ▸ wider)
    have next : run = repeatUnit unit (margin.level + 1) := by
      by_contra other
      exact kept (.inl ⟨wider, other⟩)
    have counts := (repetitions?_eq_some_iff nonempty).mpr next
    unfold Leveled.rewriter
    simp only
    rw [kind, if_pos rfl, counts, if_neg (Ne.symm (Nat.ne_of_lt wider))]
    simp only
    rw [if_pos (Nat.le_refl _)]
    exact ⟨_, rfl⟩

end ScanState

/-! ### All lines -/

/-- How a list of answers fares that counting levels made of the answers of a scanner, given the
first line that breaks the margin. -/
inductive Judged (kinds : ReservedKinds) (scan rewritten : List Answer) : Option Violation → Prop
  /-- The line is among the answers of the scanner, and is reported. -/
  | broken {violation : Violation} :
    (∃ answer ∈ scan, answer.result = .ok (violation.marker kinds)) →
    Answer.verdict kinds.eof rewritten = .error violation.failure →
    Judged kinds scan rewritten (some violation)
  /-- The scanner fails before it comes to such a line. -/
  | stuck {first : Option Violation} {failure : Failure} :
    (∀ violation, first = some violation →
      ∀ answer ∈ scan, answer.result ≠ .ok (violation.marker kinds)) →
    Answer.verdict kinds.eof scan = .error failure →
    Answer.verdict kinds.eof rewritten = .error failure →
    Judged kinds scan rewritten first
  /-- There is no such line, and the scanner comes to the end of input. -/
  | fine :
    Answer.verdict kinds.eof scan = .ok () → Answer.verdict kinds.eof rewritten = .ok () →
    Judged kinds scan rewritten none

namespace Judged

variable {kinds : ReservedKinds} {scan rewritten : List Answer} {first : Option Violation}

/-- Answers in front that hand out tokens change nothing, if none of them begins the line in
question. -/
theorem append {front front' : List Answer} (inside : ∀ answer ∈ front, ¬ answer.IsEnd kinds.eof)
    (inside' : ∀ answer ∈ front', ¬ answer.IsEnd kinds.eof)
    (fresh : ∀ violation, first = some violation →
      ∀ answer ∈ front, answer.result ≠ .ok (violation.marker kinds))
    (judged : Judged kinds scan rewritten first) :
    Judged kinds (front ++ scan) (front' ++ rewritten) first := by
  cases judged with
  | broken begins reported =>
    obtain ⟨answer, member, same⟩ := begins
    refine .broken ⟨answer, List.mem_append_right _ member, same⟩ ?_
    rw [Answer.verdict_append inside', reported]
  | stuck before fails reported =>
    refine .stuck (fun violation isFirst answer member => ?_)
      ((Answer.verdict_append inside _).trans fails)
        ((Answer.verdict_append inside' _).trans reported)
    rcases List.mem_append.mp member with member | member
    · exact fresh violation isFirst answer member
    · exact before violation isFirst answer member
  | fine scans accepts =>
    refine .fine ?_ ?_
    · rw [Answer.verdict_append inside, scans]
    · rw [Answer.verdict_append inside', accepts]

/-- Whether a line begins among the answers of a scanner. -/
def Begins (kinds : ReservedKinds) (scan : List Answer) (violation : Violation) : Prop :=
  ∃ answer ∈ scan, answer.result = .ok (violation.marker kinds)

theorem ok_iff (judged : Judged kinds scan rewritten first) :
    Answer.verdict kinds.eof rewritten = .ok () ↔
      Answer.verdict kinds.eof scan = .ok () ∧ first = none := by
  cases judged with
  | broken begins reported =>
    rw [reported]
    constructor
    · intro absent
      cases absent
    · rintro ⟨_, absent⟩
      cases absent
  | stuck before fails reported =>
    rw [reported, fails]
    constructor
    · intro absent
      cases absent
    · rintro ⟨absent, _⟩
      cases absent
  | fine scans accepts => exact ⟨fun _ => ⟨scans, rfl⟩, fun _ => accepts⟩

theorem error_iff (judged : Judged kinds scan rewritten first) (failure : Failure) :
    Answer.verdict kinds.eof rewritten = .error failure ↔
      (∃ violation, first = some violation ∧ Begins kinds scan violation ∧
        failure = violation.failure) ∨
      (Answer.verdict kinds.eof scan = .error failure ∧
        ∀ violation, first = some violation → ¬ Begins kinds scan violation) := by
  cases judged with
  | @broken violation begins reported =>
    rw [reported]
    constructor
    · intro same
      cases same
      exact .inl ⟨violation, rfl, begins, rfl⟩
    · rintro (⟨other, same, _, rfl⟩ | ⟨_, never⟩)
      · cases same
        rfl
      · exact absurd begins (never violation rfl)
  | stuck before fails reported =>
    rw [reported, fails]
    constructor
    · intro same
      exact .inr ⟨same, fun violation isFirst ⟨answer, member, begins⟩ =>
        before violation isFirst answer member begins⟩
    · rintro (⟨violation, isFirst, ⟨answer, member, begins⟩, _⟩ | ⟨same, _⟩)
      · exact absurd begins (before violation isFirst answer member)
      · exact same
  | fine scans accepts =>
    rw [accepts, scans]
    constructor
    · intro absent
      cases absent
    · rintro (⟨_, absent, _⟩ | ⟨absent, _⟩)
      · cases absent
      · cases absent

/-- Where the scanner fails, and not with a token, the failure is reported. -/
theorem of_error (unit : List Char) (level : Nat) (failure : Failure) (view : View) :
    Judged kinds [⟨.error failure, view⟩]
      ((Leveled.rewriter kinds unit).run (.ok level) [⟨.error failure, view⟩]) first := by
  refine .stuck (fun violation _ answer member same => ?_) rfl rfl
  rw [List.mem_singleton.mp member] at same
  cases same

end Judged

/-- Tokens of rows that were read before do not begin a later line. -/
theorem fresh_of_row {unit : List Char} {margin : Margin} {before : Nat} {lines : List Line}
    {kinds : ReservedKinds} {front : List Answer}
    (rows : ∀ answer ∈ front, answer.Gives fun token => token.row = before) (violation : Violation)
    (isFirst : firstViolation unit margin before lines = some violation) :
    ∀ answer ∈ front, answer.result ≠ .ok (violation.marker kinds) := by
  intro answer member same
  obtain ⟨token, given, row⟩ := rows answer member
  rw [given] at same
  cases same
  exact absurd row (Nat.ne_of_gt (lt_row_of_firstViolation isFirst))

namespace ScanState

variable {unit : List Char}

variable {lexicon : Lexicon} {before : Nat} {lines : List Line}

/-- Lines are judged by the margin, wherever the scanner comes from. -/
def Judges (lexicon : Lexicon) (unit : List Char) (before : Nat) (lines : List Line) : Prop :=
  ∀ (state : ScanState) (margin : Margin), state.lexicon = lexicon → margin.Tight unit →
    state.depth = margin.width →
    Judged lexicon.reserved (state.scanLines (lines.zipIdx before))
      ((Leveled.rewriter lexicon.reserved unit).run (.ok margin.level)
        (state.scanLines (lines.zipIdx before)))
      (firstViolation unit margin before lines)

theorem judges_nil (sound : lexicon.Sound) : Judges lexicon unit before [] := by
  rintro state margin rfl _ _
  have distinct := sound.distinct
  rw [List.zipIdx_nil, scanLines, Rewriter.run,
    Rewriter.feed_ok _ (Leveled.rewriter_of_plain _ _ (distinct.plain_of_eof rfl))]
  exact .fine (Answer.verdict_eof rfl _ _) (Answer.verdict_eof rfl _ _)

theorem judges_malformed : Judges lexicon unit before (.malformed :: lines) := by
  intro state margin _ _ _
  exact .of_error unit margin.level _ _

/-- A blank line leaves the margin as it is. -/
theorem judges_blank (sound : lexicon.Sound) {line : List Char} (blank : isBlankLine line)
    (onward : Judges lexicon unit (before + 1) lines) :
    Judges lexicon unit before (.text line :: lines) := by
  rintro state margin rfl tight depth
  have distinct := sound.distinct
  have width : (state.enterLine line before lines).2.depth = _ := depth_enterLine state
  rw [if_pos blank] at width
  have judged := onward _ margin (lexicon_enterLine state) tight (width.trans depth)
  rw [List.zipIdx_cons, scanLines_blank state blank, firstViolation, if_pos blank,
    List.zipIdx_map_fst, Rewriter.run,
    Rewriter.feed_ok _ (Leveled.rewriter_of_plain _ _ (distinct.plain_of_newline rfl))]
  have handed : ∀ answer ∈ [(⟨.ok ⟨state.lexicon.reserved.newline, line, before + 1, 1⟩,
      ⟨line, []⟩⟩ : Answer)], ¬ answer.IsEnd state.lexicon.reserved.eof :=
    List.forall_mem_singleton.mpr distinct.newline_ne_eof
  refine judged.append handed handed (fresh_of_row ?_)
  exact List.forall_mem_singleton.mpr ⟨_, rfl, rfl⟩

/-- What comes behind the layout of a line is judged by the margin that the line leaves. -/
theorem judged_scanContents (onward : Judges lexicon unit before lines) (sound : lexicon.Sound)
    (state : ScanState) (margin : Margin) (same : state.lexicon = lexicon)
    (tight : margin.Tight unit) (depth : state.depth = margin.width) (row : state.row = before) :
    Judged lexicon.reserved (state.scanContents (lines.zipIdx before))
      ((Leveled.rewriter lexicon.reserved unit).run (.ok margin.level)
        (state.scanContents (lines.zipIdx before)))
      (firstViolation unit margin before lines) := by
  subst same
  have frame := frame_cutLine state
  have content := gives_of_mem_content sound
  rw [scanContents, Leveled.run_plain]
  · have inside := not_isEnd_of_mem_content sound
    refine Judged.append inside inside (fresh_of_row fun answer member => ?_) ?_
    · obtain ⟨token, given, _, here⟩ := content answer member
      exact ⟨token, given, here.trans row⟩
    · split
      · exact onward _ margin frame.lexicon tight (frame.depth.trans depth)
      · exact .of_error unit margin.level _ _
  · intro answer member
    obtain ⟨token, given, free, _⟩ := content answer member
    exact ⟨token, given, ReservedKinds.plain_of_free free⟩

/-- Any other line breaks the margin, or goes on to the margin after it. -/
theorem judges_inked (sound : lexicon.Sound) (nonempty : unit ≠ []) {line : List Char}
    (inked : ¬ isBlankLine line) (onward : Judges lexicon unit (before + 1) lines) :
    Judges lexicon unit before (.text line :: lines) := by
  rintro state margin rfl tight depth
  have distinct := sound.distinct
  rw [List.zipIdx_cons, scanLines_inked state inked, firstViolation, if_neg inked,
    List.zipIdx_map_fst, Rewriter.run]
  by_cases broken : margin.Broken unit (leadingBlanks line)
  · rw [if_pos broken, marker_of_broken depth (before + 1) broken,
      Rewriter.feed_refused _ (rewriter_of_broken distinct nonempty tight _ broken)]
    exact .broken ⟨_, List.mem_cons_self, rfl⟩ rfl
  · have width : (state.enterLine line before lines).2.depth = _ := depth_enterLine state
    rw [if_neg inked] at width
    have judged := judged_scanContents onward sound _ (margin.after unit (leadingBlanks line))
      (lexicon_enterLine state) (Margin.tight_after nonempty tight broken) width
        (row_enterLine state)
    obtain ⟨tokens, accepted⟩ := rewriter_of_kept distinct nonempty depth (before + 1)
      ⟨line, leadingBlanks line⟩ broken
    rw [if_neg broken, Rewriter.feed_ok _ accepted]
    have notEof := layoutKind_ne_eof state distinct (leadingBlanks line).length
    have handed : ∀ answer ∈ [(⟨.ok ⟨state.layoutKind (leadingBlanks line).length,
        leadingBlanks line, before + 1, 1⟩, ⟨line, leadingBlanks line⟩⟩ : Answer)],
        ¬ answer.IsEnd state.lexicon.reserved.eof := List.forall_mem_singleton.mpr notEof
    refine judged.append handed ?_ (fresh_of_row ?_)
    · intro answer member isEnd
      obtain ⟨token, handed, rfl⟩ := List.mem_map.mp member
      exact notEof ((Leveled.kind_of_rewriter accepted token handed).symm.trans isEnd)
    · exact List.forall_mem_singleton.mpr ⟨_, rfl, rfl⟩

/-- **All lines are judged by the margin.** -/
theorem judges_all (sound : lexicon.Sound) (nonempty : unit ≠ []) (lines : List Line) :
    Judges lexicon unit before lines := by
  induction lines generalizing before with
  | nil => exact judges_nil sound
  | cons line lines ih =>
    cases line with
    | malformed => exact judges_malformed
    | text line =>
      by_cases blank : isBlankLine line
      · exact judges_blank sound blank ih
      · exact judges_inked sound nonempty blank ih

end ScanState

/-! ### Pipelines -/

namespace Pipeline

theorem judged_scanned {lexicon : Lexicon} (sound : lexicon.Sound) {unit : List Char}
    (nonempty : unit ≠ []) (lines : List Line) :
    Judged lexicon.reserved (scanned lexicon lines)
      ((Leveled.rewriter lexicon.reserved unit).run (.ok 0) (scanned lexicon lines))
      (firstViolation unit {} 0 lines) :=
  ScanState.judges_all sound nonempty lines { lexicon, unread := lines } {} rfl
    (Nat.zero_mul _).symm rfl

/-- The scanner alone comes as far as the marker of a line, before it fails. -/
def Reached (lexicon : Lexicon) (lines : List Line) (violation : Violation) : Prop :=
  .ok (violation.marker lexicon.reserved) ∈ (TokenSource.drain (Scanner.ofLines lexicon lines)).1

theorem reached_iff {lexicon : Lexicon} (sound : lexicon.Sound) (lines : List Line)
    (violation : Violation) :
    Reached lexicon lines violation ↔
      Judged.Begins lexicon.reserved (scanned lexicon lines) violation := by
  rw [Reached, drain_scanner sound, List.mem_map]
  rfl

/-- **A pipeline that counts levels accepts what its scanner accepts and no line breaks.** If it
fails it reports the first line that breaks the margin, provided that the scanner comes as far as
the marker of this line, and what the scanner fails with otherwise. -/
theorem tokenize_iff {draft : Draft} {pipeline : Pipeline}
    (compiled : draft.compile = .ok pipeline.lexicon)
    (distinct : pipeline.lexicon.reserved.Distinct) (levels : pipeline.settings.levels = true)
    (lines : List Line) :
    let scanner := Scanner.ofLines pipeline.lexicon lines
    let first := firstViolation pipeline.settings.unit {} 0 lines
    ((∃ tokens, pipeline.tokenize lines = .ok tokens) ↔
        (∃ tokens, TokenSource.collect scanner = .ok tokens) ∧ first = none) ∧
      ∀ failure, pipeline.tokenize lines = .error failure ↔
        (∃ violation, first = some violation ∧ Reached pipeline.lexicon lines violation ∧
          failure = violation.failure) ∨
        (TokenSource.collect scanner = .error failure ∧
          ∀ violation, first = some violation → ¬ Reached pipeline.lexicon lines violation) := by
  intro scanner first
  have sound := Lexicon.sound_of_compile compiled distinct
  have judged := judged_scanned sound (pipeline.unit_ne_nil levels) lines
  have tokenizes := verdict_tokenize sound levels lines
  have scans : outcome (TokenSource.collect scanner) = Answer.verdict pipeline.lexicon.reserved.eof
      (scanned pipeline.lexicon lines) := congrArg outcome (collect_scanner sound lines)
  refine ⟨?_, fun failure => ?_⟩
  · rw [← outcome_eq_ok_iff, ← outcome_eq_ok_iff, tokenizes, scans]
    exact judged.ok_iff
  · have fails := judged.error_iff failure
    rw [← tokenizes, ← scans, outcome_eq_error_iff, outcome_eq_error_iff] at fails
    simp only [reached_iff sound]
    exact fails

/-- The hypotheses hold for a pipeline over one rule; the lines go wrong in the fourth row, and the
rule does not match in the fifth. -/
theorem tokenize_letterPipeline_iff :
    let lines : List Line :=
      [.text "a".toList, .text "  a".toList, .text [], .text "     a".toList, .text "b".toList]
    letterDraft.compile = .ok letterPipeline.lexicon ∧ letterPipeline.lexicon.reserved.Distinct ∧
      letterPipeline.settings.levels = true ∧
      ∀ failure, letterPipeline.tokenize lines = .error failure ↔
        (∃ violation, firstViolation letterPipeline.settings.unit {} 0 lines = some violation ∧
          Reached letterPipeline.lexicon lines violation ∧ failure = violation.failure) ∨
        (TokenSource.collect (Scanner.ofLines letterPipeline.lexicon lines) = .error failure ∧
          ∀ violation, firstViolation letterPipeline.settings.unit {} 0 lines = some violation →
            ¬ Reached letterPipeline.lexicon lines violation) :=
  ⟨compile_letterDraft, distinct_letterPipeline, rfl,
    (tokenize_iff compile_letterDraft distinct_letterPipeline rfl _).2⟩

end Pipeline

end Offside
