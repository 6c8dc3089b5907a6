/-
**One token for the layout of each line.**

A scanner that comes to the end of its input has handed out one indent, deindent or newline for
every line. It is the first token of the line, and all other tokens of the line are of kinds that
are not reserved, so that the layout of a document can be read off the tokens, line by line.

* `Marked`: the tokens of lines, each of which begins with the token for its layout;
* `Marked.filter_marks`: the indents, deindents and newlines among them, one for each line;
* `Marked.depthsBehind_eq`: what they make of the depth. Indents and deindents carry the new depth;
  that the others may be left out is the invariant of the induction on the lines;
* `marked_of_reading`: a reading without failures is marked;
* `exists_marked`: so are the tokens that are collected from a scanner.
-/

import Offside.Proofs.Depth
import Offside.Proofs.Tiling
import Offside.Proofs.TokenPatterns

namespace Offside

open Text TokenSource

/-! ### The tokens for the layout -/

/-- Whether a token is an indent, a deindent or a newline. -/
def ReservedKinds.marks (kinds : ReservedKinds) (token : Token) : Bool :=
  token.kind == kinds.indent || token.kind == kinds.deindent || token.kind == kinds.newline

/-- The tokens for the layout of lines with others before them. -/
def lineMarkers (kinds : ReservedKinds) :
    (before : List (List Char)) → List (List Char) → List Token
  | _, [] => []
  | before, line :: lines =>
    lineMarker kinds before line :: lineMarkers kinds (before ++ [line]) lines

section Markers

variable {kinds : ReservedKinds} {token : Token} (before : List (List Char)) (line : List Char)

theorem marks_lineMarker : kinds.marks (lineMarker kinds before line) = true := by
  unfold lineMarker layoutChange ReservedKinds.marks
  simp only
  split
  · simp
  · simp only
    split
    · simp
    · split <;> simp

theorem row_lineMarker : (lineMarker kinds before line).row = before.length + 1 := by
  unfold lineMarker
  simp only
  split <;> rfl

theorem marks_eq_false_of_free (free : kinds.contains token.kind = false) :
    kinds.marks token = false := by
  rw [ReservedKinds.contains, Bool.or_eq_false_iff] at free
  exact free.1

theorem marks_eq_false_of_eof (distinct : kinds.Distinct) (isEof : token.kind = kinds.eof) :
    kinds.marks token = false := by
  simp [ReservedKinds.marks, isEof, distinct.eof_ne_indent, distinct.eof_ne_deindent,
    Ne.symm distinct.newline_ne_eof]

end Markers

/-- Tokens of lines with others before them: each line begins with the token for its layout, and has
nothing of a reserved kind behind it; the end of input stands behind the last one. -/
inductive Marked (kinds : ReservedKinds) :
    (before : List (List Char)) → List (List Char) → List Token → Prop
  | last {before : List (List Char)} :
    Marked kinds before [] [⟨kinds.eof, ['$'], max before.length 1, endColumn before⟩]
  | line {before : List (List Char)} {line : List Char} {lines : List (List Char)}
      {content tokens : List Token} :
    (∀ token ∈ content, token.row = before.length + 1 ∧ kinds.contains token.kind = false) →
    Marked kinds (before ++ [line]) lines tokens →
    Marked kinds before (line :: lines) (lineMarker kinds before line :: (content ++ tokens))

/-! ### Depths -/

/-- The depth behind a token: an indent or a deindent carries it. -/
def depthBehind (kinds : ReservedKinds) (depth : Nat) (token : Token) : Nat :=
  if token.kind = kinds.indent ∨ token.kind = kinds.deindent then token.text.length else depth

/-- The depths behind tokens that follow one another. -/
def depthsBehind (kinds : ReservedKinds) : (depth : Nat) → List Token → List Nat
  | _, [] => []
  | depth, token :: tokens =>
    depthBehind kinds depth token :: depthsBehind kinds (depthBehind kinds depth token) tokens

/-- The depths of a scanner behind its first pops. -/
def Scanner.depths (scanner : Scanner) : Nat → List Nat
  | 0 => []
  | count + 1 => Scanner.depth (pop scanner).2 :: depths (pop scanner).2 count

section Depths

variable {kinds : ReservedKinds} {token : Token}

theorem Shifts.eq_depthBehind {before after : Nat} (shifts : Shifts kinds token before after) :
    after = depthBehind kinds before token := by
  unfold Shifts at shifts
  unfold depthBehind
  split at shifts
  · rename_i indent
    rw [if_pos (.inl indent)]
    exact shifts.2.symm
  · rename_i noIndent
    split at shifts
    · rename_i deindent
      rw [if_pos (.inr deindent)]
      exact shifts.2.symm
    · rename_i noDeindent
      rw [if_neg (not_or_intro noIndent noDeindent)]
      exact shifts

theorem depthBehind_of_plain (plain : Plain kinds token) (depth : Nat) :
    depthBehind kinds depth token = depth :=
  if_neg (not_or_intro plain.1 plain.2)

/-- The layout of a line leads from the indentation of the lines before it to that behind it. -/
theorem depthBehind_lineMarker (distinct : kinds.Distinct) (before : List (List Char))
    (line : List Char) :
    depthBehind kinds (indentation before) (lineMarker kinds before line) =
      indentation (before ++ [line]) := by
  unfold lineMarker
  simp only
  by_cases blank : isBlankLine line
  · rw [if_pos blank, indentation_append_blank before blank]
    exact depthBehind_of_plain (distinct.plain_of_newline rfl) _
  · rw [if_neg blank, indentation_append_inked before blank]
    unfold depthBehind layoutChange
    simp only
    rcases Nat.lt_trichotomy (indentation before)
      (leadingBlanks line).length with wider | same | narrower
    · rw [if_pos wider, if_pos (.inl rfl)]
    · rw [same, if_neg (Nat.lt_irrefl _), if_neg (Nat.lt_irrefl _),
        if_neg (not_or_intro distinct.newline_ne_indent distinct.newline_ne_deindent)]
    · rw [if_neg (Nat.lt_asymm narrower), if_pos narrower, if_pos (.inr rfl)]

/-- Tokens of no reserved kind leave the depth as it is. -/
theorem depthsBehind_append_of_free {content : List Token}
    (free : ∀ token ∈ content, kinds.contains token.kind = false) (depth : Nat)
    (tokens : List Token) :
    depthsBehind kinds depth (content ++ tokens) =
      content.map (fun _ => depth) ++ depthsBehind kinds depth tokens := by
  induction content with
  | nil => rfl
  | cons token content ih =>
    have plain := ReservedKinds.plain_of_free (free token List.mem_cons_self)
    rw [List.cons_append, depthsBehind, depthBehind_of_plain plain,
      ih fun other member => free other (List.mem_cons_of_mem _ member)]
    rfl

/-- The depth of a scanner over sound rules follows the tokens that it hands out. -/
theorem depths_eq {lexicon : Lexicon} (sound : lexicon.Sound) {tokens : List Token} :
    ∀ scanner : Scanner,
      Buffered.Calm lexicon.reserved (fun state : ScanState => state.lexicon = lexicon) scanner →
      results scanner tokens.length = tokens.map .ok →
      scanner.depths tokens.length = depthsBehind lexicon.reserved scanner.depth tokens := by
  induction tokens with
  | nil =>
    intro scanner _ _
    rfl
  | cons token tokens ih =>
    intro scanner calm handed
    have parts := List.cons.inj handed
    have popped : pop scanner = (.ok token, (pop scanner).2) := Prod.ext parts.1 rfl
    obtain ⟨calm, shifts⟩ := (measured_scanner sound).pop calm popped
    rw [List.length_cons, Scanner.depths, depthsBehind, ← shifts.eq_depthBehind, ih _ calm parts.2]

end Depths

namespace Marked

variable {kinds : ReservedKinds} {before lines : List (List Char)} {tokens : List Token}

/-- The indents, deindents and newlines are the tokens for the layout of the lines. -/
theorem filter_marks (marked : Marked kinds before lines tokens) (distinct : kinds.Distinct) :
    tokens.filter kinds.marks = lineMarkers kinds before lines := by
  induction marked with
  | last =>
    exact List.filter_cons_of_neg
      (by rw [marks_eq_false_of_eof distinct rfl]; exact Bool.false_ne_true)
  | line content _ ih =>
    have none : ∀ token ∈ _, ¬ kinds.marks token = true := fun token member =>
      Bool.eq_false_iff.mp (marks_eq_false_of_free (content token member).2)
    rw [List.filter_cons_of_pos (marks_lineMarker _ _), List.filter_append,
      List.filter_eq_nil_iff.mpr none, List.nil_append, ih, lineMarkers]

/-- Behind each token the depth is the indentation of the lines up to its row. -/
theorem depthsBehind_eq (marked : Marked kinds before lines tokens) (distinct : kinds.Distinct) :
    depthsBehind kinds (indentation before) tokens =
      tokens.map fun token => indentation ((before ++ lines).take token.row) := by
  induction marked with
  | @last before =>
    have all : (before ++ []).take (max before.length 1) = before := by
      rw [List.append_nil, List.take_of_length_le (Nat.le_max_left _ _)]
    rw [depthsBehind, depthBehind_of_plain (distinct.plain_of_eof rfl), List.map_singleton, all]
    rfl
  | @line before line lines content tokens free _ ih =>
    have lineUp : before ++ line :: lines = before ++ [line] ++ lines :=
      List.append_cons before line lines
    have upTo : (before ++ line :: lines).take (before.length + 1) = before ++ [line] := by
      rw [lineUp]
      exact List.take_left' List.length_append
    have within : content.map (fun _ => indentation (before ++ [line])) =
        content.map fun token => indentation ((before ++ line :: lines).take token.row) := by
      refine List.map_congr_left fun token member => ?_
      rw [(free token member).1, upTo]
    rw [depthsBehind, depthBehind_lineMarker distinct,
      depthsBehind_append_of_free fun token member => (free token member).2, ih, within,
      List.map_cons, List.map_append, row_lineMarker, upTo, lineUp]

end Marked

/-! ### Scanners that come to the end of their input -/

section Collected

variable {lexicon : Lexicon}

/-- The tokens of a line stand on its row and are of no reserved kind. -/
theorem free_of_mem_lexemeTokens (sound : lexicon.Sound) {row : Nat} {rest : List Char}
    {lexemes : List Lexeme} (tiled : Tiled lexicon rest lexemes) (before : Nat) :
    ∀ token ∈ lexemeTokens lexicon row before lexemes,
      token.row = row ∧ lexicon.reserved.contains token.kind = false := by
  induction tiled generalizing before with
  | nil =>
    intro token member
    cases member
  | cons matched _ _ _ ih =>
    intro token member
    rw [lexemeTokens] at member
    split at member
    · exact ih _ token member
    · rcases List.mem_cons.mp member with rfl | member
      · exact ⟨rfl, sound.contains_eq_false matched⟩
      · exact ih _ token member

/-- There are no failures among successes. -/
theorem error_notMem_map_ok {ε α : Type} {failure : ε} {values : List α} :
    (.error failure : Except ε α) ∉ values.map .ok := by
  intro member
  obtain ⟨_, _, absent⟩ := List.mem_map.mp member
  cases absent

/-- **A reading without failures is marked.** -/
theorem marked_of_reading (sound : lexicon.Sound) {before : List (List Char)} {lines : List Line}
    {results : List (Except Failure Token)} (reading : Reading lexicon before lines results) :
    ∀ tokens : List Token, results = tokens.map .ok →
      ∃ texts : List (List Char), lines = texts.map .text ∧
        Marked lexicon.reserved before texts tokens := by
  induction reading with
  | @finished before =>
    intro tokens same
    obtain rfl : [⟨lexicon.reserved.eof, ['$'], max before.length 1, endColumn before⟩] = tokens :=
      (List.map_inj_right fun _ _ => Except.ok.inj).mp same
    exact ⟨[], rfl, .last⟩
  | malformed =>
    intro tokens same
    exact absurd (same ▸ List.mem_singleton_self _) error_notMem_map_ok
  | @blank before line lines results blank _ ih =>
    intro tokens same
    obtain ⟨marker, others, rfl, isMarker, handed⟩ := List.map_eq_cons_iff.mp same.symm
    obtain rfl := Except.ok.inj isMarker
    obtain ⟨texts, rfl, marked⟩ := ih others handed.symm
    refine ⟨line :: texts, rfl, ?_⟩
    exact @Marked.line lexicon.reserved before line texts [] others
      (fun _ absent => nomatch absent) marked
  | @tiled before line lines lexemes results _ _ _ tiled _ ih =>
    intro tokens same
    obtain ⟨marker, others, rfl, isMarker, handed⟩ := List.map_eq_cons_iff.mp same.symm
    obtain rfl := Except.ok.inj isMarker
    obtain ⟨content, later, rfl, isContent, behind⟩ := List.map_eq_append_iff.mp handed
    obtain rfl := (List.map_inj_right fun _ _ => Except.ok.inj).mp isContent
    obtain ⟨texts, rfl, marked⟩ := ih later behind.symm
    exact ⟨line :: texts, rfl, .line (free_of_mem_lexemeTokens sound tiled _) marked⟩
  | stuck =>
    intro tokens same
    have failed : .error _ ∈ tokens.map Except.ok :=
      same ▸ List.mem_cons_of_mem _ (List.mem_append_right _ (List.mem_singleton_self _))
    exact absurd failed error_notMem_map_ok

end Collected

/-- What is collected without a failure is all that was answered. -/
theorem map_result_of_collect_eq_ok {eof : String} {list : List Answer}
    (terminated : Answer.Terminated eof list) {tokens : List Token}
    (collected : Answer.collect eof list = .ok tokens) : list.map (·.result) = tokens.map .ok := by
  induction terminated generalizing tokens with
  | @last answer isEnd =>
    obtain ⟨result, view⟩ := answer
    cases result with
    | error failure => cases collected
    | ok token =>
      rw [Answer.collect, if_pos (Answer.isEnd_ok_iff.mp isEnd)] at collected
      cases collected
      rfl
  | @more answer rest inside _ ih =>
    obtain ⟨result, view⟩ := answer
    cases result with
    | error failure => exact absurd trivial inside
    | ok token =>
      rw [Answer.collect, if_neg fun kind => inside (Answer.isEnd_ok_iff.mpr kind)] at collected
      cases later : Answer.collect eof rest with
      | error failure =>
        rw [later] at collected
        cases collected
      | ok others =>
        rw [later] at collected
        cases collected
        rw [List.map_cons, ih later]
        rfl

/-! ### Lines that end with a letter -/

namespace Pipeline

/-- The rule for the letter. -/
def letterRule : Rule := .ofRegex "WORD" [.literal ['a']] (.anchored (.one (.single 'a')))

theorem letterLexicon_eq : letterLexicon = ⟨[letterRule], {}, none⟩ := by
  have rule : Rule.compile {} "WORD" [.literal ['a']] = .ok letterRule :=
    Rule.compile_eq_ok (by decide) rfl (by decide) (by decide +kernel)
  refine Except.ok.inj (compile_letterDraft.symm.trans ?_)
  simp only [letterDraft, Draft.compile_eq, Option.filter_none, List.mapM_cons, List.mapM_nil, rule]
  rfl

theorem longestMatch_letterLexicon : letterLexicon.longestMatch ['a'] = some ⟨"WORD", ['a']⟩ := by
  rw [letterLexicon_eq]
  have shape : [letterRule] = [] ++ letterRule :: [] := rfl
  have found : letterRule.program.findEnd ['a'] = some 1 := Pattern.findEnd_one _ _ _
  exact Lexicon.longestMatch_of_alone shape (List.forall_mem_nil _) found Nat.one_pos

theorem scanContents_letter {state : ScanState} (lexicon : state.lexicon = letterLexicon)
    (letter : state.rest = ['a']) (rest : List (Line × Nat)) :
    state.scanContents rest =
      ScanState.handOut (state.token "WORD" ['a'], (state.step ⟨"WORD", ['a']⟩).view) ::
        (state.step ⟨"WORD", ['a']⟩).scanLines rest := by
  have matched : state.lexicon.longestMatch state.rest = some ⟨"WORD", ['a']⟩ := by
    rw [lexicon, letter, longestMatch_letterLexicon]
  have kept : state.lexicon.isIgnored "WORD" = false := by
    rw [lexicon, letterLexicon_eq]
    rfl
  have more : state.rest ≠ [] := by
    rw [letter]
    exact List.cons_ne_nil _ _
  have done : (state.step ⟨"WORD", ['a']⟩).rest = [] := by
    rw [ScanState.rest_step, letter]
    rfl
  have cut : state.cutLine = ([(state.token "WORD" ['a'], (state.step ⟨"WORD", ['a']⟩).view)],
      state.step ⟨"WORD", ['a']⟩) := by
    rw [ScanState.cutLine_of_match more matched, kept, ScanState.cutLine_of_rest_eq_nil done]
    rfl
  rw [ScanState.scanContents, cut, if_pos done]
  rfl

end Pipeline

/-- **One token for the layout of each line.** The tokens that are collected from a scanner are
marked: each line begins with an indent, a deindent or a newline, and there are no others. Behind
each token the depth of the scanner is the indentation of the lines up to its row, which blank lines
do not change. -/
theorem exists_marked {draft : Draft} {lexicon : Lexicon} (compiled : draft.compile = .ok lexicon)
    (distinct : lexicon.reserved.Distinct) {lines : List Line} {tokens : List Token}
    (collected : TokenSource.collect (Scanner.ofLines lexicon lines) = .ok tokens) :
    ∃ texts : List (List Char), lines = texts.map .text ∧
      Marked lexicon.reserved [] texts tokens ∧
      tokens.filter lexicon.reserved.marks = lineMarkers lexicon.reserved [] texts ∧
      (Scanner.ofLines lexicon lines).depths tokens.length =
        tokens.map fun token => indentation (texts.take token.row) := by
  have sound := Lexicon.sound_of_compile compiled distinct
  rw [Pipeline.collect_scanner sound] at collected
  have handed := map_result_of_collect_eq_ok (Pipeline.terminated_scanned sound lines) collected
  have reading := ScanState.reads_all lexicon lines [] { lexicon, unread := lines } rfl rfl rfl rfl
  obtain ⟨texts, rfl, marked⟩ := marked_of_reading sound reading tokens handed
  refine ⟨texts, rfl, marked, marked.filter_marks distinct, ?_⟩
  have count : (Pipeline.scanned lexicon (texts.map .text)).length = tokens.length := by
    rw [← List.length_map, handed, List.length_map]
  have popped : results (Scanner.ofLines lexicon (texts.map .text)) tokens.length =
      tokens.map .ok := by
    rw [results, ← count, Pipeline.answers_scanned, handed]
  rw [depths_eq sound _ ⟨rfl, of_none⟩ popped]
  exact marked.depthsBehind_eq distinct

/-- A line that is indented, a blank one, and one that is not indented. -/
theorem exists_marked_letters :
    let lines : List Line := [.text "  a".toList, .text " ".toList, .text "a".toList]
    let tokens : List Token := [⟨"INDENT", "  ".toList, 1, 1⟩, ⟨"WORD", ['a'], 1, 3⟩,
      ⟨"NEWLINE", " ".toList, 2, 1⟩, ⟨"DEINDENT", [], 3, 1⟩, ⟨"WORD", ['a'], 3, 1⟩,
      ⟨"EOF", ['$'], 3, 2⟩]
    let lexicon := Pipeline.letterLexicon
    (Pipeline.letterDraft.compile = .ok lexicon ∧ lexicon.reserved.Distinct ∧
      TokenSource.collect (Scanner.ofLines lexicon lines) = .ok tokens) ∧
    ∃ texts : List (List Char), lines = texts.map .text ∧
      Marked lexicon.reserved [] texts tokens ∧
      tokens.filter lexicon.reserved.marks = lineMarkers lexicon.reserved [] texts ∧
      (Scanner.ofLines lexicon lines).depths tokens.length =
        tokens.map fun token => indentation (texts.take token.row) := by
  intro lines tokens lexicon
  have compiled := Pipeline.compile_letterDraft
  have distinct := Pipeline.distinct_letterPipeline
  have collected : TokenSource.collect (Scanner.ofLines lexicon lines) = .ok tokens := by
    rw [Pipeline.collect_scanner (Lexicon.sound_of_compile compiled distinct)]
    show Answer.collect _ (ScanState.scanLines _ ((.text _, 0) :: (.text _, 1) :: [(.text _, 2)])) =
      _
    rw [ScanState.scanLines_inked _ (by decide), Pipeline.scanContents_letter rfl rfl,
      ScanState.scanLines_blank _ (by decide), ScanState.scanLines_inked _ (by decide),
      Pipeline.scanContents_letter rfl rfl]
    simp only [Pipeline.letterLexicon_eq]
    rfl
  exact ⟨⟨compiled, distinct, collected⟩, exists_marked compiled distinct collected⟩

end Offside
