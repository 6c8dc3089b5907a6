/-
**Descriptions are read as they are written.**

Definitions may be written down in many ways: with a bar or a comma between alternatives, and with
any blanks and line breaks before, between and behind the tokens. Whatever is chosen, reading the
text gives the definitions back, with the matchers of each name together and letter by letter.

* `Writes`: the tokens that describe definitions; `Spread` puts them in a text;
* `Writes.separate`: none of them reaches into the next. This is where names are put in front of
  colons;
* `exists_items`: what there is to read in such a text are the tokens;
* `read_definitions`: reading them registers the definitions. Both this and `Writes.separate` are
  inductions on how the definitions are written;
* `load_written`: reading the text gives the definitions, grouped by name.
-/

import Offside.Proofs.DescriptionGrammar
import Offside.Proofs.Registering
import Offside.Proofs.Spacing

namespace Offside.Description

open Pattern (Body)
open Text TokenSource

/-! ### Writing definitions -/

/-- A name with at least one matcher. The name can be written, and so can what the matchers match:
their texts and patterns hold a delimiter only behind a backslash, and no line feed. -/
structure Definition where
  name : String
  matchers : List Matcher
  named : IsName name.toList
  nonempty : matchers ≠ []
  bodies : ∀ matcher ∈ matchers, Body (delimiter matcher) matcher.source

/-- What a definition is to register. -/
def Definition.entry (definition : Definition) : String × List Matcher :=
  (definition.name, definition.matchers)

/-- The token for a matcher. -/
def matcherToken (matcher : Matcher) : Match := ⟨matcherKind matcher, delimited matcher⟩

/-- The tokens for alternatives, with a bar or a comma between any two. -/
inductive WritesAlternatives : List Matcher → List Match → Prop
  | last {matcher : Matcher} : WritesAlternatives [matcher] [matcherToken matcher]
  | more {matcher : Matcher} {matchers : List Matcher} {tokens : List Match} {separator : Char} :
    separator = '|' ∨ separator = ',' → WritesAlternatives matchers tokens →
    WritesAlternatives (matcher :: matchers)
      (matcherToken matcher :: ⟨separatorKind, [separator]⟩ :: tokens)

/-- The tokens for definitions: for each the name, a colon, the alternatives and a semicolon. -/
inductive Writes : List Definition → List Match → Prop
  | nil : Writes [] []
  | cons {definition : Definition} {definitions : List Definition}
      {alternatives tokens : List Match} :
    WritesAlternatives definition.matchers alternatives → Writes definitions tokens →
    Writes (definition :: definitions)
      (⟨nameKind, definition.name.toList⟩ :: ⟨colonKind, [':']⟩ ::
        (alternatives ++ ⟨semicolonKind, [';']⟩ :: tokens))

/-! ### Tokens that do not reach into each other -/

section Firm

variable {next : Option Char}

/-- A token that is matched in front of anything. -/
theorem firm_of_longestMatch {found : Match} (inked : StartsInked found.text)
    (unbroken : '\n' ∉ found.text) (solid : found.text.getLast? ≠ some '\r')
    (matched : ∀ rest, lexicon.longestMatch (found.text ++ rest) = some found) :
    Firm lexicon found next :=
  ⟨inked, unbroken, solid, fun rest _ => matched rest⟩

theorem firm_mark {mark : Char} {kind : String} (member : (mark, kind) ∈ marks) :
    Firm lexicon ⟨kind, [mark]⟩ next := by
  have plain : isBlank mark = false ∧ mark ≠ '\n' ∧ mark ≠ '\r' := by
    simp only [marks, List.mem_cons, Prod.mk.injEq, List.not_mem_nil, or_false] at member
    rcases member with ⟨rfl, _⟩ | ⟨rfl, _⟩ | ⟨rfl, _⟩ | ⟨rfl, _⟩ <;> decide
  refine firm_of_longestMatch ⟨mark, [], rfl, plain.1⟩ ?_ ?_ (longestMatch_mark member)
  · exact fun feed => plain.2.1 (List.mem_singleton.mp feed).symm
  · exact fun last => plain.2.2 (Option.some.inj last)

theorem notMem_of_body {c : Char} {body : List Char} (shape : Body c body) : '\n' ∉ body := by
  induction shape with
  | nil => exact List.not_mem_nil
  | escaped fits _ ih =>
    simp only [List.mem_cons, not_or]
    exact ⟨by decide, Ne.symm fits, ih⟩
  | plain fits _ _ _ ih =>
    rw [List.mem_cons, not_or]
    exact ⟨Ne.symm fits, ih⟩

theorem firm_matcherToken {matcher : Matcher} (body : Body (delimiter matcher) matcher.source) :
    Firm lexicon (matcherToken matcher) next := by
  have plain : isBlank (delimiter matcher) = false ∧ '\n' ≠ delimiter matcher ∧
      delimiter matcher ≠ '\r' := by
    cases matcher with
    | literal _ => exact (by decide : isBlank '\'' = false ∧ '\n' ≠ '\'' ∧ '\'' ≠ '\r')
    | regex _ => exact (by decide : isBlank '/' = false ∧ '\n' ≠ '/' ∧ '/' ≠ '\r')
  refine firm_of_longestMatch ⟨_, _, rfl, plain.1⟩ ?_ ?_ fun rest => ?_
  · simp only [matcherToken, delimited, List.mem_cons, List.mem_append, List.not_mem_nil, or_false,
      not_or]
    exact ⟨plain.2.1, notMem_of_body body, plain.2.1⟩
  · rw [matcherToken, delimited, ← List.cons_append, List.getLast?_concat]
    exact fun last => plain.2.2 (Option.some.inj last)
  · exact longestMatch_delimited ⟨List.append_assoc _ _ rest, .inl body⟩

theorem firm_name {name : List Char} (isName : IsName name)
    (ends : ∀ c ∈ next, nameCharacters.contains c = false) :
    Firm lexicon ⟨nameKind, name⟩ next := by
  have other : ∀ c, nameCharacters.contains c = false → c ∉ name := fun c outside member => by
    rw [isName.contains c member] at outside
    cases outside
  refine ⟨?_, other '\n' (by decide), ?_, fun rest behind => longestMatch_name isName
    fun c head => ?_⟩
  · obtain _ | ⟨c, more⟩ := name
    · exact isName.elim
    · refine ⟨c, more, rfl, Bool.eq_false_iff.mpr fun blank => ?_⟩
      exact other c (contains_nameCharacters_of_isBlank blank) List.mem_cons_self
  · exact fun last => other '\r' (by decide) (List.mem_of_getLast? last)
  · rcases behind with rfl | same
    · cases head
    · exact ends c (same ▸ head)

end Firm

theorem WritesAlternatives.separate {matchers : List Matcher} {tokens : List Match}
    (writes : WritesAlternatives matchers tokens)
    (bodies : ∀ matcher ∈ matchers, Body (delimiter matcher) matcher.source) {rest : List Match}
    (others : Separate lexicon rest) : Separate lexicon (tokens ++ rest) := by
  induction writes with
  | last => exact ⟨fun _ _ => firm_matcherToken (bodies _ List.mem_cons_self), others⟩
  | @more matcher matchers tokens separator bar _ ih =>
    have mark : (separator, separatorKind) ∈ marks := by
      rcases bar with rfl | rfl <;> decide
    exact ⟨fun _ _ => firm_matcherToken (bodies _ List.mem_cons_self), fun _ _ => firm_mark mark,
      ih fun other member => bodies other (List.mem_cons_of_mem _ member)⟩

/-- **The tokens for definitions do not reach into each other.** -/
theorem Writes.separate {definitions : List Definition} {tokens : List Match}
    (writes : Writes definitions tokens) : Separate lexicon tokens := by
  induction writes with
  | nil => trivial
  | @cons definition definitions alternatives tokens written _ ih =>
    refine ⟨fun next behind => firm_name definition.named fun c head => ?_,
      fun _ _ => firm_mark (by decide),
      written.separate definition.bodies ⟨fun _ _ => firm_mark (by decide), ih⟩⟩
    rcases behind c head with blank | ⟨other, first, starts⟩
    · exact contains_nameCharacters_of_isBlank blank
    · obtain rfl := Option.some.inj first
      obtain rfl := Option.some.inj starts
      decide

/-! ### What there is to read -/

/-- What a scanner hands out without a failure, each token with its line. -/
theorem exists_placed {pulled : List (Pulled Scanner)} {tokens : List Token}
    (handed : pulled.map (·.1) = tokens.map .ok) :
    ∃ placed : List Placed, placed.map (·.token) = tokens ∧
      pulled.map (fun (result, after) => result.map fun token => (⟨token, line after⟩ : Placed)) =
        placed.map .ok := by
  induction pulled generalizing tokens with
  | nil =>
    obtain rfl := List.map_eq_nil_iff.mp handed.symm
    exact ⟨[], rfl, rfl⟩
  | cons first pulled ih =>
    obtain ⟨result, after⟩ := first
    obtain ⟨token, others, rfl, here, rest⟩ := List.map_eq_cons_iff.mp handed.symm
    obtain rfl : .ok token = result := here
    obtain ⟨placed, rfl, same⟩ := ih rest.symm
    refine ⟨⟨token, line after⟩ :: placed, rfl, ?_⟩
    rw [List.map_cons, same]
    rfl

theorem history_scanned (lines : List Line) :
    (history (Scanner.ofLines lexicon lines)).map (·.1) =
      (Pipeline.scanned lexicon lines).map (·.result) := by
  have all := Pipeline.answers_scanned lexicon lines
  rw [history_eq ?_, results, all]
  rw [all]
  exact Pipeline.terminated_scanned sound_lexicon lines

/-- What there is to read in lines that are cut into tokens. -/
theorem exists_items_of_cut {lines : List Line} {parts : List (List Char × List Match)}
    (shape : lines = parts.map (.text ·.1)) (cut : ∀ part ∈ parts, CutInto lexicon part.1 part.2) :
    ∃ placed : List Placed, items lines = placed.map .ok ∧
      placed.map (·.token.toMatch) = parts.flatMap (·.2) ++ [⟨lexicon.reserved.eof, ['$']⟩] := by
  have keeps : lexicon.ignored = none := by
    rw [lexicon_eq]
  obtain ⟨all, handed, isTokens⟩ := exists_tokens_of_cut sound_lexicon keeps shape cut
  have popped : (history (Scanner.ofLines lexicon lines)).map (·.1) = all.map .ok :=
    (history_scanned lines).trans handed
  obtain ⟨placed, rfl, scanned⟩ := exists_placed popped
  refine ⟨placed.filter fun one => !lexicon.reserved.marks one.token, ?_, ?_⟩
  · rw [items, scan, scanned, List.filter_map]
    rfl
  · rw [← isTokens, List.filter_map, List.map_map]
    rfl

/-- **What there is to read in a text are the tokens of which it is made.** -/
theorem exists_items {tokens : List Match} {text : List Char}
    (spaced : Spaced lexicon text tokens) :
    ∃ placed : List Placed, items (linesOfText text) = placed.map .ok ∧
      placed.map (·.token.toMatch) = tokens ++ [⟨lexicon.reserved.eof, ['$']⟩] := by
  obtain ⟨parts, shape, pieces, rfl⟩ := spaced.exists_lines
  exact exists_items_of_cut shape fun part member => (pieces part member).cutInto

/-! ### Reading -/

theorem withoutDelimiters_delimited (matcher : Matcher) :
    withoutDelimiters (delimited matcher) = matcher.source := by
  rw [withoutDelimiters, delimited, List.drop_succ_cons, List.drop_zero, List.dropLast_concat]

/-- Reading goes on behind a token that is expected. -/
theorem read_ok {draft : Draft} {expectation next : Expectation} {placed : Placed}
    {added : Option (String × Matcher)} (went : step expectation placed.token = .expect next added)
    (rest : List (Except Failure Placed)) :
    read draft expectation (.ok placed :: rest) = read (register draft added) next rest := by
  rw [read, went]

theorem step_matcherToken {token : Token} {matcher : Matcher}
    (same : token.toMatch = matcherToken matcher) (name : String) :
    step (.alternative name) token = .expect (.separator name) (some (name, matcher)) := by
  obtain ⟨isKind, isText⟩ := Match.mk.inj same
  have body : withoutDelimiters token.text = matcher.source := by
    rw [isText, withoutDelimiters_delimited]
  rw [step, isKind, body]
  cases matcher with
  | literal text => exact if_pos rfl
  | regex pattern =>
    have other : matcherKind (.regex pattern) ≠ literalKind := (by decide : regexKind ≠ literalKind)
    exact (if_neg other).trans (if_pos rfl)

/-- Reading alternatives registers their matchers one by one. -/
theorem read_alternatives {name : String} {matchers : List Matcher} {tokens : List Match}
    (writes : WritesAlternatives matchers tokens) :
    ∀ (draft : Draft) (placed : List Placed) (rest : List (Except Failure Placed)),
      placed.map (·.token.toMatch) = tokens →
      read draft (.alternative name) (placed.map .ok ++ rest) =
        read (registerAll draft (matchers.map fun matcher => (name, matcher))) (.separator name)
          rest := by
  induction writes with
  | last =>
    intro draft placed rest same
    obtain ⟨first, others, rfl, isFirst, none⟩ := List.map_eq_cons_iff.mp same
    obtain rfl := List.map_eq_nil_iff.mp none
    exact read_ok (step_matcherToken isFirst name) rest
  | @more matcher matchers tokens separator _ _ ih =>
    intro draft placed rest same
    obtain ⟨first, _, rfl, isFirst, same⟩ := List.map_eq_cons_iff.mp same
    obtain ⟨second, others, rfl, isSecond, same⟩ := List.map_eq_cons_iff.mp same
    have bar : step (.separator name) second.token = .expect (.alternative name) none :=
      if_pos (congrArg Match.kind isSecond)
    rw [List.map_cons, List.map_cons, List.cons_append, List.cons_append,
      read_ok (step_matcherToken isFirst name), read_ok bar, ih _ others rest same]
    rfl

/-- Registering matchers one by one is registering them together. -/
theorem registerAll_eq_register {name : String} {matchers : List Matcher}
    (nonempty : matchers ≠ []) :
    ∀ draft : Draft, registerAll draft (matchers.map fun matcher => (name, matcher)) =
      draft.register name matchers := by
  induction matchers with
  | nil => exact absurd rfl nonempty
  | cons matcher matchers ih =>
    intro draft
    cases matchers with
    | nil => rfl
    | cons second matchers =>
      have rest := ih (List.cons_ne_nil second matchers) (draft.register name [matcher])
      rw [Draft.register_register] at rest
      exact rest

/-- **Reading the tokens for definitions registers the definitions.** -/
theorem read_definitions {definitions : List Definition} {tokens : List Match}
    (writes : Writes definitions tokens) :
    ∀ (draft : Draft) (placed : List Placed),
      placed.map (·.token.toMatch) = tokens ++ [⟨lexicon.reserved.eof, ['$']⟩] →
      read draft .definition (placed.map .ok) =
        (draft.registerEach (definitions.map Definition.entry), none) := by
  induction writes with
  | nil =>
    intro draft placed same
    obtain ⟨last, others, rfl, isLast, none⟩ := List.map_eq_cons_iff.mp same
    obtain rfl := List.map_eq_nil_iff.mp none
    have isEof : last.token.kind = lexicon.reserved.eof := congrArg Match.kind isLast
    rw [List.map_singleton, read, step_definition_of_eof isEof]
    rfl
  | @cons definition definitions alternatives tokens written _ ih =>
    intro draft placed same
    rw [List.cons_append, List.cons_append, List.append_assoc, List.cons_append] at same
    obtain ⟨first, _, rfl, isFirst, same⟩ := List.map_eq_cons_iff.mp same
    obtain ⟨second, _, rfl, isSecond, same⟩ := List.map_eq_cons_iff.mp same
    obtain ⟨inside, _, rfl, areInside, same⟩ := List.map_eq_append_iff.mp same
    obtain ⟨last, others, rfl, isLast, same⟩ := List.map_eq_cons_iff.mp same
    obtain ⟨isKind, isName⟩ := Match.mk.inj isFirst
    have name : step .definition first.token = .expect (.colon definition.name) none := by
      rw [step, if_pos isKind, isName, String.ofList_toList]
    have colon : step (.colon definition.name) second.token =
        .expect (.alternative definition.name) none :=
      if_pos (congrArg Match.kind isSecond)
    have semicolon : step (.separator definition.name) last.token = .expect .definition none := by
      have isKind : last.token.kind = semicolonKind := congrArg Match.kind isLast
      rw [step, isKind]
      exact (if_neg (by decide)).trans (if_pos rfl)
    rw [List.map_cons, List.map_cons, List.map_append, List.map_cons, read_ok name, read_ok colon,
      read_alternatives written _ _ _ areInside, read_ok semicolon, ih _ others same]
    show (Draft.registerEach (registerAll draft _) _, none) = _
    rw [registerAll_eq_register definition.nonempty]
    rfl

/-- **Descriptions are read as they are written.** However the tokens of definitions are written,
and whatever blanks and line breaks stand before, between and behind them, reading the text gives
the names in the order in which they come first, each with all of its matchers in the order in which
they come. -/
theorem load_written {definitions : List Definition} {tokens : List Match} {text : List Char}
    (writes : Writes definitions tokens) (spread : Spread (tokens.map (·.text)) text) :
    load (linesOfText text) =
      .ok { rules := Draft.grouped (definitions.map Definition.entry) } := by
  obtain ⟨placed, listed, same⟩ := exists_items (spread.spaced writes.separate)
  have loaded : loadInto {} (linesOfText text) =
      (Draft.registerEach {} (definitions.map Definition.entry), none) := by
    show read {} .definition (items _) = _
    rw [listed]
    exact read_definitions writes {} placed same
  rw [load, loaded, Draft.registerEach_eq]

/-- Two names, one of which is described twice. -/
def keywords : List Definition :=
  [⟨"IF", [.literal "if".toList], by decide, by decide, List.forall_mem_singleton.mpr
      (.plain (by decide) (by decide) (by decide)
        (.plain (by decide) (by decide) (by decide) .nil))⟩,
    ⟨"PATH", [.regex "a\\/".toList, .literal []], by decide, by decide,
      List.forall_mem_cons.mpr
        ⟨.plain (by decide) (by decide) (by decide) (.escaped (by decide) .nil),
        List.forall_mem_singleton.mpr .nil⟩⟩,
    ⟨"IF", [.literal "\\'".toList], by decide, by decide,
      List.forall_mem_singleton.mpr (.escaped (by decide) .nil)⟩]

/-- The text has line breaks of both kinds and blanks of several. -/
theorem load_keywords :
    load (linesOfText "\n IF:\t'if';PATH: /a\\//\r\n, ''; IF : '\\''\n;\n".toList) =
      .ok { rules := [("IF", [.literal "if".toList, .literal "\\'".toList]),
        ("PATH", [.regex "a\\/".toList, .literal []])] } := by
  have writes : Writes keywords _ :=
    .cons .last (.cons (.more (.inr rfl) .last) (.cons .last .nil))
  have blanks : ∀ {list : List Char}, list.all isBlank = true → ∀ c ∈ list, isBlank c = true :=
    List.all_eq_true.mp
  have spread : Spread _ "\n IF:\t'if';PATH: /a\\//\r\n, ''; IF : '\\''\n;\n".toList :=
    @Spread.cons ['\n', ' '] "IF".toList _ _ (blanks rfl) <|
    @Spread.cons [] [':'] _ _ (blanks rfl) <|
    @Spread.cons ['\t'] "'if'".toList _ _ (blanks rfl) <| @Spread.cons [] [';'] _ _ (blanks rfl) <|
    @Spread.cons [] "PATH".toList _ _ (blanks rfl) <| @Spread.cons [] [':'] _ _ (blanks rfl) <|
    @Spread.cons [' '] "/a\\//".toList _ _ (blanks rfl) <|
    @Spread.cons ['\r', '\n'] [','] _ _ (blanks rfl) <|
    @Spread.cons [' '] "''".toList _ _ (blanks rfl) <| @Spread.cons [] [';'] _ _ (blanks rfl) <|
    @Spread.cons [' '] "IF".toList _ _ (blanks rfl) <| @Spread.cons [' '] [':'] _ _ (blanks rfl) <|
    @Spread.cons [' '] "'\\''".toList _ _ (blanks rfl) <|
    @Spread.cons ['\n'] [';'] _ _ (blanks rfl) <|
    @Spread.nil ['\n'] (blanks rfl)
  exact (load_written writes spread).trans (congrArg _ (by decide))

end Offside.Description
