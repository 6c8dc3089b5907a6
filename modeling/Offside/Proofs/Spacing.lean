/-
**Blanks between tokens mean nothing.**

A text may be made of tokens with blanks before, between and behind them, line breaks among the
blanks. If each of the tokens is matched as a whole wherever it stands in front of what follows it,
then these are the tokens that a scanner hands out, apart from those for the layout of lines.

* `CutInto`: a text that is cut into matches to its end, each the longest one at its place;
* `CutInto.eq_of_tiled`: however a text is tiled, the tiles are the matches into which it is cut.
  The induction is on the tiles;
* `Firm`: a match that is made in front of a given character and at the end of a line;
* `Spaced`: a text of firm matches and blanks. Most lemmas are inductions on this relation;
* `Spaced.exists_lines`: the lines of such a text are such texts, since no match reaches over the
  end of a line;
* `exists_tokens_of_cut`, `exists_parts_of_reading`: a scanner reads lines without a failure if and
  only if they are cut into matches, and hands these out.
-/

import Offside.Proofs.LineMarkers
import Offside.Proofs.Stretches

namespace Offside

open Text TokenSource

variable {lexicon : Lexicon}

/-! ### Texts that are cut to their end -/

/-- A text that is cut into matches, each the longest one at its place, with blanks between them. -/
inductive CutInto (lexicon : Lexicon) : List Char → List Match → Prop
  | nil : CutInto lexicon [] []
  | blank {c : Char} {text : List Char} {matches_ : List Match} :
    isBlank c = true → CutInto lexicon text matches_ → CutInto lexicon (c :: text) matches_
  | found {found : Match} {text : List Char} {matches_ : List Match} :
    StartsInked found.text → lexicon.longestMatch (found.text ++ text) = some found →
    CutInto lexicon text matches_ → CutInto lexicon (found.text ++ text) (found :: matches_)

namespace CutInto

variable {text : List Char} {matches_ : List Match}

theorem of_nil (cut : CutInto lexicon [] matches_) : matches_ = [] := by
  generalize shape : ([] : List Char) = text at cut
  cases cut with
  | nil => rfl
  | blank => cases shape
  | found inked => exact absurd (List.append_eq_nil_iff.mp shape.symm).1 inked.ne_nil

/-- Blanks in front may be left out. -/
theorem of_blanks {blanks : List Char} (all : ∀ c ∈ blanks, isBlank c = true)
    (cut : CutInto lexicon (blanks ++ text) matches_) : CutInto lexicon text matches_ := by
  induction blanks with
  | nil => exact cut
  | cons c blanks ih =>
    rw [List.forall_mem_cons] at all
    generalize shape : c :: blanks ++ text = whole at cut
    cases cut with
    | nil => cases shape
    | blank _ rest =>
      cases shape
      exact ih all.2 rest
    | found inked =>
      obtain ⟨d, others, starts, solid⟩ := inked
      rw [starts] at shape
      rw [← (List.cons.inj shape).1, all.1] at solid
      cases solid

/-- Blanks may be put in front. -/
theorem blanks {blanks : List Char} (all : ∀ c ∈ blanks, isBlank c = true)
    (cut : CutInto lexicon text matches_) : CutInto lexicon (blanks ++ text) matches_ := by
  induction blanks with
  | nil => exact cut
  | cons c blanks ih =>
    rw [List.forall_mem_cons] at all
    exact .blank all.1 (ih all.2)

/-- A text that starts with something that is not blank starts with its longest match. -/
theorem exists_found (cut : CutInto lexicon text matches_) (inked : StartsInked text) :
    ∃ found rest others, text = found.text ++ rest ∧ matches_ = found :: others ∧
      lexicon.longestMatch text = some found ∧ CutInto lexicon rest others := by
  obtain ⟨c, others, shape, solid⟩ := inked
  cases cut with
  | nil => cases shape
  | blank blank _ =>
    cases shape
    rw [blank] at solid
    cases solid
  | found _ matched rest => exact ⟨_, _, _, rfl, rfl, matched, rest⟩

/-- Behind a match the text is cut further. -/
theorem exists_rest {found : Match} {rest : List Char}
    (cut : CutInto lexicon (found.text ++ rest) matches_) (inked : StartsInked found.text)
    (matched : lexicon.longestMatch (found.text ++ rest) = some found) :
    ∃ others, matches_ = found :: others ∧ CutInto lexicon rest others := by
  obtain ⟨c, more, shape, solid⟩ := inked
  obtain ⟨first, behind, others, same, rfl, here, onward⟩ :=
    cut.exists_found ⟨c, more ++ rest, by rw [shape, List.cons_append], solid⟩
  obtain rfl := Option.some.inj (matched.symm.trans here)
  obtain rfl := List.append_cancel_left same
  exact ⟨others, rfl, onward⟩

/-- Lexemes that take a text to its end cut it into their matches. -/
theorem of_tiled {lexemes : List Lexeme} (tiled : Tiled lexicon [] lexemes) :
    CutInto lexicon (joined lexemes) (lexemes.map (·.found)) := by
  induction tiled with
  | nil => exact .nil
  | @cons lexeme lexemes matched inked gap _ ih =>
    have blanks : ∀ c ∈ lexeme.gap, isBlank c = true := by
      rw [← gap]
      exact fun c member => List.mem_takeWhile_imp member
    have parts : joined (lexeme :: lexemes) = lexeme.found.text ++
        (lexeme.gap ++ joined lexemes) := by
      rw [joined, List.flatMap_cons, Lexeme.text, ← joined, List.append_assoc]
    rw [List.append_nil, parts] at matched
    rw [parts]
    exact .found inked matched (ih.blanks blanks)

/-- **However the rest of a line is tiled, the tiles are the matches into which it is cut.** -/
theorem eq_of_tiled {rest : List Char} {lexemes : List Lexeme} (tiled : Tiled lexicon rest lexemes)
    (ends : rest = [] ∨ StartsInked rest ∧ lexicon.longestMatch rest = none) :
    ∀ matches_, CutInto lexicon (joined lexemes ++ rest) matches_ →
      rest = [] ∧ lexemes.map (·.found) = matches_ := by
  induction tiled with
  | nil =>
    intro matches_ cut
    rcases ends with rfl | ⟨inked, unmatched⟩
    · exact ⟨rfl, cut.of_nil.symm⟩
    · obtain ⟨found, _, _, _, _, matched, _⟩ := cut.exists_found inked
      exact absurd (unmatched.symm.trans matched) (Option.some_ne_none found).symm
  | @cons lexeme lexemes matched inked gap _ ih =>
    intro matches_ cut
    have parts : joined (lexeme :: lexemes) ++ rest =
        lexeme.found.text ++ (lexeme.gap ++ (joined lexemes ++ rest)) := by
      rw [joined, List.flatMap_cons, Lexeme.text, ← joined, List.append_assoc, List.append_assoc]
    rw [parts] at cut matched
    obtain ⟨others, rfl, onward⟩ := cut.exists_rest inked matched
    have blanks : ∀ c ∈ lexeme.gap, isBlank c = true := by
      rw [← gap]
      exact fun c member => List.mem_takeWhile_imp member
    obtain ⟨done, rest⟩ := ih others (onward.of_blanks blanks)
    exact ⟨done, by rw [List.map_cons, rest]⟩

end CutInto

/-! ### Matches that are made in front of anything -/

/-- A match that is made wherever its text stands at the end of a line or in front of `next`. It
neither starts with a blank nor reaches over the end of a line. -/
structure Firm (lexicon : Lexicon) (found : Match) (next : Option Char) : Prop where
  inked : StartsInked found.text
  unbroken : '\n' ∉ found.text
  solid : found.text.getLast? ≠ some '\r'
  matched : ∀ rest, rest = [] ∨ rest.head? = next →
    lexicon.longestMatch (found.text ++ rest) = some found

/-- What is firm in front of a text is firm in front of a part from its start. -/
theorem Firm.of_head {found : Match} {next : Option Char} (firm : Firm lexicon found next)
    {part : List Char} (start : part = [] ∨ part.head? = next) : Firm lexicon found part.head? := by
  refine ⟨firm.inked, firm.unbroken, firm.solid, fun rest follows => firm.matched rest ?_⟩
  rcases follows with done | same
  · exact .inl done
  · rcases start with rfl | head
    · exact .inl (List.head?_eq_none_iff.mp same)
    · exact .inr (same.trans head)

/-- A text that is made of blanks and of firm matches. -/
inductive Spaced (lexicon : Lexicon) : List Char → List Match → Prop
  | nil : Spaced lexicon [] []
  | blank {c : Char} {text : List Char} {matches_ : List Match} :
    isBlank c = true → Spaced lexicon text matches_ → Spaced lexicon (c :: text) matches_
  | found {found : Match} {text : List Char} {matches_ : List Match} :
    Firm lexicon found text.head? → Spaced lexicon text matches_ →
    Spaced lexicon (found.text ++ text) (found :: matches_)

namespace Spaced

variable {text : List Char} {matches_ : List Match}

/-- Matches that are made in front of anything are made in the text. -/
theorem cutInto (spaced : Spaced lexicon text matches_) : CutInto lexicon text matches_ := by
  induction spaced with
  | nil => exact .nil
  | blank blank _ ih => exact .blank blank ih
  | found firm _ ih => exact .found firm.inked (firm.matched _ (.inr rfl)) ih

/-- Blanks may be put in front. -/
theorem blanks {blanks : List Char} (all : ∀ c ∈ blanks, isBlank c = true)
    (spaced : Spaced lexicon text matches_) : Spaced lexicon (blanks ++ text) matches_ := by
  induction blanks with
  | nil => exact spaced
  | cons c blanks ih =>
    rw [List.forall_mem_cons] at all
    exact .blank all.1 (ih all.2)

/-- A carriage return at the end may be left out. -/
theorem of_return (spaced : Spaced lexicon text matches_) :
    ∀ front, text = front ++ ['\r'] → Spaced lexicon front matches_ := by
  induction spaced with
  | nil =>
    intro front shape
    exact absurd shape.symm (List.append_ne_nil_of_right_ne_nil _ (List.cons_ne_nil _ _))
  | @blank c text matches_ blank rest ih =>
    intro front shape
    cases front with
    | nil =>
      obtain ⟨_, rfl⟩ := List.cons.inj shape
      rw [rest.cutInto.of_nil]
      exact .nil
    | cons d front =>
      obtain ⟨rfl, shorter⟩ := List.cons.inj shape
      exact .blank blank (ih front shorter)
  | @found found text matches_ firm rest ih =>
    intro front shape
    rcases List.eq_nil_or_concat text with rfl | ⟨between, last, rfl⟩
    · rw [List.append_nil] at shape
      exact absurd (shape ▸ List.getLast?_concat) firm.solid
    · rw [List.concat_eq_append, ← List.append_assoc] at shape
      obtain ⟨rfl, same⟩ := List.append_inj' shape rfl
      obtain rfl := List.singleton_inj.mp same
      refine .found (firm.of_head ?_) (ih between (List.concat_eq_append))
      cases between with
      | nil => exact .inl rfl
      | cons c between => exact .inr rfl

theorem dropReturn (spaced : Spaced lexicon text matches_) :
    Spaced lexicon (Text.dropReturn text) matches_ := by
  unfold Text.dropReturn
  split
  · rename_i returned
    obtain ⟨front, rfl⟩ := List.getLast?_eq_some_iff.mp returned
    rw [List.dropLast_concat]
    exact spaced.of_return front rfl
  · exact spaced

end Spaced

/-! ### Tokens with blanks between them -/

/-- Texts one after the other, with blanks before, between and behind them. -/
inductive Spread : List (List Char) → List Char → Prop
  | nil {blanks : List Char} : (∀ c ∈ blanks, isBlank c = true) → Spread [] blanks
  | cons {blanks part text : List Char} {parts : List (List Char)} :
    (∀ c ∈ blanks, isBlank c = true) → Spread parts text →
      Spread (part :: parts) (blanks ++ (part ++ text))

/-- Matches each of which is firm in front of blanks and in front of the next one. -/
def Separate (lexicon : Lexicon) : List Match → Prop
  | [] => True
  | found :: others =>
    (∀ next : Option Char,
      (∀ c ∈ next, isBlank c = true ∨ ∃ other ∈ others.head?, other.text.head? = some c) →
      Firm lexicon found next) ∧ Separate lexicon others

/-- A text with blanks between its tokens goes on with a blank or with the next token. -/
theorem Spread.head?_cases {matches_ : List Match} {text : List Char}
    (spread : Spread (matches_.map (·.text)) text) (separate : Separate lexicon matches_) :
    ∀ c ∈ text.head?, isBlank c = true ∨ ∃ other ∈ matches_.head?, other.text.head? = some c := by
  have fromBlanks : ∀ (blanks rest : List Char), (∀ c ∈ blanks, isBlank c = true) →
      ∀ c ∈ (blanks ++ rest).head?, isBlank c = true ∨ c ∈ rest.head? := by
    intro blanks rest all c head
    cases blanks with
    | nil => exact .inr head
    | cons d blanks =>
      obtain rfl : d = c := Option.some.inj head
      exact .inl (all d List.mem_cons_self)
  intro c head
  cases matches_ with
  | nil =>
    cases spread with
    | nil all =>
      rw [← List.append_nil text] at head
      exact (fromBlanks text [] all c head).imp_right fun absent => nomatch absent
  | cons found others =>
    cases spread with
    | @cons blanks _ rest _ all _ =>
      have inked := (separate.1 none (fun _ absent => nomatch absent)).inked
      obtain ⟨d, more, shape, _⟩ := inked
      refine (fromBlanks blanks (found.text ++ rest) all c head).imp_right fun first =>
        ⟨found, rfl, ?_⟩
      rw [shape] at first ⊢
      exact first

/-- **Separate matches with blanks before, between and behind them make a text.** -/
theorem Spread.spaced {matches_ : List Match} (separate : Separate lexicon matches_)
    {text : List Char}
    (spread : Spread (matches_.map (·.text)) text) : Spaced lexicon text matches_ := by
  induction matches_ generalizing text with
  | nil =>
    cases spread with
    | nil all =>
      rw [← List.append_nil text]
      exact Spaced.nil.blanks all
  | cons found others ih =>
    cases spread with
    | cons all rest =>
      exact (Spaced.found (separate.1 _ (rest.head?_cases separate.2)) (ih separate.2 rest)).blanks
        all

/-! ### Lines -/

namespace Spaced

/-- The stretches of a text, each with the matches of which it is made. -/
structure Split (lexicon : Lexicon) (text : List Char) (matches_ : List Match)
    (parts : List ((List Char × Bool) × List Match)) : Prop where
  stretches : stretches '\n' text = parts.map (·.1)
  spaced : ∀ part ∈ parts, Spaced lexicon part.1.1 part.2
  all : parts.flatMap (·.2) = matches_

variable {front text : List Char} {matches_ : List Match}

/-- What may be put in front of the first line may be put in front of the text. -/
theorem Split.exists_append {parts : List ((List Char × Bool) × List Match)}
    (split : Split lexicon text matches_ parts) (some : front ≠ []) (unbroken : '\n' ∉ front)
    (more : List Match) (fits : ∀ line here, line = [] ∨ line.head? = text.head? →
      Spaced lexicon line here → Spaced lexicon (front ++ line) (more ++ here)) :
    ∃ parts, Split lexicon (front ++ text) (more ++ matches_) parts := by
  have lines : Text.stretches '\n' (front ++ text) = _ := stretches_append some unbroken
  cases parts with
  | nil =>
    have alone : Spaced lexicon (front ++ []) (more ++ []) := fits [] [] (.inl rfl) .nil
    rw [List.append_nil, List.append_nil] at alone
    have none : [] = matches_ := split.all
    refine ⟨[((front, false), more)], ?_, List.forall_mem_singleton.mpr alone, ?_⟩
    · rw [lines, split.stretches]
      rfl
    · rw [← none, List.flatMap_singleton, List.append_nil]
  | cons part parts =>
    obtain ⟨⟨line, terminated⟩, here⟩ := part
    obtain ⟨first, others⟩ := List.forall_mem_cons.mp split.spaced
    have starts := head?_stretches split.stretches
    refine ⟨((front ++ line, terminated), more ++ here) :: parts, ?_,
      List.forall_mem_cons.mpr ⟨fits line here starts first, others⟩, ?_⟩
    · rw [lines, split.stretches]
      rfl
    · rw [← split.all, List.flatMap_cons, List.flatMap_cons, List.append_assoc]

theorem exists_split (spaced : Spaced lexicon text matches_) :
    ∃ parts, Split lexicon text matches_ parts := by
  induction spaced with
  | nil => exact ⟨[], rfl, List.forall_mem_nil _, rfl⟩
  | @blank c text matches_ blank _ ih =>
    obtain ⟨parts, split⟩ := ih
    by_cases feed : c = '\n'
    · refine ⟨(([], true), []) :: parts, ?_, List.forall_mem_cons.mpr ⟨.nil, split.spaced⟩,
        split.all⟩
      rw [Text.stretches, if_pos feed, split.stretches, List.map_cons]
    · have unbroken : '\n' ∉ [c] := fun member => feed (List.mem_singleton.mp member).symm
      exact split.exists_append (List.cons_ne_nil c []) unbroken [] fun _ _ _ line =>
        .blank blank line
  | @found found text matches_ firm _ ih =>
    obtain ⟨parts, split⟩ := ih
    exact split.exists_append firm.inked.ne_nil firm.unbroken [found] fun _ _ starts line =>
      .found (firm.of_head starts) line

/-- **The lines of a text that is made of matches and blanks are such texts.** -/
theorem exists_lines (spaced : Spaced lexicon text matches_) :
    ∃ parts : List (List Char × List Match), linesOfText text = parts.map (.text ·.1) ∧
      (∀ part ∈ parts, Spaced lexicon part.1 part.2) ∧ parts.flatMap (·.2) = matches_ := by
  obtain ⟨parts, split⟩ := spaced.exists_split
  refine ⟨parts.map fun part => (lineText part.1.1 part.1.2, part.2), ?_, ?_, ?_⟩
  · rw [linesOfText, split.stretches, List.map_map, List.map_map]
    rfl
  · intro part member
    obtain ⟨⟨⟨line, terminated⟩, here⟩, inParts, rfl⟩ := List.mem_map.mp member
    have spaced := split.spaced _ inParts
    cases terminated with
    | false => exact spaced
    | true => exact spaced.dropReturn
  · rw [List.flatMap_map]
    exact split.all

end Spaced

/-! ### What a scanner hands out -/

/-- The kind and the text of a token. -/
def Token.toMatch (token : Token) : Match := ⟨token.kind, token.text⟩

/-- Where no kind is ignored, the tokens of lexemes are their matches. -/
theorem toMatch_lexemeTokens (keeps : lexicon.ignored = none) (row : Nat) (lexemes : List Lexeme) :
    ∀ before, (lexemeTokens lexicon row before lexemes).map Token.toMatch =
      lexemes.map (·.found) := by
  have kept : ∀ kind, lexicon.isIgnored kind = false := fun kind => by
    rw [Lexicon.isIgnored, keeps]
    rfl
  induction lexemes with
  | nil => exact fun _ => rfl
  | cons lexeme lexemes ih =>
    intro before
    rw [lexemeTokens]
    simp only [kept, Bool.false_eq_true, if_false, List.map_cons, ih]
    rfl

/-- Leaving out the tokens for the layout leaves the matches. -/
theorem filter_lexemeTokens (sound : lexicon.Sound) (keeps : lexicon.ignored = none)
    {rest : List Char} {lexemes : List Lexeme} (tiled : Tiled lexicon rest lexemes)
    (row before : Nat) :
    ((lexemeTokens lexicon row before lexemes).filter (!lexicon.reserved.marks ·)).map
      Token.toMatch =
      lexemes.map (·.found) := by
  rw [List.filter_eq_self.mpr, toMatch_lexemeTokens keeps]
  intro token member
  rw [marks_eq_false_of_free (free_of_mem_lexemeTokens sound tiled before token member).2]
  rfl

/-- A reading of lines that are cut into matches hands out these matches and the tokens for the
layout. -/
theorem exists_tokens_of_reading (sound : lexicon.Sound) (keeps : lexicon.ignored = none)
    {before : List (List Char)} {lines : List Line} {results : List (Except Failure Token)}
    (reading : Reading lexicon before lines results) :
    ∀ parts : List (List Char × List Match), lines = parts.map (.text ·.1) →
      (∀ part ∈ parts, CutInto lexicon part.1 part.2) →
      ∃ tokens : List Token, results = tokens.map .ok ∧
        (tokens.filter (!lexicon.reserved.marks ·)).map Token.toMatch =
          parts.flatMap (·.2) ++ [⟨lexicon.reserved.eof, ['$']⟩] := by
  have blanks : ∀ line : List Char, ∀ c ∈ leadingBlanks line, isBlank c = true :=
    fun line c member => List.mem_takeWhile_imp member
  have marker : ∀ before line tokens,
      (lineMarker lexicon.reserved before line :: tokens).filter (!lexicon.reserved.marks ·) =
        tokens.filter (!lexicon.reserved.marks ·) := fun before line tokens =>
    List.filter_cons_of_neg (by rw [marks_lineMarker]; exact Bool.false_ne_true)
  induction reading with
  | @finished before =>
    intro parts shape _
    obtain rfl := List.map_eq_nil_iff.mp shape.symm
    refine ⟨[⟨lexicon.reserved.eof, ['$'], max before.length 1, endColumn before⟩], rfl, ?_⟩
    rw [List.filter_cons_of_pos (by rw [marks_eq_false_of_eof sound.distinct rfl]; rfl)]
    rfl
  | malformed =>
    intro parts shape _
    obtain ⟨part, _, _, undecoded, _⟩ := List.map_eq_cons_iff.mp shape.symm
    cases undecoded
  | @blank before line lines results blank _ ih =>
    intro parts shape spaced
    obtain ⟨part, others, rfl, isLine, same⟩ := List.map_eq_cons_iff.mp shape.symm
    obtain rfl := Line.text.inj isLine
    obtain ⟨first, later⟩ := List.forall_mem_cons.mp spaced
    obtain ⟨tokens, rfl, handed⟩ := ih others same.symm later
    have none : part.2 = [] := by
      rw [← List.append_nil part.1] at first
      exact (first.of_blanks (List.all_eq_true.mp blank)).of_nil
    refine ⟨lineMarker lexicon.reserved before part.1 :: tokens, rfl, ?_⟩
    rw [marker, handed, List.flatMap_cons, none, List.nil_append]
  | @tiled before line lines lexemes results _ whole _ tiled _ ih =>
    intro parts shape spaced
    obtain ⟨part, others, rfl, isLine, same⟩ := List.map_eq_cons_iff.mp shape.symm
    obtain rfl := Line.text.inj isLine
    obtain ⟨first, later⟩ := List.forall_mem_cons.mp spaced
    obtain ⟨tokens, rfl, handed⟩ := ih others same.symm later
    have found : lexemes.map (·.found) = part.2 := by
      rw [whole, ← List.append_nil (joined lexemes)] at first
      exact (CutInto.eq_of_tiled tiled (.inl rfl) _ (first.of_blanks (blanks _))).2
    refine ⟨lineMarker lexicon.reserved before part.1 ::
      (lexemeTokens lexicon (before.length + 1) (leadingBlanks part.1).length lexemes ++ tokens),
      ?_, ?_⟩
    · rw [List.map_cons, List.map_append]
    · rw [marker, List.filter_append, List.map_append, filter_lexemeTokens sound keeps tiled,
        handed, List.flatMap_cons, found, List.append_assoc]
  | @stuck before line lines lexemes rest _ whole tiled inked unmatched =>
    intro parts shape spaced
    obtain ⟨part, others, rfl, isLine, _⟩ := List.map_eq_cons_iff.mp shape.symm
    obtain rfl := Line.text.inj isLine
    have first := (List.forall_mem_cons.mp spaced).1
    rw [whole, List.append_assoc] at first
    have done := CutInto.eq_of_tiled tiled (.inr ⟨inked, unmatched⟩) _ (first.of_blanks (blanks _))
    exact absurd done.1 inked.ne_nil

/-- What a scanner hands out for lines that are cut into matches: the matches, the tokens for the
layout, and the end of input. -/
theorem exists_tokens_of_cut (sound : lexicon.Sound) (keeps : lexicon.ignored = none)
    {lines : List Line}
    {parts : List (List Char × List Match)} (shape : lines = parts.map (.text ·.1))
    (cut : ∀ part ∈ parts, CutInto lexicon part.1 part.2) :
    ∃ tokens : List Token, (Pipeline.scanned lexicon lines).map (·.result) = tokens.map .ok ∧
      (tokens.filter (!lexicon.reserved.marks ·)).map Token.toMatch =
        parts.flatMap (·.2) ++ [⟨lexicon.reserved.eof, ['$']⟩] :=
  exists_tokens_of_reading sound keeps (Pipeline.reading_scanned lexicon lines) parts shape cut

/-- Lines that are read without a failure are cut into matches. -/
theorem exists_parts_of_reading {before : List (List Char)} {lines : List Line}
    {results : List (Except Failure Token)} (reading : Reading lexicon before lines results)
    (fine : ∀ failure, .error failure ∉ results) :
    ∃ parts : List (List Char × List Match), lines = parts.map (.text ·.1) ∧
      ∀ part ∈ parts, CutInto lexicon part.1 part.2 := by
  induction reading with
  | finished => exact ⟨[], rfl, List.forall_mem_nil _⟩
  | malformed => exact (fine _ List.mem_cons_self).elim
  | @blank before line lines results blank _ ih =>
    obtain ⟨parts, rfl, cut⟩ :=
      ih fun failure member => fine failure (List.mem_cons_of_mem _ member)
    have here : CutInto lexicon (line ++ []) [] := CutInto.nil.blanks (List.all_eq_true.mp blank)
    rw [List.append_nil] at here
    exact ⟨(line, []) :: parts, rfl, List.forall_mem_cons.mpr ⟨here, cut⟩⟩
  | @tiled before line lines lexemes results _ whole _ tiled _ ih =>
    obtain ⟨parts, rfl, cut⟩ := ih fun failure member =>
      fine failure (List.mem_cons_of_mem _ (List.mem_append_right _ member))
    have here : CutInto lexicon line (lexemes.map (·.found)) := by
      rw [whole]
      exact (CutInto.of_tiled tiled).blanks fun c member => List.mem_takeWhile_imp member
    exact ⟨(line, _) :: parts, rfl, List.forall_mem_cons.mpr ⟨here, cut⟩⟩
  | stuck =>
    exact (fine _ (List.mem_cons_of_mem _ (List.mem_append_right _ List.mem_cons_self))).elim

end Offside
