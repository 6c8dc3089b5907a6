/-
**Line breaks in descriptions.**

A line break between two tokens means no more than a blank, with one exception. A backslash in a
text or a pattern takes the next character with it, even the delimiter, but not if that leaves no
delimiter on the line. Put the next line behind it, and a delimiter there may be taken for its end.

* `OpenAtEnd`: a matcher that is in danger when something is put behind a line;
* `Begins`: how a part of a line can begin with a token, and with which. `longestMatch_of_begins`
  and `begins_of_longestMatch` say that this is what is matched;
* `Begins.append`: the token stays the same when something is put behind the line, unless it is open
  at the end of the line and finds a delimiter there;
* `cutInto_append`: two lines with a blank between them are cut as each of them is. The induction is
  on how the first is cut;
* `exists_rule_of_load`: the matchers in the tokens of a description that loads are in its draft;
* `load_joined`: a line break that is replaced by a blank.
-/

import Offside.Proofs.RoundTrip

namespace Offside.Description

open Pattern (Body Closes OpenBody)
open Text TokenSource

/-! ### Open bodies -/

/-- The body of a matcher is open where a text ends: it ends in a backslash that takes nothing with
it, and on its line no more delimiters stand behind it. -/
def OpenAtEnd (text : List Char) (matcher : Matcher) : Prop :=
  OpenBody (delimiter matcher) matcher.source ∧
    ∃ before rest, text = before ++ (delimited matcher ++ rest) ∧
      delimiter matcher ∉ rest ∧ '\n' ∉ rest

theorem isBlank_delimiter (matcher : Matcher) : isBlank (delimiter matcher) = false := by
  cases matcher with
  | literal _ => exact (by decide : isBlank '\'' = false)
  | regex _ => exact (by decide : isBlank '/' = false)

namespace OpenAtEnd

variable {text : List Char} {matcher : Matcher}

/-- What stands in front makes no difference. -/
theorem append_left (front : List Char) (isOpen : OpenAtEnd text matcher) :
    OpenAtEnd (front ++ text) matcher := by
  obtain ⟨body, before, rest, rfl, only⟩ := isOpen
  exact ⟨body, front ++ before, rest, by rw [List.append_assoc], only⟩

/-- Blanks behind make none either, if they do not break the line. -/
theorem append_blanks {gap : List Char} (blank : ∀ c ∈ gap, isBlank c = true)
    (unbroken : '\n' ∉ gap) (isOpen : OpenAtEnd text matcher) :
    OpenAtEnd (text ++ gap) matcher := by
  obtain ⟨body, before, rest, rfl, only, inLine⟩ := isOpen
  refine ⟨body, before, rest ++ gap, by simp only [List.append_assoc],
    List.not_mem_append only fun inGap => ?_, List.not_mem_append inLine unbroken⟩
  have isBlank := blank _ inGap
  rw [isBlank_delimiter] at isBlank
  cases isBlank

end OpenAtEnd

/-! ### Tokens -/

/-- How a part of a line can begin with a token, and with which. -/
inductive Begins : List Char → Match → Prop
  | name {name rest : List Char} :
    IsName name → (∀ c ∈ rest.head?, nameCharacters.contains c = false) →
    Begins (name ++ rest) ⟨nameKind, name⟩
  | mark {mark : Char} {kind : String} {rest : List Char} :
    (mark, kind) ∈ marks → Begins (mark :: rest) ⟨kind, [mark]⟩
  | matcher {matcher : Matcher} {text rest : List Char} :
    Closes (delimiter matcher) text matcher.source rest →
    Begins (delimiter matcher :: text) (matcherToken matcher)

section Begins

variable {input : List Char} {found : Match}

theorem longestMatch_of_begins (begins : Begins input found) :
    lexicon.longestMatch input = some found := by
  cases begins with
  | name isName ends => exact longestMatch_name isName ends
  | mark member => exact longestMatch_mark member _
  | matcher closes => exact longestMatch_delimited closes

theorem begins_word {c : Char} (letter : c.isAlpha = true) (rest : List Char) :
    Begins (c :: rest) ⟨nameKind,
      (c :: rest).take (1 + (rest.takeWhile nameCharacters.contains).length)⟩ := by
  have word : rest.take (rest.takeWhile nameCharacters.contains).length =
      rest.takeWhile nameCharacters.contains :=
    (List.prefix_iff_eq_take.mp (List.takeWhile_prefix _)).symm
  have parts : c :: rest = c :: rest.takeWhile nameCharacters.contains ++
      rest.dropWhile nameCharacters.contains := by
    rw [List.cons_append, List.takeWhile_append_dropWhile]
  rw [Nat.add_comm, List.take_succ_cons, word, parts]
  refine .name ⟨letter, fun d member => ?_⟩ fun d head => ?_
  · have inside := List.mem_takeWhile_imp member
    rwa [contains_nameCharacters, Bool.or_eq_true, beq_iff_eq] at inside
  · have outside := List.head?_dropWhile_not nameCharacters.contains rest
    rw [Option.mem_def] at head
    rw [head] at outside
    exact outside

theorem begins_mark {c : Char} {kind : String} {isMark : Prop} [Decidable isMark] {length : Nat}
    (listed : isMark → (c, kind) ∈ marks) (taken : (if isMark then some 1 else none) = some length)
    (rest : List Char) : Begins (c :: rest) ⟨kind, (c :: rest).take length⟩ := by
  split at taken
  · rename_i holds
    obtain rfl := Option.some.inj taken
    exact .mark (listed holds)
  · cases taken

theorem begins_delimiter {matcher : Matcher} {text rest : List Char}
    (closes : Closes (delimiter matcher) text matcher.source rest) :
    Begins (delimiter matcher :: text)
      ⟨matcherKind matcher, (delimiter matcher :: text).take (matcher.source.length + 2)⟩ := by
  rw [take_delimited closes]
  exact .matcher closes

theorem begins_of_ends {name rest : List Char} {c : Char} (isName : IsName name)
    (ends : nameCharacters.contains c = false) : Begins (name ++ c :: rest) ⟨nameKind, name⟩ :=
  .name isName fun _ head => Option.some.inj head ▸ ends

/-- **Nothing else is matched on one line.** -/
theorem begins_of_longestMatch (nonempty : input ≠ []) (unbroken : '\n' ∉ input)
    (matched : lexicon.longestMatch input = some found) : Begins input found := by
  obtain ⟨c, rest, rfl⟩ := List.exists_cons_of_ne_nil nonempty
  rw [List.mem_cons, not_or] at unbroken
  rw [lexicon_eq] at matched
  obtain ⟨rule, inRules, length, taken, rfl⟩ := Lexicon.exists_findEnd_of_longestMatch matched
  simp only [rules, List.mem_cons, List.not_mem_nil, or_false] at inRules
  rcases inRules with rfl | rfl | rfl | rfl | rfl | rfl
  · rw [findEnd_nameRule] at taken
    split at taken
    · rename_i letter
      obtain rfl := Option.some.inj taken
      exact begins_word letter rest
    · cases taken
  · rw [findEnd_colonRule] at taken
    exact begins_mark (fun isColon => by rw [isColon]; decide) taken rest
  · rw [findEnd_semicolonRule] at taken
    exact begins_mark (fun isSemicolon => by rw [isSemicolon]; decide) taken rest
  · rw [findEnd_separatorRule] at taken
    exact begins_mark (fun isSeparator => by rcases isSeparator with rfl | rfl <;> decide) taken
      rest
  · by_cases quote : c = '\''
    · subst quote
      obtain ⟨body, _, closes, rfl⟩ := exists_closes_of_findEnd_literalRule unbroken.2 taken
      exact @begins_delimiter (.literal body) _ _ closes
    · rw [findEnd_literalRule_of_ne rest quote] at taken
      cases taken
  · by_cases slash : c = '/'
    · subst slash
      obtain ⟨body, _, closes, rfl⟩ := exists_closes_of_findEnd_regexRule unbroken.2 taken
      exact @begins_delimiter (.regex body) _ _ closes
    · rw [findEnd_regexRule_of_ne rest slash] at taken
      cases taken

theorem Begins.startsInked (begins : Begins input found) : StartsInked found.text := by
  cases begins with
  | name isName ends => exact (@firm_name none _ isName fun _ absent => nomatch absent).inked
  | mark member => exact (@firm_mark none _ _ member).inked
  | matcher => exact ⟨_, _, rfl, isBlank_delimiter _⟩

/-- No token begins with the only delimiter of its kind. -/
theorem not_begins_of_notMem {matcher : Matcher} {rest : List Char}
    (absent : delimiter matcher ∉ rest) :
    ¬ Begins (delimiter matcher :: rest) found := by
  intro begins
  generalize shape : delimiter matcher :: rest = input at begins
  cases begins with
  | @name name _ isName _ =>
    cases name with
    | nil => exact isName
    | cons c more =>
      have letter := isName.1
      rw [← (List.cons.inj shape).1] at letter
      cases matcher <;> simp [delimiter] at letter
  | mark member =>
    rw [← (List.cons.inj shape).1] at member
    cases matcher <;> simp [marks, delimiter] at member
  | @matcher other text _ closes =>
    obtain ⟨same, rfl⟩ := List.cons.inj shape
    rw [closes.shape, same] at absent
    exact absent (List.mem_append_right _ List.mem_cons_self)

/-- The token stays the same when something is put behind the line that starts with a blank, unless
it is open at the end of the line and finds a delimiter there. -/
theorem Begins.append (begins : Begins input found) (unbroken : '\n' ∉ input) {second : List Char}
    (blank : ∀ c ∈ second.head?, isBlank c = true)
    (apart : ∀ matcher, found = matcherToken matcher → OpenAtEnd input matcher →
      delimiter matcher ∉ second) : Begins (input ++ second) found := by
  cases begins with
  | @name name rest isName ends =>
    rw [List.append_assoc]
    refine .name isName fun c head => ?_
    cases rest with
    | nil => exact contains_nameCharacters_of_isBlank (blank c head)
    | cons d rest => exact ends c head
  | mark member => exact .mark member
  | @matcher matcher text rest closes =>
    have shape : delimiter matcher :: text = delimited matcher ++ rest := by
      rw [closes.shape, delimited, List.cons_append, List.append_assoc]
      rfl
    have further :
        Closes (delimiter matcher) (text ++ second) matcher.source (rest ++ second) := by
      refine ⟨by rw [closes.shape, List.append_assoc, List.cons_append],
        closes.body.imp_right ?_⟩
      rintro ⟨body, absent⟩
      rw [shape] at apart unbroken
      have inLine : '\n' ∉ rest := fun member => unbroken (List.mem_append_right _ member)
      exact ⟨body, List.not_mem_append absent
        (apart matcher rfl ⟨body, [], rest, rfl, absent, inLine⟩)⟩
    exact .matcher further

end Begins

/-! ### Lines -/

/-- **Two lines with a blank between them are cut as each of them is**, unless a matcher that is
open at the end of the first finds a delimiter in the second. -/
theorem cutInto_append {first second : List Char} {before after : List Match}
    (front : CutInto lexicon first before) (unbroken : '\n' ∉ first)
    (back : CutInto lexicon second after) (blank : ∀ c ∈ second.head?, isBlank c = true)
    (apart : ∀ matcher, matcherToken matcher ∈ before → OpenAtEnd first matcher →
      delimiter matcher ∉ second) : CutInto lexicon (first ++ second) (before ++ after) := by
  induction front with
  | nil => exact back
  | @blank c text before here _ ih =>
    rw [List.mem_cons, not_or] at unbroken
    exact .blank here (ih unbroken.2 fun matcher member isOpen =>
      apart matcher member (isOpen.append_left [c]))
  | @found found text before inked matched _ ih =>
    have begins := begins_of_longestMatch (List.append_ne_nil_of_left_ne_nil inked.ne_nil text)
      unbroken matched
    have longer := begins.append unbroken blank fun matcher same =>
      apart matcher (same ▸ List.mem_cons_self)
    have matched := longestMatch_of_begins longer
    rw [List.append_assoc] at matched ⊢
    rw [List.mem_append, not_or] at unbroken
    exact .found inked matched (ih unbroken.2 fun matcher member isOpen =>
      apart matcher (List.mem_cons_of_mem found member) (isOpen.append_left found.text))

section Cut

variable {found : Match} {text : List Char} {others : List Match}

theorem cutInto_of_begins (begins : Begins (found.text ++ text) found)
    (cut : CutInto lexicon text others) :
    CutInto lexicon (found.text ++ text) (found :: others) :=
  .found begins.startsInked (longestMatch_of_begins begins) cut

theorem exists_cut_of_begins (begins : Begins (found.text ++ text) found)
    (cut : CutInto lexicon (found.text ++ text) others) :
    ∃ others, CutInto lexicon text others := by
  obtain ⟨more, _, rest⟩ := cut.exists_rest begins.startsInked (longestMatch_of_begins begins)
  exact ⟨more, rest⟩

end Cut

/-! ### What was loaded -/

section Load

variable {lines : List Line} {draft : Draft}

theorem load_eq_ok_iff : load lines = .ok draft ↔ loadInto {} lines = (draft, none) := by
  rw [load]
  obtain ⟨loaded, _ | failure⟩ := loadInto {} lines
  · simp
  · simp

/-- What there is to read in a description that loads: tokens up to the end of input, whose
alternatives are registered. -/
theorem exists_items_of_load (loaded : load lines = .ok draft) :
    ∃ inside last, items lines = (inside ++ [last]).map .ok ∧
      last.token.kind = lexicon.reserved.eof ∧
      draft = registerAll {} (described "" inside) := by
  have outcome : Outcome sentences {} "" (items lines) (loadInto {} lines) :=
    read_cases (ended_items lines) {} .definition "" trivial
  rw [load_eq_ok_iff.mp loaded] at outcome
  generalize items lines = list at outcome ⊢
  generalize shape : (draft, (none : Option Failure)) = result at outcome
  cases outcome with
  | @complete inside last isEof _ =>
    cases shape
    exact ⟨inside, last, rfl, isEof, rfl⟩
  | stopped => cases shape

/-- **The lines of a description that loads are cut into tokens.** -/
theorem exists_parts_of_load (loaded : load lines = .ok draft) :
    ∃ parts : List (List Char × List Match), lines = parts.map (.text ·.1) ∧
      ∀ part ∈ parts, CutInto lexicon part.1 part.2 := by
  obtain ⟨inside, last, listed, _, _⟩ := exists_items_of_load loaded
  refine exists_parts_of_reading (Pipeline.reading_scanned lexicon lines) fun failure member => ?_
  have handed : .error failure ∈ (history (Scanner.ofLines lexicon lines)).map (·.1) := by
    rw [history_scanned]
    exact member
  obtain ⟨⟨_, after⟩, inHistory, rfl⟩ := List.mem_map.mp handed
  have inItems : .error failure ∈ items lines :=
    List.mem_filter.mpr ⟨List.mem_map.mpr ⟨_, inHistory, rfl⟩, rfl⟩
  rw [listed] at inItems
  obtain ⟨_, _, absent⟩ := List.mem_map.mp inItems
  cases absent

theorem exists_mem_alternatives {tokens : List Token} {token : Token} {matcher : Matcher}
    (describes : matcher? token = some matcher) (member : token ∈ tokens) :
    ∀ name, ∃ other, (other, matcher) ∈ alternatives name tokens := by
  induction tokens with
  | nil => cases member
  | cons first tokens ih =>
    intro name
    rcases List.mem_cons.mp member with rfl | member
    · exact ⟨name, by simp [alternatives, describes]⟩
    · obtain ⟨other, later⟩ := ih member (nameBehind name first)
      exact ⟨other, List.mem_append_right _ later⟩

/-- What is registered is in the draft. -/
theorem exists_rule_of_registerAll {added : List (String × Matcher)} {name : String}
    {matcher : Matcher} (member : (name, matcher) ∈ added) :
    ∃ rule ∈ (registerAll {} added).rules, matcher ∈ rule.2 := by
  have steps : registerAll {} added =
      Draft.registerEach {} (added.map fun entry => (entry.1, [entry.2])) := by
    rw [Draft.registerEach, List.foldl_map]
    rfl
  have step : (name, [matcher]) ∈ added.map fun entry => (entry.1, [entry.2]) :=
    List.mem_map.mpr ⟨_, member, rfl⟩
  rw [steps, Draft.registerEach_eq]
  refine ⟨(name, _),
    List.mem_map.mpr ⟨name, List.mem_eraseDups.mpr (List.mem_map_of_mem step), rfl⟩, ?_⟩
  exact List.mem_flatMap.mpr ⟨_, List.mem_filter.mpr ⟨step, decide_eq_true rfl⟩,
    List.mem_singleton_self _⟩

theorem matcher?_of_toMatch {token : Token} {matcher : Matcher}
    (same : token.toMatch = matcherToken matcher) : matcher? token = some matcher := by
  obtain ⟨isKind, isText⟩ := Match.mk.inj same
  have body : withoutDelimiters token.text = matcher.source := by
    rw [isText, withoutDelimiters_delimited]
  rw [matcher?, isKind, body]
  cases matcher <;> rfl

/-- **The matchers in the tokens of a description that loads are in its draft.** -/
theorem exists_rule_of_load (loaded : load lines = .ok draft)
    {parts : List (List Char × List Match)}
    (shape : lines = parts.map (.text ·.1)) (cut : ∀ part ∈ parts, CutInto lexicon part.1 part.2)
    {matcher : Matcher} (member : matcherToken matcher ∈ parts.flatMap (·.2)) :
    ∃ rule ∈ draft.rules, matcher ∈ rule.2 := by
  obtain ⟨inside, last, listed, isEof, rfl⟩ := exists_items_of_load loaded
  obtain ⟨placed, alike, tokens⟩ := exists_items_of_cut shape cut
  obtain rfl : inside ++ [last] = placed :=
    (List.map_inj_right fun _ _ => Except.ok.inj).mp (listed.symm.trans alike)
  rw [List.map_append, List.map_singleton] at tokens
  have inInside : matcherToken matcher ∈ inside.map (·.token.toMatch) := by
    rw [(List.append_inj' tokens rfl).1]
    exact member
  obtain ⟨one, inInside, same⟩ := List.mem_map.mp inInside
  obtain ⟨_, described⟩ :=
    exists_mem_alternatives (matcher?_of_toMatch same) (List.mem_map_of_mem inInside) ""
  exact exists_rule_of_registerAll described

/-! ### Reading the same tokens -/

theorem step_congr {first second : Token} (same : first.toMatch = second.toMatch)
    (expectation : Expectation) : step expectation first = step expectation second := by
  obtain ⟨isKind, isText⟩ := Match.mk.inj same
  simp only [step, isKind, isText]

/-- The places of tokens do not matter as long as all of them are expected. -/
theorem read_congr {first second : List Placed}
    (same : first.map (·.token.toMatch) = second.map (·.token.toMatch)) :
    ∀ draft expectation result, read draft expectation (first.map .ok) = (result, none) →
      read draft expectation (second.map .ok) = (result, none) := by
  induction first generalizing second with
  | nil =>
    obtain rfl := List.map_eq_nil_iff.mp same.symm
    exact fun _ _ _ => id
  | cons one first ih =>
    obtain ⟨other, second, rfl, alike, same⟩ := List.map_eq_cons_iff.mp same.symm
    intro draft expectation result reads
    rw [List.map_cons, read] at reads ⊢
    rw [step_congr alike]
    split
    · rename_i went
      rw [went] at reads
      exact ih same.symm _ _ _ reads
    · rename_i went
      rw [went] at reads
      exact reads
    · rename_i went
      rw [went] at reads
      cases reads

/-- Lines that are cut into tokens that can be read load. -/
theorem load_of_cut {parts : List (List Char × List Match)} (shape : lines = parts.map (.text ·.1))
    (cut : ∀ part ∈ parts, CutInto lexicon part.1 part.2) {placed : List Placed}
    (same : placed.map (·.token.toMatch) = parts.flatMap (·.2) ++ [⟨lexicon.reserved.eof, ['$']⟩])
    (reads : read {} .definition (placed.map .ok) = (draft, none)) : load lines = .ok draft := by
  obtain ⟨here, listed, tokens⟩ := exists_items_of_cut shape cut
  refine load_eq_ok_iff.mpr ?_
  show read {} .definition (items lines) = _
  rw [listed]
  exact read_congr (same.trans tokens.symm) _ _ _ reads

end Load

/-! ### A line that ends in an open body -/

/-- The body is that of the literal. -/
theorem cutInto_openLine : CutInto lexicon "A: 'a\\'".toList
    [⟨nameKind, ['A']⟩, ⟨colonKind, [':']⟩, matcherToken (.literal ['a', '\\'])] := by
  have last : Begins ['\'', 'a', '\\', '\''] (matcherToken (.literal ['a', '\\'])) :=
    @Begins.matcher (.literal ['a', '\\']) _ [] ⟨rfl, by decide⟩
  exact @cutInto_of_begins ⟨nameKind, ['A']⟩ _ _ (begins_of_ends (by decide) (by decide)) <|
    @cutInto_of_begins ⟨colonKind, [':']⟩ _ _ (.mark (by decide)) <| .blank rfl <|
    @cutInto_of_begins (matcherToken (.literal ['a', '\\'])) [] _ last .nil

/-- The line behind it holds one more alternative. -/
theorem load_openLine {matcher : Matcher} (body : Body (delimiter matcher) matcher.source) :
    load [.text "A: 'a\\'".toList, .text ('|' :: ' ' :: (delimited matcher ++ [' ', ';']))] =
      .ok { rules := [("A", [.literal ['a', '\\'], matcher])] } := by
  have second : CutInto lexicon ('|' :: ' ' :: (delimited matcher ++ [' ', ';']))
      [⟨separatorKind, ['|']⟩, matcherToken matcher, ⟨semicolonKind, [';']⟩] :=
    @cutInto_of_begins ⟨separatorKind, ['|']⟩ _ _ (.mark (by decide)) <| .blank rfl <|
    @cutInto_of_begins (matcherToken matcher) _ _
      (.matcher ⟨List.append_assoc _ _ [' ', ';'], .inl body⟩) <|
    .blank rfl <| @cutInto_of_begins ⟨semicolonKind, [';']⟩ [] _ (.mark (by decide)) .nil
  refine @load_of_cut _ _ [(_, _), (_, _)] rfl
    (List.forall_mem_cons.mpr ⟨cutInto_openLine, List.forall_mem_singleton.mpr second⟩)
    (List.map (fun found => ⟨⟨found.kind, found.text, 0, 0⟩, []⟩)
      [⟨nameKind, ['A']⟩, ⟨colonKind, [':']⟩,
      matcherToken (.literal ['a', '\\']), ⟨separatorKind, ['|']⟩, matcherToken matcher,
      ⟨semicolonKind, [';']⟩, ⟨lexicon.reserved.eof, ['$']⟩]) rfl ?_
  simp only [List.map_cons, List.map_nil, read, step, lexicon_eq, matcherToken,
    withoutDelimiters_delimited]
  cases matcher <;> rfl

/-! ### Breaks -/

/-- The lines around a line break: what is read of the first line, and the blanks behind that. -/
theorem exists_gap {front brk : List Char} (isBreak : brk = ['\n'] ∨ brk = ['\r', '\n'])
    (unbroken : '\n' ∉ front) (back : List Char) :
    ∃ line gap, linesOfText (front ++ brk ++ back) = .text line :: linesOfText back ∧
      front = line ++ gap ∧ ∀ c ∈ gap, isBlank c = true := by
  rcases isBreak with rfl | rfl
  · have lines := linesOfText_line unbroken back
    rw [List.append_assoc, List.singleton_append]
    rcases dropReturn_cases front with same | returned
    · exact ⟨_, [], lines, by rw [same, List.append_nil], List.forall_mem_nil _⟩
    · exact ⟨_, ['\r'], lines, returned, List.forall_mem_singleton.mpr rfl⟩
  · have returned : '\n' ∉ front ++ ['\r'] := List.not_mem_append unbroken (by decide)
    have lines := linesOfText_line returned back
    rw [dropReturn_concat, List.append_assoc] at lines
    rw [List.append_assoc]
    exact ⟨front, [], lines, (List.append_nil front).symm, List.forall_mem_nil _⟩

/-- A line, blanks and the line behind a break make a line that is cut as the two are. -/
theorem cutInto_gap {line gap second : List Char} {before after : List Match}
    (front : CutInto lexicon line before) (unbroken : '\n' ∉ line)
    (blank : ∀ c ∈ gap, isBlank c = true) (back : CutInto lexicon second after)
    (apart : ∀ matcher, matcherToken matcher ∈ before → OpenAtEnd line matcher →
      delimiter matcher ∉ second) :
    CutInto lexicon (line ++ (gap ++ ' ' :: second)) (before ++ after) := by
  have spaced : CutInto lexicon (' ' :: second) after := .blank rfl back
  refine cutInto_append front unbroken (spaced.blanks blank) ?_ fun matcher member isOpen => ?_
  · intro c head
    cases gap with
    | nil => exact Option.some.inj head ▸ rfl
    | cons d gap => exact Option.some.inj head ▸ blank d List.mem_cons_self
  · have solid : ∀ c, isBlank c = true → c ≠ delimiter matcher := by
      rintro _ isBlank rfl
      rw [isBlank_delimiter] at isBlank
      cases isBlank
    refine List.not_mem_append (fun inGap => solid _ (blank _ inGap) rfl) ?_
    exact List.not_mem_cons_of_ne_of_not_mem (solid ' ' rfl).symm (apart matcher member isOpen)

/-- The line in front of a break, and how it is cut when the break is replaced by a blank. -/
theorem exists_line_joined {front brk : List Char} (isBreak : brk = ['\n'] ∨ brk = ['\r', '\n'])
    (unbroken : '\n' ∉ front) (back : List Char) :
    ∃ line, linesOfText (front ++ brk ++ back) = .text line :: linesOfText back ∧
      ∀ {second : List Char} {before after : List Match}, CutInto lexicon line before →
        CutInto lexicon second after →
        (∀ matcher, matcherToken matcher ∈ before → OpenAtEnd front matcher →
          delimiter matcher ∉ second) →
        CutInto lexicon (front ++ ' ' :: second) (before ++ after) := by
  obtain ⟨line, gap, lines, rfl, blank⟩ := exists_gap isBreak unbroken back
  rw [List.mem_append, not_or] at unbroken
  refine ⟨line, lines, fun {second before after} cutLine cutSecond apart => ?_⟩
  rw [List.append_assoc]
  exact cutInto_gap cutLine unbroken.1 blank cutSecond fun matcher member isOpen =>
    apart matcher member (isOpen.append_blanks blank unbroken.2)

/-- Lines that are cut into tokens stay so when a break is replaced by a blank. -/
theorem exists_parts_joined {front brk back : List Char} {parts : List (List Char × List Match)}
    (isBreak : brk = ['\n'] ∨ brk = ['\r', '\n'])
    (shape : linesOfText (front ++ brk ++ back) = parts.map (.text ·.1))
    (cut : ∀ part ∈ parts, CutInto lexicon part.1 part.2)
    (apart : ∀ matcher, matcherToken matcher ∈ parts.flatMap (·.2) →
      OpenAtEnd front matcher → delimiter matcher ∉ back.takeWhile (· ≠ '\n')) :
    ∃ others : List (List Char × List Match),
      linesOfText (front ++ ' ' :: back) = others.map (.text ·.1) ∧
      (∀ part ∈ others, CutInto lexicon part.1 part.2) ∧
        others.flatMap (·.2) = parts.flatMap (·.2) := by
  obtain ⟨closed, start, rfl, ends, unbroken⟩ := exists_last_stretch '\n' front
  obtain ⟨line, lines, joins⟩ := exists_line_joined isBreak unbroken back
  rw [List.append_assoc closed, List.append_assoc closed, linesOfText_append_of_closed ends,
    lines] at shape
  obtain ⟨above, rest, rfl, isAbove, isRest⟩ := List.map_eq_append_iff.mp shape.symm
  obtain ⟨part, below, rfl, isLine, isBelow⟩ := List.map_eq_cons_iff.mp isRest
  obtain rfl : part.1 = line := Line.text.inj isLine
  obtain ⟨inFront, behind⟩ := List.forall_mem_append.mp cut
  obtain ⟨here, behind⟩ := List.forall_mem_cons.mp behind
  have separate : ∀ matcher, matcherToken matcher ∈ part.2 → OpenAtEnd start matcher →
      delimiter matcher ∉ back.takeWhile (· ≠ '\n') := by
    intro matcher member isOpen
    refine apart matcher (List.mem_flatMap.mpr ⟨part, ?_, member⟩) (isOpen.append_left closed)
    exact List.mem_append_right above List.mem_cons_self
  rw [List.append_assoc, linesOfText_append_of_closed ends, ← isAbove]
  rcases linesOfText_blank_cases unbroken back with ⟨rfl, single⟩ | ⟨second, others, isBack, onward,
    first⟩
  · obtain rfl := List.map_eq_nil_iff.mp isBelow
    have last : CutInto lexicon (start ++ [' ']) (part.2 ++ []) :=
      joins here .nil fun _ _ _ => List.not_mem_nil
    rw [List.append_nil] at last
    refine ⟨above ++ [(start ++ [' '], part.2)], by rw [single, List.map_append]; rfl, ?_, ?_⟩
    · exact List.forall_mem_append.mpr ⟨inFront, List.forall_mem_singleton.mpr last⟩
    · rw [List.flatMap_append, List.flatMap_append]
      rfl
  · rw [isBack] at isBelow
    obtain ⟨next, below, rfl, isSecond, rfl⟩ := List.map_eq_cons_iff.mp isBelow
    obtain rfl : next.1 = second := Line.text.inj isSecond
    obtain ⟨cutNext, behind⟩ := List.forall_mem_cons.mp behind
    have long : CutInto lexicon (start ++ ' ' :: next.1) (part.2 ++ next.2) :=
      joins here cutNext fun matcher member isOpen inNext =>
        separate matcher member isOpen (first _ inNext)
    refine ⟨above ++ (start ++ ' ' :: next.1, part.2 ++ next.2) :: below,
      by rw [onward, List.map_append]; rfl, ?_, ?_⟩
    · exact List.forall_mem_append.mpr ⟨inFront, List.forall_mem_cons.mpr ⟨long, behind⟩⟩
    · simp only [List.flatMap_append, List.flatMap_cons, List.append_assoc]

/-- **Line breaks in descriptions mean no more than blanks**, except behind a matcher that ends in a
backslash that takes nothing with it, and whose delimiter is the last one on the line of the break:
if that delimiter stands on the next line, the two must stay apart. In a description that loads, any
other line break can be replaced by a blank. -/
theorem load_joined {front brk back : List Char} {draft : Draft}
    (isBreak : brk = ['\n'] ∨ brk = ['\r', '\n'])
    (loaded : load (linesOfText (front ++ brk ++ back)) = .ok draft)
    (apart : ∀ rule ∈ draft.rules, ∀ matcher ∈ rule.2, OpenAtEnd front matcher →
      delimiter matcher ∉ back.takeWhile (· ≠ '\n')) :
    load (linesOfText (front ++ ' ' :: back)) = .ok draft := by
  obtain ⟨parts, shape, cut⟩ := exists_parts_of_load loaded
  obtain ⟨placed, listed, tokens⟩ := exists_items_of_cut shape cut
  have reads : read {} .definition (placed.map .ok) = (draft, none) := by
    rw [← listed]
    exact load_eq_ok_iff.mp loaded
  have separate : ∀ matcher, matcherToken matcher ∈ parts.flatMap (·.2) →
      OpenAtEnd front matcher → delimiter matcher ∉ back.takeWhile (· ≠ '\n') := by
    intro matcher member
    obtain ⟨rule, inRules, inRule⟩ := exists_rule_of_load loaded shape cut member
    exact apart rule inRules matcher inRule
  obtain ⟨others, joined, cutJoined, same⟩ := exists_parts_joined isBreak shape cut separate
  rw [← same] at tokens
  exact load_of_cut joined cutJoined tokens reads

/-- The hypotheses hold behind an open body, in front of a line that has no quote. -/
theorem load_joined_regex :
    OpenAtEnd "A: 'a\\'".toList (.literal ['a', '\\']) ∧
    load (linesOfText ("A: 'a\\'".toList ++ ['\r', '\n'] ++ "| /b/ ;".toList)) =
      .ok { rules := [("A", [.literal ['a', '\\'], .regex ['b']])] } ∧
    load (linesOfText ("A: 'a\\'".toList ++ ' ' :: "| /b/ ;".toList)) =
      .ok { rules := [("A", [.literal ['a', '\\'], .regex ['b']])] } := by
  have body : Body '/' ['b'] := by decide
  have loaded : load (linesOfText ("A: 'a\\'".toList ++ ['\r', '\n'] ++ "| /b/ ;".toList)) = _ :=
    @load_openLine (.regex ['b']) body
  have isOpen : OpenAtEnd "A: 'a\\'".toList (.literal ['a', '\\']) :=
    ⟨by decide, "A: ".toList, [], rfl, List.not_mem_nil, List.not_mem_nil⟩
  have apart : ∀ rule ∈ [("A", [Matcher.literal ['a', '\\'], .regex ['b']])], ∀ matcher ∈ rule.2,
      OpenBody (delimiter matcher) matcher.source →
        delimiter matcher ∉ "| /b/ ;".toList.takeWhile (· ≠ '\n') := by
    decide
  exact ⟨isOpen, loaded, load_joined (.inr rfl) loaded fun rule inRules matcher inRule isOpen =>
    apart rule inRules matcher inRule isOpen.1⟩

/-- They must hold: in front of a line with a quote, a blank lets the open body reach to that quote,
and the description does not load. -/
theorem load_ne_ok_of_joined_literal :
    load (linesOfText ("A: 'a\\'".toList ++ ['\n'] ++ "| 'b' ;".toList)) =
      .ok { rules := [("A", [.literal ['a', '\\'], .literal ['b']])] } ∧
    ∀ draft, load (linesOfText ("A: 'a\\'".toList ++ ' ' :: "| 'b' ;".toList)) ≠ .ok draft := by
  have body : Body '\'' ['b'] := by decide
  refine ⟨@load_openLine (.literal ['b']) body, fun draft loaded => ?_⟩
  obtain ⟨parts, shape, cut⟩ := exists_parts_of_load loaded
  obtain ⟨part, _, rfl, isLine, _⟩ := List.map_eq_cons_iff.mp shape.symm
  have whole := (List.forall_mem_cons.mp cut).1
  rw [Line.text.inj isLine] at whole
  have blank : ∀ c ∈ [' '], isBlank c = true := List.forall_mem_singleton.mpr rfl
  have reaches : Begins "'a\\' | 'b' ;".toList (matcherToken (.literal "a\\' | ".toList)) :=
    @Begins.matcher (.literal "a\\' | ".toList) _ "b' ;".toList ⟨rfl, by decide⟩
  obtain ⟨_, behindName⟩ := @exists_cut_of_begins ⟨nameKind, ['A']⟩ ": 'a\\' | 'b' ;".toList _
    (begins_of_ends (by decide) (by decide)) whole
  obtain ⟨_, behindColon⟩ := @exists_cut_of_begins ⟨colonKind, [':']⟩ " 'a\\' | 'b' ;".toList _
    (.mark (by decide)) behindName
  obtain ⟨_, behindLiteral⟩ :=
    @exists_cut_of_begins (matcherToken (.literal "a\\' | ".toList)) "b' ;".toList _
    reaches (behindColon.of_blanks blank)
  obtain ⟨_, behindB⟩ := @exists_cut_of_begins ⟨nameKind, ['b']⟩ "' ;".toList _
    (begins_of_ends (by decide) (by decide)) behindLiteral
  -- What is left is the quote that was to close the second text.
  obtain ⟨found, _, _, _, _, matched, _⟩ := behindB.exists_found ⟨'\'', " ;".toList, rfl, by decide⟩
  have alone : '\'' ∉ " ;".toList := by decide
  have begins : Begins "' ;".toList found := begins_of_longestMatch (by decide) (by decide) matched
  exact @not_begins_of_notMem found (.literal []) _ alone begins

end Offside.Description
