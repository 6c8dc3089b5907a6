/-
**A table of literals finds the longest one.**

Where all matchers are literals, the longest literal that an input begins with is the first one that
matches among those of its kind, since they are tried from the longest to the shortest; of several
kinds the one with the longest match is selected; and all matches are literals, so among equals it
is the first kind that counts.

* `Rule.Literals.exists_compile`: literals compile, since each is read as the text it is;
* `Rule.Literals.matchLength_eq_some_iff`: the longest literal of a kind is matched;
* `Draft.LiteralTable.recognizes_iff`: what is recognized are the literals themselves;
* `Draft.LiteralTable.isLongest_of_longestMatch`: the longest literal of the table is found.
-/

import Offside.Proofs.Alternation
import Offside.Proofs.Winners

namespace Offside

/-- The longest of the listed texts that an input begins with. -/
structure IsLongest (listed : List Char → Prop) (input text : List Char) : Prop where
  mem : listed text
  begins : text <+: input
  longest : ∀ other, listed other → other <+: input → other.length ≤ text.length

theorem IsLongest.eq_take {listed : List Char → Prop} {input text : List Char}
    (longest : IsLongest listed input text) :
    text = input.take text.length :=
  List.prefix_iff_eq_take.mp longest.begins

/-! ### The literals of a kind -/

namespace Rule

/-- Matchers of a kind of which all are literals. -/
structure Literals (matchers : List Matcher) : Prop where
  several : matchers ≠ []
  texts : ∀ matcher ∈ matchers, ∃ text, text ≠ [] ∧ matcher = .literal text

namespace Literals

theorem of_texts {texts : List (List Char)} (several : texts ≠ [])
    (inked : ∀ text ∈ texts, text ≠ []) :
    Literals (texts.map .literal) := by
  refine ⟨fun none => several (List.map_eq_nil_iff.mp none), fun matcher member => ?_⟩
  obtain ⟨text, listed, rfl⟩ := List.mem_map.mp member
  exact ⟨text, inked text listed, rfl⟩

variable {reserved : ReservedKinds} {kind : String} {matchers : List Matcher} {rule : Rule}
  (literals : Literals matchers)

include literals

theorem inked : ∀ matcher ∈ matchers, matcher.source ≠ [] := fun matcher member => by
  obtain ⟨text, inked, rfl⟩ := literals.texts matcher member
  exact inked

theorem standsAlone : ∀ matcher ∈ matchers, matcher.StandsAlone := fun matcher member => by
  obtain ⟨text, _, rfl⟩ := literals.texts matcher member
  trivial

theorem settled (input : List Char) : Pattern.Outline.Settled (outlines matchers) input := by
  obtain ⟨matcher, member⟩ := List.exists_mem_of_ne_nil _ literals.several
  obtain ⟨text, inked, rfl⟩ := literals.texts matcher member
  exact settled_of_literal member inked input

/-- Literals are read without names, and nest no deeper than a sequence does. -/
theorem shallow : ∀ last ∈ (inOrder matchers).filterMap Matcher.reader?,
    last.names = [] ∧ last.group.whole.depth ≤ 1 := fun last member => by
  obtain ⟨matcher, listed, read⟩ := List.mem_filterMap.mp member
  obtain ⟨text, inked, rfl⟩ :=
    literals.texts matcher ((triedIn_inOrder matchers).perm.mem_iff.mp listed)
  obtain ⟨last', fragment, names, _, depth⟩ := Pattern.Reader.Fragment.of_escape inked
  obtain rfl : last' = last := Option.some.inj (fragment.reads.read.symm.trans read)
  exact ⟨names, depth⟩

/-- **Literals compile**, whatever characters they are made of. -/
theorem exists_compile (free : reserved.contains kind = false) :
    ∃ rule, compile reserved kind matchers = .ok rule := by
  have order := triedIn_inOrder matchers
  have each : ∀ matcher ∈ inOrder matchers, matcher.StandsAlone ∧ matcher.source ≠ [] :=
    fun matcher member =>
    have listed := order.perm.mem_iff.mp member
    ⟨literals.standsAlone matcher listed, literals.inked matcher listed⟩
  have several : (inOrder matchers).map Matcher.pattern ≠ [] := fun none =>
    literals.several (List.Perm.nil_eq ((List.map_eq_nil_iff.mp none) ▸ order.perm)).symm
  obtain ⟨fragments, _⟩ := exists_fragments each
  rcases Pattern.ofPattern?_combined fragments several with ⟨depth, bounded, reads⟩ | ⟨_, last,
    member, named⟩
  · have fits : depth ≤ Pattern.nestingLimit :=
      (bounded 1 fun last member => (literals.shallow last member).2).trans (by decide)
    rw [if_pos fits, ← combinedPattern_eq] at reads
    exact ⟨_, compile_eq_ok_iff.mpr ⟨⟨free, literals.several, literals.inked⟩, _, reads, rfl⟩⟩
  · cases named (literals.shallow last member).1

/-- The first literal that matches is the longest, since the others come later. -/
theorem isLongest_of_first {input : List Char} {length : Nat}
    (first : (inOrder matchers).findSome? (·.matchEnd input) = some length) :
    ∃ text, IsLongest (.literal · ∈ matchers) input text ∧ text.length = length := by
  have order := triedIn_inOrder matchers
  obtain ⟨before, matcher, after, split, here, silent⟩ := List.findSome?_eq_some_iff.mp first
  have listed : matcher ∈ inOrder matchers := split ▸ List.mem_append_right _ List.mem_cons_self
  obtain ⟨text, _, rfl⟩ := literals.texts matcher (order.perm.mem_iff.mp listed)
  obtain ⟨begins, same⟩ := Option.ite_none_right_eq_some.mp here
  refine ⟨text, ⟨order.perm.mem_iff.mp listed, begins, fun other member otherBegins => ?_⟩,
    Option.some.inj same⟩
  have tried := order.perm.mem_iff.mpr member
  rw [split] at tried
  rcases List.mem_append.mp tried with earlier | others
  · have missed : (Matcher.literal other).matchEnd input = none := silent _ earlier
    rw [Matcher.matchEnd, if_pos otherBegins] at missed
    cases missed
  · rcases List.mem_cons.mp others with same | later
    · cases same
      exact Nat.le_refl _
    · have descends := List.pairwise_append.mp (split ▸ order.descends)
      exact (List.pairwise_cons.mp descends.2.1).1 _ later

theorem first_eq_none_iff {input : List Char} :
    (inOrder matchers).findSome? (·.matchEnd input) = none ↔
    ∀ text, .literal text ∈ matchers → ¬ text <+: input := by
  have order := triedIn_inOrder matchers
  rw [List.findSome?_eq_none_iff]
  constructor
  · intro silent text member begins
    have missed : (Matcher.literal text).matchEnd input = none :=
      silent _ (order.perm.mem_iff.mpr member)
    rw [Matcher.matchEnd, if_pos begins] at missed
    cases missed
  · intro never matcher member
    obtain ⟨text, _, rfl⟩ := literals.texts matcher (order.perm.mem_iff.mp member)
    exact if_neg (never text (order.perm.mem_iff.mp member))

variable (compiled : compile reserved kind matchers = .ok rule)

include compiled

theorem matchLength_eq_first (input : List Char) :
    rule.matchLength input = (inOrder matchers).findSome? (·.matchEnd input) := by
  rw [matchLength_eq compiled literals.standsAlone (literals.settled input)]
  cases first : (inOrder matchers).findSome? (·.matchEnd input) with
  | none => rfl
  | some length =>
    obtain ⟨text, longest, rfl⟩ := literals.isLongest_of_first first
    have inked : text ≠ [] := literals.inked _ longest.mem
    exact Option.filter_some_pos (decide_eq_true (List.length_pos_iff.mpr inked))

theorem matchLength_eq_none_iff {input : List Char} :
    rule.matchLength input = none ↔ ∀ text, .literal text ∈ matchers → ¬ text <+: input := by
  rw [literals.matchLength_eq_first compiled, literals.first_eq_none_iff]

theorem exists_matchLength {input text : List Char} (member : .literal text ∈ matchers)
    (begins : text <+: input) :
    ∃ longest, IsLongest (.literal · ∈ matchers) input longest ∧
      rule.matchLength input = some longest.length := by
  cases matched : rule.matchLength input with
  | none => cases (literals.matchLength_eq_none_iff compiled).mp matched text member begins
  | some length =>
    rw [literals.matchLength_eq_first compiled] at matched
    obtain ⟨longest, isLongest, rfl⟩ := literals.isLongest_of_first matched
    exact ⟨longest, isLongest, rfl⟩

/-- **The longest literal of a kind is matched.** -/
theorem matchLength_eq_some_iff {input : List Char} {length : Nat} :
    rule.matchLength input = some length ↔
      ∃ text, IsLongest (.literal · ∈ matchers) input text ∧ text.length = length := by
  constructor
  · intro matched
    exact literals.isLongest_of_first (literals.matchLength_eq_first compiled input ▸ matched)
  · rintro ⟨text, longest, rfl⟩
    obtain ⟨other, longest', matched⟩ :=
      literals.exists_matchLength compiled longest.mem longest.begins
    rw [matched]
    exact congrArg some (Nat.le_antisymm (longest.longest other longest'.mem longest'.begins)
      (longest'.longest text longest.mem longest.begins))

/-- All that is matched is a literal. -/
theorem rank?_eq (input : List Char) :
    rule.rank? input = (rule.matchLength input).map fun length => toLex (length, true) := by
  refine Option.map_congr fun length matched => ?_
  obtain ⟨text, longest, rfl⟩ := (literals.matchLength_eq_some_iff compiled).mp matched
  obtain ⟨_, regex, _, rfl⟩ := compile_eq_ok_iff.mp compiled
  have listed : text ∈ matchers.filterMap Matcher.literal? :=
    List.mem_filterMap.mpr ⟨_, longest.mem, rfl⟩
  rw [← longest.eq_take]
  exact congrArg _ (congrArg _ (List.contains_iff_mem.mpr listed))

end Literals

end Rule

/-! ### Tables -/

/-- Entries that stand in a relation with those of a list that is taken apart are taken apart
alike. -/
theorem exists_split_of_forall₂ {α β : Type} {related : α → β → Prop} {list : List α}
    {before after : List β}
    {here : β} (pairs : List.Forall₂ related list (before ++ here :: after)) :
    ∃ before' here' after', list = before' ++ here' :: after' ∧
      List.Forall₂ related before' before ∧
      related here' here ∧ List.Forall₂ related after' after := by
  induction before generalizing list with
  | nil =>
    obtain ⟨here', after', first, rest, rfl⟩ := List.forall₂_cons_right_iff.mp pairs
    exact ⟨[], here', after', rfl, .nil, first, rest⟩
  | cons head before ih =>
    obtain ⟨head', rest, first, others, rfl⟩ := List.forall₂_cons_right_iff.mp pairs
    obtain ⟨before', here', after', rfl, front, middle, back⟩ := ih others
    exact ⟨head' :: before', here', after', rfl, .cons first front, middle, back⟩

namespace Draft

/-- A draft with literals only, and at least one for each kind, under names that are free. -/
structure LiteralTable (draft : Draft) : Prop where
  literals : ∀ rule ∈ draft.rules, Rule.Literals rule.2
  kinds : ∀ rule ∈ draft.rules, draft.reserved.contains rule.1 = false
  ignored : ∀ kind, draft.ignored = some kind → draft.reserved.contains kind = false

/-- Whether a literal is listed under some kind. -/
def Lists (draft : Draft) (text : List Char) : Prop := ∃ rule ∈ draft.rules, .literal text ∈ rule.2

theorem mem_of_matchers? {draft : Draft} {kind : String} {matchers : List Matcher}
    (registered : draft.matchers? kind = some matchers) : (kind, matchers) ∈ draft.rules := by
  obtain ⟨rule, found, rfl⟩ := Option.map_eq_some_iff.mp registered
  have same := List.find?_some found
  rw [beq_iff_eq] at same
  exact same ▸ List.mem_of_find?_eq_some found

namespace LiteralTable

variable {draft : Draft} {lexicon : Lexicon} (table : draft.LiteralTable)

include table

/-- **A table of literals compiles.** -/
theorem exists_compile : ∃ lexicon, draft.compile = .ok lexicon := by
  obtain ⟨literals, kinds, ignored⟩ := table
  have each :
      ∃ rules, List.Forall₂
        (fun entry rule => Rule.compile draft.reserved entry.1 entry.2 = .ok rule)
        draft.rules rules := by
    generalize draft.rules = entries at literals kinds
    induction entries with
    | nil => exact ⟨[], .nil⟩
    | cons entry entries ih =>
      obtain ⟨here, literals⟩ := List.forall_mem_cons.mp literals
      obtain ⟨free, kinds⟩ := List.forall_mem_cons.mp kinds
      obtain ⟨rule, made⟩ := here.exists_compile free
      obtain ⟨rules, others⟩ := ih literals kinds
      exact ⟨rule :: rules, .cons made others⟩
  obtain ⟨rules, each⟩ := each
  exact ⟨⟨rules, draft.reserved, draft.ignored⟩, compile_eq_ok_iff.mpr ⟨ignored, each, rfl, rfl⟩⟩

variable (compiled : draft.compile = .ok lexicon)

include compiled

/-- **A kind recognizes its literals and nothing else.** -/
theorem recognizes_iff (kind : String) (text : List Char) : lexicon.recognizes kind text = true ↔
    ∃ matchers, draft.matchers? kind = some matchers ∧ .literal text ∈ matchers := by
  have related := Lexicon.rule?_of_compile compiled kind
  rw [Lexicon.recognizes, beq_iff_eq]
  cases registered : draft.matchers? kind with
  | none =>
    rw [registered] at related
    cases missing : lexicon.rule? kind with
    | none => simp
    | some rule => rw [missing] at related; cases related
  | some matchers =>
    obtain ⟨rule, found, _, made⟩ := exists_rule compiled registered
    have literals := table.literals _ (mem_of_matchers? registered)
    rw [found, Option.bind_some, literals.matchLength_eq_some_iff made]
    constructor
    · rintro ⟨other, longest, same⟩
      obtain rfl : other = text := longest.begins.eq_of_length same
      exact ⟨matchers, rfl, longest.mem⟩
    · rintro ⟨_, same, member⟩
      obtain rfl := Option.some.inj same
      exact ⟨text, ⟨member, List.prefix_rfl, fun _ _ begins => begins.length_le⟩, rfl⟩

/-- Nothing is found where the input begins with no literal of the table. -/
theorem longestMatch_eq_none_iff (input : List Char) :
    lexicon.longestMatch input = none ↔ ∀ text, draft.Lists text → ¬ text <+: input := by
  obtain ⟨_, each, _, _⟩ := compile_eq_ok_iff.mp compiled
  rw [Lexicon.longestMatch_eq_none_iff]
  constructor
  · rintro silent text ⟨entry, member, listed⟩
    obtain ⟨rule, there, made⟩ := exists_of_mem_forall₂ each member
    exact ((table.literals entry member).matchLength_eq_none_iff made).mp
      (silent rule there) text listed
  · intro never rule member
    obtain ⟨entry, there, made⟩ := exists_of_mem_forall₂ each.flip member
    refine ((table.literals entry there).matchLength_eq_none_iff made).mpr fun text listed => ?_
    exact never text ⟨entry, there, listed⟩

/-- No literal that the input begins with is longer than what is found. -/
theorem length_le_of_longestMatch {input : List Char} {found : Match}
    (matched : lexicon.longestMatch input = some found)
    {text : List Char} (lists : draft.Lists text) (begins : text <+: input) :
    text.length ≤ found.text.length := by
  obtain ⟨_, each, _, _⟩ := compile_eq_ok_iff.mp compiled
  obtain ⟨entry, member, listed⟩ := lists
  obtain ⟨rule, there, made⟩ := exists_of_mem_forall₂ each member
  obtain ⟨longest, isLongest, here⟩ :=
    (table.literals entry member).exists_matchLength made listed begins
  obtain ⟨_, selects⟩ := Lexicon.selects_of_longestMatch matched
  have atMost := selects.length_le there here
  rw [← isLongest.eq_take] at atMost
  exact (isLongest.longest text listed begins).trans atMost

/-- **The longest literal of the table is found**, under the first kind that lists it. -/
theorem isLongest_of_longestMatch {input : List Char} {found : Match}
    (matched : lexicon.longestMatch input = some found) :
    IsLongest draft.Lists input found.text ∧ ∃ before matchers after,
      draft.rules = before ++ (found.kind, matchers) :: after ∧ .literal found.text ∈ matchers ∧
        ∀ earlier ∈ before, .literal found.text ∉ earlier.2 := by
  obtain ⟨_, each, _, _⟩ := compile_eq_ok_iff.mp compiled
  obtain ⟨rule, selects⟩ := Lexicon.selects_of_longestMatch matched
  obtain ⟨before, after, length, literal, shape, ranked, rfl, lower, _⟩ := id selects
  obtain ⟨front', entry, back', shape', front, made, _⟩ := exists_split_of_forall₂ (shape ▸ each)
  have member : entry ∈ draft.rules := shape' ▸ List.mem_append_right _ List.mem_cons_self
  have literals := table.literals entry member
  obtain ⟨_, here, same⟩ := Option.map_eq_some_iff.mp (literals.rank?_eq made input ▸ ranked)
  obtain ⟨rfl, rfl⟩ := Prod.mk.inj (toLex.injective same)
  obtain ⟨text, longest, rfl⟩ := (literals.matchLength_eq_some_iff made).mp here
  have sameKind : rule.kind = entry.1 := by
    obtain ⟨_, _, _, rfl⟩ := Rule.compile_eq_ok_iff.mp made
    rfl
  have noLonger (other : List Char) (lists : draft.Lists other) (begins : other <+: input) :=
    table.length_le_of_longestMatch compiled matched lists begins
  dsimp only at noLonger ⊢
  rw [← longest.eq_take] at noLonger ⊢
  refine ⟨⟨⟨entry, member, longest.mem⟩, longest.begins, noLonger⟩,
    front', entry.2, back', sameKind ▸ shape', longest.mem, fun earlier inFront listed => ?_⟩
  -- An earlier kind with this literal would match as much, and so it would not be ranked lower.
  have literals' := table.literals earlier (shape' ▸ List.mem_append_left _ inFront)
  obtain ⟨rule', there, made'⟩ := exists_of_mem_forall₂ front inFront
  obtain ⟨longest', isLongest', matched'⟩ :=
    literals'.exists_matchLength made' listed longest.begins
  have ranked' : rule'.rank? input = some (toLex (longest'.length, true)) := by
    rw [literals'.rank?_eq made', matched', Option.map_some]
  have shorter := lower rule' there _ ranked'
  rw [Prod.Lex.toLex_lt_toLex] at shorter
  have atLeast : text.length ≤ longest'.length := isLongest'.longest text listed longest.begins
  rcases shorter with less | ⟨_, less⟩
  · exact absurd atLeast (Nat.not_le.mpr less)
  · exact absurd less (lt_irrefl true)

end LiteralTable

/-- **A table of literals is maximal munch.** It compiles, a kind recognizes its literals and
nothing else, and at the start of an input the longest literal of the whole table is found, under
the first kind that lists it. -/
theorem maximalMunch {draft : Draft} (table : draft.LiteralTable) :
    ∃ lexicon, draft.compile = .ok lexicon ∧
      (∀ kind text, lexicon.recognizes kind text = true ↔
        ∃ matchers, draft.matchers? kind = some matchers ∧ .literal text ∈ matchers) ∧
      ∀ input, (lexicon.longestMatch input = none ↔ ∀ text, draft.Lists text → ¬ text <+: input) ∧
        ∀ found, lexicon.longestMatch input = some found →
          IsLongest draft.Lists input found.text ∧ ∃ before matchers after,
            draft.rules = before ++ (found.kind, matchers) :: after ∧
              .literal found.text ∈ matchers ∧
              ∀ earlier ∈ before, .literal found.text ∉ earlier.2 := by
  obtain ⟨lexicon, compiled⟩ := table.exists_compile
  exact ⟨lexicon, compiled, table.recognizes_iff compiled, fun input =>
    ⟨table.longestMatch_eq_none_iff compiled input,
      fun _ => table.isLongest_of_longestMatch compiled⟩⟩

/-- Literals that begin alike and one that two kinds list, with a character that means something in
patterns and with a line feed. -/
theorem maximalMunch_stars :
    let draft : Draft :=
      ⟨[("STAR", [.literal ['*'], .literal ['*', '*']]),
        ("POWER", [.literal ['*', '*'], .literal ['→', '\n']])],
        {}, none⟩
    draft.LiteralTable ∧ ∃ lexicon, draft.compile = .ok lexicon ∧
      lexicon.recognizes "POWER" ['→', '\n'] = true ∧ lexicon.recognizes "POWER" ['*'] = false ∧
      lexicon.longestMatch ['*', '*', '-'] = some ⟨"STAR", ['*', '*']⟩ ∧
      lexicon.longestMatch ['→'] = none := by
  intro draft
  have stars : Rule.Literals ([['*'], ['*', '*']].map .literal) := .of_texts (by decide) (by decide)
  have powers : Rule.Literals ([['*', '*'], ['→', '\n']].map .literal) :=
    .of_texts (by decide) (by decide)
  have table : draft.LiteralTable :=
    ⟨List.forall_mem_cons.mpr ⟨stars, List.forall_mem_singleton.mpr powers⟩, by decide, by decide⟩
  have texts : ∀ text, draft.Lists text → text = ['*'] ∨ text = ['*', '*'] ∨
      text = ['→', '\n'] := by
    rintro text ⟨rule, member, listed⟩
    simp only [draft, List.mem_cons, List.not_mem_nil, or_false] at member
    rcases member with rfl | rfl <;> simp at listed <;> tauto
  have registered : draft.matchers? "POWER" = some [.literal ['*', '*'], .literal ['→', '\n']] := by
    decide
  obtain ⟨lexicon, compiled, recognizes, longest⟩ := maximalMunch table
  refine ⟨table, lexicon, compiled, ?_, ?_, ?_, ?_⟩
  · exact (recognizes _ _).mpr ⟨_, registered, by decide⟩
  · refine eq_false_of_ne_true fun recognized => ?_
    obtain ⟨_, same, member⟩ := (recognizes _ _).mp recognized
    obtain rfl := Option.some.inj (registered.symm.trans same)
    exact absurd member (by decide)
  · cases matched : lexicon.longestMatch ['*', '*', '-'] with
    | none =>
      have never := (longest _).1.mp matched ['*', '*'] ⟨_, List.mem_cons_self, by decide⟩
      exact absurd (by decide) never
    | some found =>
      obtain ⟨isLongest, before, matchers, after, shape, _, first⟩ := (longest _).2 found matched
      have atLeast : 2 ≤ found.text.length :=
        isLongest.longest ['*', '*'] ⟨_, List.mem_cons_self, by decide⟩ (by decide)
      have text : found.text = ['*', '*'] := by
        rcases texts _ isLongest.mem with same | same | same
        · rw [same] at atLeast
          exact absurd atLeast (by decide)
        · exact same
        · rw [same] at isLongest
          exact absurd isLongest.begins (by decide)
      cases before with
      | nil =>
        obtain ⟨sameKind, _⟩ := Prod.mk.inj (List.cons.inj shape).1
        rw [← text, sameKind]
      | cons earlier before =>
        obtain rfl := (List.cons.inj shape).1
        exact absurd (by rw [text]; decide) (first _ List.mem_cons_self)
  · refine (longest _).1.mpr fun text lists begins => ?_
    rcases texts text lists with rfl | rfl | rfl <;> exact absurd begins (by decide)

end Draft

end Offside
