/-
**The best match is selected.**

Of all rules that match, the one with the longest match is selected, among equals one whose match is
a literal, and then the one that comes first. Ranks make one order of the first two: the rank of a
match is its length together with whether it is a literal, compared from left to right.

* `Candidate.beats_iff`: a candidate replaces another one if it is of a higher rank;
* `Candidate.wins_of_foldl`: so what is left in the end is of the highest rank, and the first of
  those. The induction takes the last candidate away;
* `Lexicon.selects_of_longestMatch`: the same for rules, whether they match or not;
* `Draft.selection`: and what follows for rules in another order.
-/

import Mathlib.Data.Prod.Lex
import Mathlib.Order.BooleanAlgebra.Basic
import Mathlib.Data.List.Induction
import Offside.Proofs.Compiling
import Offside.Proofs.Searching

namespace Offside

open Pattern (Regex)

/-! ### Candidates -/

namespace Candidate

/-- What a candidate is preferred for: its length, and then whether it is a literal. -/
def rank (candidate : Candidate) : Nat ×ₗ Bool := toLex (candidate.length, candidate.isLiteral)

/-- A candidate replaces an earlier one if it is of a higher rank. -/
theorem beats_iff {later earlier : Candidate} :
    later.beats earlier = true ↔ earlier.rank < later.rank := by
  rw [rank, rank, Prod.Lex.toLex_lt_toLex, Bool.lt_iff]
  simp only [beats, Bool.or_eq_true, Bool.and_eq_true, decide_eq_true_eq, Bool.not_eq_true']
  constructor
  · rintro (longer | ⟨⟨same, literal⟩, plain⟩)
    · exact .inl longer
    · exact .inr ⟨same, plain, literal⟩
  · rintro (longer | ⟨same, plain, literal⟩)
    · exact .inl longer
    · exact .inr ⟨⟨same, literal⟩, plain⟩

/-- The first of the candidates of the highest rank. -/
def Wins (candidates : List Candidate) (best : Candidate) : Prop :=
  ∃ before after, candidates = before ++ best :: after ∧
    (∀ other ∈ before, other.rank < best.rank) ∧ ∀ other ∈ after, other.rank ≤ best.rank

theorem foldl_better_eq_none_iff {candidates : List Candidate} :
    candidates.foldl better none = none ↔ candidates = [] := by
  induction candidates using List.reverseRecOn with
  | nil => exact ⟨fun _ => rfl, fun _ => rfl⟩
  | append_singleton candidates last _ =>
    rw [List.foldl_concat, better.eq_def]
    split
    · simp
    · split <;> simp

/-- What is left of several candidates is the first one of the highest rank. -/
theorem wins_of_foldl {candidates : List Candidate} {best : Candidate}
    (left : candidates.foldl better none = some best) : Wins candidates best := by
  induction candidates using List.reverseRecOn generalizing best with
  | nil => cases left
  | append_singleton candidates last ih =>
    rw [List.foldl_concat] at left
    cases soFar : candidates.foldl better none with
    | none =>
      rw [soFar] at left
      obtain rfl := Option.some.inj left
      obtain rfl := foldl_better_eq_none_iff.mp soFar
      exact ⟨[], [], rfl, List.forall_mem_nil _, List.forall_mem_nil _⟩
    | some earlier =>
      rw [soFar, better] at left
      obtain ⟨before, after, rfl, lower, atMost⟩ := ih soFar
      by_cases beaten : last.beats earlier
      · -- All the others are at most of the rank that was beaten.
        rw [if_pos beaten] at left
        obtain rfl := Option.some.inj left
        have higher : earlier.rank < last.rank := beats_iff.mp beaten
        refine ⟨before ++ earlier :: after, [], rfl, fun other member => ?_, List.forall_mem_nil _⟩
        rcases List.mem_append.mp member with front | others
        · exact (lower other front).trans higher
        · rcases List.mem_cons.mp others with rfl | back
          · exact higher
          · exact (atMost other back).trans_lt higher
      · rw [if_neg beaten] at left
        obtain rfl := Option.some.inj left
        have notHigher : last.rank ≤ earlier.rank := not_lt.mp (mt beats_iff.mpr beaten)
        refine ⟨before, after ++ [last], by rw [List.append_assoc, List.cons_append], lower, ?_⟩
        intro other member
        rcases List.mem_append.mp member with back | isLast
        · exact atMost other back
        · rw [List.mem_singleton.mp isLast]
          exact notHigher

end Candidate

/-! ### Rules -/

/-- What the match of a rule at the start of an input is preferred for, if there is one: its length,
and then whether it is a literal of the rule. -/
def Rule.rank? (rule : Rule) (input : List Char) : Option (Nat ×ₗ Bool) :=
  (rule.matchLength input).map fun length =>
    toLex (length, rule.literals.contains (input.take length))

theorem Rule.rank?_eq (rule : Rule) (input : List Char) :
    rule.rank? input = (rule.candidate? input).map Candidate.rank := by
  rw [rank?, candidate?, Option.map_map]
  rfl

theorem Rule.candidate?_ofRegex (kind : String) (matchers : List Matcher) {regex : Regex}
    {input : List Char}
    {length : Nat} (matched : regex.program.findEnd input = some length) (inked : 0 < length) :
    (ofRegex kind matchers regex).candidate? input =
      some ⟨kind, length, (matchers.filterMap Matcher.literal?).contains (input.take length)⟩ := by
  have taken : (ofRegex kind matchers regex).matchLength input = some length := by
    show (regex.program.findEnd input).filter (0 < ·) = some length
    rw [matched]
    exact Option.filter_eq_some_iff.mpr ⟨rfl, decide_eq_true inked⟩
  rw [candidate?, taken]
  rfl

namespace Lexicon

/-- A match of a rule that is not beaten by any other rule, and by none before it equalled. -/
def Selects (lexicon : Lexicon) (input : List Char) (found : Match) (rule : Rule) : Prop :=
  ∃ before after length literal, lexicon.rules = before ++ rule :: after ∧
    rule.rank? input = some (toLex (length, literal)) ∧ found = ⟨rule.kind, input.take length⟩ ∧
    (∀ other ∈ before, ∀ rank ∈ other.rank? input, rank < toLex (length, literal)) ∧
    ∀ other ∈ after, ∀ rank ∈ other.rank? input, rank ≤ toLex (length, literal)

theorem longestMatch_eq_none_iff {lexicon : Lexicon} {input : List Char} :
    lexicon.longestMatch input = none ↔ ∀ rule ∈ lexicon.rules, rule.matchLength input = none := by
  rw [longestMatch, Option.map_eq_none_iff, Candidate.foldl_better_eq_none_iff,
    List.filterMap_eq_nil_iff]
  simp only [Rule.candidate?, Option.map_eq_none_iff]

/-- The match that is selected. -/
theorem selects_of_longestMatch {lexicon : Lexicon} {input : List Char} {found : Match}
    (matched : lexicon.longestMatch input = some found) :
    ∃ rule, lexicon.Selects input found rule := by
  obtain ⟨best, left, rfl⟩ := Option.map_eq_some_iff.mp matched
  obtain ⟨before, after, shape, lower, atMost⟩ := Candidate.wins_of_foldl left
  obtain ⟨front, others, split, rfl, made⟩ := List.filterMap_eq_append_iff.mp shape
  obtain ⟨silent, rule, back, rfl, quiet, here, rfl⟩ := List.filterMap_eq_cons_iff.mp made
  have ranked : rule.rank? input = some best.rank := by
    rw [rule.rank?_eq, here, Option.map_some]
  have kind : best.kind = rule.kind := by
    obtain ⟨_, _, rfl⟩ := Option.map_eq_some_iff.mp here
    rfl
  refine ⟨rule, front ++ silent, back, best.length, best.isLiteral, ?_,
    ranked, by rw [kind], ?_, ?_⟩
  · rw [split, List.append_assoc]
  · intro other member rank ranks
    rw [other.rank?_eq] at ranks
    obtain ⟨candidate, agree, rfl⟩ := Option.map_eq_some_iff.mp ranks
    rcases List.mem_append.mp member with inFront | isSilent
    · exact lower candidate (List.mem_filterMap.mpr ⟨other, inFront, agree⟩)
    · rw [quiet other isSilent] at agree
      cases agree
  · intro other member rank ranks
    rw [other.rank?_eq] at ranks
    obtain ⟨candidate, agree, rfl⟩ := Option.map_eq_some_iff.mp ranks
    exact atMost candidate (List.mem_filterMap.mpr ⟨other, member, agree⟩)

/-- No rule is ranked higher than the one that is selected. -/
theorem Selects.rank_le {lexicon : Lexicon} {input : List Char} {found : Match} {rule : Rule}
    (selects : lexicon.Selects input found rule) {other : Rule} (member : other ∈ lexicon.rules)
    {rank best : Nat ×ₗ Bool} (ranks : other.rank? input = some rank)
    (here : rule.rank? input = some best) :
    rank ≤ best := by
  obtain ⟨before, after, length, literal, shape, ranked, _, lower, atMost⟩ := selects
  obtain rfl := Option.some.inj (ranked.symm.trans here)
  rw [shape] at member
  rcases List.mem_append.mp member with front | others
  · exact (lower other front rank ranks).le
  · rcases List.mem_cons.mp others with rfl | back
    · exact (Option.some.inj (ranks.symm.trans here)).le
    · exact atMost other back rank ranks

theorem Selects.mem {lexicon : Lexicon} {input : List Char} {found : Match} {rule : Rule}
    (selects : lexicon.Selects input found rule) : rule ∈ lexicon.rules := by
  obtain ⟨before, after, _, _, shape, _⟩ := selects
  rw [shape]
  exact List.mem_append_right _ List.mem_cons_self

/-- What is selected is as long as what any rule matches. -/
theorem Selects.length_le {lexicon : Lexicon} {input : List Char} {found : Match} {rule : Rule}
    (selects : lexicon.Selects input found rule) {other : Rule} (member : other ∈ lexicon.rules)
    {length : Nat} (matched : other.matchLength input = some length) :
    (input.take length).length ≤ found.text.length := by
  obtain ⟨_, _, longest, literal, _, ranked, rfl, _⟩ := id selects
  have atMost := selects.rank_le member (congrArg (Option.map _) matched) ranked
  have shorter : length ≤ longest := Prod.Lex.monotone_fst_ofLex atMost
  rw [List.length_take, List.length_take]
  omega

theorem exists_longestMatch {lexicon : Lexicon} {input : List Char} {rule : Rule}
    (member : rule ∈ lexicon.rules)
    {length : Nat} (matched : rule.matchLength input = some length) :
    ∃ found, lexicon.longestMatch input = some found ∧
      (input.take length).length ≤ found.text.length := by
  cases best : lexicon.longestMatch input with
  | none =>
    rw [longestMatch_eq_none_iff.mp best rule member] at matched
    cases matched
  | some found =>
    obtain ⟨_, selects⟩ := selects_of_longestMatch best
    exact ⟨found, rfl, selects.length_le member matched⟩

end Lexicon

/-! ### Rules in another order -/

/-- What is selected among the same rules in another order is ranked alike. -/
theorem Lexicon.Selects.rank_eq {lexicon reordered : Lexicon}
    (same : reordered.rules.Perm lexicon.rules)
    {input : List Char} {found found' : Match} {rule rule' : Rule}
    (selects : lexicon.Selects input found rule) (selects' : reordered.Selects input found' rule') :
    rule.rank? input = rule'.rank? input := by
  obtain ⟨_, _, length, literal, _, ranked, _⟩ := id selects
  obtain ⟨_, _, length', literal', _, ranked', _⟩ := id selects'
  have atMost : toLex (length', literal') ≤ toLex (length, literal) :=
    selects.rank_le (same.mem_iff.mp selects'.mem) ranked' ranked
  have atLeast : toLex (length, literal) ≤ toLex (length', literal') :=
    selects'.rank_le (same.mem_iff.mpr selects.mem) ranked ranked'
  rw [ranked, ranked', atMost.antisymm atLeast]

theorem Lexicon.Selects.text_eq {lexicon : Lexicon} {input : List Char} {found : Match}
    {rule : Rule} (selects : lexicon.Selects input found rule) {rank : Nat ×ₗ Bool}
    (ranked : rule.rank? input = some rank) :
    found.text = input.take (ofLex rank).1 := by
  obtain ⟨_, _, length, literal, _, here, rfl, _⟩ := selects
  obtain rfl := Option.some.inj (here.symm.trans ranked)
  rfl

/-- The text that is selected is the same for the same rules in another order. -/
theorem Lexicon.map_text_longestMatch_perm {lexicon reordered : Lexicon}
    (same : reordered.rules.Perm lexicon.rules) (input : List Char) :
    (reordered.longestMatch input).map (·.text) = (lexicon.longestMatch input).map (·.text) := by
  cases matched : lexicon.longestMatch input with
  | none =>
    have silent := longestMatch_eq_none_iff.mp matched
    rw [longestMatch_eq_none_iff.mpr fun rule member => silent rule (same.mem_iff.mp member)]
  | some found =>
    obtain ⟨rule, selects⟩ := selects_of_longestMatch matched
    cases matched' : reordered.longestMatch input with
    | none =>
      have silent := longestMatch_eq_none_iff.mp matched'
      rw [longestMatch_eq_none_iff.mpr fun rule member =>
        silent rule (same.mem_iff.mpr member)] at matched
      cases matched
    | some found' =>
      obtain ⟨rule', selects'⟩ := selects_of_longestMatch matched'
      obtain ⟨_, _, _, _, _, ranked, _⟩ := id selects
      have ranked' := (selects.rank_eq same selects').symm.trans ranked
      rw [Option.map_some, Option.map_some, selects.text_eq ranked, selects'.text_eq ranked']

/-- **The first of the best matches is selected.** Nothing is selected only where no rule matches.
What is selected depends on the order of the rules only where several rules match a text of the same
length, either all as a literal or none; and the text that is selected does not depend on it. -/
theorem Draft.selection {draft : Draft} {lexicon : Lexicon} (compiled : draft.compile = .ok lexicon)
    (input : List Char) :
    (lexicon.longestMatch input = none ↔ ∀ rule ∈ lexicon.rules, rule.matchLength input = none) ∧
      (∀ found, lexicon.longestMatch input = some found →
        ∃ rule, lexicon.Selects input found rule) ∧
      ∀ order : List (String × List Matcher), order.Perm draft.rules →
        ∃ reordered, Draft.compile { draft with rules := order } = .ok reordered ∧
          reordered.rules.Perm lexicon.rules ∧
          (reordered.longestMatch input).map (·.text) = (lexicon.longestMatch input).map (·.text) ∧
          ∀ found found', lexicon.longestMatch input = some found →
            reordered.longestMatch input = some found' →
              ∃ rule rule', lexicon.Selects input found rule ∧
                reordered.Selects input found' rule' ∧
                rule.rank? input = rule'.rank? input := by
  refine ⟨Lexicon.longestMatch_eq_none_iff, fun found => Lexicon.selects_of_longestMatch, ?_⟩
  intro order reordering
  obtain ⟨rules, compiles, same⟩ := compile_perm compiled reordering
  refine ⟨_, compiles, same, Lexicon.map_text_longestMatch_perm same input, ?_⟩
  intro found found' matched matched'
  obtain ⟨rule, selects⟩ := Lexicon.selects_of_longestMatch matched
  obtain ⟨rule', selects'⟩ := Lexicon.selects_of_longestMatch matched'
  exact ⟨rule, rule', selects, selects', selects.rank_eq same selects'⟩

/-- A word that is a literal of the second kind and matched by a pattern of the first one is of the
second kind, whichever of the two is registered first. -/
theorem Draft.selection_keyword :
    ∃ lexicon reordered : Lexicon,
      Draft.compile ⟨[("NAME", [.regex "[ab]".toList]), ("IF", [.literal ['a']])], {}, none⟩ =
          .ok lexicon ∧
        Draft.compile ⟨[("IF", [.literal ['a']]), ("NAME", [.regex "[ab]".toList])], {}, none⟩ =
          .ok reordered ∧
        lexicon.longestMatch ['a', 'b'] = some ⟨"IF", ['a']⟩ ∧
        (reordered.longestMatch ['a', 'b']).map (·.text) = some ['a'] := by
  let name : Rule :=
    .ofRegex "NAME" [.regex "[ab]".toList] (.anchored (.one (.listed ⟨[(97, 98)]⟩)))
  let keyword : Rule := .ofRegex "IF" [.literal ['a']] (.anchored (.one (.single 'a')))
  have compiledName : Rule.compile {} "NAME" [.regex "[ab]".toList] = .ok name :=
    Rule.compile_eq_ok (by decide) rfl (by decide) (by decide +kernel)
  have compiledKeyword : Rule.compile {} "IF" [.literal ['a']] = .ok keyword :=
    Rule.compile_eq_ok (by decide) rfl (by decide) (by decide +kernel)
  have compiled :
      Draft.compile ⟨[("NAME", [.regex "[ab]".toList]), ("IF", [.literal ['a']])], {}, none⟩ =
      .ok ⟨[name, keyword], {}, none⟩ :=
    Draft.compile_eq_ok_iff.mpr ⟨by simp, .cons compiledName (.cons compiledKeyword .nil), rfl, rfl⟩
  have nameMatches : name.candidate? ['a', 'b'] = some ⟨"NAME", 1, false⟩ := by
    have matched : (Regex.anchored (.one (.listed ⟨[(97, 98)]⟩))).program.findEnd ['a', 'b'] =
        some 1 := by
      rw [Regex.findEnd_anchored]
      simp [Regex.matchEnd, Pattern.Spot.start, Regex.search_one_cons, Unicode.CharSet.contains,
        Unicode.CodeRanges.contains, Unicode.CodeRanges.holds]
    exact Rule.candidate?_ofRegex _ _ matched Nat.one_pos
  have keywordMatches : keyword.candidate? ['a', 'b'] = some ⟨"IF", 1, true⟩ := by
    have matched : (Regex.anchored (.one (.single 'a'))).program.findEnd ['a', 'b'] = some 1 := by
      rw [Regex.findEnd_anchored]
      simp [Regex.matchEnd, Pattern.Spot.start, Regex.search_one_cons,
        Unicode.CharSet.contains_single]
    exact Rule.candidate?_ofRegex _ _ matched Nat.one_pos
  have selected : Lexicon.longestMatch ⟨[name, keyword], {}, none⟩ ['a', 'b'] =
      some ⟨"IF", ['a']⟩ := by
    simp [Lexicon.longestMatch, nameMatches, keywordMatches, Candidate.better, Candidate.beats]
  obtain ⟨_, _, reorder⟩ := Draft.selection compiled ['a', 'b']
  obtain ⟨reordered, compiledReordered, _, text, _⟩ :=
    reorder [("IF", [.literal ['a']]), ("NAME", [.regex "[ab]".toList])] (.swap ..)
  refine ⟨_, reordered, compiled, compiledReordered, selected, ?_⟩
  rw [text, selected, Option.map_some]

end Offside
