/-
**A literal is matched where it is not shadowed.**

The first matcher that matches decides, and the matchers are ordered by how long they are written
and not by how much they match. So a matcher that is tried before a literal can take less than the
literal, and then the literal is lost: a class is written with brackets, and takes one character.

* `Rule.inOrder_eq_shadows`: the matchers that are tried before a literal are the longer ones and
  those that are equally long and were registered before it;
* `Rule.matchLength_of_literal`: the first of those that matches at all decides, and the literal
  where none does;
* `Draft.recognizes_literal_iff`, `Draft.exists_longestMatch_of_literal`: so a literal is
  recognized, and at least it is matched, unless it is shadowed.
-/

import Offside.Proofs.Alternation
import Offside.Proofs.Winners

namespace Offside

open Pattern (Regex)

/-- A list in which what satisfies a test comes first. -/
theorem eq_filter_append_of_pairwise {α : Type} {test : α → Bool} {list : List α}
    (first : list.Pairwise fun earlier later => test later = true → test earlier = true) :
    list = list.filter test ++ list.filter (!test ·) := by
  induction list with
  | nil => rfl
  | cons head rest ih =>
    obtain ⟨below, first⟩ := List.pairwise_cons.mp first
    by_cases passes : test head = true
    · rw [List.filter_cons_of_pos passes, List.filter_cons_of_neg (by simpa using passes),
        List.cons_append, ← ih first]
    · have none : (head :: rest).filter test = [] := by
        refine List.filter_eq_nil_iff.mpr
          (List.forall_mem_cons.mpr ⟨passes, fun other member => ?_⟩)
        exact mt (below other member) passes
      have all : (head :: rest).filter (!test ·) = head :: rest := by
        refine List.filter_eq_self.mpr fun other member => ?_
        simpa using List.filter_eq_nil_iff.mp none other member
      rw [none, all, List.nil_append]

/-! ### What is tried before a literal -/

namespace Rule

/-- The matchers that are tried before a literal: the longer ones, and of those that are equally
long the ones that were registered before it. -/
def shadows (matchers : List Matcher) (text : List Char) : List Matcher :=
  (inOrder matchers).filter (text.length < ·.source.length) ++
    (matchers.filter (·.source.length = text.length)).takeWhile (· ≠ .literal text)

theorem inOrder_eq_shadows {matchers : List Matcher} {text : List Char}
    (member : .literal text ∈ matchers) :
    ∃ later, inOrder matchers = shadows matchers text ++ .literal text :: later := by
  have order := triedIn_inOrder matchers
  let longer (matcher : Matcher) : Bool := text.length < matcher.source.length
  let equal (matcher : Matcher) : Bool := matcher.source.length = text.length
  have parts : inOrder matchers = (inOrder matchers).filter longer ++
      (inOrder matchers).filter (!longer ·) := by
    refine eq_filter_append_of_pairwise (order.descends.imp fun {first second} descends => ?_)
    simp only [longer, decide_eq_true_eq]
    omega
  have rest : (inOrder matchers).filter (!longer ·) =
      ((inOrder matchers).filter (!longer ·)).filter equal ++
        ((inOrder matchers).filter (!longer ·)).filter (!equal ·) := by
    refine eq_filter_append_of_pairwise ?_
    refine List.Pairwise.imp_of_mem (fun {first second} inFirst _ descends => ?_)
      (order.descends.filter _)
    have := (List.mem_filter.mp inFirst).2
    simp only [longer, equal, Bool.not_eq_true', decide_eq_false_iff_not,
      decide_eq_true_eq] at this ⊢
    omega
  have registered : ((inOrder matchers).filter (!longer ·)).filter equal =
      matchers.filter equal := by
    rw [List.filter_filter, ← order.stable text.length]
    refine List.filter_congr fun matcher _ => ?_
    simp only [longer, equal, Bool.and_eq_left_iff_imp, decide_eq_true_eq, Bool.not_eq_true',
      decide_eq_false_iff_not]
    omega
  have listed : Matcher.literal text ∈ matchers.filter equal :=
    List.mem_filter.mpr ⟨member, decide_eq_true rfl⟩
  obtain ⟨before, after, split, fresh⟩ := List.eq_append_cons_of_mem listed
  have taken : (matchers.filter equal).takeWhile (· ≠ .literal text) = before := by
    rw [split, List.takeWhile_append_of_pos, List.takeWhile_cons_of_neg (by simp), List.append_nil]
    exact fun matcher inside => decide_eq_true fun same => fresh (same ▸ inside)
  exact ⟨after ++ ((inOrder matchers).filter (!longer ·)).filter (!equal ·), by
    rw [shadows, taken, List.append_assoc, ← List.cons_append, ← List.append_assoc before, ← split,
      ← registered, ← rest, ← parts]⟩

variable {reserved : ReservedKinds} {kind : String} {matchers : List Matcher} {rule : Rule}

/-- **A literal decides where nothing that is tried before it matches.** -/
theorem matchLength_of_literal (compiled : compile reserved kind matchers = .ok rule)
    (alone : ∀ matcher ∈ matchers, matcher.StandsAlone) {text : List Char}
    (member : .literal text ∈ matchers) (more : List Char) :
    rule.matchLength (text ++ more) =
      (some (((shadows matchers text).findSome? (·.matchEnd (text ++ more))).getD
        text.length)).filter (0 < ·) := by
  obtain ⟨⟨_, _, inked⟩, _⟩ := compile_eq_ok_iff.mp compiled
  obtain ⟨later, order⟩ := inOrder_eq_shadows member
  have matched : (Matcher.literal text).matchEnd (text ++ more) = some text.length :=
    if_pos (List.prefix_append text more)
  rw [matchLength_eq compiled alone (settled_of_literal member (inked _ member) _), order,
    List.findSome?_append, List.findSome?_cons, matched]
  cases (shadows matchers text).findSome? (·.matchEnd (text ++ more)) <;> rfl

end Rule

/-! ### Literals of a lexicon -/

namespace Draft

variable {draft : Draft} {lexicon : Lexicon} {kind : String} {matchers : List Matcher}

section Literals

variable (compiled : draft.compile = .ok lexicon)
  (registered : draft.matchers? kind = some matchers)
  (alone : ∀ matcher ∈ matchers, matcher.StandsAlone) {text : List Char}
  (member : .literal text ∈ matchers)

include compiled registered alone member

/-- What the rule of a kind matches where one of its literals begins. -/
theorem exists_rule_of_literal :
    ∃ rule, lexicon.rule? kind = some rule ∧ rule ∈ lexicon.rules ∧ 0 < text.length ∧
    ∀ more, rule.matchLength (text ++ more) =
      (some (((Rule.shadows matchers text).findSome? (·.matchEnd (text ++ more))).getD
        text.length)).filter (0 < ·) := by
  obtain ⟨rule, found, listed, made⟩ := exists_rule compiled registered
  obtain ⟨⟨_, _, inked⟩, _⟩ := Rule.compile_eq_ok_iff.mp made
  exact ⟨rule, found, listed, List.length_pos_iff.mpr (inked _ member),
    Rule.matchLength_of_literal made alone member⟩

/-- A literal is recognized just if it is not shadowed by what takes less than the whole of it. -/
theorem recognizes_literal_iff : lexicon.recognizes kind text = true ↔
    ∀ length ∈ (Rule.shadows matchers text).findSome? (·.matchEnd text), length = text.length := by
  obtain ⟨rule, found, _, positive, matched⟩ :=
    exists_rule_of_literal compiled registered alone member
  have whole := matched []
  rw [List.append_nil] at whole
  rw [Lexicon.recognizes, found, Option.bind_some, whole, beq_iff_eq, Option.filter_eq_some_iff]
  cases (Rule.shadows matchers text).findSome? (·.matchEnd text) with
  | none => simp [positive]
  | some length =>
    simp only [Option.getD_some, Option.some.injEq, decide_eq_true_eq, Option.mem_def, forall_eq']
    omega

theorem exists_longestMatch_of_literal (more : List Char)
    (atLeast : ∀ length ∈ (Rule.shadows matchers text).findSome? (·.matchEnd (text ++ more)),
      text.length ≤ length) :
    ∃ found, lexicon.longestMatch (text ++ more) = some found ∧
      text.length ≤ found.text.length := by
  obtain ⟨rule, _, listed, positive, matched⟩ :=
    exists_rule_of_literal compiled registered alone member
  have whole := matched more
  have longer : text.length ≤
      ((Rule.shadows matchers text).findSome? (·.matchEnd (text ++ more))).getD text.length := by
    cases shadow : (Rule.shadows matchers text).findSome? (·.matchEnd (text ++ more)) with
    | none => exact Nat.le_refl _
    | some length => exact atLeast length shadow
  generalize ((Rule.shadows matchers text).findSome? (·.matchEnd (text ++ more))).getD text.length =
    length at *
  rw [Option.filter_some_pos (by simpa using positive.trans_le longer)] at whole
  obtain ⟨best, selected, atMost⟩ := Lexicon.exists_longestMatch listed whole
  refine ⟨best, selected, le_trans ?_ atMost⟩
  rw [List.length_take, List.length_append]
  omega

end Literals

/-- **A literal is honoured unless it is shadowed.** Its kind recognizes it just if the first
matcher that matches among those tried before it takes the whole of it, or none of them matches; and
at the start of a longer input no less than the literal is matched if that matcher takes no less
there. -/
theorem honours_literal (compiled : draft.compile = .ok lexicon)
    (registered : draft.matchers? kind = some matchers)
    (alone : ∀ matcher ∈ matchers, matcher.StandsAlone) {text : List Char}
    (member : .literal text ∈ matchers) :
    (lexicon.recognizes kind text = true ↔
      ∀ length ∈ (Rule.shadows matchers text).findSome? (·.matchEnd text), length = text.length) ∧
    ∀ more,
      (∀ length ∈ (Rule.shadows matchers text).findSome? (·.matchEnd (text ++ more)),
        text.length ≤ length) →
      ∃ found, lexicon.longestMatch (text ++ more) = some found ∧ text.length ≤ found.text.length :=
  ⟨recognizes_literal_iff compiled registered alone member,
    exists_longestMatch_of_literal compiled registered alone member⟩

/-- The class that is tried before the literal does not match where the literal begins. -/
theorem honours_literal_of_class :
    ∃ lexicon,
      Draft.compile ⟨[("A", [.regex ['[', 'b', '-', 'd', ']'], .literal ['a', 'b']])], {}, none⟩ =
        .ok lexicon ∧
      lexicon.recognizes "A" ['a', 'b'] = true ∧
      ∃ found, lexicon.longestMatch ['a', 'b', 'c'] = some found ∧ 2 ≤ found.text.length := by
  let matchers : List Matcher := [.regex ['[', 'b', '-', 'd', ']'], .literal ['a', 'b']]
  have order : Rule.inOrder matchers = matchers := List.mergeSort_of_pairwise (by decide)
  have whole : (Regex.ofPattern? (Rule.combinedPattern matchers)).isSome = true := by
    rw [Rule.combinedPattern, order]
    decide +kernel
  obtain ⟨combined, whole⟩ := Option.isSome_iff_exists.mp whole
  have made : Rule.compile {} "A" matchers = .ok (.ofRegex "A" matchers combined) :=
    Rule.compile_eq_ok_iff.mpr ⟨by decide, combined, whole, rfl⟩
  have compiled : Draft.compile ⟨[("A", matchers)], {}, none⟩ =
      .ok ⟨[.ofRegex "A" matchers combined], {}, none⟩ :=
    compile_eq_ok_iff.mpr ⟨by simp, .cons made .nil, rfl, rfl⟩
  have reads : Regex.ofPattern? ['[', 'b', '-', 'd', ']'] =
      some (.one (.listed ⟨[(98, 100)]⟩)) := by decide +kernel
  have alone : ∀ matcher ∈ matchers, matcher.StandsAlone := by
    refine List.forall_mem_cons.mpr ⟨⟨?_, by decide +kernel⟩, List.forall_mem_singleton.mpr trivial⟩
    rw [reads]
    rfl
  have shadows : Rule.shadows matchers ['a', 'b'] = [.regex ['[', 'b', '-', 'd', ']']] := by
    rw [Rule.shadows, order]
    decide
  have silent (more : List Char) :
      (Rule.shadows matchers ['a', 'b']).findSome? (·.matchEnd ('a' :: more)) = none := by
    rw [shadows, List.findSome?_singleton, Matcher.matchEnd_regex reads]
    simp [Regex.matchEnd, Pattern.Spot.start, Regex.search_one_cons, Unicode.CharSet.contains,
      Unicode.CodeRanges.contains, Unicode.CodeRanges.holds]
  have member : .literal ['a', 'b'] ∈ matchers := List.mem_cons_of_mem _ List.mem_cons_self
  have registered : matchers? ⟨[("A", matchers)], {}, none⟩ "A" = some matchers := by decide
  obtain ⟨recognized, longest⟩ := honours_literal compiled registered alone member
  refine ⟨_, compiled, recognized.mpr ?_, longest ['c'] ?_⟩
  · rw [silent]
    simp
  · rw [List.cons_append, silent]
    simp

/-- A lexicon of one kind recognizes what the kind matches. -/
theorem exists_single {kind : String} {matchers : List Matcher} {regex : Regex}
    (valid : ReservedKinds.contains {} kind = false ∧ matchers ≠ [] ∧
      ∀ matcher ∈ matchers, matcher.source ≠ [])
    (reads : Regex.ofPattern? (Rule.combinedPattern matchers) = some regex) {input : List Char}
    {stop : Option Nat} (taken : regex.program.findEnd input = stop) :
    ∃ lexicon, Draft.compile ⟨[(kind, matchers)], {}, none⟩ = .ok lexicon ∧
      lexicon.recognizes kind input = (stop.filter (0 < ·) == some input.length) ∧
      lexicon.longestMatch input = (stop.filter (0 < ·)).map fun length =>
        ⟨kind, input.take length⟩ := by
  have made : Rule.compile {} kind matchers = .ok (.ofRegex kind matchers regex) :=
    Rule.compile_eq_ok_iff.mpr ⟨valid, regex, reads, rfl⟩
  have matched : (Rule.ofRegex kind matchers regex).matchLength input = stop.filter (0 < ·) :=
    congrArg (Option.filter _) taken
  refine ⟨⟨[.ofRegex kind matchers regex], {}, none⟩,
    compile_eq_ok_iff.mpr ⟨by simp, .cons made .nil, rfl, rfl⟩, ?_, ?_⟩
  · have found : Lexicon.rule? ⟨[.ofRegex kind matchers regex], {}, none⟩ kind =
        some (.ofRegex kind matchers regex) :=
      List.find?_cons_of_pos (beq_self_eq_true kind)
    rw [Lexicon.recognizes, found, Option.bind_some, matched]
  · rw [Lexicon.longestMatch, List.filterMap_cons, Rule.candidate?, matched]
    cases stop.filter (0 < ·) <;> rfl

/-- Three ways to lose a literal: a longer matcher that is tried before it takes less, a pattern
that closes groups which it has not opened repeats the literal no times, and a comment that ends
with the line feed in the literal takes the stroke in front of it. -/
theorem loses_literals :
    (∃ lexicon,
        Draft.compile ⟨[("A", [.regex "[a-b]".toList, .literal "ab".toList])], {}, none⟩ =
          .ok lexicon ∧
        lexicon.recognizes "A" "ab".toList = false ∧
          lexicon.longestMatch "ab".toList = some ⟨"A", ['a']⟩) ∧
      (∃ lexicon,
        Draft.compile ⟨[("A", [.literal "continue".toList, .regex ")){0}((".toList])], {}, none⟩ =
          .ok lexicon ∧
        lexicon.recognizes "A" "continue".toList = false ∧
          lexicon.longestMatch "continue".toList = none) ∧
      ∃ lexicon,
        Draft.compile ⟨[("A", [.regex "(?x)a#".toList, .literal "b\n".toList])], {}, none⟩ =
          .ok lexicon ∧
        lexicon.recognizes "A" "b\n".toList = false ∧ lexicon.longestMatch "b\n".toList = none := by
  have inOrder {first second : Matcher} (longer : second.source.length ≤ first.source.length) :
      Rule.inOrder [first, second] = [first, second] :=
    List.mergeSort_of_pairwise (by simpa using longer)
  refine ⟨?_, ?_, ?_⟩
  · have reads :
        Regex.ofPattern? (Rule.combinedPattern [.regex "[a-b]".toList, .literal "ab".toList]) =
        some (.anchored (.alt (.one (.listed ⟨[(97, 98)]⟩)) (.verbatim ['a', 'b']))) := by
      rw [Rule.combinedPattern, inOrder (by decide)]
      decide +kernel
    have taken :
        (Regex.anchored (.alt (.one (.listed ⟨[(97, 98)]⟩)) (.verbatim ['a', 'b']))).program.findEnd
        "ab".toList = some 1 := by
      rw [Regex.findEnd_anchored]
      simp [Regex.matchEnd, Pattern.Spot.start, Regex.search_alt, Regex.search_one_cons,
        Unicode.CharSet.contains, Unicode.CodeRanges.contains, Unicode.CodeRanges.holds]
    exact exists_single (by decide) reads taken
  · have reads :
        Regex.ofPattern?
            (Rule.combinedPattern [.literal "continue".toList, .regex ")){0}((".toList]) =
          some (.anchored .empty) := by
      rw [Rule.combinedPattern, inOrder (by decide)]
      decide +kernel
    have taken : (Regex.anchored .empty).program.findEnd "continue".toList = some 0 := by
      rw [Regex.findEnd_anchored]
      exact Regex.search_empty _ _
    exact exists_single (by decide) reads taken
  · have reads :
        Regex.ofPattern? (Rule.combinedPattern [.regex "(?x)a#".toList, .literal "b\n".toList]) =
        some (.anchored (.one (.single 'a'))) := by
      rw [Rule.combinedPattern, inOrder (by decide)]
      decide +kernel
    have taken : (Regex.anchored (.one (.single 'a'))).program.findEnd "b\n".toList = none := by
      rw [Regex.findEnd_anchored]
      simp [Regex.matchEnd, Pattern.Spot.start, Regex.search_one_cons,
        Unicode.CharSet.contains_single]
    exact exists_single (by decide) reads taken

end Draft

end Offside
