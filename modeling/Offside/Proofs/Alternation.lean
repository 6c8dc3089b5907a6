/-
**A rule tries its matchers one after the other.**

The matchers of a kind are written between parentheses, with strokes between them, and read as one
pattern. What it matches is what the first matcher matches that matches at all, each of them
anchored at the start and read by itself: a literal as it stands, and a pattern with the flags and
the alternatives it has itself.

* `Reader.Fragment.of_escape`: a literal is read as the text it is;
* `Matcher.matchEnd`: where the match of a matcher alone ends;
* `Rule.triedIn_inOrder`: longer matchers are tried first, and equally long ones in the order in
  which they were registered;
* `Rule.matchLength_eq`: the match of a rule, where what all matchers begin with can be matched in
  one way.
-/

import Offside.Proofs.Compiling
import Offside.Proofs.Pasting

namespace Offside

open Pattern (Action Outline Piece Reader Regex outlinesFrom)

/-! ### Literals -/

namespace Pattern

/-- The characters that a pattern does more with than match them are escaped. -/
theorem readAction_plain {c : Char} (plain : metaCharacters.contains c = false) (rest : List Char) :
    readAction {} c rest = some (.literal c, rest) := by
  unfold readAction
  split
  all_goals first
    | rfl
    | exact absurd plain (by decide)

theorem readAction_escaped {c : Char} (escaped : metaCharacters.contains c = true)
    (rest : List Char) :
    readAction {} '\\' (c :: rest) = some (.literal c, rest) := by
  have itself : standsForItself c = true := by
    have all : metaCharacters.all standsForItself = true := by decide
    exact List.all_eq_true.mp all c (List.contains_iff_mem.mp escaped)
  have read : readEscape {} (c :: rest) = some (.literal c false, rest) := by
    unfold readEscape
    exact if_pos itself
  show (readEscape {} (c :: rest)).bind _ = _
  rw [read]
  rfl

/-- Characters one after the other are one text. -/
theorem Outline.sequence_characters {text : List Char} (inked : text ≠ []) :
    sequence (text.map fun c => verbatim [c]) = verbatim text := by
  have joined : (text.map fun c => verbatim [c]).foldr joinPart [] = [verbatim text] := by
    induction text with
    | nil => cases inked rfl
    | cons c text ih =>
      cases text with
      | nil => rfl
      | cons d text =>
        rw [List.map_cons, List.foldr_cons, ih (List.cons_ne_nil d text)]
        rfl
  have single : (text.map fun c => verbatim [c]).flatMap parts =
      text.map fun c => verbatim [c] := by
    rw [List.flatMap_map]
    exact List.map_eq_flatMap.symm
  rw [sequence, single, joined]
  rfl

namespace Reader

/-- The reader behind a literal. -/
def afterLiteral (reader : Reader) (text : List Char) : Reader :=
  text.foldl (fun reader c => reader.add ⟨.verbatim [c], 0, true⟩) reader

theorem reads_escape (reader : Reader) (flags : reader.flags = {}) (text : List Char) :
    reader.Reads (escape text) (reader.afterLiteral text) := by
  induction text generalizing reader with
  | nil => exact .done (by rw [flags])
  | cons c text ih =>
    have performed : (Action.literal c).perform reader =
        some (reader.add ⟨.verbatim [c], 0, true⟩) := by
      simp [Action.perform, addLiteral, flags]
    have later := ih (reader.add ⟨.verbatim [c], 0, true⟩) flags
    rw [escape, List.flatMap_cons]
    by_cases escaped : metaCharacters.contains c = true
    · rw [if_pos escaped]
      exact .step (by rw [flags]) (by rw [flags]; exact readAction_escaped escaped _) performed
        (Nat.le_succ _) later
    · rw [if_neg escaped]
      exact .step (by rw [flags])
        (by rw [flags]; exact readAction_plain (Bool.not_eq_true _ ▸ escaped) _) performed
        (Nat.le_refl _) later

theorem afterLiteral_eq (reader : Reader) (text : List Char) :
    reader.afterLiteral text =
      { reader with
        group := { reader.group with
          pieces := (text.map fun c => ⟨.verbatim [c], 0, true⟩).reverse ++
            reader.group.pieces } } := by
  induction text generalizing reader with
  | nil => rfl
  | cons c text ih =>
    rw [afterLiteral, List.foldl_cons, ← afterLiteral, ih, List.map_cons, List.reverse_cons,
      List.append_assoc]
    rfl

/-- **A literal is read as the text it is.** -/
theorem Fragment.of_escape {text : List Char} (inked : text ≠ []) :
    ∃ last, Fragment (escape text) last ∧ last.names = [] ∧
      last.group.whole.outline = .verbatim text ∧
      last.group.whole.depth ≤ 1 := by
  have reads := reads_escape {} rfl text
  rw [afterLiteral_eq] at reads
  refine ⟨_, ⟨reads, rfl⟩, rfl, ?_⟩
  have shallow : ∀ piece ∈ (text.map fun c => (⟨.verbatim [c], 0, true⟩ : Piece)).reverse ++ [],
      piece.depth ≤ 0 := by
    simp
  show (OpenGroup.current _).outline = _ ∧ (OpenGroup.current _).depth ≤ 1
  unfold OpenGroup.current
  dsimp only
  split
  · simp_all
  · rename_i only shape
    obtain ⟨c, rfl⟩ : ∃ c, text = [c] := by
      have single := congrArg List.length shape
      simp only [List.append_nil, List.length_reverse, List.length_map,
        List.length_singleton] at single
      exact List.length_eq_one_iff.mp single
    obtain rfl := (List.cons.inj shape).1
    exact ⟨rfl, Nat.zero_le _⟩
  · refine ⟨?_, Nat.succ_le_succ (OpenGroup.deepest_le shallow)⟩
    rw [List.append_nil, List.reverse_reverse, List.map_map]
    exact Outline.sequence_characters inked

end Reader

end Pattern

/-! ### Matchers -/

namespace Matcher

/-- The reader behind a matcher that is read by itself. -/
def reader? (matcher : Matcher) : Option Reader := ({} : Reader).read matcher.pattern

/-- Where the match of a matcher ends that stands alone at the start of an input. -/
def matchEnd (matcher : Matcher) (input : List Char) : Option Nat :=
  match matcher with
  | literal text => if text <+: input then some text.length else none
  | regex pattern =>
    (Regex.ofPattern? pattern).bind fun regex => regex.program.matchHere none input 0

theorem matchEnd_regex {pattern : List Char} {expression : Regex}
    (reads : Regex.ofPattern? pattern = some expression)
    (input : List Char) : (regex pattern).matchEnd input = expression.matchEnd input := by
  rw [matchEnd, reads, Option.bind_some, Regex.matchHere_eq_matchEnd]

/-- A pattern that can be read by itself and in which blanks always mean something; literals always
are. -/
def StandsAlone : Matcher → Prop
  | literal _ => True
  | regex pattern => (Regex.ofPattern? pattern).isSome ∧ ({} : Reader).staysPlain pattern = true

instance : DecidablePred StandsAlone
  | literal _ => inferInstanceAs (Decidable True)
  | regex pattern =>
    inferInstanceAs
      (Decidable ((Regex.ofPattern? pattern).isSome ∧ ({} : Reader).staysPlain pattern = true))

/-- A matcher that stands alone is a fragment of a pattern, and what it matches is that of its
outline. -/
theorem StandsAlone.fragment {matcher : Matcher} (alone : matcher.StandsAlone)
    (inked : matcher.source ≠ []) :
    ∃ last, Reader.Fragment matcher.pattern last ∧
      ∀ input, last.group.whole.outline.regex.matchEnd input = matcher.matchEnd input := by
  cases matcher with
  | literal text =>
    obtain ⟨last, fragment, _, outline, _⟩ := Reader.Fragment.of_escape inked
    refine ⟨last, fragment, fun input => ?_⟩
    rw [outline]
    exact Regex.matchEnd_verbatim text input
  | regex pattern =>
    obtain ⟨reads, plain⟩ := alone
    obtain ⟨regex, whole⟩ := Option.isSome_iff_exists.mp reads
    have steps := whole
    unfold Regex.ofPattern? at steps
    obtain ⟨last, read, same⟩ := Option.bind_eq_some_iff.mp steps
    dsimp only at same
    split_ifs at same with closed
    cases same
    exact ⟨last, ⟨Reader.reads_of_read read plain, List.isEmpty_iff.mp closed.1⟩, fun input =>
      (matchEnd_regex whole input).symm⟩

end Matcher

/-! ### Rules -/

namespace Rule

/-- The order in which matchers are tried: the longer ones first, and those that are equally long as
they were registered. -/
structure TriedIn (matchers order : List Matcher) : Prop where
  perm : order.Perm matchers
  descends : order.Pairwise fun first second => second.source.length ≤ first.source.length
  stable : ∀ length, order.filter (·.source.length = length) =
    matchers.filter (·.source.length = length)

theorem triedIn_inOrder (matchers : List Matcher) : TriedIn matchers (inOrder matchers) := by
  have transitive (first second third : Matcher) :
      decide (second.source.length ≤ first.source.length) →
        decide (third.source.length ≤ second.source.length) →
        decide (third.source.length ≤ first.source.length) := by
    simp only [decide_eq_true_eq]
    omega
  have total (first second : Matcher) : (decide (second.source.length ≤ first.source.length) ||
      decide (first.source.length ≤ second.source.length)) = true := by
    simp only [Bool.or_eq_true, decide_eq_true_eq]
    omega
  constructor
  · exact List.mergeSort_perm _ _
  · exact (List.pairwise_mergeSort transitive total matchers).imp fun descends =>
      of_decide_eq_true descends
  · intro length
    have equal : (matchers.filter (·.source.length = length)).Pairwise fun first second =>
        decide (second.source.length ≤ first.source.length) := by
      refine List.Pairwise.imp_of_mem (fun {first second} inFirst inSecond _ => ?_)
        (List.pairwise_of_forall fun _ _ => trivial)
      simp_all
    have kept : (matchers.filter (·.source.length = length)).Sublist (inOrder matchers) :=
      List.sublist_mergeSort transitive total equal List.filter_sublist
    have filtered := kept.filter (·.source.length = length)
    rw [List.filter_filter] at filtered
    simp only [Bool.and_self] at filtered
    exact (filtered.eq_of_length ((List.mergeSort_perm _ _).filter _).length_eq.symm).symm

/-- The outlines of matchers in the order in which they are tried, with their groups counted
through. -/
def outlines (matchers : List Matcher) : List Outline :=
  outlinesFrom 0 ((inOrder matchers).filterMap Matcher.reader?)

theorem combinedPattern_eq (matchers : List Matcher) :
    combinedPattern matchers = Pattern.combined ((inOrder matchers).map Matcher.pattern) := by
  rw [combinedPattern, Pattern.combined, List.map_map]
  rfl

/-- Matchers that stand alone are fragments of the combined pattern. -/
theorem exists_fragments {order : List Matcher}
    (alone : ∀ matcher ∈ order, matcher.StandsAlone ∧ matcher.source ≠ []) :
    List.Forall₂ Reader.Fragment (order.map Matcher.pattern) (order.filterMap Matcher.reader?) ∧
      ∀ input,
        (order.filterMap Matcher.reader?).findSome? (·.group.whole.outline.regex.matchEnd input) =
        order.findSome? (·.matchEnd input) := by
  induction order with
  | nil => exact ⟨.nil, fun _ => rfl⟩
  | cons matcher order ih =>
    obtain ⟨here, others⟩ := List.forall_mem_cons.mp alone
    obtain ⟨last, fragment, same⟩ := here.1.fragment here.2
    obtain ⟨fragments, agree⟩ := ih others
    rw [List.filterMap_cons_some (f := Matcher.reader?) fragment.reads.read, List.map_cons]
    refine ⟨.cons fragment fragments, fun input => ?_⟩
    rw [List.findSome?_cons, List.findSome?_cons, same, agree]

section Compiled

variable {reserved : ReservedKinds} {kind : String} {matchers : List Matcher} {rule : Rule}
  (compiled : compile reserved kind matchers = .ok rule)
  (alone : ∀ matcher ∈ matchers, matcher.StandsAlone)

include compiled alone

/-- The matchers of a rule are read as one pattern. -/
theorem exists_combinedOutline :
    ∃ lasts, List.Forall₂ Reader.Fragment ((inOrder matchers).map Matcher.pattern) lasts ∧
      outlines matchers = outlinesFrom 0 lasts ∧
        rule.program = (Pattern.combinedOutline lasts).regex.program ∧
      ∀ input, lasts.findSome? (·.group.whole.outline.regex.matchEnd input) =
        (inOrder matchers).findSome? (·.matchEnd input) := by
  obtain ⟨⟨_, several, inked⟩, regex, reads, rfl⟩ := compile_eq_ok_iff.mp compiled
  have order := triedIn_inOrder matchers
  have each : ∀ matcher ∈ inOrder matchers, matcher.StandsAlone ∧ matcher.source ≠ [] :=
    fun matcher member =>
    ⟨alone matcher (order.perm.mem_iff.mp member), inked matcher (order.perm.mem_iff.mp member)⟩
  obtain ⟨fragments, agree⟩ := exists_fragments each
  have some : (inOrder matchers).map Matcher.pattern ≠ [] := fun none =>
    several (List.Perm.nil_eq ((List.map_eq_nil_iff.mp none) ▸ order.perm)).symm
  refine ⟨_, fragments, rfl, ?_, agree⟩
  rw [combinedPattern_eq] at reads
  rcases Pattern.ofPattern?_combined fragments some with ⟨depth, _, same⟩ | ⟨never, _⟩
  · rw [same] at reads
    split_ifs at reads
    exact congrArg Regex.program (Option.some.inj reads).symm
  · rw [never] at reads
    cases reads

/-- A match of a rule is anchored at the start of the input. -/
theorem findEnd_eq (input : List Char) :
    rule.program.findEnd input = rule.program.matchHere none input 0 := by
  obtain ⟨lasts, _, _, program, _⟩ := exists_combinedOutline compiled alone
  exact if_pos (program ▸ Pattern.isAnchored_combinedOutline lasts)

/-- **A rule matches what the first of its matchers matches that matches at all**, each of them by
itself and anchored at the start, if its match is not empty. What all of them begin with may lead to
one place only from which one of them goes on. -/
theorem matchLength_eq {input : List Char} (settled : Outline.Settled (outlines matchers) input) :
    rule.matchLength input = ((inOrder matchers).findSome? (·.matchEnd input)).filter (0 < ·) := by
  obtain ⟨lasts, fragments, same, program, agree⟩ := exists_combinedOutline compiled alone
  rw [matchLength, findEnd_eq compiled alone]
  refine congrArg (Option.filter (0 < ·)) ?_
  calc rule.program.matchHere none input 0
      = (Pattern.combinedOutline lasts).regex.matchEnd input := by
        rw [program, Regex.matchHere_eq_matchEnd]
    _ = (Outline.either (outlinesFrom 0 lasts)).regex.matchEnd input :=
      Pattern.matchEnd_combinedOutline _ _
    _ = (outlinesFrom 0 lasts).findSome? (·.regex.matchEnd input) :=
        Pattern.matchEnd_either (Pattern.formed_outlinesFrom fragments 0) (same ▸ settled)
    _ = (inOrder matchers).findSome? (·.matchEnd input) := by
      rw [Pattern.findSome?_outlinesFrom, agree]

end Compiled

/-- A literal begins with nothing that could be taken in front of the alternatives. -/
theorem settled_of_literal {matchers : List Matcher} {text : List Char}
    (member : .literal text ∈ matchers)
    (inked : text ≠ []) (input : List Char) : Outline.Settled (outlines matchers) input := by
  obtain ⟨last, fragment, _, outline, _⟩ := Reader.Fragment.of_escape inked
  have listed : last ∈ (inOrder matchers).filterMap Matcher.reader? :=
    List.mem_filterMap.mpr ⟨_, (triedIn_inOrder matchers).perm.mem_iff.mpr member,
      fragment.reads.read⟩
  exact Outline.settled_of_apart
    (Outline.taken_of_verbatim (Pattern.mem_outlinesFrom_of_verbatim listed outline 0)) _

/-- **The combined pattern is the ordered alternation of its matchers.** They are tried in the order
of `TriedIn`, each of them as if it stood alone at the start of the input, and the first that
matches decides; an empty match is none. What all of the matchers begin with, if they all begin
alike, is taken in front of the alternation, and must not lead to more than one place from which one
of them goes on. -/
theorem alternation {reserved : ReservedKinds} {kind : String} {matchers : List Matcher}
    {rule : Rule} (compiled : compile reserved kind matchers = .ok rule)
    (alone : ∀ matcher ∈ matchers, matcher.StandsAlone) :
    TriedIn matchers (inOrder matchers) ∧ ∀ input,
      rule.program.findEnd input = rule.program.matchHere none input 0 ∧
        (Outline.Settled (outlines matchers) input →
          rule.matchLength input =
            ((inOrder matchers).findSome? (·.matchEnd input)).filter (0 < ·)) :=
  ⟨triedIn_inOrder matchers,
    fun input => ⟨findEnd_eq compiled alone input, matchLength_eq compiled alone⟩⟩

/-- Flags and alternatives of one matcher are nothing to another: the dot that is tried first
matches line feeds, and the other one does not. -/
theorem alternation_dots :
    ∃ rule, compile {} "X" [.regex "(?s)a.|b".toList, .literal ['a', '+'], .regex ['.']] =
      .ok rule ∧
      rule.matchLength ['a', '\n', 'b'] = some 2 ∧ rule.matchLength ['\n'] = none := by
  let matchers : List Matcher := [.regex "(?s)a.|b".toList, .literal ['a', '+'], .regex ['.']]
  have order : inOrder matchers = matchers := List.mergeSort_of_pairwise (by decide)
  have pattern : combinedPattern matchers = "^(?:(?:(?s)a.|b)|(?:a\\+)|(?:.))".toList := by
    rw [combinedPattern, order]
    decide
  have whole : (Regex.ofPattern? "^(?:(?:(?s)a.|b)|(?:a\\+)|(?:.))".toList).isSome = true := by
    decide +kernel
  obtain ⟨combined, whole⟩ := Option.isSome_iff_exists.mp whole
  have compiled : compile {} "X" matchers = .ok (ofRegex "X" matchers combined) :=
    compile_eq_ok_iff.mpr ⟨⟨by decide, by decide, by decide⟩, combined, pattern ▸ whole, rfl⟩
  have first : Regex.ofPattern? "(?s)a.|b".toList = some (.alt (.seq (.verbatim ['a'])
      (.one (.listed ⟨[(0, 0x10FFFF)]⟩))) (.verbatim ['b'])) := by
    decide +kernel
  have last : Regex.ofPattern? ['.'] = some (.one (.listed ⟨[(0, 9), (11, 0x10FFFF)]⟩)) := by
    decide +kernel
  have alone : ∀ matcher ∈ matchers, matcher.StandsAlone := by
    simp only [matchers, List.forall_mem_cons, Matcher.StandsAlone, first, last, Option.isSome_some,
      List.not_mem_nil]
    exact ⟨⟨trivial, by decide +kernel⟩, trivial, ⟨trivial, by decide +kernel⟩, by simp⟩
  have apart : (Outline.taken (outlines matchers)).1 = [] := by
    rw [outlines, order]
    decide +kernel
  obtain ⟨_, tried⟩ := alternation compiled alone
  refine ⟨_, compiled, ?_, ?_⟩
  · rw [(tried _).2 (Outline.settled_of_apart apart _), order, List.findSome?_cons,
      Matcher.matchEnd_regex first]
    simp [Regex.matchEnd, Pattern.Spot.start, Regex.search_seq, Regex.search_alt,
      Regex.search_one_cons, Regex.search_verbatim, Unicode.CharSet.contains,
      Unicode.CodeRanges.contains, Unicode.CodeRanges.holds]
  · have longest : (Matcher.regex "(?s)a.|b".toList).matchEnd ['\n'] = none := by
      rw [Matcher.matchEnd_regex first]
      simp [Regex.matchEnd, Pattern.Spot.start, Regex.search_seq, Regex.search_alt,
        Regex.search_verbatim]
    have shortest : (Matcher.regex ['.']).matchEnd ['\n'] = none := by
      rw [Matcher.matchEnd_regex last]
      simp [Regex.matchEnd, Pattern.Spot.start, Regex.search_one_cons, Unicode.CharSet.contains,
        Unicode.CodeRanges.contains, Unicode.CodeRanges.holds]
    rw [(tried _).2 (Outline.settled_of_apart apart _), order, List.findSome?_cons, longest,
      List.findSome?_cons, List.findSome?_cons, shortest]
    simp [Matcher.matchEnd]

/-- Where the matchers begin alike with what can be matched in several ways, the way that the
beginning prefers decides, and not the order of the matchers. -/
theorem matchLength_ne_of_common_beginning :
    ∃ rule, compile {} "X" [.regex "a?ab".toList, .regex "a?bc".toList] = .ok rule ∧
      (∀ matcher ∈ [Matcher.regex "a?ab".toList, .regex "a?bc".toList], matcher.StandsAlone) ∧
      rule.matchLength "abc".toList = some 3 ∧
      ((inOrder [.regex "a?ab".toList, .regex "a?bc".toList]).findSome?
        (·.matchEnd "abc".toList)).filter (0 < ·) =
        some 2 := by
  have order : inOrder [.regex "a?ab".toList, .regex "a?bc".toList] =
      [.regex "a?ab".toList, .regex "a?bc".toList] :=
    List.mergeSort_of_pairwise (by decide)
  have pattern : combinedPattern [.regex "a?ab".toList, .regex "a?bc".toList] =
      "^(?:(?:a?ab)|(?:a?bc))".toList := by
    rw [combinedPattern, order]
    decide
  have first : Regex.ofPattern? "a?ab".toList =
      some (.seq (.opt true (.verbatim ['a'])) (.verbatim ['a', 'b'])) := by
    decide +kernel
  have second : Regex.ofPattern? "a?bc".toList =
      some (.seq (.opt true (.verbatim ['a'])) (.verbatim ['b', 'c'])) := by
    decide +kernel
  have whole : Regex.ofPattern? "^(?:(?:a?ab)|(?:a?bc))".toList =
      some (.anchored (.seq (.opt true (.verbatim ['a']))
      (.alt (.verbatim ['a', 'b']) (.verbatim ['b', 'c'])))) := by
    decide +kernel
  refine ⟨_, compile_eq_ok_iff.mpr ⟨⟨by decide, by decide, by decide⟩, _, pattern ▸ whole, rfl⟩, ?_,
    ?_, ?_⟩
  · simp only [List.forall_mem_cons, Matcher.StandsAlone, first, second, Option.isSome_some,
      List.not_mem_nil]
    exact ⟨⟨trivial, by decide +kernel⟩, ⟨trivial, by decide +kernel⟩, by simp⟩
  · rw [matchLength, ofRegex, Regex.findEnd_anchored]
    simp [Regex.matchEnd, Pattern.Spot.start, Regex.search_seq, Regex.search_opt, Regex.search_alt,
      Regex.search_verbatim]
  · rw [order, List.findSome?_cons, Matcher.matchEnd_regex first]
    simp [Regex.matchEnd, Pattern.Spot.start, Regex.search_seq, Regex.search_opt,
      Regex.search_verbatim]

end Rule

end Offside
