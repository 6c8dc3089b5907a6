/-
**Compiled rules.**

The matchers of one kind become one pattern, anchored at the start: they are tried from the longest
to the shortest, and in the order of registration where they are equally long. The pattern is
compiled by an engine, which may refuse it. Of all kinds the one with the longest match wins; among
equally long matches one that is a literal of its kind wins over one that is not, and then the kind
registered first. Empty matches do not count.
-/

import Offside.Lexicon.Draft
import Offside.Pattern.Program

namespace Offside

/-- A kind with its compiled pattern. -/
structure Rule where
  kind : String
  /-- The combined pattern as text. -/
  pattern : List Char
  program : Pattern.Program
  /-- The texts registered as literals. -/
  literals : List (List Char)

namespace Rule

/-- The matchers in the order in which they are tried. -/
def inOrder (matchers : List Matcher) : List Matcher :=
  matchers.mergeSort fun first second => decide (second.source.length ≤ first.source.length)

/-- The pattern of several matchers: each in a group of its own, as alternatives, all of them
anchored at the start. -/
def combinedPattern (matchers : List Matcher) : List Char :=
  "^(?:".toList ++
    List.intercalate ['|'] ((inOrder matchers).map fun matcher =>
      "(?:".toList ++ matcher.pattern ++ [')']) ++ [')']

/-- Compiles the matchers of a kind with an engine. -/
def compileBy (engine : Pattern.Engine) (reserved : ReservedKinds) (kind : String)
    (matchers : List Matcher) : Except RuleError Rule :=
  if reserved.contains kind then .error (.reservedKind kind)
  else if matchers.isEmpty then .error (.emptyRule kind)
  else if matchers.any (·.source.isEmpty) then .error (.emptyMatcher kind)
  else
    match engine (combinedPattern matchers) with
    | .error reason => .error (.invalidPattern kind reason)
    | .ok regex =>
      .ok { kind
            pattern := combinedPattern matchers
            program := regex.program
            literals := matchers.filterMap Matcher.literal? }

/-- Compiles the matchers of a kind, whatever the size of their pattern. -/
def compile (reserved : ReservedKinds) (kind : String) (matchers : List Matcher) :
    Except RuleError Rule :=
  compileBy .unlimited reserved kind matchers

/-- The length of the text that the rule recognizes at the start of an input. -/
def matchLength (rule : Rule) (input : List Char) : Option Nat :=
  (rule.program.findEnd input).filter (0 < ·)

end Rule

/-- Compiled rules in the order of their registration. -/
structure Lexicon where
  rules : List Rule
  reserved : ReservedKinds
  /-- The kind whose matches are left out. -/
  ignored : Option String

namespace Draft

/-- Compiles all rules with an engine; the first one that cannot be compiled is reported. -/
def compileBy (engine : Pattern.Engine) (draft : Draft) : Except RuleError Lexicon :=
  match draft.ignored.filter draft.reserved.contains with
  | some ignored => .error (.reservedKind ignored)
  | none => do
    let rules ← draft.rules.mapM fun rule => Rule.compileBy engine draft.reserved rule.1 rule.2
    return { rules, reserved := draft.reserved, ignored := draft.ignored }

/-- Compiles all rules, whatever the size of their patterns. -/
def compile (draft : Draft) : Except RuleError Lexicon := draft.compileBy .unlimited

theorem compile_eq (draft : Draft) : draft.compile =
    match draft.ignored.filter draft.reserved.contains with
    | some ignored => .error (.reservedKind ignored)
    | none => do
      let rules ← draft.rules.mapM fun rule => Rule.compile draft.reserved rule.1 rule.2
      return { rules, reserved := draft.reserved, ignored := draft.ignored } := rfl

end Draft

/-- A match of one rule. -/
structure Candidate where
  kind : String
  length : Nat
  /-- Whether the matched text is one of the literals of the kind. -/
  isLiteral : Bool

namespace Candidate

/-- A candidate replaces one found before it only if it is longer, or equally long and a literal
where the other is none. -/
def beats (later earlier : Candidate) : Bool :=
  decide (earlier.length < later.length) ||
    (decide (earlier.length = later.length) && later.isLiteral && !earlier.isLiteral)

/-- The better of the best candidate so far and a later one. -/
def better (best : Option Candidate) (later : Candidate) : Option Candidate :=
  match best with
  | none => some later
  | some earlier => if later.beats earlier then some later else some earlier

end Candidate

/-- The match of a rule at the start of an input. -/
def Rule.candidate? (rule : Rule) (input : List Char) : Option Candidate :=
  (rule.matchLength input).map fun length =>
    ⟨rule.kind, length, rule.literals.contains (input.take length)⟩

/-- The kind that recognizes the start of an input, and what it recognizes. -/
structure Match where
  kind : String
  text : List Char
  deriving DecidableEq

namespace Lexicon

/-- Whether matches of the kind are left out. -/
def isIgnored (lexicon : Lexicon) (kind : String) : Bool := lexicon.ignored == some kind

/-- The rule of a kind. -/
def rule? (lexicon : Lexicon) (kind : String) : Option Rule :=
  lexicon.rules.find? (·.kind == kind)

/-- The winning match at the start of an input. -/
def longestMatch (lexicon : Lexicon) (input : List Char) : Option Match :=
  ((lexicon.rules.filterMap (·.candidate? input)).foldl Candidate.better none).map fun best =>
    ⟨best.kind, input.take best.length⟩

/-- Whether a kind recognizes the whole of a text. -/
def recognizes (lexicon : Lexicon) (kind : String) (text : List Char) : Bool :=
  (lexicon.rule? kind).bind (·.matchLength text) == some text.length

/-- The winner of several candidates is the first one or one of the others. -/
theorem mem_of_foldl_better {candidates : List Candidate} {first : Option Candidate}
    {best : Candidate} (won : candidates.foldl Candidate.better first = some best) :
    first = some best ∨ best ∈ candidates := by
  induction candidates generalizing first with
  | nil => exact .inl won
  | cons candidate rest ih =>
    rcases ih won with now | later
    · cases first with
      | none => exact .inr (by simp_all [Candidate.better])
      | some earlier =>
        simp only [Candidate.better] at now
        split at now
        · exact .inr (by simp_all)
        · exact .inl now
    · exact .inr (List.mem_cons_of_mem _ later)

/-- A match takes at least one character. -/
theorem longestMatch_text_ne_nil {lexicon : Lexicon} {c : Char} {rest : List Char} {found : Match}
    (matched : lexicon.longestMatch (c :: rest) = some found) : found.text ≠ [] := by
  obtain ⟨best, won, rfl⟩ := Option.map_eq_some_iff.mp matched
  rcases mem_of_foldl_better won with none | member
  · cases none
  · obtain ⟨rule, _, produced⟩ := List.mem_filterMap.mp member
    obtain ⟨length, matches_, rfl⟩ := Option.map_eq_some_iff.mp produced
    have positive := (Option.filter_eq_some_iff.mp matches_).2
    simpa [List.take_eq_nil_iff, Nat.pos_iff_ne_zero] using positive

/-- A match is the start of the input. -/
theorem longestMatch_text_isPrefix {lexicon : Lexicon} {input : List Char} {found : Match}
    (matched : lexicon.longestMatch input = some found) : found.text <+: input := by
  obtain ⟨best, _, rfl⟩ := Option.map_eq_some_iff.mp matched
  exact List.take_prefix _ _

end Lexicon

end Offside
