/-
**Building a table step by step.**

Rules are registered one kind at a time, from code, or many kinds at a time, from descriptions,
which may break off in the middle. Whatever the steps are, each amounts to some registrations in
order: a description registers the alternatives that were read of it, each on its own. What is built
is therefore the registrations of all steps, grouped by kind.

* `Description.read_fst`: a description adds the alternatives among the tokens that are read of it;
* `BuildStep.apply_eq`: the step, and `build_eq` the run: the registrations of all steps, one after
  the other;
* `Grouped`: what grouping by kind means for what is asked of a draft;
* `Compiled`: what it means for the table that is compiled from it;
* `Rearranged`: the same steps, as seen by each kind. Two neighbours without a common kind may
  change places (`rearranged_swap`);
* `building`: rules are grouped by kind, and so is the table.
-/

import Offside.Proofs.Compiling
import Offside.Proofs.LineBreaks
import Offside.Proofs.Relexing

namespace Offside

open Text (Line)
open Draft (gathered grouped registerEach)

/-! ### Descriptions that break off -/

namespace Description

/-- The tokens that are read: those before the first item that is not expected, or the end of
input. -/
def Expectation.taken : Expectation → List (Except Failure Placed) → List Placed
  | _, [] => []
  | _, .error _ :: _ => []
  | expectation, .ok placed :: rest =>
    match step expectation placed.token with
    | .expect next _ => placed :: next.taken rest
    | .done => []
    | .reject => []

/-- **Reading adds the alternatives among the tokens that are read**, whatever becomes of the
rest. -/
theorem read_fst {expectation : Expectation} {name : String} (here : expectation.Of name)
    (draft : Draft) (items : List (Except Failure Placed)) :
    (read draft expectation items).1 =
      registerAll draft (described name (expectation.taken items)) := by
  induction items generalizing draft expectation name with
  | nil => rfl
  | cons item items ih =>
    cases item with
    | error failure => rfl
    | ok placed =>
      rw [read, Expectation.taken]
      cases went : step expectation placed.token with
      | done => rfl
      | reject => rfl
      | expect next added =>
        obtain ⟨_, onward, adds⟩ := of_step_eq_expect here went
        show (read _ next items).1 = registerAll draft (described name (placed :: next.taken items))
        rw [ih onward, register_eq_registerAll, ← registerAll_append, adds]
        rfl

/-- The places of tokens do not matter for what is read of them. -/
theorem described_taken_congr {first second : List Placed}
    (same : first.map (·.token.toMatch) = second.map (·.token.toMatch)) :
    ∀ (expectation : Expectation) (name : String),
      described name (expectation.taken (first.map .ok)) =
        described name (expectation.taken (second.map .ok)) := by
  induction first generalizing second with
  | nil =>
    obtain rfl := List.map_eq_nil_iff.mp same.symm
    exact fun _ _ => rfl
  | cons one first ih =>
    obtain ⟨other, second, rfl, alike, same⟩ := List.map_eq_cons_iff.mp same.symm
    intro expectation name
    obtain ⟨isKind, isText⟩ := Match.mk.inj alike
    have matchers : matcher? other.token = matcher? one.token := by
      simp only [matcher?, isKind, isText]
    have names : nameBehind name other.token = nameBehind name one.token := by
      simp only [nameBehind, isKind, isText]
    rw [List.map_cons, List.map_cons, Expectation.taken, Expectation.taken, step_congr alike]
    split
    · rename_i next _ _
      have onward := ih same.symm next (nameBehind name one.token)
      rw [described, described] at onward ⊢
      rw [List.map_cons, List.map_cons, alternatives, alternatives, matchers, names, onward]
    · rfl
    · rfl

end Description

/-! ### Steps -/

/-- A step that adds rules to a draft. -/
inductive BuildStep
  /-- Matchers under a kind. -/
  | register (kind : String) (matchers : List Matcher)
  /-- Texts under a kind. -/
  | literals (kind : String) (texts : List (List Char))
  /-- Patterns under a kind. -/
  | regexes (kind : String) (patterns : List (List Char))
  /-- The rules of a description, as far as it can be read. -/
  | description (lines : List Line)

namespace BuildStep

/-- What a step makes of a draft. -/
def apply (draft : Draft) : BuildStep → Draft
  | register kind matchers => draft.register kind matchers
  | literals kind texts => draft.addLiterals kind texts
  | regexes kind patterns => draft.addRegexes kind patterns
  | description lines => (Description.loadInto draft lines).1

/-- What a step registers, in order. -/
def registrations : BuildStep → List (String × List Matcher)
  | register kind matchers => [(kind, matchers)]
  | literals kind texts => [(kind, texts.map .literal)]
  | regexes kind patterns => [(kind, patterns.map .regex)]
  | description lines =>
    (Description.described ""
      (Description.Expectation.definition.taken (Description.items lines))).map
      fun (name, matcher) => (name, [matcher])

/-- Whether a step registers something under a kind, be it an empty list. -/
def touches (kind : String) (step : BuildStep) : Bool := step.registrations.any (·.1 == kind)

/-- **A step makes its registrations**, whatever was registered before. -/
theorem apply_eq (draft : Draft) (step : BuildStep) :
    step.apply draft = registerEach draft step.registrations := by
  cases step with
  | register kind matchers => rfl
  | literals kind texts => rfl
  | regexes kind patterns => rfl
  | description lines =>
    show (Description.read draft .definition (Description.items lines)).1 = _
    have here : Description.Expectation.definition.Of "" := trivial
    rw [Description.read_fst here, registrations, registerEach, List.foldl_map]
    rfl

end BuildStep

/-- The registrations of several steps. -/
def registered (steps : List BuildStep) : List (String × List Matcher) :=
  steps.flatMap (·.registrations)

/-- What several steps build. -/
def build (steps : List BuildStep) : Draft := steps.foldl BuildStep.apply {}

/-- The table that is compiled from what several steps build, under some names. -/
def buildTable (reserved : ReservedKinds) (ignored : Option String) (steps : List BuildStep) :
    Except RuleError Lexicon :=
  Draft.compile { build steps with reserved := reserved, ignored := ignored }

/-- **What is built is what all steps register, grouped by kind.** -/
theorem build_eq (steps : List BuildStep) :
    build steps = { rules := grouped (registered steps) } := by
  have run : ∀ draft : Draft, steps.foldl BuildStep.apply draft =
      registerEach draft (registered steps) := by
    induction steps with
    | nil => exact fun _ => rfl
    | cons step steps ih =>
      intro draft
      rw [List.foldl_cons, ih, step.apply_eq]
      exact List.foldl_append.symm
  rw [build, run, Draft.registerEach_eq]

/-! ### Groups -/

/-- Rules that are grouped by kind. -/
structure Grouped (registered : List (String × List Matcher)) (draft : Draft) : Prop where
  distinct : draft.kinds.Nodup
  /-- Kinds are in the order of their first registration. -/
  kinds : draft.kinds = (registered.map (·.1)).eraseDups
  /-- A kind has all matchers that were registered under it, in order. -/
  matchers : ∀ kind ∈ registered.map (·.1), draft.matchers? kind = some (gathered registered kind)
  /-- It is unknown if it was never registered. -/
  unknown : ∀ kind, kind ∉ registered.map (·.1) → draft.matchers? kind = none

theorem Draft.matchers?_of_map {names : List String} {known : String → List Matcher} {draft : Draft}
    (rules : draft.rules = names.map fun name => (name, known name)) (kind : String) :
    draft.matchers? kind = if kind ∈ names then some (known kind) else none := by
  rw [matchers?, rules]
  clear rules
  induction names with
  | nil => rfl
  | cons name names ih =>
    by_cases same : name = kind
    · simp [same]
    · simp only [List.map_cons, List.find?_cons, beq_false_of_ne same, List.mem_cons,
        or_iff_right (Ne.symm same)]
      exact ih

theorem grouped_build (steps : List BuildStep) : Grouped (registered steps) (build steps) := by
  have rules : (build steps).rules = ((registered steps).map (·.1)).eraseDups.map fun name =>
      (name, gathered (registered steps) name) := congrArg Draft.rules (build_eq steps)
  have kinds : (build steps).kinds = ((registered steps).map (·.1)).eraseDups := by
    rw [Draft.kinds, rules, List.map_map]
    exact List.map_id _
  refine ⟨kinds ▸ Draft.nodup_eraseDups _, kinds, fun kind known => ?_, fun kind new => ?_⟩
  · rw [Draft.matchers?_of_map rules, if_pos (List.mem_eraseDups.mpr known)]
  · rw [Draft.matchers?_of_map rules, if_neg (mt List.mem_eraseDups.mp new)]

/-! ### Tables -/

/-- Two rules that match alike, whatever their kinds are. -/
structure Rule.Alike (first second : Rule) : Prop where
  pattern : first.pattern = second.pattern
  program : first.program = second.program
  literals : first.literals = second.literals

/-- Rules are made of the matchers of their kind and of nothing else. -/
theorem Rule.alike_of_compile {reserved reserved' : ReservedKinds} {kind kind' : String}
    {matchers : List Matcher} {rule rule' : Rule} (made : compile reserved kind matchers = .ok rule)
    (made' : compile reserved' kind' matchers = .ok rule') : rule.Alike rule' := by
  obtain ⟨_, regex, reads, rfl⟩ := compile_eq_ok_iff.mp made
  obtain ⟨_, regex', reads', rfl⟩ := compile_eq_ok_iff.mp made'
  rw [reads] at reads'
  cases reads'
  exact ⟨rfl, rfl, rfl⟩

/-- A table with one rule for each kind, in order, that is compiled from what several steps
build. -/
structure Compiled (steps : List BuildStep) (lexicon : Lexicon) : Prop where
  kinds : lexicon.rules.map (·.kind) = (build steps).kinds
  distinct : (lexicon.rules.map (·.kind)).Nodup
  /-- The rule that is found for a kind is the one that has it. -/
  found : ∀ rule ∈ lexicon.rules, lexicon.rule? rule.kind = some rule
  pattern : ∀ rule ∈ lexicon.rules,
    rule.pattern = Rule.combinedPattern (gathered (registered steps) rule.kind)

section Tables

variable {reserved : ReservedKinds} {ignored : Option String} {steps : List BuildStep}
  {lexicon : Lexicon}

/-- Each rule of a table is compiled from all matchers of its kind. -/
theorem compile_of_buildTable (compiled : buildTable reserved ignored steps = .ok lexicon)
    {rule : Rule} (member : rule ∈ lexicon.rules) :
    Rule.compile reserved rule.kind (gathered (registered steps) rule.kind) = .ok rule := by
  obtain ⟨_, each, _, _⟩ := Draft.compile_eq_ok_iff.mp compiled
  obtain ⟨entry, listed, made⟩ := exists_of_mem_forall₂ each.flip member
  rw [build_eq] at listed
  obtain ⟨kind, _, rfl⟩ := List.mem_map.mp listed
  have named : rule.kind = kind := by
    obtain ⟨_, regex, _, rfl⟩ := Rule.compile_eq_ok_iff.mp made
    rfl
  rw [named]
  exact made

theorem compiled_of_buildTable (compiled : buildTable reserved ignored steps = .ok lexicon) :
    Compiled steps lexicon := by
  have kinds : lexicon.rules.map (·.kind) = (build steps).kinds :=
    @Draft.map_kind_of_compile
      { build steps with reserved := reserved, ignored := ignored } _ compiled
  have distinct : (lexicon.rules.map (·.kind)).Nodup := kinds ▸ (grouped_build steps).distinct
  refine ⟨kinds, distinct, fun rule => Lexicon.rule?_of_mem distinct, fun rule member => ?_⟩
  obtain ⟨_, regex, _, made⟩ := Rule.compile_eq_ok_iff.mp (compile_of_buildTable compiled member)
  exact congrArg Rule.pattern made

end Tables

/-! ### Other orders -/

/-- The same steps in an order that each kind sees alike: only steps without a common kind have
changed places. -/
def Rearranged (first second : List BuildStep) : Prop :=
  ∀ kind, first.filter (·.touches kind) = second.filter (·.touches kind)

/-- Neighbours without a common kind may change places. -/
theorem rearranged_swap (front back : List BuildStep) {first second : BuildStep}
    (apart : ∀ kind, first.touches kind = true → second.touches kind = false) :
    Rearranged (front ++ first :: second :: back) (front ++ second :: first :: back) := by
  intro kind
  rw [List.filter_append, List.filter_append]
  cases here : first.touches kind with
  | false => simp [here, List.filter_cons]
  | true => simp [here, apart kind here]

/-- What is gathered under a kind comes from the steps that touch it. -/
theorem gathered_registered (steps : List BuildStep) (kind : String) :
    gathered (registered steps) kind =
      gathered (registered (steps.filter (·.touches kind))) kind := by
  have append : ∀ first second : List (String × List Matcher),
      gathered (first ++ second) kind = gathered first kind ++ gathered second kind := by
    intro first second
    rw [gathered, List.filter_append, List.flatMap_append]
    rfl
  induction steps with
  | nil => rfl
  | cons step steps ih =>
    rw [registered, List.flatMap_cons, append]
    cases touched : step.touches kind with
    | true =>
      rw [List.filter_cons_of_pos touched, registered, List.flatMap_cons, append]
      exact congrArg _ ih
    | false =>
      have none : gathered step.registrations kind = [] := by
        refine Draft.gathered_of_notMem fun member => ?_
        obtain ⟨entry, listed, same⟩ := List.mem_map.mp member
        have untouched := List.any_eq_false.mp touched entry listed
        exact untouched (beq_iff_eq.mpr same)
      rw [List.filter_cons_of_neg (Bool.eq_false_iff.mp touched), none, List.nil_append]
      exact ih

/-- **Only the order of first registrations shows** of how steps without a common kind are
interleaved. -/
theorem build_eq_of_rearranged {steps steps' : List BuildStep}
    (rearranged : Rearranged steps steps')
    (order : (build steps).kinds = (build steps').kinds) : build steps = build steps' := by
  rw [(grouped_build steps).kinds, (grouped_build steps').kinds] at order
  have same : gathered (registered steps) = gathered (registered steps') := by
    funext kind
    rw [gathered_registered steps, gathered_registered steps', rearranged kind]
  rw [build_eq, build_eq, grouped, grouped, order, same]

/-- **Rules are grouped by kind, and so is the table.** Whatever the steps are, each kind is there
once, where it was registered first, with all of its matchers in order. A table that is built has
one rule for each kind, in the same order, which is made of the matchers of that kind alone; and
steps without a common kind may change places if the order of the kinds stays as it is. -/
theorem building (steps : List BuildStep) :
    Grouped (registered steps) (build steps) ∧
    (∀ reserved ignored lexicon, buildTable reserved ignored steps = .ok lexicon →
      Compiled steps lexicon ∧
      ∀ reserved' ignored' steps' lexicon', buildTable reserved' ignored' steps' = .ok lexicon' →
        ∀ rule ∈ lexicon.rules, ∀ rule' ∈ lexicon'.rules,
        gathered (registered steps) rule.kind = gathered (registered steps') rule'.kind →
          rule.Alike rule') ∧
    ∀ steps', Rearranged steps steps' → (build steps).kinds = (build steps').kinds →
      build steps = build steps' ∧
      ∀ reserved ignored, buildTable reserved ignored steps =
        buildTable reserved ignored steps' := by
  refine ⟨grouped_build steps, fun reserved ignored lexicon compiled => ?_,
    fun steps' rearranged order => ?_⟩
  · refine ⟨compiled_of_buildTable compiled, ?_⟩
    intro reserved' ignored' steps' lexicon' compiled' rule member rule' member' same
    have made := compile_of_buildTable compiled member
    rw [same] at made
    exact Rule.alike_of_compile made (compile_of_buildTable compiled' member')
  · have same := build_eq_of_rearranged rearranged order
    refine ⟨same, fun reserved ignored => ?_⟩
    rw [buildTable, same]
    rfl

/-! ### Interleaved steps -/

/-- A description that breaks off behind its first alternative. -/
def brokenLine : List Line := [.text "A: 'x' |".toList]

/-- Two kinds in turn; the first is known before it has any matcher. -/
def interleaved : List BuildStep :=
  [.register "A" [], .literals "B" [['z']], .description brokenLine, .regexes "B" [['y']]]

/-- The same with the last two steps the other way round. -/
def swapped : List BuildStep :=
  [.register "A" [], .literals "B" [['z']], .regexes "B" [['y']], .description brokenLine]

open Description in
theorem registrations_brokenLine :
    (BuildStep.description brokenLine).registrations = [("A", [.literal ['x']])] := by
  have cut : CutInto lexicon "A: 'x' |".toList
      [⟨nameKind, ['A']⟩, ⟨colonKind, [':']⟩, matcherToken (.literal ['x']),
        ⟨separatorKind, ['|']⟩] :=
    @cutInto_of_begins ⟨nameKind, ['A']⟩ _ _ (begins_of_ends (by decide) (by decide)) <|
    @cutInto_of_begins ⟨colonKind, [':']⟩ _ _ (.mark (by decide)) <| .blank rfl <|
    @cutInto_of_begins (matcherToken (.literal ['x'])) _ _ (.matcher ⟨rfl, by decide⟩) <|
    .blank rfl <|
    @cutInto_of_begins ⟨separatorKind, ['|']⟩ [] _ (.mark (by decide)) .nil
  obtain ⟨placed, listed, tokens⟩ :=
    @exists_items_of_cut brokenLine [(_, _)] rfl (List.forall_mem_singleton.mpr cut)
  -- The tokens are these, wherever they stand.
  have alike : placed.map (·.token.toMatch) = List.map (·.token.toMatch)
      ([⟨nameKind, ['A']⟩, ⟨colonKind, [':']⟩, matcherToken (.literal ['x']),
        ⟨separatorKind, ['|']⟩,
        ⟨lexicon.reserved.eof, ['$']⟩].map fun found : Match =>
          (⟨⟨found.kind, found.text, 0, 0⟩, []⟩ : Placed)) :=
    tokens
  rw [BuildStep.registrations, listed, described_taken_congr alike]
  simp only [List.map_cons, List.map_nil, Expectation.taken, step, lexicon_eq, matcherToken,
    withoutDelimiters_delimited]
  rfl

/-- What is built of both. -/
def interleavedDraft : Draft :=
  { rules := [("A", [.literal ['x']]), ("B", [.literal ['z'], .regex ['y']])] }

theorem build_interleaved :
    build interleaved = interleavedDraft ∧ build swapped = interleavedDraft := by
  have first : registered interleaved =
      [("A", []), ("B", [.literal ['z']]), ("A", [.literal ['x']]), ("B", [.regex ['y']])] := by
    simp only [registered, interleaved, List.flatMap_cons, registrations_brokenLine]
    rfl
  have second : registered swapped =
      [("A", []), ("B", [.literal ['z']]), ("B", [.regex ['y']]), ("A", [.literal ['x']])] := by
    simp only [registered, swapped, List.flatMap_cons, registrations_brokenLine]
    rfl
  rw [build_eq, build_eq, first, second]
  decide

theorem exists_buildTable_interleaved :
    ∃ lexicon, buildTable {} none interleaved = .ok lexicon := by
  have order : Rule.inOrder [.literal ['z'], .regex ['y']] = [.literal ['z'], .regex ['y']] :=
    List.mergeSort_of_pairwise (by decide)
  have readsA : (Pattern.Regex.ofPattern? (Rule.combinedPattern [.literal ['x']])).isSome =
      true := by
    decide +kernel
  have readsB : (Pattern.Regex.ofPattern?
      (Rule.combinedPattern [.literal ['z'], .regex ['y']])).isSome = true := by
    rw [Rule.combinedPattern, order]
    decide +kernel
  obtain ⟨regexA, readsA⟩ := Option.isSome_iff_exists.mp readsA
  obtain ⟨regexB, readsB⟩ := Option.isSome_iff_exists.mp readsB
  refine ⟨⟨[.ofRegex "A" [.literal ['x']] regexA,
    .ofRegex "B" [.literal ['z'], .regex ['y']] regexB], {}, none⟩, ?_⟩
  rw [buildTable, build_interleaved.1]
  refine Draft.compile_eq_ok_iff.mpr ⟨fun _ given => (by cases given), .cons ?_ (.cons ?_ .nil),
    rfl, rfl⟩
  · exact Rule.compile_eq_ok (by decide) rfl (by decide) readsA
  · exact Rule.compile_eq_ok (by decide) rfl (by decide) readsB

theorem rearranged_interleaved : Rearranged interleaved swapped := by
  refine rearranged_swap [.register "A" [], .literals "B" [['z']]] [] fun kind touched => ?_
  rw [BuildStep.touches, registrations_brokenLine] at touched
  have isFirst : "A" = kind := by simpa using touched
  rw [← isFirst]
  decide

/-- Both orders build the same table, which has a rule for each of the two kinds. -/
theorem building_interleaved :
    Grouped (registered interleaved) (build interleaved) ∧
      (∃ lexicon, buildTable {} none interleaved = .ok lexicon ∧ Compiled interleaved lexicon ∧
        buildTable {} none swapped = .ok lexicon ∧
        ∀ rule ∈ lexicon.rules, ∀ rule' ∈ lexicon.rules,
          gathered (registered interleaved) rule.kind =
          gathered (registered swapped) rule'.kind → rule.Alike rule') ∧
      Rearranged interleaved swapped ∧ (build interleaved).kinds = (build swapped).kinds ∧
      build interleaved = build swapped := by
  obtain ⟨first, second⟩ := build_interleaved
  obtain ⟨groups, tables, orders⟩ := building interleaved
  have order : (build interleaved).kinds = (build swapped).kinds := by rw [first, second]
  obtain ⟨same, sameTable⟩ := orders swapped rearranged_interleaved order
  obtain ⟨lexicon, compiled⟩ := exists_buildTable_interleaved
  obtain ⟨table, alike⟩ := tables _ _ _ compiled
  have compiled' := (sameTable {} none).symm.trans compiled
  exact ⟨groups, ⟨lexicon, compiled, table, compiled', alike _ _ _ _ compiled'⟩,
    rearranged_interleaved,
    order, same⟩

end Offside
