/-
**Patterns that ask for nothing.**

An assertion takes no character and asks for what is on both sides of a place. A pattern that makes
no assertion but the one it is anchored with looks at nothing but the characters that it takes. What
a kind asks for is what its fragments ask for: putting them together takes outlines apart and joins
them, and asks for nothing new.

* `Regex.Unasserting`: nothing is asked for but the start of the text;
* `inherited_unasserting`: an outline asks for what its parts ask for;
* `Draft.unasserting_of_matchers`: and the pattern of a kind for what its matchers ask for, each of
  them read by itself;
* `Program.Unasserting`, `Regex.Unasserting.program`: and so does the program of an expression.
-/

import Offside.Proofs.Alternation

namespace Offside

open Pattern (Outline Reader Regex)

/-! ### Expressions -/

namespace Pattern

/-- What an expression asks for. -/
def Regex.assertions : Regex → List Assertion
  | .empty => []
  | .one _ => []
  | .assert assertion => [assertion]
  | .seq first second => first.assertions ++ second.assertions
  | .alt first second => first.assertions ++ second.assertions
  | .opt _ body => body.assertions
  | .star _ body => body.assertions
  | .plus _ body => body.assertions

namespace Regex

/-- An expression that asks for nothing but the start of the text. -/
def Unasserting (regex : Regex) : Prop := ∀ assertion ∈ regex.assertions, assertion = .textStart

instance : DecidablePred Unasserting := fun regex =>
  inferInstanceAs (Decidable (∀ assertion ∈ regex.assertions, assertion = .textStart))

variable {first second body : Regex}

theorem unasserting_seq : (seq first second).Unasserting ↔ first.Unasserting ∧ second.Unasserting :=
  List.forall_mem_append

theorem unasserting_alt : (alt first second).Unasserting ↔ first.Unasserting ∧ second.Unasserting :=
  List.forall_mem_append

theorem unasserting_verbatim (text : List Char) : (verbatim text).Unasserting := by
  fun_induction verbatim text with
  | case1 => exact List.forall_mem_nil _
  | case2 c => exact List.forall_mem_nil _
  | case3 c rest _ ih => exact unasserting_seq.mpr ⟨List.forall_mem_nil _, ih⟩

theorem unasserting_anyNumber (greedy : Bool) (plain : body.Unasserting) :
    (anyNumber greedy body).Unasserting := by
  unfold anyNumber
  split <;> exact plain

theorem unasserting_timesThen (plain : body.Unasserting) (last : second.Unasserting) (count : Nat) :
    (timesThen body second count).Unasserting := by
  induction count with
  | zero => exact last
  | succ count ih => exact unasserting_seq.mpr ⟨plain, ih⟩

theorem unasserting_upTo (greedy : Bool) (plain : body.Unasserting) (count : Nat) :
    (upTo greedy body count).Unasserting := by
  fun_induction upTo greedy body count with
  | case1 => exact List.forall_mem_nil _
  | case2 => exact plain
  | case3 count ih => exact unasserting_seq.mpr ⟨plain, ih⟩

theorem unasserting_repeated (greedy : Bool) (least : Nat) (most : Option Nat)
    (plain : body.Unasserting) :
    (repeated greedy body least most).Unasserting := by
  unfold repeated
  split
  · exact unasserting_anyNumber greedy plain
  · exact unasserting_timesThen plain (show (plus greedy body).Unasserting from plain) _
  · exact unasserting_upTo greedy plain _
  · split_ifs
    · exact unasserting_timesThen plain plain _
    · exact unasserting_timesThen plain (unasserting_upTo greedy plain _) _

end Regex

/-! ### Outlines -/

/-- **An outline asks for what its parts ask for.** -/
theorem inherited_unasserting : Outline.Inherited fun outline => outline.regex.Unasserting where
  empty := List.forall_mem_nil _
  verbatim := Regex.unasserting_verbatim
  nothing := List.forall_mem_nil _
  ofSet unicode set := by
    unfold Outline.ofSet
    split
    · exact List.forall_mem_nil _
    · split_ifs
      · exact Regex.unasserting_verbatim _
      · exact List.forall_mem_nil _
    · exact List.forall_mem_nil _
  repeated greedy least most _ plain := Regex.unasserting_repeated greedy least most plain
  seq := Regex.unasserting_seq
  alt := Regex.unasserting_alt

theorem unasserting_outlinesFrom (groups : Nat) {lasts : List Reader}
    (plain : ∀ last ∈ lasts, last.group.whole.outline.regex.Unasserting) :
    ∀ outline ∈ outlinesFrom groups lasts, outline.regex.Unasserting := by
  induction lasts generalizing groups with
  | nil => exact List.forall_mem_nil _
  | cons last others ih =>
    obtain ⟨here, others⟩ := List.forall_mem_cons.mp plain
    refine List.forall_mem_cons.mpr ⟨?_, ih _ others⟩
    rwa [Outline.regex_renumber]

/-- Fragments that ask for nothing make a pattern that asks for the start of the text. -/
theorem unasserting_combinedOutline {lasts : List Reader}
    (plain : ∀ last ∈ lasts, last.group.whole.outline.regex.Unasserting) :
    (combinedOutline lasts).regex.Unasserting := by
  have each := unasserting_outlinesFrom 0 plain
  have either : (Outline.either (outlinesFrom 0 lasts)).regex.Unasserting := by
    unfold Outline.either
    split
    · rename_i only shape
      exact each only (shape ▸ List.mem_singleton_self only)
    · exact inherited_unasserting.choice each
  refine inherited_unasserting.sequence
    (List.forall_mem_cons.mpr ⟨?_, List.forall_mem_singleton.mpr either⟩)
  exact List.forall_mem_singleton.mpr rfl

/-! ### Programs -/

/-- A program that asks for nothing but the start of the text. -/
def Program.Unasserting (program : Program) : Prop :=
  ∀ (place : Nat) (assertion : Assertion) (next : Nat),
    program.code[place]? = some (.check assertion next) → assertion = .textStart

/-- What the instructions of an expression ask for is what the expression asks for. -/
theorem Regex.mem_assertions_of_check {assertion : Assertion} {target : Nat} {regex : Regex}
    {base next : Nat} (member : .check assertion target ∈ (regex.assemble base next).2) :
    assertion ∈ regex.assertions := by
  have choice (greedy : Bool) (body after : Nat) :
      Instr.check assertion target ≠ .choose greedy body after := by
    cases greedy <;> exact Instr.noConfusion
  induction regex generalizing base next with
  | empty => cases member
  | one set =>
    cases List.mem_singleton.mp member
  | assert asked =>
    cases List.mem_singleton.mp member
    exact List.mem_singleton_self _
  | seq first second first_ih second_ih =>
    rcases List.mem_append.mp member with left | right
    · exact List.mem_append_left _ (first_ih left)
    · exact List.mem_append_right _ (second_ih right)
  | alt first second first_ih second_ih =>
    rcases List.mem_cons.mp member with fork | inside
    · cases fork
    · rcases List.mem_append.mp inside with left | right
      · exact List.mem_append_left _ (first_ih left)
      · exact List.mem_append_right _ (second_ih right)
  | opt greedy body ih | star greedy body ih | plus greedy body ih =>
    exact ih ((List.mem_cons.mp member).resolve_left (choice _ _ _))

theorem Regex.Unasserting.program {regex : Regex} (plain : regex.Unasserting) :
    regex.program.Unasserting := by
  intro place assertion next here
  have listed : Instr.check assertion next ∈ Instr.halt :: (regex.assemble 1 0).2 := by
    rw [Regex.program, List.getElem?_toArray] at here
    exact List.mem_of_getElem? here
  rcases List.mem_cons.mp listed with halt | inside
  · cases halt
  · exact plain assertion (mem_assertions_of_check inside)

end Pattern

/-! ### Matchers and rules -/

/-- A matcher that asks for nothing where it is read by itself; literals never do. -/
def Matcher.Unasserting : Matcher → Prop
  | literal _ => True
  | regex pattern => ∀ regex ∈ Regex.ofPattern? pattern, regex.Unasserting

instance : DecidablePred Matcher.Unasserting
  | .literal _ => inferInstanceAs (Decidable True)
  | .regex pattern =>
    inferInstanceAs (Decidable (∀ regex ∈ Regex.ofPattern? pattern, regex.Unasserting))

/-- A draft with patterns that ask for nothing but the start of the text. They are read as they are
put together, kind by kind, because a fragment may mean something else among others than by
itself. -/
def Draft.Unasserting (draft : Draft) : Prop :=
  ∀ entry ∈ draft.rules, ∀ regex ∈ Regex.ofPattern? (Rule.combinedPattern entry.2),
    regex.Unasserting

theorem Matcher.unasserting_reader {matcher : Matcher} (alone : matcher.StandsAlone)
    (inked : matcher.source ≠ []) (plain : matcher.Unasserting) :
    ∀ last ∈ matcher.reader?, last.group.whole.outline.regex.Unasserting := by
  intro last read
  cases matcher with
  | literal text =>
    obtain ⟨same, fragment, _, outline, _⟩ := Reader.Fragment.of_escape inked
    obtain rfl := Option.some.inj (fragment.reads.read.symm.trans read)
    rw [outline]
    exact Regex.unasserting_verbatim text
  | regex pattern =>
    obtain ⟨regex, reads⟩ := Option.isSome_iff_exists.mp alone.1
    have steps := reads
    unfold Regex.ofPattern? at steps
    obtain ⟨same, readAlone, made⟩ := Option.bind_eq_some_iff.mp steps
    obtain rfl := Option.some.inj (readAlone.symm.trans read)
    dsimp only at made
    split_ifs at made
    exact Option.some.inj made ▸ plain regex reads

/-- **What a kind asks for is what its matchers ask for**, each of them read by itself. -/
theorem Draft.unasserting_of_matchers {draft : Draft} (plain : ∀ entry ∈ draft.rules, entry.2 ≠ [] ∧
      ∀ matcher ∈ entry.2, matcher.StandsAlone ∧ matcher.source ≠ [] ∧ matcher.Unasserting) :
    draft.Unasserting := by
  intro entry listed regex reads
  obtain ⟨several, each⟩ := plain entry listed
  have order := (Rule.triedIn_inOrder entry.2).perm
  obtain ⟨fragments, _⟩ := Rule.exists_fragments fun matcher member =>
    ⟨(each matcher (order.mem_iff.mp member)).1, (each matcher (order.mem_iff.mp member)).2.1⟩
  have asks : ∀ last ∈ (Rule.inOrder entry.2).filterMap Matcher.reader?,
      last.group.whole.outline.regex.Unasserting := by
    intro last read
    obtain ⟨matcher, member, made⟩ := List.mem_filterMap.mp read
    obtain ⟨alone, inked, unasserting⟩ := each matcher (order.mem_iff.mp member)
    exact matcher.unasserting_reader alone inked unasserting last made
  have inhabited : (Rule.inOrder entry.2).map Matcher.pattern ≠ [] := fun none =>
    several (List.Perm.nil_eq ((List.map_eq_nil_iff.mp none) ▸ order)).symm
  rw [Rule.combinedPattern_eq] at reads
  rcases Pattern.ofPattern?_combined fragments inhabited with ⟨depth, _, same⟩ | ⟨never, _⟩
  · rw [same] at reads
    split_ifs at reads
    · exact Option.some.inj reads ▸ Pattern.unasserting_combinedOutline asks
    · cases reads
  · rw [never] at reads
    cases reads

end Offside
