/-
**Kinds that are told apart.**

Rules may not produce the kinds that stand for layout, and compiling them makes sure of that. If the
four names for layout differ from each other as well, every token of a scanner tells by its kind
what it is: `Lexicon.Sound` says both.

* `Plain`: tokens that are neither indents nor deindents;
* `sound_of_compile`: rules that compile under four different names are sound;
* `Sound.contains_eq_false`: no match is of a reserved kind.
-/

import Mathlib.Data.List.Basic
import Offside.Pipeline

namespace Offside

namespace ReservedKinds.Distinct

variable {kinds : ReservedKinds} (distinct : kinds.Distinct)

include distinct

theorem indent_ne_deindent : kinds.indent ≠ kinds.deindent := by
  simp only [Distinct, List.nodup_cons, List.mem_cons, not_or] at distinct
  exact distinct.1.1

theorem newline_ne_indent : kinds.newline ≠ kinds.indent := by
  simp only [Distinct, List.nodup_cons, List.mem_cons, not_or] at distinct
  exact Ne.symm distinct.1.2.1

theorem newline_ne_deindent : kinds.newline ≠ kinds.deindent := by
  simp only [Distinct, List.nodup_cons, List.mem_cons, not_or] at distinct
  exact Ne.symm distinct.2.1.1

theorem eof_ne_indent : kinds.eof ≠ kinds.indent := by
  simp only [Distinct, List.nodup_cons, List.mem_cons, not_or] at distinct
  exact Ne.symm distinct.1.2.2.1

theorem eof_ne_deindent : kinds.eof ≠ kinds.deindent := by
  simp only [Distinct, List.nodup_cons, List.mem_cons, not_or] at distinct
  exact Ne.symm distinct.2.1.2.1

theorem newline_ne_eof : kinds.newline ≠ kinds.eof := by
  simp only [Distinct, List.nodup_cons, List.mem_cons, not_or] at distinct
  exact distinct.2.2.1.1

end ReservedKinds.Distinct

/-- A token that is neither an indent nor a deindent. -/
def Plain (kinds : ReservedKinds) (token : Token) : Prop :=
  token.kind ≠ kinds.indent ∧ token.kind ≠ kinds.deindent

namespace ReservedKinds.Distinct

variable {kinds : ReservedKinds} (distinct : kinds.Distinct) {token : Token}

include distinct

theorem plain_of_newline (newline : token.kind = kinds.newline) : Plain kinds token :=
  ⟨newline ▸ distinct.newline_ne_indent, newline ▸ distinct.newline_ne_deindent⟩

theorem plain_of_eof (isEof : token.kind = kinds.eof) : Plain kinds token :=
  ⟨isEof ▸ distinct.eof_ne_indent, isEof ▸ distinct.eof_ne_deindent⟩

end ReservedKinds.Distinct

namespace ReservedKinds

/-- A kind that is not reserved differs from each of the four names. -/
theorem contains_eq_false_iff {kinds : ReservedKinds} {kind : String} :
    kinds.contains kind = false ↔
      kind ≠ kinds.indent ∧ kind ≠ kinds.deindent ∧ kind ≠ kinds.newline ∧ kind ≠ kinds.eof := by
  simp [contains, Bool.or_eq_false_iff, and_assoc]

variable {kinds : ReservedKinds} {token : Token} (free : kinds.contains token.kind = false)

include free

theorem plain_of_free : Plain kinds token :=
  ⟨(contains_eq_false_iff.mp free).1, (contains_eq_false_iff.mp free).2.1⟩

theorem ne_newline_of_free : token.kind ≠ kinds.newline := (contains_eq_false_iff.mp free).2.2.1

theorem ne_eof_of_free : token.kind ≠ kinds.eof := (contains_eq_false_iff.mp free).2.2.2

end ReservedKinds

namespace Lexicon

/-- The kinds for layout differ from each other and from the kinds of all rules. -/
structure Sound (lexicon : Lexicon) : Prop where
  distinct : lexicon.reserved.Distinct
  kinds : ∀ rule ∈ lexicon.rules, lexicon.reserved.contains rule.kind = false

/-- A match is what the program of some rule takes. -/
theorem exists_findEnd_of_longestMatch {lexicon : Lexicon} {input : List Char} {found : Match}
    (matched : lexicon.longestMatch input = some found) :
    ∃ rule ∈ lexicon.rules, ∃ length, rule.program.findEnd input = some length ∧
      found = ⟨rule.kind, input.take length⟩ := by
  obtain ⟨best, won, rfl⟩ := Option.map_eq_some_iff.mp matched
  rcases mem_of_foldl_better won with none | member
  · cases none
  · obtain ⟨rule, inRules, produced⟩ := List.mem_filterMap.mp member
    obtain ⟨length, taken, rfl⟩ := Option.map_eq_some_iff.mp produced
    exact ⟨rule, inRules, length, (Option.filter_eq_some_iff.mp taken).1, rfl⟩

/-- No match is of a reserved kind. -/
theorem Sound.contains_eq_false {lexicon : Lexicon} (sound : lexicon.Sound) {input : List Char}
    {found : Match} (matched : lexicon.longestMatch input = some found) :
    lexicon.reserved.contains found.kind = false := by
  obtain ⟨rule, inRules, _, _, rfl⟩ := exists_findEnd_of_longestMatch matched
  exact sound.kinds rule inRules

/-- A rule keeps the kind it is compiled for, which is none of the reserved ones. -/
theorem kind_of_compile {reserved : ReservedKinds} {kind : String} {matchers : List Matcher}
    {rule : Rule} (compiled : Rule.compile reserved kind matchers = .ok rule) :
    reserved.contains rule.kind = false := by
  unfold Rule.compile Rule.compileBy at compiled
  split at compiled
  · cases compiled
  · rename_i free
    split at compiled
    · cases compiled
    · split at compiled
      · cases compiled
      · split at compiled
        · cases compiled
        · cases compiled
          exact Bool.eq_false_iff.mpr free

/-- Every result of a list of steps that all succeed is the result of one of them. -/
theorem exists_of_mem_mapM {ε α β : Type} {step : α → Except ε β} {inputs : List α}
    {outputs : List β} (succeeded : inputs.mapM step = .ok outputs) :
    ∀ output ∈ outputs, ∃ input ∈ inputs, step input = .ok output := by
  induction inputs generalizing outputs with
  | nil =>
    cases succeeded
    intro output absent
    cases absent
  | cons input inputs ih =>
    rw [List.mapM_cons] at succeeded
    obtain ⟨first, here, succeeded⟩ := Pipeline.exists_of_bind_eq_ok succeeded
    obtain ⟨others, there, succeeded⟩ := Pipeline.exists_of_bind_eq_ok succeeded
    cases succeeded
    intro output member
    rcases List.mem_cons.mp member with rfl | member
    · exact ⟨input, List.mem_cons_self, here⟩
    · obtain ⟨source, inInputs, produced⟩ := ih there output member
      exact ⟨source, List.mem_cons_of_mem _ inInputs, produced⟩

/-- **Rules that compile under four different names are sound.** -/
theorem sound_of_compile {draft : Draft} {lexicon : Lexicon}
    (compiled : draft.compile = .ok lexicon)
    (distinct : lexicon.reserved.Distinct) : lexicon.Sound := by
  refine ⟨distinct, ?_⟩
  rw [Draft.compile_eq] at compiled
  split at compiled
  · cases compiled
  · obtain ⟨rules, each, built⟩ := Pipeline.exists_of_bind_eq_ok compiled
    cases built
    intro rule inRules
    obtain ⟨_, _, produced⟩ := exists_of_mem_mapM each rule inRules
    exact kind_of_compile produced

end Lexicon

end Offside
