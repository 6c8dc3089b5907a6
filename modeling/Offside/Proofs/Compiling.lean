/-
**What compiling makes.**

Rules are compiled one by one, each by itself, and the first one that is refused is the failure. So
the rules of a lexicon are those of the draft, one for one and in the same order, and the rule that
is found for a kind is the one that its matchers make.

* `mapM_eq_ok_iff`: a list of steps succeeds where each step does;
* `Rule.compile_eq_ok_iff`, `Draft.compile_eq_ok_iff`: what it takes to compile, and what comes of
  it;
* `Lexicon.rule?_of_compile`: kinds with rules are kinds with matchers;
* `Draft.compile_perm`: rules in another order compile to the same rules in that order.
-/

import Mathlib.Data.List.Perm.Basic
import Offside.Proofs.TokenPatterns
import Offside.Pipeline

namespace Offside

open Pattern (Regex)

/-- A list of steps succeeds where each of them does. -/
theorem mapM_eq_ok_iff {ε α β : Type} {step : α → Except ε β} {inputs : List α} {outputs : List β} :
    inputs.mapM step = .ok outputs ↔
      List.Forall₂ (fun input output => step input = .ok output) inputs outputs := by
  induction inputs generalizing outputs with
  | nil =>
    rw [List.mapM_nil, List.forall₂_nil_left_iff]
    exact ⟨fun same => (Except.ok.inj same).symm, fun same => congrArg Except.ok same.symm⟩
  | cons input inputs ih =>
    rw [List.mapM_cons, List.forall₂_cons_left_iff]
    constructor
    · intro succeeded
      obtain ⟨first, here, succeeded⟩ := Pipeline.exists_of_bind_eq_ok succeeded
      obtain ⟨others, there, succeeded⟩ := Pipeline.exists_of_bind_eq_ok succeeded
      exact ⟨first, others, here, ih.mp there, (Except.ok.inj succeeded).symm⟩
    · rintro ⟨first, others, here, there, rfl⟩
      rw [here, ih.mpr there]
      rfl

theorem exists_of_mem_forall₂ {α β : Type} {related : α → β → Prop} {first : List α}
    {second : List β}
    (pairs : List.Forall₂ related first second) {here : α} (member : here ∈ first) :
    ∃ there ∈ second, related here there := by
  induction pairs with
  | nil => cases member
  | cons together _ ih =>
    rcases List.mem_cons.mp member with rfl | later
    · exact ⟨_, List.mem_cons_self, together⟩
    · obtain ⟨there, found, related⟩ := ih later
      exact ⟨there, List.mem_cons_of_mem _ found, related⟩

/-- What it takes to compile the matchers of a kind. -/
theorem Rule.compile_eq_ok_iff {reserved : ReservedKinds} {kind : String} {matchers : List Matcher}
    {rule : Rule} :
    compile reserved kind matchers = .ok rule ↔
      (reserved.contains kind = false ∧ matchers ≠ [] ∧ ∀ matcher ∈ matchers, matcher.source ≠ []) ∧
        ∃ regex, Regex.ofPattern? (combinedPattern matchers) = some regex ∧
          rule = ofRegex kind matchers regex := by
  have inked : (matchers.any (·.source.isEmpty)) = false ↔
      ∀ matcher ∈ matchers, matcher.source ≠ [] := by
    simp
  have listed : matchers.isEmpty = false ↔ matchers ≠ [] := List.isEmpty_eq_false_iff
  rw [← inked, ← listed]
  constructor
  · intro compiled
    unfold compile compileBy at compiled
    split at compiled
    · cases compiled
    · split at compiled
      · cases compiled
      · split at compiled
        · cases compiled
        · rename_i free notEmpty allInked
          split at compiled
          · cases compiled
          · rename_i regex reads
            exact ⟨⟨eq_false_of_ne_true free, eq_false_of_ne_true notEmpty,
              eq_false_of_ne_true allInked⟩, regex, Pattern.Engine.unlimited_eq_ok_iff.mp reads,
              (Except.ok.inj compiled).symm⟩
  · rintro ⟨⟨free, notEmpty, allInked⟩, regex, reads, rfl⟩
    exact compile_eq_ok free notEmpty allInked reads

namespace Draft

variable {draft : Draft} {lexicon : Lexicon}

/-- What it takes to compile a draft, and what comes of it. -/
theorem compile_eq_ok_iff :
    draft.compile = .ok lexicon ↔
      (∀ kind, draft.ignored = some kind → draft.reserved.contains kind = false) ∧
        List.Forall₂ (fun entry rule => Rule.compile draft.reserved entry.1 entry.2 = .ok rule)
          draft.rules lexicon.rules ∧
        lexicon.reserved = draft.reserved ∧ lexicon.ignored = draft.ignored := by
  have free : draft.ignored.filter draft.reserved.contains = none ↔
      ∀ kind, draft.ignored = some kind → draft.reserved.contains kind = false := by
    simp [Option.filter_eq_none_iff]
  rw [← free, ← mapM_eq_ok_iff]
  rw [compile_eq]
  constructor
  · intro compiled
    split at compiled
    · cases compiled
    · rename_i fine
      obtain ⟨rules, each, built⟩ := Pipeline.exists_of_bind_eq_ok compiled
      cases built
      exact ⟨fine, each, rfl, rfl⟩
  · rintro ⟨fine, each, sameNames, sameIgnored⟩
    obtain ⟨rules, reserved, ignored⟩ := lexicon
    obtain rfl : reserved = draft.reserved := sameNames
    obtain rfl : ignored = draft.ignored := sameIgnored
    rw [fine]
    show (draft.rules.mapM (fun rule => Rule.compile draft.reserved rule.1 rule.2) >>= fun rules =>
      .ok (⟨rules, draft.reserved, draft.ignored⟩ : Lexicon)) = _
    rw [each]
    rfl

/-- Rules in another order compile to the same rules in that order. -/
theorem compile_perm (compiled : draft.compile = .ok lexicon) {order : List (String × List Matcher)}
    (reordered : order.Perm draft.rules) :
    ∃ rules, Draft.compile { draft with rules := order } = .ok { lexicon with rules := rules } ∧
      rules.Perm lexicon.rules := by
  obtain ⟨free, each, sameNames, sameIgnored⟩ := compile_eq_ok_iff.mp compiled
  obtain ⟨rules, eachReordered, same⟩ := List.perm_comp_forall₂ reordered each
  exact ⟨rules, compile_eq_ok_iff.mpr ⟨free, eachReordered, sameNames, sameIgnored⟩, same⟩

end Draft

/-- The rule that is found for a kind is the one that its matchers make. -/
theorem Lexicon.rule?_of_compile {draft : Draft} {lexicon : Lexicon}
    (compiled : draft.compile = .ok lexicon) (kind : String) :
    Option.Rel (fun matchers rule => Rule.compile draft.reserved kind matchers = .ok rule)
      (draft.matchers? kind) (lexicon.rule? kind) := by
  obtain ⟨_, each, _, _⟩ := Draft.compile_eq_ok_iff.mp compiled
  rw [Draft.matchers?, rule?]
  generalize draft.rules = entries at each ⊢
  generalize lexicon.rules = rules at each ⊢
  induction each with
  | nil => exact .none
  | @cons entry rule entries rules here _ ih =>
    obtain ⟨_, _, _, made⟩ := Rule.compile_eq_ok_iff.mp here
    have sameKind : rule.kind = entry.1 := by
      rw [made]
      rfl
    by_cases found : entry.1 = kind
    · rw [List.find?_cons_of_pos (by simpa using found),
        List.find?_cons_of_pos (by simp [sameKind, found])]
      exact .some (found ▸ here)
    · rw [List.find?_cons_of_neg (by simpa using found),
        List.find?_cons_of_neg (by simp [sameKind, found])]
      exact ih

theorem Draft.exists_rule {draft : Draft} {lexicon : Lexicon} {kind : String}
    {matchers : List Matcher} (compiled : draft.compile = .ok lexicon)
    (registered : draft.matchers? kind = some matchers) :
    ∃ rule, lexicon.rule? kind = some rule ∧ rule ∈ lexicon.rules ∧
      Rule.compile draft.reserved kind matchers = .ok rule := by
  have related := Lexicon.rule?_of_compile compiled kind
  rw [registered] at related
  cases found : lexicon.rule? kind with
  | none => rw [found] at related; cases related
  | some rule =>
    rw [found] at related
    obtain ⟨made⟩ := related
    exact ⟨rule, rfl, List.mem_of_find?_eq_some found, made⟩

end Offside
