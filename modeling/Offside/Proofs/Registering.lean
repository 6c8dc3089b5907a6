/-
**Registering groups matchers by kind.**

However matchers are registered, the draft holds each kind once, where it was registered first, with
all of its matchers in the order in which they came.

* `register_register`: registering twice under one kind is registering once;
* `grouped`: what is to be expected after a number of registrations;
* `registerEach_eq`: what a draft holds after them. The induction takes the last registration away:
  it changes the entry of a kind that is there, or adds one at the end.
-/

import Mathlib.Data.List.Induction
import Offside.Lexicon.Draft

namespace Offside.Draft

/-! ### Entries -/

theorem insert_insert (kind : String) (first second : List Matcher)
    (rules : List (String × List Matcher)) :
    insert kind second (insert kind first rules) = insert kind (first ++ second) rules := by
  induction rules with
  | nil => simp [insert]
  | cons rule rules ih =>
    obtain ⟨other, known⟩ := rule
    by_cases same : other = kind
    · simp [insert, same]
    · simp [insert, same, ih]

theorem register_register (draft : Draft) (kind : String) (first second : List Matcher) :
    (draft.register kind first).register kind second = draft.register kind (first ++ second) := by
  simp only [register, insert_insert]

/-- Where a kind has an entry, the entry gains matchers; where it has none, one is added at the
end. -/
theorem insert_map {names : List String} (distinct : names.Nodup) (known : String → List Matcher)
    {kind : String} (fresh : kind ∉ names → known kind = []) (matchers : List Matcher) :
    insert kind matchers (names.map fun name => (name, known name)) =
      (if kind ∈ names then names else names ++ [kind]).map fun name =>
        (name, known name ++ if name = kind then matchers else []) := by
  induction names with
  | nil =>
    rw [if_neg List.not_mem_nil, List.nil_append, List.map_singleton, fresh List.not_mem_nil,
      if_pos rfl]
    rfl
  | cons name names ih =>
    obtain ⟨new, distinct⟩ := List.nodup_cons.mp distinct
    by_cases same : name = kind
    · subst same
      have others : names.map (fun other => (other, known other)) =
          names.map fun other => (other, known other ++ if other = name then matchers else []) := by
        refine List.map_congr_left fun other member => ?_
        have different : other ≠ name := fun same => new (same ▸ member)
        rw [if_neg different, List.append_nil]
      rw [if_pos List.mem_cons_self, List.map_cons, insert, if_pos rfl, List.map_cons, if_pos rfl,
        others]
    · have elsewhere : kind ∈ name :: names ↔ kind ∈ names := by
        rw [List.mem_cons, or_iff_right (Ne.symm same)]
      rw [List.map_cons, insert, if_neg same,
        ih distinct fun absent => fresh (mt elsewhere.mp absent)]
      simp only [elsewhere]
      split <;> simp [same]

/-! ### Groups -/

theorem eraseDups_concat (names : List String) (name : String) :
    (names ++ [name]).eraseDups = if name ∈ names then names.eraseDups
      else names.eraseDups ++ [name] := by
  rw [List.eraseDups_append]
  by_cases known : name ∈ names
  · rw [if_pos known]
    simp [List.removeAll, known]
  · rw [if_neg known]
    simp [List.removeAll, known, List.eraseDups_cons]

theorem nodup_eraseDups (names : List String) : names.eraseDups.Nodup := by
  induction names using List.reverseRecOn with
  | nil => exact .nil
  | append_singleton names name ih =>
    rw [eraseDups_concat]
    split
    · exact ih
    · rename_i new
      refine List.nodup_append.mpr ⟨ih, List.pairwise_singleton _ name,
        fun other known last member => ?_⟩
      rw [List.mem_singleton.mp member]
      exact fun same => new (List.mem_eraseDups.mp (same ▸ known))

/-- Registrations in order. -/
def registerEach (draft : Draft) (steps : List (String × List Matcher)) : Draft :=
  steps.foldl (fun draft (kind, matchers) => draft.register kind matchers) draft

/-- The matchers that are registered under a kind. -/
def gathered (steps : List (String × List Matcher)) (kind : String) : List Matcher :=
  (steps.filter (·.1 = kind)).flatMap (·.2)

/-- Registrations grouped by kind, in the order of the first registration of each. -/
def grouped (steps : List (String × List Matcher)) : List (String × List Matcher) :=
  (steps.map (·.1)).eraseDups.map fun kind => (kind, gathered steps kind)

theorem gathered_concat (steps : List (String × List Matcher)) (kind name : String)
    (matchers : List Matcher) : gathered (steps ++ [(kind, matchers)]) name =
      gathered steps name ++ if name = kind then matchers else [] := by
  rw [gathered, List.filter_append, List.flatMap_append]
  congr 1
  by_cases same : name = kind
  · simp [same]
  · simp [same, Ne.symm same]

/-- A kind under which nothing is registered has no matchers. -/
theorem gathered_of_notMem {steps : List (String × List Matcher)} {kind : String}
    (new : kind ∉ steps.map (·.1)) : gathered steps kind = [] := by
  have none : steps.filter (·.1 = kind) = [] := by
    refine List.filter_eq_nil_iff.mpr fun step member same => new ?_
    rw [← of_decide_eq_true same]
    exact List.mem_map_of_mem member
  rw [gathered, none, List.flatMap_nil]

/-- **Registering groups matchers by kind.** -/
theorem registerEach_eq (steps : List (String × List Matcher)) :
    registerEach {} steps = { rules := grouped steps } := by
  induction steps using List.reverseRecOn with
  | nil => rfl
  | append_singleton steps step ih =>
    obtain ⟨kind, matchers⟩ := step
    have last : registerEach {} (steps ++ [(kind, matchers)]) =
        (registerEach {} steps).register kind matchers := by
      rw [registerEach, List.foldl_append]
      rfl
    have groups : grouped (steps ++ [(kind, matchers)]) =
        (if kind ∈ steps.map (·.1) then (steps.map (·.1)).eraseDups
          else (steps.map (·.1)).eraseDups ++ [kind]).map fun name =>
            (name, gathered steps name ++ if name = kind then matchers else []) := by
      simp only [grouped, gathered_concat, List.map_append, List.map_singleton, eraseDups_concat]
    have fresh : kind ∉ (steps.map (·.1)).eraseDups → gathered steps kind = [] := fun new =>
      gathered_of_notMem (mt List.mem_eraseDups.mpr new)
    rw [last, ih, register, groups, grouped, insert_map (nodup_eraseDups _) _ fresh]
    simp only [List.mem_eraseDups]

end Offside.Draft
