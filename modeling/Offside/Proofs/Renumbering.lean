/-
**Groups are numbered from anywhere.**

A pattern that stands inside a larger one has its groups numbered on from those in front of it. The
numbers tell groups apart, and nothing else depends on them: outlines are put together in the same
way, and match the same.

* `Outline.renumber_injective`: outlines that differ still do so with higher numbers;
* `Outline.renumber_sequence`, `Outline.renumber_choice`, `Outline.renumber_repetition`: the numbers
  may be raised before or after outlines are put together;
* `Outline.regex_renumber`: what an outline matches stays.
-/

import Mathlib.Data.List.Basic
import Offside.Proofs.Outlines

namespace Offside.Pattern

open Unicode (CharSet)

namespace Outline

/-- The outline with the numbers of its groups raised. -/
def renumber (shift : Nat) : Outline → Outline
  | group number body => group (number + shift) (body.renumber shift)
  | repeated greedy least most body => repeated greedy least most (body.renumber shift)
  | seq first rest => seq (first.renumber shift) (rest.renumber shift)
  | alt first rest => alt (first.renumber shift) (rest.renumber shift)
  | other => other

variable (shift : Nat)

theorem renumber_injective : Function.Injective (renumber shift) := by
  intro first second same
  induction first generalizing second with
  | group number body ih | repeated _ _ _ body ih =>
    cases second <;>
      simp only [renumber, reduceCtorEq, group.injEq, repeated.injEq,
        Nat.add_right_cancel_iff] at same ⊢
    grind
  | seq first rest ih ihRest | alt first rest ih ihRest =>
    cases second <;> simp only [renumber, reduceCtorEq, seq.injEq, alt.injEq] at same ⊢
    exact ⟨ih same.1, ihRest same.2⟩
  | _ => cases second <;> simp_all [renumber]

theorem regex_renumber (outline : Outline) : (outline.renumber shift).regex = outline.regex := by
  induction outline <;> simp_all [renumber, regex]

theorem takesNothing_renumber (outline : Outline) :
    (outline.renumber shift).takesNothing = outline.takesNothing := by
  induction outline <;> simp_all [renumber, takesNothing]

theorem formed_renumber {outline : Outline} (formed : outline.Formed) :
    (outline.renumber shift).Formed := by
  induction outline with
  | group number body ih | repeated _ _ _ body ih => exact ih formed
  | seq first rest ih ihRest | alt first rest ih ihRest => exact ⟨ih formed.1, ihRest formed.2⟩
  | _ => exact formed

/-! ### Sequences -/

theorem parts_renumber (outline : Outline) :
    (outline.renumber shift).parts = outline.parts.map (renumber shift) := by
  induction outline with
  | seq first rest _ ih => rw [renumber, parts, parts, ih, List.map_cons]
  | _ => rfl

theorem renumber_ofParts (outlines : List Outline) :
    (ofParts outlines).renumber shift = ofParts (outlines.map (renumber shift)) := by
  fun_induction ofParts outlines with
  | case1 => rfl
  | case2 only => rfl
  | case3 first rest several ih =>
    rw [renumber, ih, List.map_cons, ofParts]
    exact fun none => several (List.map_eq_nil_iff.mp none)

theorem map_renumber_joinPart (part : Outline) (outlines : List Outline) :
    (joinPart part outlines).map (renumber shift) =
      joinPart (part.renumber shift) (outlines.map (renumber shift)) := by
  cases part <;> cases outlines with
  | nil => rfl
  | cons outline rest => cases outline <;> rfl

theorem renumber_sequence (outlines : List Outline) :
    (sequence outlines).renumber shift = sequence (outlines.map (renumber shift)) := by
  have joined (pieces : List Outline) :
      (pieces.foldr joinPart []).map (renumber shift) =
        (pieces.map (renumber shift)).foldr joinPart [] := by
    induction pieces with
    | nil => rfl
    | cons piece pieces ih =>
      rw [List.foldr_cons, map_renumber_joinPart, ih, List.map_cons, List.foldr_cons]
  rw [sequence, sequence, renumber_ofParts, joined, List.map_flatMap, List.flatMap_map]
  simp only [parts_renumber]

/-! ### Choices -/

theorem branches_renumber (outline : Outline) :
    (outline.renumber shift).branches = outline.branches.map (renumber shift) := by
  induction outline with
  | alt first rest _ ih => rw [renumber, branches, branches, ih, List.map_cons]
  | _ => rfl

theorem flatMap_branches_map_renumber (outlines : List Outline) :
    (outlines.map (renumber shift)).flatMap branches =
      (outlines.flatMap branches).map (renumber shift) := by
  rw [List.map_flatMap, List.flatMap_map]
  simp only [branches_renumber]

theorem renumber_ofBranches (outlines : List Outline) :
    (ofBranches outlines).renumber shift = ofBranches (outlines.map (renumber shift)) := by
  fun_induction ofBranches outlines with
  | case1 => rfl
  | case2 only => rfl
  | case3 first rest several ih =>
    rw [renumber, ih, List.map_cons, ofBranches]
    exact fun none => several (List.map_eq_nil_iff.mp none)

theorem renumber_ofSet (unicode : Bool) (set : CharSet) :
    (ofSet unicode set).renumber shift = ofSet unicode set := by
  unfold ofSet
  split
  · rfl
  · split <;> rfl
  · rfl

theorem character?_renumber (outline : Outline) :
    (outline.renumber shift).character? = outline.character? := by
  cases outline <;> rfl

theorem members?_renumber (outline : Outline) :
    (outline.renumber shift).members? = outline.members? := by
  cases outline <;> rfl

theorem renumber_merge (outlines : List Outline) :
    (merge outlines).renumber shift = merge (outlines.map (renumber shift)) := by
  have same {kind : Outline → Option CharSet}
      (kept : ∀ outline, kind (outline.renumber shift) = kind outline) :
      (outlines.map (renumber shift)).mapM kind = outlines.mapM kind := by
    rw [List.mapM_map]
    exact congrArg outlines.mapM (funext kept)
  match outlines with
  | [] => rfl
  | [only] => rfl
  | first :: second :: rest =>
    have characters := same (character?_renumber shift)
    have classes := same (members?_renumber shift)
    simp only [List.map_cons] at characters classes
    rw [List.map_cons, List.map_cons, merge, merge, characters, classes]
    · split
      · exact renumber_ofSet shift true _
      · exact renumber_ofBranches shift _
    all_goals simp

theorem sequence?_renumber (outline : Outline) :
    (outline.renumber shift).sequence? = outline.sequence?.map (·.map (renumber shift)) := by
  cases outline with
  | seq first rest => rw [renumber, sequence?, sequence?, parts_renumber]; rfl
  | _ => rfl

theorem sharedStart_map_renumber (first second : List Outline) :
    sharedStart (first.map (renumber shift)) (second.map (renumber shift)) =
      (sharedStart first second).map (renumber shift) := by
  unfold sharedStart
  induction first generalizing second with
  | nil => rfl
  | cons outline first ih =>
    cases second with
    | nil => rfl
    | cons other second =>
      simp only [List.map_cons, List.zip_cons_cons, List.takeWhile_cons,
        (renumber_injective shift).eq_iff]
      split
      · rw [List.map_cons, ih, List.map_cons, List.map_cons]
      · rfl

theorem taken_map_renumber (outlines : List Outline) :
    taken (outlines.map (renumber shift)) =
      ((taken outlines).1.map (renumber shift), (taken outlines).2.map (renumber shift)) := by
  have sequences : ((outlines.flatMap branches).map (renumber shift)).mapM sequence? =
      ((outlines.flatMap branches).mapM sequence?).map (·.map (·.map (renumber shift))) := by
    induction outlines.flatMap branches with
    | nil => rfl
    | cons branch list ih =>
      rw [List.map_cons, List.mapM_cons, List.mapM_cons, ih, sequence?_renumber]
      cases branch.sequence? <;> cases list.mapM sequence? <;> rfl
  rw [taken, taken]
  dsimp only
  rw [flatMap_branches_map_renumber, ← renumber_merge, sequences]
  generalize (outlines.flatMap branches).mapM sequence? = whole
  cases whole with
  | none => cases merge (outlines.flatMap branches) <;> rfl
  | some lists =>
    cases lists with
    | nil => cases merge (outlines.flatMap branches) <;> rfl
    | cons first others =>
      have shared :
          (others.map (·.map (renumber shift))).foldl sharedStart (first.map (renumber shift)) =
          (others.foldl sharedStart first).map (renumber shift) := by
        induction others generalizing first with
        | nil => rfl
        | cons second others ih =>
          rw [List.map_cons, List.foldl_cons, List.foldl_cons, sharedStart_map_renumber, ih]
      cases merge (outlines.flatMap branches) with
      | alt _ _ =>
        simp only [renumber, Option.map_some, List.map_cons]
        rw [shared]
        simp [renumber_ofParts, List.map_drop]
      | _ => rfl

theorem renumber_choice (outlines : List Outline) :
    (choice outlines).renumber shift = choice (outlines.map (renumber shift)) := by
  rw [choice_eq, choice_eq, taken_map_renumber, flatMap_branches_map_renumber,
    flatMap_branches_map_renumber, List.isEmpty_map, ← renumber_merge, ← renumber_merge,
    apply_ite (renumber shift), renumber_sequence, List.map_append, List.map_singleton]

theorem renumber_repetition (greedy : Bool) (least : Nat) (most : Option Nat) (body : Outline) :
    (repetition greedy least most body).renumber shift =
      repetition greedy least most (body.renumber shift) := by
  unfold repetition
  rw [takesNothing_renumber]
  dsimp only
  split_ifs <;> rfl

end Outline

end Offside.Pattern
