/-
**Classes of characters in their normal form.**

The normal form of a class lists its members as ranges that do not touch, and the class can be read
off that list again: ranges and boundaries say the same. So a class that is put together from
characters and from classes in normal form holds what its parts hold.

* `Boundary.Sound`: boundaries in ascending order and on the line, which all sets have;
* `Boundary.holds_toRanges`: the ranges hold what lies within the boundaries;
* `Boundary.isWithin_ofRanges_toRanges`: the boundaries of the ranges are those they were made from;
* `CharSet.Known`: sets whose boundaries tell their members; characters, classes in normal form and
  unions are of this kind;
* `CharSet.contains_canonical`: the normal form of such a set has the same members.
-/

import Mathlib.Data.Char
import Mathlib.Data.List.Basic
import Offside.Unicode.Boundary

namespace Offside.Unicode

namespace Boundary

/-! ### The line of characters -/

theorem placeOf_codeAt (place : Nat) : placeOf (codeAt place) = place := by
  unfold placeOf codeAt
  split_ifs <;> omega

/-- The place behind a place. -/
theorem placeOf_codeAt_pred {place : Nat} (positive : 0 < place) :
    placeOf (codeAt (place - 1) + 1) = place := by
  unfold placeOf codeAt
  split_ifs <;> omega

/-- No character is a surrogate, and the last one is known. -/
theorem char_bounds (c : Char) : c.toNat < 0xD800 ∨ 0xDFFF < c.toNat ∧ c.toNat < 0x110000 := c.valid

theorem toNat_ofNat {code : Nat} (valid : code.isValidChar) : (Char.ofNat code).toNat = code := by
  rw [Char.ofNat, dif_pos valid]
  rfl

theorem placeOf_char_lt (c : Char) : placeOf c.toNat < lineEnd := by
  have := char_bounds c
  unfold lineEnd placeOf
  split_ifs <;> omega

/-- Characters stand in the order of their code points. -/
theorem placeOf_le_iff (code : Nat) (c : Char) :
    placeOf code ≤ placeOf c.toNat ↔ code ≤ c.toNat := by
  have := char_bounds c
  unfold placeOf
  split_ifs <;> omega

theorem lt_placeOf_succ_iff (code : Nat) (c : Char) :
    placeOf c.toNat < placeOf (code + 1) ↔ c.toNat ≤ code := by
  rw [← not_le, placeOf_le_iff]
  omega

theorem codeAt_le_iff (place : Nat) (c : Char) :
    codeAt place ≤ c.toNat ↔ place ≤ placeOf c.toNat := by
  rw [← placeOf_le_iff, placeOf_codeAt]

theorem le_codeAt_pred_iff {place : Nat} (positive : 0 < place) (c : Char) :
    c.toNat ≤ codeAt (place - 1) ↔ placeOf c.toNat < place := by
  rw [← lt_placeOf_succ_iff, placeOf_codeAt_pred positive]

/-! ### Sound boundaries -/

/-- Boundaries in ascending order, none of them behind the last character. -/
structure Sound (boundaries : List Nat) : Prop where
  ascends : boundaries.Pairwise (· < ·)
  within : ∀ boundary ∈ boundaries, boundary < lineEnd

theorem sound_nil : Sound [] := ⟨.nil, List.forall_mem_nil _⟩

theorem sound_combine (operation : Bool → Bool → Bool) (inLeft inRight : Bool)
    {left right : List Nat} (soundLeft : Sound left) (soundRight : Sound right) :
    Sound (combine operation inLeft inRight left right) := by
  refine ⟨pairwise_combine operation inLeft inRight soundLeft.ascends soundRight.ascends, ?_⟩
  intro boundary member
  rcases mem_of_mem_combine member with inLeft | inRight
  · exact soundLeft.within boundary inLeft
  · exact soundRight.within boundary inRight

theorem sound_union {left right : List Nat} (soundLeft : Sound left) (soundRight : Sound right) :
    Sound (union left right) :=
  sound_combine _ _ _ soundLeft soundRight

theorem sound_span (first next : Nat) : Sound (span first next) := by
  unfold span
  split_ifs with starts ends
  · constructor <;> simp [starts, ends]
  · constructor <;> simp [starts]
  · exact sound_nil

theorem sound_addSpan (first next : Nat) {boundaries : List Nat} (sound : Sound boundaries) :
    Sound (addSpan first next boundaries) := by
  unfold addSpan
  split
  · exact sound_span first next
  · rename_i boundary rest
    obtain ⟨above, ascends⟩ := List.pairwise_cons.mp sound.ascends
    obtain ⟨onLine, within⟩ := List.forall_mem_cons.mp sound.within
    split_ifs with apart touches
    · constructor
      · simp only [List.pairwise_cons, List.forall_mem_cons]
        refine ⟨⟨apart.1, by omega, fun other member => ?_⟩, ⟨apart.2, fun other member => ?_⟩,
          above, ascends⟩
        · exact Nat.lt_trans apart.1 (Nat.lt_trans apart.2 (above other member))
        · exact Nat.lt_trans apart.2 (above other member)
      · simp only [List.forall_mem_cons]
        exact ⟨by omega, by omega, onLine, within⟩
    · obtain ⟨starts, rfl⟩ := touches
      exact
        ⟨List.pairwise_cons.mpr
          ⟨fun other member => Nat.lt_trans starts (above other member), ascends⟩,
        List.forall_mem_cons.mpr ⟨Nat.lt_trans starts onLine, within⟩⟩
    · exact sound_union (sound_span first next) sound

theorem sound_ofRanges (ranges : List (Nat × Nat)) : Sound (ofRanges ranges) := by
  induction ranges with
  | nil => exact sound_nil
  | cons range ranges ih => exact sound_addSpan _ _ ih

/-- The boundaries of every set are sound. -/
theorem sound_boundaries (set : CharSet) : Sound set.boundaries := by
  induction set with
  | empty => exact sound_nil
  | range first last => exact sound_span _ _
  | blank | listed members => exact sound_ofRanges _
  | union left right soundLeft soundRight | inter left right soundLeft soundRight =>
    exact sound_combine _ _ _ soundLeft soundRight
  | compl set sound =>
    have whole : Sound [0] := ⟨List.pairwise_singleton _ _, by simp [lineEnd, placeOf]⟩
    exact sound_combine _ _ _ whole sound
  | caseClosure set sound =>
    exact sound_union (sound_union sound (sound_ofRanges _)) (sound_ofRanges _)
  | asciiCaseClosure set sound => exact sound_union sound (sound_ofRanges _)

/-! ### What lies within -/

theorem isWithin_union {left right : List Nat} (soundLeft : Sound left) (soundRight : Sound right)
    (place : Nat) :
    isWithin (union left right) place = (isWithin left place || isWithin right place) := by
  rw [union, isWithin_combine _ _ _ _ _ _ soundLeft.ascends soundRight.ascends]
  simp

theorem isWithin_span (first next : Nat) {place : Nat} (onLine : place < lineEnd) :
    isWithin (span first next) place = (decide (first ≤ place) && decide (place < next)) := by
  rw [Bool.eq_iff_iff, Bool.and_eq_true, decide_eq_true_eq, decide_eq_true_eq]
  unfold span
  split_ifs with starts ends
  · simp only [isWithin]
    split_ifs <;> simp <;> omega
  · simp only [isWithin]
    split_ifs <;> simp <;> omega
  · simp [isWithin]
    omega

theorem isWithin_addSpan (first next : Nat) {boundaries : List Nat} (sound : Sound boundaries)
    {place : Nat} (onLine : place < lineEnd) :
    isWithin (addSpan first next boundaries) place =
      ((decide (first ≤ place) && decide (place < next)) || isWithin boundaries place) := by
  unfold addSpan
  split
  · rw [isWithin_span first next onLine, isWithin, Bool.or_false]
  · rename_i boundary rest
    have early := isWithin_of_lt_head place sound.ascends
    rw [Bool.eq_iff_iff, Bool.or_eq_true, Bool.and_eq_true, decide_eq_true_eq, decide_eq_true_eq]
    split_ifs with apart touches
    · simp only [isWithin]
      split_ifs <;> simp <;> omega
    · obtain ⟨starts, rfl⟩ := touches
      rw [isWithin_cons, isWithin_cons]
      by_cases inside : place < next
      · simp [inside, early inside]
      · have reached : ¬ place < first := by omega
        simp [inside, reached]
    · rw [isWithin_union (sound_span first next) sound, isWithin_span first next onLine]
      simp

theorem isWithin_ofRanges (ranges : List (Nat × Nat)) {place : Nat} (onLine : place < lineEnd) :
    isWithin (ofRanges ranges) place =
      ranges.any fun range => decide (placeOf range.1 ≤ place) &&
        decide (place < placeOf (range.2 + 1)) := by
  induction ranges with
  | nil => rfl
  | cons range ranges ih =>
    rw [List.any_cons, ← ih]
    exact isWithin_addSpan _ _ (sound_ofRanges ranges) onLine

/-- What is tested of each range when a place is looked up. -/
theorem isWithin_cons_cons {first next : Nat} {rest : List Nat}
    (sound : Sound (first :: next :: rest)) (place : Nat) :
    isWithin (first :: next :: rest) place =
      ((decide (first ≤ place) && decide (place < next)) || isWithin rest place) := by
  obtain ⟨above, ascends⟩ := List.pairwise_cons.mp sound.ascends
  have early := isWithin_of_lt_head place ascends
  have starts : first < next := above next List.mem_cons_self
  rw [Bool.eq_iff_iff, Bool.or_eq_true, Bool.and_eq_true, decide_eq_true_eq, decide_eq_true_eq]
  simp only [isWithin]
  split_ifs with before inside
  · simp [early (Nat.lt_trans before starts)]
    omega
  · simp [early inside]
    omega
  · simp
    omega

theorem Sound.drop_two {first next : Nat} {rest : List Nat}
    (sound : Sound (first :: next :: rest)) :
    Sound rest :=
  ⟨(List.pairwise_cons.mp (List.pairwise_cons.mp sound.ascends).2).2, fun boundary member =>
    sound.within boundary (List.mem_cons_of_mem _ (List.mem_cons_of_mem _ member))⟩

/-- The boundaries of ranges are those that the ranges were made from. -/
theorem isWithin_ofRanges_toRanges {boundaries : List Nat} (sound : Sound boundaries) {place : Nat}
    (onLine : place < lineEnd) :
    isWithin (ofRanges (toRanges boundaries)) place = isWithin boundaries place := by
  rw [isWithin_ofRanges _ onLine]
  fun_induction toRanges boundaries with
  | case1 => rfl
  | case2 first =>
    have ends : place < placeOf (0x10FFFF + 1) := onLine
    rw [List.any_cons, placeOf_codeAt, decide_eq_true ends, isWithin_cons]
    by_cases starts : first ≤ place
    · simp [starts, Nat.not_lt.mpr starts, isWithin]
    · simp [starts, Nat.not_le.mp starts]
  | case3 first next rest ih =>
    have starts : first < next := (List.pairwise_cons.mp sound.ascends).1 next List.mem_cons_self
    rw [List.any_cons, ih sound.drop_two, isWithin_cons_cons sound, placeOf_codeAt,
      placeOf_codeAt_pred (Nat.zero_lt_of_lt starts)]

/-- Ranges hold what lies within the boundaries that they were made from. -/
theorem holds_toRanges {boundaries : List Nat} (sound : Sound boundaries) (c : Char) :
    CodeRanges.holds c.toNat (toRanges boundaries) = isWithin boundaries (placeOf c.toNat) := by
  fun_induction toRanges boundaries with
  | case1 => rfl
  | case2 first =>
    have last : c.toNat ≤ 0x10FFFF := by
      have := char_bounds c
      omega
    have starts : c.toNat < codeAt first ↔ placeOf c.toNat < first := by
      rw [← not_le, ← not_le, codeAt_le_iff]
    simp [CodeRanges.holds, isWithin, last, starts]
  | case3 first next rest ih =>
    have starts : first < next := (List.pairwise_cons.mp sound.ascends).1 next List.mem_cons_self
    have below := codeAt_le_iff first c
    have upTo := le_codeAt_pred_iff (Nat.zero_lt_of_lt starts) c
    rw [CodeRanges.holds, ih sound.drop_two, Bool.eq_iff_iff]
    rw [isWithin_cons_cons sound]
    have early := isWithin_of_lt_head (placeOf c.toNat) (List.pairwise_cons.mp sound.ascends).2
    split_ifs with before inside
    · have : isWithin rest (placeOf c.toNat) = false := early (by omega)
      simp [this]
      omega
    · simp
      omega
    · simp
      omega

/-- What is on the line is a character. -/
theorem isValidChar_codeAt {place : Nat} (onLine : place < lineEnd) :
    (codeAt place).isValidChar := by
  have bound : place < 0x110000 - 0x800 := onLine
  unfold codeAt Nat.isValidChar
  split_ifs <;> omega

/-- Every range between sound boundaries begins with a character. -/
theorem isValidChar_of_mem_toRanges {boundaries : List Nat} (sound : Sound boundaries) :
    ∀ range ∈ toRanges boundaries, range.1.isValidChar := by
  fun_induction toRanges boundaries with
  | case1 => exact List.forall_mem_nil _
  | case2 first =>
    exact List.forall_mem_singleton.mpr (isValidChar_codeAt (sound.within first List.mem_cons_self))
  | case3 first next rest ih =>
    exact List.forall_mem_cons.mpr
      ⟨isValidChar_codeAt (sound.within first List.mem_cons_self), ih sound.drop_two⟩

end Boundary

/-! ### Sets whose boundaries tell their members -/

namespace CharSet

open Boundary

/-- A set that holds the characters within its boundaries. -/
def Known (set : CharSet) : Prop :=
  ∀ c : Char, isWithin set.boundaries (placeOf c.toNat) = set.contains c

theorem known_single (c : Char) : (single c).Known := by
  intro d
  rw [single, boundaries, isWithin_span _ _ (placeOf_char_lt d), contains, Bool.eq_iff_iff,
    Bool.and_eq_true, Bool.and_eq_true, decide_eq_true_eq, decide_eq_true_eq, decide_eq_true_eq,
    decide_eq_true_eq, placeOf_le_iff, lt_placeOf_succ_iff]
  exact Iff.rfl

/-- A class in normal form is known. -/
theorem known_listed {boundaries : List Nat} (sound : Sound boundaries) :
    (listed ⟨toRanges boundaries⟩).Known := by
  intro c
  rw [CharSet.boundaries, isWithin_ofRanges_toRanges sound (placeOf_char_lt c), contains,
    CodeRanges.contains, holds_toRanges sound]

theorem known_unionOf {sets : List CharSet} (known : ∀ set ∈ sets, set.Known) :
    (unionOf sets).Known := by
  induction sets with
  | nil => exact fun _ => rfl
  | cons set rest ih =>
    obtain ⟨first, others⟩ := List.forall_mem_cons.mp known
    intro c
    have union :=
      isWithin_union (sound_boundaries set) (sound_boundaries (unionOf rest)) (placeOf c.toNat)
    rw [first c, ih others c] at union
    exact union

/-- The normal form of a known set has the same members. -/
theorem contains_canonical {set : CharSet} (known : set.Known) (c : Char) :
    (listed set.canonical).contains c = set.contains c := by
  rw [contains, canonical, CodeRanges.contains, holds_toRanges (sound_boundaries set), known c]

end CharSet

end Offside.Unicode
