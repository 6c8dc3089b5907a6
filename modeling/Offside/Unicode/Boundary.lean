/-
**Boundaries of sets.**

All characters stand in a line, in the order of their code points and without the gap of the
surrogates. A set of characters is known by its boundaries, the places on the line where members
begin or end, in ascending order. Sets with the same members have the same boundaries, which is
what `CharSet.canonical` is for: it lists the members as ranges that do not touch.

* `isWithin_combine`: a Boolean operation on two sets can be carried out on their boundaries;
* `pairwise_combine`: the result is in ascending order again.
-/

import Offside.Unicode.CharSet

namespace Offside.Unicode

namespace Boundary

/-- The place of a code point in the line; surrogates are at the place of what follows them. -/
def placeOf (code : Nat) : Nat :=
  if code < 0xD800 then code else if code < 0xE000 then 0xD800 else code - 0x800

/-- The code point at a place. -/
def codeAt (place : Nat) : Nat := if place < 0xD800 then place else place + 0x800

/-- The place behind the last character. -/
def lineEnd : Nat := placeOf 0x110000

/-- Whether a place lies within the boundaries: an odd number of them are at it or before it. -/
def isWithin : List Nat → Nat → Bool
  | [], _ => false
  | boundary :: rest, place => if place < boundary then false else !isWithin rest place

/-- A boundary where one is called for. -/
def mark (place : Nat) (changes : Bool) (rest : List Nat) : List Nat :=
  if changes then place :: rest else rest

/-- The boundaries of a Boolean combination of two sets. The flags say whether the places before the
first boundaries belong to the left and to the right set. -/
def combine (operation : Bool → Bool → Bool) (inLeft inRight : Bool) :
    List Nat → List Nat → List Nat
  | [], [] => []
  | boundary :: left, [] =>
    mark boundary (operation inLeft inRight != operation (!inLeft) inRight)
      (combine operation (!inLeft) inRight left [])
  | [], boundary :: right =>
    mark boundary (operation inLeft inRight != operation inLeft (!inRight))
      (combine operation inLeft (!inRight) [] right)
  | first :: left, second :: right =>
    if first < second then
      mark first (operation inLeft inRight != operation (!inLeft) inRight)
        (combine operation (!inLeft) inRight left (second :: right))
    else if second < first then
      mark second (operation inLeft inRight != operation inLeft (!inRight))
        (combine operation inLeft (!inRight) (first :: left) right)
    else
      mark first (operation inLeft inRight != operation (!inLeft) (!inRight))
        (combine operation (!inLeft) (!inRight) left right)
termination_by left right => left.length + right.length

theorem isWithin_eq_false_of_lt {boundaries : List Nat} {place : Nat}
    (before : ∀ boundary ∈ boundaries, place < boundary) : isWithin boundaries place = false := by
  cases boundaries with
  | nil => rfl
  | cons boundary rest => simp [isWithin, before boundary (List.mem_cons_self ..)]

theorem isWithin_mark (place boundary : Nat) (changes : Bool) (rest : List Nat)
    (before : place < boundary → isWithin rest place = false) :
    isWithin (mark boundary changes rest) place =
      if place < boundary then false else (changes != isWithin rest place) := by
  cases changes <;> by_cases less : place < boundary <;> simp_all [mark, isWithin]

theorem isWithin_cons (boundary : Nat) (rest : List Nat) (place : Nat) :
    isWithin (boundary :: rest) place = if place < boundary then false else !isWithin rest place :=
  rfl

theorem isWithin_of_lt_head (place : Nat) {boundary : Nat} {rest : List Nat}
    (ascends : (boundary :: rest).Pairwise (· < ·)) (before : place < boundary) :
    isWithin rest place = false :=
  isWithin_eq_false_of_lt fun _ member =>
    Nat.lt_trans before ((List.pairwise_cons.mp ascends).1 _ member)

/-- The combination changes exactly where the operation does. -/
theorem isWithin_combine (operation : Bool → Bool → Bool) (inLeft inRight : Bool)
    (left right : List Nat) (place : Nat) (leftAscends : left.Pairwise (· < ·))
    (rightAscends : right.Pairwise (· < ·)) :
    isWithin (combine operation inLeft inRight left right) place =
      (operation inLeft inRight !=
        operation (inLeft != isWithin left place) (inRight != isWithin right place)) := by
  have flip (x y : Bool) : ((!x) != y) = (x != !y) := by cases x <;> cases y <;> rfl
  fun_induction combine operation inLeft inRight left right with
  | case1 => simp [isWithin]
  | case2 inLeft inRight boundary left ih =>
    have ih := ih (List.pairwise_cons.mp leftAscends).2 rightAscends
    have early := isWithin_of_lt_head place leftAscends
    rw [isWithin_mark _ _ _ _ fun before => by simp [ih, early before, isWithin], isWithin_cons]
    split <;> simp [ih, flip, isWithin]
  | case3 inLeft inRight boundary right ih =>
    have ih := ih leftAscends (List.pairwise_cons.mp rightAscends).2
    have early := isWithin_of_lt_head place rightAscends
    rw [isWithin_mark _ _ _ _ fun before => by simp [ih, early before, isWithin], isWithin_cons]
    split <;> simp [ih, flip, isWithin]
  | case4 inLeft inRight first left second right less ih =>
    have ih := ih (List.pairwise_cons.mp leftAscends).2 rightAscends
    have early := isWithin_of_lt_head place leftAscends
    have apart (before : place < first) : place < second := Nat.lt_trans before less
    rw [isWithin_mark _ _ _ _ fun before => by simp [ih, early before, isWithin, apart before],
      isWithin_cons]
    split
    · simp [isWithin, apart ‹_›]
    · simp [ih, flip]
  | case5 inLeft inRight first left second right _ less ih =>
    have ih := ih leftAscends (List.pairwise_cons.mp rightAscends).2
    have early := isWithin_of_lt_head place rightAscends
    have apart (before : place < second) : place < first := Nat.lt_trans before less
    rw [isWithin_mark _ _ _ _ fun before => by simp [ih, early before, isWithin, apart before],
      isWithin_cons second]
    split
    · simp [isWithin, apart ‹_›]
    · simp [ih, flip]
  | case6 inLeft inRight first left second right notLess notMore ih =>
    have ih := ih (List.pairwise_cons.mp leftAscends).2 (List.pairwise_cons.mp rightAscends).2
    obtain rfl : first = second := by omega
    have earlyLeft := isWithin_of_lt_head place leftAscends
    have earlyRight := isWithin_of_lt_head place rightAscends
    rw [isWithin_mark _ _ _ _ fun before => by simp [ih, earlyLeft before, earlyRight before],
      isWithin_cons, isWithin_cons]
    split <;> simp [ih, flip]

theorem mem_of_mem_mark {place boundary : Nat} {changes : Bool} {rest : List Nat}
    (member : boundary ∈ mark place changes rest) : boundary = place ∨ boundary ∈ rest := by
  cases changes <;> simp_all [mark]

theorem mem_of_mem_combine {operation : Bool → Bool → Bool} {inLeft inRight : Bool}
    {left right : List Nat} {boundary : Nat}
    (member : boundary ∈ combine operation inLeft inRight left right) :
    boundary ∈ left ∨ boundary ∈ right := by
  fun_induction combine operation inLeft inRight left right with
  | case1 => cases member
  | case2 _ _ _ _ ih | case3 _ _ _ _ ih | case4 _ _ _ _ _ _ _ ih | case5 _ _ _ _ _ _ _ _ ih
  | case6 _ _ _ _ _ _ _ _ ih =>
    rcases mem_of_mem_mark member with rfl | inRest
    · simp
    · have := ih inRest
      grind

theorem pairwise_mark {place : Nat} {changes : Bool} {rest : List Nat}
    (ascends : rest.Pairwise (· < ·)) (before : ∀ boundary ∈ rest, place < boundary) :
    (mark place changes rest).Pairwise (· < ·) := by
  cases changes
  · exact ascends
  · exact List.pairwise_cons.mpr ⟨before, ascends⟩

/-- The boundaries of a combination are in ascending order again. -/
theorem pairwise_combine (operation : Bool → Bool → Bool) (inLeft inRight : Bool)
    {left right : List Nat} (leftAscends : left.Pairwise (· < ·))
    (rightAscends : right.Pairwise (· < ·)) :
    (combine operation inLeft inRight left right).Pairwise (· < ·) := by
  fun_induction combine operation inLeft inRight left right with
  | case1 => exact .nil
  | case2 inLeft inRight boundary left ih =>
    obtain ⟨below, leftAscends⟩ := List.pairwise_cons.mp leftAscends
    refine pairwise_mark (ih leftAscends rightAscends) fun other member => ?_
    rcases mem_of_mem_combine member with member | member
    · exact below _ member
    · cases member
  | case3 inLeft inRight boundary right ih =>
    obtain ⟨below, rightAscends⟩ := List.pairwise_cons.mp rightAscends
    refine pairwise_mark (ih leftAscends rightAscends) fun other member => ?_
    rcases mem_of_mem_combine member with member | member
    · cases member
    · exact below _ member
  | case4 inLeft inRight first left second right less ih =>
    obtain ⟨below, leftAscends⟩ := List.pairwise_cons.mp leftAscends
    refine pairwise_mark (ih leftAscends rightAscends) fun other member => ?_
    rcases mem_of_mem_combine member with member | member
    · exact below _ member
    · rcases List.mem_cons.mp member with rfl | member
      · exact less
      · exact Nat.lt_trans less ((List.pairwise_cons.mp rightAscends).1 _ member)
  | case5 inLeft inRight first left second right _ less ih =>
    obtain ⟨below, rightAscends⟩ := List.pairwise_cons.mp rightAscends
    refine pairwise_mark (ih leftAscends rightAscends) fun other member => ?_
    rcases mem_of_mem_combine member with member | member
    · rcases List.mem_cons.mp member with rfl | member
      · exact less
      · exact Nat.lt_trans less ((List.pairwise_cons.mp leftAscends).1 _ member)
    · exact below _ member
  | case6 inLeft inRight first left second right notLess notMore ih =>
    obtain rfl : first = second := by omega
    obtain ⟨belowLeft, leftAscends⟩ := List.pairwise_cons.mp leftAscends
    obtain ⟨belowRight, rightAscends⟩ := List.pairwise_cons.mp rightAscends
    refine pairwise_mark (ih leftAscends rightAscends) fun other member => ?_
    rcases mem_of_mem_combine member with member | member
    · exact belowLeft _ member
    · exact belowRight _ member

/-- Union on boundaries. -/
def union (left right : List Nat) : List Nat := combine (· || ·) false false left right

/-- The boundaries of the places from `first` on and before `next`. -/
def span (first next : Nat) : List Nat :=
  if first < next ∧ first < lineEnd then (if next < lineEnd then [first, next] else [first]) else []

/-- Adds a span to boundaries; it is cheap if the span lies before all of them. -/
def addSpan (first next : Nat) (boundaries : List Nat) : List Nat :=
  match boundaries with
  | [] => span first next
  | boundary :: rest =>
    if first < next ∧ next < boundary then first :: next :: boundary :: rest
    else if first < next ∧ next = boundary then first :: rest
    else union (span first next) boundaries

/-- The boundaries of code points given as ranges. -/
def ofRanges (ranges : List (Nat × Nat)) : List Nat :=
  ranges.foldr (fun range => addSpan (placeOf range.1) (placeOf (range.2 + 1))) []

/-- The boundaries of single code points. -/
def ofCodes (codes : List Nat) : List Nat :=
  ofRanges ((codes.mergeSort (· ≤ ·)).map fun code => (code, code))

/-- The ranges of code points between boundaries. -/
def toRanges : List Nat → List (Nat × Nat)
  | [] => []
  | [first] => [(codeAt first, 0x10FFFF)]
  | first :: next :: rest => (codeAt first, codeAt (next - 1)) :: toRanges rest

/-- Whether a code point lies within the boundaries. -/
def holds (boundaries : List Nat) (code : Nat) : Bool := isWithin boundaries (placeOf code)

/-- The boundaries of what differs from a member at most in case: first everything that members fold
to is added, then everything that folds to it. -/
def closeUnderCase (boundaries : List Nat) : List Nat :=
  let folded := union boundaries
    (ofCodes ((foldingPairs.filter fun folding => holds boundaries folding.1).map (·.2)))
  union folded (ofCodes ((foldingPairs.filter fun folding => holds folded folding.2).map (·.1)))

/-- The letters of ASCII, each with the same letter in the other case. -/
def asciiLetters : List (Nat × Nat) :=
  (List.range 26).flatMap fun index => [(0x41 + index, 0x61 + index), (0x61 + index, 0x41 + index)]

/-- As `closeUnderCase`, for the letters of ASCII alone. -/
def closeUnderAsciiCase (boundaries : List Nat) : List Nat :=
  union boundaries
    (ofCodes ((asciiLetters.filter fun letter => holds boundaries letter.1).map (·.2)))

/-- The ranges of the blanks. -/
def blanks : List (Nat × Nat) :=
  [(0x09, 0x0D), (0x20, 0x20), (0x85, 0x85), (0xA0, 0xA0), (0x1680, 0x1680), (0x2000, 0x200A),
   (0x2028, 0x2029), (0x202F, 0x202F), (0x205F, 0x205F), (0x3000, 0x3000)]

end Boundary

namespace CharSet

/-- The boundaries of a set. -/
def boundaries : CharSet → List Nat
  | empty => []
  | range first last =>
    Boundary.span (Boundary.placeOf first.toNat) (Boundary.placeOf (last.toNat + 1))
  | blank => Boundary.ofRanges Boundary.blanks
  | listed members => Boundary.ofRanges members.ranges
  | union left right => Boundary.union left.boundaries right.boundaries
  | inter left right => Boundary.combine (· && ·) false false left.boundaries right.boundaries
  | compl set => Boundary.combine (fun left right => left && !right) false false [0] set.boundaries
  | caseClosure set => Boundary.closeUnderCase set.boundaries
  | asciiCaseClosure set => Boundary.closeUnderAsciiCase set.boundaries

/-- The members of a set as the least number of ranges, in ascending order. -/
def canonical (set : CharSet) : CodeRanges := ⟨Boundary.toRanges set.boundaries⟩

end CharSet

end Offside.Unicode
