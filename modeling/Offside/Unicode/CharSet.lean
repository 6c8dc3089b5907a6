/-
**Sets of characters.**

A `CharSet` is a set of characters built from ranges, tables, Boolean operations and closure under
case. `CharSet.contains` decides membership by the shape of the set, so each operation means what
its name says by definition.

* `contains_single`: the set of one character holds that character alone;
* `contains_unionOf`: what unions of many sets hold.
-/

import Offside.Text.Blank
import Offside.Unicode.CaseFolding

namespace Offside.Unicode

/-- A set of characters. -/
inductive CharSet
  /-- No character. -/
  | empty
  /-- The characters from `first` to `last`. -/
  | range (first last : Char)
  /-- The blanks. -/
  | blank
  /-- The characters of a table. -/
  | listed (members : CodeRanges)
  | union (left right : CharSet)
  | inter (left right : CharSet)
  | compl (set : CharSet)
  /-- The characters that differ from a member at most in case. -/
  | caseClosure (set : CharSet)
  /-- As `caseClosure`, for the letters of ASCII alone. -/
  | asciiCaseClosure (set : CharSet)

namespace CharSet

/-- The other case of a letter of ASCII. -/
def asciiOtherCase (c : Char) : Char :=
  if c.isLower then c.toUpper else if c.isUpper then c.toLower else c

/-- Whether a character is in the set. -/
def contains : CharSet → Char → Bool
  | empty, _ => false
  | range first last, c => decide (first ≤ c) && decide (c ≤ last)
  | blank, c => Text.isBlank c
  | listed members, c => members.contains c
  | union left right, c => left.contains c || right.contains c
  | inter left right, c => left.contains c && right.contains c
  | compl set, c => !set.contains c
  | caseClosure set, c => set.contains c || (caseVariants c).any set.contains
  | asciiCaseClosure set, c => set.contains c || set.contains (asciiOtherCase c)

/-- The set of one character. -/
def single (c : Char) : CharSet := .range c c

/-- Every character. -/
def any : CharSet := .compl .empty

/-- The characters of the first set that are not in the second. -/
def diff (left right : CharSet) : CharSet := .inter left (.compl right)

/-- The characters in exactly one of two sets. -/
def symmDiff (left right : CharSet) : CharSet :=
  .union (diff left right) (diff right left)

/-- The characters in one of several sets. -/
def unionOf (sets : List CharSet) : CharSet := sets.foldr .union .empty

/-- The characters of one of several tables. -/
def tables (members : List CodeRanges) : CharSet := unionOf (members.map .listed)

theorem contains_single (c d : Char) : (single c).contains d = decide (d = c) := by
  simp only [single, contains]
  rw [← Bool.decide_and]
  exact decide_eq_decide.mpr ⟨fun within => Char.le_antisymm within.2 within.1,
    fun same => same ▸ ⟨Char.le_refl _, Char.le_refl _⟩⟩

theorem contains_unionOf (sets : List CharSet) (c : Char) :
    (unionOf sets).contains c = sets.any fun set => set.contains c := by
  induction sets with
  | nil => rfl
  | cons set rest ih =>
    rw [List.any_cons, ← ih]
    rfl

end CharSet

end Offside.Unicode
