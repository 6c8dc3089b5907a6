/-
**Sets of code points as sorted ranges.**

The tables of the Unicode standard are kept as text, each range written in hexadecimal as
`first-last`, and a single code point alone: `"30-39 5F"` holds the ten digits and the low line. A
word such as `100-12E/2` stands for every second code point from the first to the last.
`CodeRanges.ofText` reads such a text, and `CodeRanges.contains` looks a character up.
-/

namespace Offside.Unicode

/-- The value of a hexadecimal digit; other characters count as zero. -/
def hexDigitValue (c : Char) : Nat :=
  if '0' ≤ c ∧ c ≤ '9' then c.toNat - '0'.toNat
  else if 'A' ≤ c ∧ c ≤ 'F' then c.toNat - 'A'.toNat + 10
  else if 'a' ≤ c ∧ c ≤ 'f' then c.toNat - 'a'.toNat + 10
  else 0

/-- The number that hexadecimal digits write. -/
def hexValue (digits : List Char) : Nat :=
  digits.foldl (fun value digit => 16 * value + hexDigitValue digit) 0

/-- The pieces of a text between the occurrences of a separator. -/
def splitAtChar (separator : Char) : List Char → List (List Char)
  | [] => [[]]
  | c :: rest =>
    if c = separator then [] :: splitAtChar separator rest
    else
      match splitAtChar separator rest with
      | [] => [[c]]
      | piece :: pieces => (c :: piece) :: pieces

/-- The words of a text between spaces and line breaks. -/
def words (text : String) : List (List Char) :=
  (splitAtChar ' ' (text.toList.map fun c => if c = '\n' then ' ' else c)).filter fun word =>
    word ≠ []

/-- A set of code points, as ranges in ascending order. -/
structure CodeRanges where
  ranges : List (Nat × Nat)
  deriving DecidableEq

namespace CodeRanges

/-- The range that a word without stride writes. -/
def rangeOfWord (word : List Char) : Nat × Nat :=
  match splitAtChar '-' word with
  | [first, last] => (hexValue first, hexValue last)
  | _ => (hexValue word, hexValue word)

/-- The code points from `first` to `last` that are a multiple of `stride` away from `first`, each
as a range of its own. -/
def spaced (first last stride : Nat) : List (Nat × Nat) :=
  (List.range ((last - first) / stride + 1)).map fun index =>
    (first + stride * index, first + stride * index)

/-- The ranges that one word of a table writes. -/
def rangesOfWord (word : List Char) : List (Nat × Nat) :=
  match splitAtChar '/' word with
  | [range, stride] =>
    let (first, last) := rangeOfWord range
    spaced first last (hexValue stride)
  | _ => [rangeOfWord word]

/-- Reads a table. -/
def ofText (text : String) : CodeRanges :=
  ⟨(words text).flatMap rangesOfWord⟩

/-- Whether a code point lies in one of the ranges; the search ends at the first range beyond it. -/
def holds (code : Nat) : List (Nat × Nat) → Bool
  | [] => false
  | (first, last) :: rest =>
    if code < first then false else if code ≤ last then true else holds code rest

/-- Whether a character is in the set. -/
def contains (set : CodeRanges) (c : Char) : Bool := holds c.toNat set.ranges

end CodeRanges

end Offside.Unicode
