/-
**Flags of pattern text.**

A pattern turns flags on and off for the rest of the group it stands in: `(?i)` ignores case from
there on, `(?s-m:…)` sets one flag and clears another for a group alone. In verbose text blanks
and comments, from `#` to the end of the line, mean nothing.

* `length_skipSpace_le`: skipping never makes the text longer.
-/

import Offside.Pattern.Regex

namespace Offside.Pattern

/-- The flags in force at a place of a pattern. -/
structure Flags where
  /-- `i`: letters match without regard to case. -/
  ignoreCase : Bool := false
  /-- `m`: `^` and `$` match at line ends as well. -/
  multiLine : Bool := false
  /-- `s`: the dot matches line ends as well. -/
  dotAll : Bool := false
  /-- `U`: plain repetitions are lazy, and those with a question mark greedy. -/
  swapGreed : Bool := false
  /-- `u`: classes and words are those of Unicode. -/
  unicode : Bool := true
  /-- `R`: a carriage return ends a line as well. -/
  crlf : Bool := false
  /-- `x`: blanks and comments mean nothing. -/
  verbose : Bool := false
  deriving DecidableEq

namespace Flags

/-- Sets or clears the flag that a letter stands for. -/
def set? (flags : Flags) (letter : Char) (value : Bool) : Option Flags :=
  match letter with
  | 'i' => some { flags with ignoreCase := value }
  | 'm' => some { flags with multiLine := value }
  | 's' => some { flags with dotAll := value }
  | 'U' => some { flags with swapGreed := value }
  | 'u' => some { flags with unicode := value }
  | 'R' => some { flags with crlf := value }
  | 'x' => some { flags with verbose := value }
  | _ => none

end Flags

/-- What a list of flags says: the flags after it, whether it was empty, and the character that
ended it, a colon or a closing parenthesis. -/
structure FlagList where
  flags : Flags
  isEmpty : Bool
  closing : Char

/-- Reads a list of flags. Each letter and the minus sign stand at most once, and a letter follows
the minus sign. `seen` holds the letters read so far; `negated` says that the minus sign was read
and `dangling` that it was read last. -/
def readFlags (flags : Flags) (seen : List Char) (negated dangling : Bool) :
    List Char → Option (FlagList × List Char)
  | [] => none
  | c :: rest =>
    if c = ':' ∨ c = ')' then
      if dangling then none else some (⟨flags, seen.isEmpty && !negated, c⟩, rest)
    else if c = '-' then
      if negated then none else readFlags flags seen true true rest
    else if seen.contains c then none
    else
      match flags.set? c !negated with
      | none => none
      | some flags => readFlags flags (c :: seen) negated false rest

/-- Drops blanks and comments. -/
def dropSpace (inComment : Bool) : List Char → List Char
  | [] => []
  | c :: rest =>
    if inComment then dropSpace (c ≠ '\n') rest
    else if Text.isBlank c then dropSpace false rest
    else if c = '#' then dropSpace true rest
    else c :: rest

/-- What is left of a pattern after blanks and comments, if they mean nothing here. -/
def skipSpace (verbose : Bool) (text : List Char) : List Char :=
  if verbose then dropSpace false text else text

theorem length_dropSpace_le (inComment : Bool) (text : List Char) :
    (dropSpace inComment text).length ≤ text.length := by
  induction text generalizing inComment with
  | nil => exact Nat.le_refl _
  | cons c rest ih =>
    rw [dropSpace]
    split
    · exact Nat.le_succ_of_le (ih _)
    · split
      · exact Nat.le_succ_of_le (ih _)
      · split
        · exact Nat.le_succ_of_le (ih _)
        · exact Nat.le_refl _

theorem length_skipSpace_le (verbose : Bool) (text : List Char) :
    (skipSpace verbose text).length ≤ text.length := by
  rw [skipSpace]
  split
  · exact length_dropSpace_le _ _
  · exact Nat.le_refl _

end Offside.Pattern
