/-
**Matching by programs.**

A regular expression is assembled into a program whose instructions either take one character, look
at the neighbours of the current position, or go on at two places in an order of preference.
Matching keeps the list of all places reached so far, the most preferred first, and advances all of
them by one character at a time; a place that is reached twice at one position counts once, as what
it was reached by first. As soon as one place is the end of the program, everything that is less
preferred is dropped. The last end seen is the end of the match.

* `explore` follows everything that takes no character;
* `run` is the anchored match, one character of the text after the other;
* `findEnd` tries every start from left to right and takes the first that matches;
* `findEnd_eq_findFrom`: where a program asks for the start of the text first, one start is enough.
-/

import Offside.Pattern.Regex
import Std.Data.HashSet

namespace Offside.Pattern

open Unicode (CharSet)

/-- One instruction; the numbers are the places to go on at. -/
inductive Instr
  /-- The end of the program. -/
  | halt
  /-- Takes one character of the set. -/
  | take (set : CharSet) (next : Nat)
  /-- Goes on if the assertion holds. -/
  | check (assertion : Assertion) (next : Nat)
  /-- Goes on at both places; the first is preferred. -/
  | fork (preferred other : Nat)

/-- Instructions with the place to begin at. -/
structure Program where
  code : Array Instr
  entry : Nat

/-- A fork between the body of a repetition and what comes after it. -/
def Instr.choose (greedy : Bool) (body after : Nat) : Instr :=
  if greedy then .fork body after else .fork after body

/-- The number of instructions of an expression. -/
def Regex.size : Regex → Nat
  | .empty => 0
  | .one _ => 1
  | .assert _ => 1
  | .seq first second => first.size + second.size
  | .alt first second => first.size + second.size + 1
  | .opt _ body => body.size + 1
  | .star _ body => body.size + 1
  | .plus _ body => body.size + 1

/-- The instructions of an expression that are placed from `base` on and go on at `next`, with the
place where they begin. -/
def Regex.assemble : Regex → (base next : Nat) → Nat × List Instr
  | .empty, _, next => (next, [])
  | .one set, base, next => (base, [.take set next])
  | .assert assertion, base, next => (base, [.check assertion next])
  | .seq first second, base, next =>
    let tail := second.assemble (base + first.size) next
    let head := first.assemble base tail.1
    (head.1, head.2 ++ tail.2)
  | .alt first second, base, next =>
    let left := first.assemble (base + 1) next
    let right := second.assemble (base + 1 + first.size) next
    (base, .fork left.1 right.1 :: (left.2 ++ right.2))
  | .opt greedy body, base, next =>
    let inner := body.assemble (base + 1) next
    (base, .choose greedy inner.1 next :: inner.2)
  | .star greedy body, base, next =>
    let inner := body.assemble (base + 1) base
    (base, .choose greedy inner.1 next :: inner.2)
  | .plus greedy body, base, next =>
    let inner := body.assemble (base + 1) base
    (inner.1, .choose greedy inner.1 next :: inner.2)

theorem Regex.length_assemble (regex : Regex) (base next : Nat) :
    (regex.assemble base next).2.length = regex.size := by
  induction regex generalizing base next <;> simp [Regex.assemble, Regex.size, *]

/-- The program of an expression; its end is at place 0. -/
def Regex.program (regex : Regex) : Program :=
  let body := regex.assemble 1 0
  ⟨(Instr.halt :: body.2).toArray, body.1⟩

/-! ### Following what takes no character -/

/-- The number of places of a program that have not been seen. -/
def unseenCount (size : Nat) (seen : Std.HashSet Nat) : Nat :=
  ((List.range size).filter fun place => !seen.contains place).length

theorem length_filter_lt_of_mem {α : Type} {keep keepFewer : α → Bool} {x : α} {l : List α}
    (member : x ∈ l) (kept : keep x = true) (dropped : keepFewer x = false)
    (fewer : ∀ y, keepFewer y = true → keep y = true) :
    (l.filter keepFewer).length < (l.filter keep).length := by
  induction l with
  | nil => cases member
  | cons head tail ih =>
    have tailLe : (tail.filter keepFewer).length ≤ (tail.filter keep).length := by
      rw [← List.countP_eq_length_filter, ← List.countP_eq_length_filter]
      exact List.countP_mono_left fun y _ keptFewer => fewer y keptFewer
    rcases List.mem_cons.mp member with rfl | inTail
    · simp only [List.filter_cons, kept, dropped, if_true, List.length_cons]
      simpa using Nat.lt_succ_of_le tailLe
    · have tailLt := ih inTail
      cases keptFewer : keepFewer head with
      | true =>
        simp only [List.filter_cons, keptFewer, fewer head keptFewer, if_true, List.length_cons]
        omega
      | false =>
        rw [List.filter_cons_of_neg (by simp [keptFewer]), List.filter_cons]
        split
        · exact Nat.lt_succ_of_lt tailLt
        · exact tailLt

theorem unseenCount_insert_lt {size place : Nat} {seen : Std.HashSet Nat} (within : place < size)
    (fresh : place ∉ seen) : unseenCount size (seen.insert place) < unseenCount size seen := by
  refine length_filter_lt_of_mem (List.mem_range.mpr within) ?_ ?_ ?_
  · simpa using fresh
  · simp
  · intro y kept
    simp only [Std.HashSet.contains_insert, Bool.not_or, Bool.and_eq_true] at kept
    exact kept.2

/-- The instructions that take a character or end the program and that are reached from the places
`todo`, in order of preference, each once. Places in `seen` have been followed already. -/
def explore (code : Array Instr) (before after : Option Char) :
    (todo : List Nat) → (seen : Std.HashSet Nat) → List Instr
  | [], _ => []
  | place :: todo, seen =>
    if place ∈ seen then explore code before after todo seen
    else if within : place < code.size then
      let nowSeen := seen.insert place
      match code[place] with
      | .halt => .halt :: explore code before after todo nowSeen
      | .take set next => .take set next :: explore code before after todo nowSeen
      | .check assertion next =>
        if assertion.holds before after then explore code before after (next :: todo) nowSeen
        else explore code before after todo nowSeen
      | .fork preferred other => explore code before after (preferred :: other :: todo) nowSeen
    else explore code before after todo seen
termination_by todo seen => (unseenCount code.size seen, todo.length)
decreasing_by
  · exact Prod.Lex.right _ (Nat.lt_succ_self _)
  iterate 5 exact Prod.Lex.left _ _ (unseenCount_insert_lt within ‹_›)
  · exact Prod.Lex.right _ (Nat.lt_succ_self _)

/-! ### Taking characters -/

/-- Drops everything less preferred than the first end of the program, and the end itself; says
whether there was one. -/
def untilHalt : List Instr → List Instr × Bool
  | [] => ([], false)
  | .halt :: _ => ([], true)
  | instr :: rest => (instr :: (untilHalt rest).1, (untilHalt rest).2)

/-- The places to go on at after a character is taken. -/
def advance (c : Char) (threads : List Instr) : List Nat :=
  threads.filterMap fun
    | .take set next => if set.contains c then some next else none
    | _ => none

/-- Matches from the current position on: `before` is the character in front of it, `todo` are the
places reached there, `position` is the number of characters before it, and `best` the end of the
best match so far. -/
def run (code : Array Instr) (before : Option Char) (todo : List Nat) (text : List Char)
    (position : Nat) (best : Option Nat) : Option Nat :=
  let threads := untilHalt (explore code before text.head? todo {})
  let best := if threads.2 then some position else best
  match text with
  | [] => best
  | c :: rest =>
    match advance c threads.1 with
    | [] => best
    | next => run code (some c) next rest (position + 1) best

namespace Program

/-- The end of the preferred match that starts exactly here. -/
def matchHere (program : Program) (before : Option Char) (text : List Char) (position : Nat) :
    Option Nat :=
  run program.code before [program.entry] text position none

/-- The end of the leftmost match, the preferred one of those that start there; positions count
from the start of the text. -/
def findFrom (program : Program) (before : Option Char) (text : List Char) (position : Nat) :
    Option Nat :=
  match program.matchHere before text position with
  | some endPosition => some endPosition
  | none =>
    match text with
    | [] => none
    | c :: rest => findFrom program (some c) rest (position + 1)

/-- Whether the program begins with the question for the start of the text. -/
def isAnchored (program : Program) : Bool :=
  match program.code[program.entry]? with
  | some (.check .textStart _) => true
  | _ => false

/-- The end of the leftmost match in a text. -/
def findEnd (program : Program) (text : List Char) : Option Nat :=
  if program.isAnchored then program.matchHere none text 0 else program.findFrom none text 0

theorem matchHere_of_isAnchored {program : Program} (anchored : program.isAnchored = true)
    (c : Char) (text : List Char) (position : Nat) :
    program.matchHere (some c) text position = none := by
  rw [isAnchored] at anchored
  split at anchored
  · rename_i next start
    obtain ⟨within, shape⟩ := Array.getElem?_eq_some_iff.mp start
    have silent : explore program.code (some c) text.head? [program.entry] {} = [] := by
      rw [explore]
      simp [within, shape, Assertion.holds, explore]
    rw [matchHere, run.eq_def, silent]
    cases text <;> rfl
  · cases anchored

theorem findFrom_of_isAnchored {program : Program} (anchored : program.isAnchored = true)
    (c : Char) (text : List Char) (position : Nat) :
    program.findFrom (some c) text position = none := by
  induction text generalizing c position with
  | nil => rw [findFrom, matchHere_of_isAnchored anchored]
  | cons d rest ih =>
    rw [findFrom, matchHere_of_isAnchored anchored]
    exact ih d (position + 1)

/-- An anchored program need not be tried anywhere but at the start. -/
theorem findEnd_eq_findFrom (program : Program) (text : List Char) :
    program.findEnd text = program.findFrom none text 0 := by
  rw [findEnd]
  split
  · rename_i anchored
    rw [findFrom.eq_def]
    cases program.matchHere none text 0 with
    | some endPosition => rfl
    | none =>
      cases text with
      | nil => rfl
      | cons c rest => exact (findFrom_of_isAnchored anchored c rest 1).symm
  · rfl

end Program

end Offside.Pattern
