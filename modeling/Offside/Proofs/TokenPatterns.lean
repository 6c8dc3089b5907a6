/-
**Three kinds of patterns.**

The rules of many languages are of a few kinds: a single character, a word, which is as long as it
can be, and a text between two delimiters, in which a backslash takes the next character with it.
For each of them it is told here what it takes of a text. All three are anchored at the start.

* `findEnd_one`, `findEnd_word`: for characters and words nothing is left open;
* `Body`: what may stand between delimiters, piece by piece; `OpenBody`, with a backslash at the end
  that takes nothing with it; `Closes`: where the one and the other end;
* `run_turn`: one turn of the loop. It is lazy: it is left at the first delimiter that is not in a
  piece;
* `findEnd_delimited`, `exists_closes_of_findEnd`: what is taken between delimiters is what `Closes`
  says. The inductions are on the body and on the text;
* `Rule.compile_eq_ok`: the rule that is made from an expression that was read;
* `Lexicon.longestMatch_of_alone`: where one rule matches alone, its match is the longest.
-/

import Offside.Lexicon.Table
import Offside.Proofs.Preference

namespace Offside

open Pattern (Regex)
open Unicode (CharSet)

deriving instance DecidableEq for CharSet
deriving instance DecidableEq for Regex

namespace Pattern

/-! ### Single steps -/

section Steps

variable {code : Array Instr} {before : Option Char} {place : Nat}

theorem explore_singleton {after : Option Char} {instr : Instr} (here : code[place]? = some instr)
    (stays : instr.ahead before after = []) :
    explore code before after [place] {} = instr.kept := by
  rw [explore_of_fresh Std.HashSet.not_mem_empty here, stays, List.nil_append, explore_nil,
    List.append_nil]

theorem run_halt (here : code[place]? = some .halt) (text : List Char) (position : Nat) :
    run code before [place] text position none = some position :=
  run_of_explore (explore_singleton here rfl)

theorem run_take {set : CharSet} {next : Nat} (here : code[place]? = some (.take set next))
    (c : Char)
    (rest : List Char) (position : Nat) : run code before [place] (c :: rest) position none =
      if set.contains c then run code (some c) [next] rest (position + 1) none else none := by
  rw [run_of_explore (explore_singleton here rfl)]
  exact List.findSome?_singleton

/-- A program that asks for the start of the text and then takes a character. -/
theorem findEnd_of_take {set : CharSet} {next : Nat} (start : code[1]? = some (.check .textStart 2))
    (here : code[2]? = some (.take set next)) (c : Char) (rest : List Char) :
    Program.findEnd ⟨code, 1⟩ (c :: rest) =
      if set.contains c then run code (some c) [next] rest 1 none else none := by
  have anchored : Program.isAnchored ⟨code, 1⟩ = true := by
    simp only [Program.isAnchored, start]
  have fresh : 2 ∉ (∅ : Std.HashSet Nat).insert 1 := by
    simp
  have reached : explore code none (c :: rest).head? [1] {} = [.take set next] := by
    rw [explore_of_fresh Std.HashSet.not_mem_empty start]
    show explore code none _ [2] _ = _
    rw [explore_of_fresh fresh here, Instr.ahead, List.nil_append, explore_nil, List.append_nil,
      Instr.kept]
  rw [Program.findEnd, if_pos anchored, Program.matchHere, run_of_explore reached]
  exact List.findSome?_singleton

end Steps

/-- An expression at the start of a text. -/
def Regex.anchored (body : Regex) : Regex := .seq (.assert .textStart) body

/-! ### Single characters -/

/-- The program for one character. -/
def oneCode (set : CharSet) : Array Instr := #[.halt, .check .textStart 2, .take set 0]

theorem findEnd_one (set : CharSet) (c : Char) (rest : List Char) :
    (Regex.anchored (.one set)).program.findEnd (c :: rest) = if set.contains c then some 1
      else none := by
  have program : (Regex.anchored (.one set)).program = ⟨oneCode set, 1⟩ := rfl
  rw [program, findEnd_of_take rfl rfl, run_halt rfl]

/-! ### Words -/

/-- A character of one set, and then as many of another as there are. -/
def Regex.word (first more : CharSet) : Regex := .seq (.one first) (.star true (.one more))

section Word

variable (first more : CharSet)

/-- The program for words. -/
def wordCode : Array Instr := #[.halt, .check .textStart 2, .take first 3, .fork 4 0, .take more 3]

/-- The loop goes on as long as it can. -/
theorem run_word (text : List Char) : ∀ before position,
    run (wordCode first more) before [3] text position none =
      some (position + (text.takeWhile more.contains).length) := by
  have reached : ∀ before after,
      explore (wordCode first more) before after [3] {} = [.take more 3, .halt] := by
    intro before after
    simp [explore, wordCode]
  induction text with
  | nil =>
    intro before position
    rw [run_of_explore (reached _ _)]
    rfl
  | cons c rest ih =>
    intro before position
    rw [run_of_explore (reached _ _), List.findSome?_cons, Instr.outcome, ih]
    by_cases taken : more.contains c
    · rw [if_pos taken, List.takeWhile_cons_of_pos taken, List.length_cons]
      simp only [Option.some.injEq]
      omega
    · rw [if_neg taken, List.takeWhile_cons_of_neg taken]
      rfl

theorem findEnd_word (c : Char) (rest : List Char) :
    (Regex.anchored (.word first more)).program.findEnd (c :: rest) =
      if first.contains c then some (1 + (rest.takeWhile more.contains).length) else none := by
  have program : (Regex.anchored (.word first more)).program = ⟨wordCode first more, 1⟩ := rfl
  rw [program, findEnd_of_take rfl rfl, run_word]

end Word

/-! ### Texts between delimiters -/

/-- Anything between two delimiters, where a backslash takes the next character with it; the loop is
left as early as possible. -/
def Regex.delimited (delimiter : Char) (escaped plain : CharSet) : Regex :=
  .seq (.one (.single delimiter))
    (.seq (.star false (.alt (.seq (.one (.single '\\')) (.one escaped)) (.one plain)))
      (.one (.single delimiter)))

/-- What may stand between delimiters on one line: backslashes, each with the character behind it,
and other characters that are not delimiters. -/
inductive Body (delimiter : Char) : List Char → Prop
  | nil : Body delimiter []
  | escaped {c : Char} {rest : List Char} : c ≠ '\n' → Body delimiter rest →
    Body delimiter ('\\' :: c :: rest)
  | plain {c : Char} {rest : List Char} :
    c ≠ '\n' → c ≠ '\\' → c ≠ delimiter → Body delimiter rest →
    Body delimiter (c :: rest)

/-- A body and behind it a backslash that takes nothing with it. -/
def OpenBody (delimiter : Char) (text : List Char) : Prop :=
  ∃ body, Body delimiter body ∧ text = body ++ ['\\']

theorem body_escaped_iff {delimiter c : Char} {rest : List Char} :
    Body delimiter ('\\' :: c :: rest) ↔ c ≠ '\n' ∧ Body delimiter rest := by
  constructor
  · intro body
    cases body with
    | escaped fits rest => exact ⟨fits, rest⟩
    | plain _ other => exact absurd rfl other
  · rintro ⟨fits, rest⟩
    exact .escaped fits rest

theorem body_plain_iff {delimiter c : Char} {rest : List Char} (other : c ≠ '\\') :
    Body delimiter (c :: rest) ↔ c ≠ '\n' ∧ c ≠ delimiter ∧ Body delimiter rest := by
  constructor
  · intro body
    cases body with
    | escaped => exact absurd rfl other
    | plain fits _ noDelimiter rest => exact ⟨fits, noDelimiter, rest⟩
  · rintro ⟨fits, noDelimiter, rest⟩
    exact .plain fits other noDelimiter rest

theorem not_body_backslash {delimiter : Char} : ¬ Body delimiter ['\\'] := by
  intro body
  cases body with
  | plain _ other => exact other rfl

instance decidableBody (delimiter : Char) : (text : List Char) → Decidable (Body delimiter text)
  | [] => .isTrue .nil
  | [c] =>
    if same : c = '\\' then .isFalse (same ▸ not_body_backslash)
    else
      have := decidableBody delimiter []
      decidable_of_iff _ (body_plain_iff same).symm
  | c :: d :: rest =>
    if same : c = '\\' then
      have := decidableBody delimiter rest
      decidable_of_iff _ (same ▸ body_escaped_iff.symm)
    else
      have := decidableBody delimiter (d :: rest)
      decidable_of_iff _ (body_plain_iff same).symm

theorem openBody_iff {delimiter : Char} {text : List Char} :
    OpenBody delimiter text ↔ text.getLast? = some '\\' ∧ Body delimiter text.dropLast := by
  constructor
  · rintro ⟨body, closed, rfl⟩
    rw [List.getLast?_concat, List.dropLast_concat]
    exact ⟨rfl, closed⟩
  · rintro ⟨last, closed⟩
    obtain ⟨body, rfl⟩ := List.getLast?_eq_some_iff.mp last
    rw [List.dropLast_concat] at closed
    exact ⟨body, closed, rfl⟩

instance decidableOpenBody (delimiter : Char) (text : List Char) :
    Decidable (OpenBody delimiter text) :=
  decidable_of_iff _ openBody_iff.symm

/-- A text with a delimiter behind a body. If the body ends in a backslash that takes nothing with
it, there are no more delimiters. -/
structure Closes (delimiter : Char) (text body rest : List Char) : Prop where
  shape : text = body ++ delimiter :: rest
  body : Body delimiter body ∨ OpenBody delimiter body ∧ delimiter ∉ rest

theorem Closes.escaped {delimiter c : Char} {text body rest : List Char} (fits : c ≠ '\n')
    (closes : Closes delimiter text body rest) :
    Closes delimiter ('\\' :: c :: text) ('\\' :: c :: body) rest := by
  refine ⟨by rw [closes.shape]; rfl, closes.body.imp (.escaped fits) (And.imp_left ?_)⟩
  rintro ⟨front, closed, rfl⟩
  exact ⟨_, .escaped fits closed, rfl⟩

theorem Closes.plain {delimiter c : Char} {text body rest : List Char} (fits : c ≠ '\n')
    (noBackslash : c ≠ '\\')
    (noDelimiter : c ≠ delimiter) (closes : Closes delimiter text body rest) :
    Closes delimiter (c :: text) (c :: body) rest := by
  have more : ∀ {part : List Char}, Body delimiter part → Body delimiter (c :: part) :=
    .plain fits noBackslash noDelimiter
  refine ⟨by rw [closes.shape]; rfl, closes.body.imp more (And.imp_left ?_)⟩
  rintro ⟨front, closed, rfl⟩
  exact ⟨_, more closed, rfl⟩

section Delimited

variable (delimiter : Char) (escaped plain : CharSet)

/-- The program for texts between delimiters. -/
def delimitedCode : Array Instr :=
  #[.halt, .check .textStart 2, .take (.single delimiter) 3, .fork 8 4, .fork 5 7,
    .take (.single '\\') 6, .take escaped 3, .take plain 3, .take (.single delimiter) 0]

theorem program_delimited :
    (Regex.anchored (.delimited delimiter escaped plain)).program =
      ⟨delimitedCode delimiter escaped plain, 1⟩ :=
  rfl

/-- In the loop, the way out is preferred to a backslash and what it takes with it, and this to any
other character. -/
theorem explore_delimited (before after : Option Char) :
    explore (delimitedCode delimiter escaped plain) before after [3] {} =
      [.take (.single delimiter) 0, .take (.single '\\') 6, .take plain 3] := by
  simp [explore, delimitedCode]

variable {delimiter escaped plain}

theorem contains_single_of_ne {c d : Char} (different : d ≠ c) :
    (CharSet.single c).contains d = false := by
  rw [CharSet.contains_single, decide_eq_false different]

theorem contains_single_self (c : Char) : (CharSet.single c).contains c = true := by
  rw [CharSet.contains_single, decide_eq_true rfl]

/-- One turn of the loop. A backslash is tried together with the character behind it, and alone if
that leads nowhere. -/
theorem run_turn (c : Char) (rest : List Char) (before : Option Char) (position : Nat) :
    run (delimitedCode delimiter escaped plain) before [3] (c :: rest) position none =
      if c = delimiter then some (position + 1)
      else
        (if c = '\\' then
          run (delimitedCode delimiter escaped plain) (some c) [6] rest (position + 1) none
          else none).or
        (if plain.contains c then
          run (delimitedCode delimiter escaped plain) (some c) [3] rest (position + 1) none
          else none) := by
  rw [run_of_explore (explore_delimited _ _ _ _ _), List.findSome?_cons, Instr.outcome]
  by_cases ends : c = delimiter
  · rw [if_pos ends, ends, if_pos (contains_single_self delimiter), run_halt rfl]
  · rw [if_neg ends, contains_single_of_ne ends, if_neg Bool.false_ne_true]
    simp only [List.findSome?_cons, List.findSome?_nil, Instr.outcome, CharSet.contains_single,
      decide_eq_true_eq]
    cases if c = '\\' then
      run (delimitedCode delimiter escaped plain) (some c) [6] rest (position + 1) none
      else none with
    | some _ => rfl
    | none => cases if plain.contains c then _ else none <;> rfl

/-- The loop passes over a body if there is an end of it behind the body. -/
theorem run_body (different : delimiter ≠ '\\')
    (escapes : ∀ c, c ≠ '\n' → escaped.contains c = true)
    (plains : ∀ c, c ≠ delimiter → plain.contains c = true) {body : List Char}
    (shape : Body delimiter body) {rest : List Char} {length : Nat}
    (ends : ∀ before position,
      run (delimitedCode delimiter escaped plain) before [3] rest position none =
      some (position + length)) : ∀ before position,
    run (delimitedCode delimiter escaped plain) before [3] (body ++ rest) position none =
      some (position + body.length + length) := by
  induction shape with
  | nil => exact ends
  | @escaped c body fits _ ih =>
    intro before position
    rw [List.cons_append, List.cons_append, run_turn, if_neg (Ne.symm different), if_pos rfl,
      run_take rfl, if_pos (escapes c fits), ih, Option.some_or]
    simp only [List.length_cons, Option.some.injEq]
    omega
  | @plain c body _ noBackslash noDelimiter _ ih =>
    intro before position
    rw [List.cons_append, run_turn, if_neg noDelimiter, if_neg noBackslash, Option.none_or,
      if_pos (plains c noDelimiter), ih]
    simp only [List.length_cons, Option.some.injEq]
    omega

theorem run_delimiter (rest : List Char) (before : Option Char) (position : Nat) :
    run (delimitedCode delimiter escaped plain) before [3] (delimiter :: rest) position none =
      some (position + 1) := by
  rw [run_turn, if_pos rfl]

theorem findEnd_delimited_of_ne {c : Char} (different : c ≠ delimiter) (rest : List Char) :
    (Regex.anchored (.delimited delimiter escaped plain)).program.findEnd (c :: rest) = none := by
  rw [program_delimited, findEnd_of_take rfl rfl, contains_single_of_ne different]
  exact if_neg Bool.false_ne_true

/-! ### Bodies that end in a backslash -/

/-- The loop comes to its end only at a delimiter, also if it is entered inside of a piece. -/
theorem mem_of_run_isSome (text : List Char) :
    (∀ before position,
      (run (delimitedCode delimiter escaped plain) before [3] text position none).isSome →
        delimiter ∈ text) ∧
    ∀ before position,
      (run (delimitedCode delimiter escaped plain) before [6] text position none).isSome →
        delimiter ∈ text := by
  induction text with
  | nil =>
    constructor
    · intro before position ends
      rw [run_of_explore (explore_delimited _ _ _ _ _)] at ends
      cases ends
    · intro before position ends
      rw [run_of_explore (explore_singleton rfl rfl)] at ends
      cases ends
  | cons c rest ih =>
    constructor
    · intro before position ends
      rw [run_turn] at ends
      by_cases here : c = delimiter
      · exact here ▸ List.mem_cons_self
      · rw [if_neg here, Option.isSome_or, Bool.or_eq_true] at ends
        refine List.mem_cons_of_mem c (ends.elim (fun taken => ?_) fun passed => ?_)
        · split at taken
          · exact ih.2 _ _ taken
          · cases taken
        · split at passed
          · exact ih.1 _ _ passed
          · cases passed
    · intro before position ends
      rw [run_take rfl] at ends
      split at ends
      · exact List.mem_cons_of_mem c (ih.1 _ _ ends)
      · cases ends

/-- Any other character can be passed over alone, so that the loop comes to an end if there is a
delimiter. -/
theorem run_isSome_of_mem (plains : ∀ c, c ≠ delimiter → plain.contains c = true) {text : List Char}
    (member : delimiter ∈ text) (before : Option Char) (position : Nat) :
    (run (delimitedCode delimiter escaped plain) before [3] text position none).isSome := by
  induction text generalizing before position with
  | nil => cases member
  | cons c rest ih =>
    rw [run_turn]
    by_cases here : c = delimiter
    · rw [if_pos here]
      rfl
    · have onward := ih (List.mem_of_ne_of_mem (Ne.symm here) member) (some c) (position + 1)
      rw [if_neg here, if_pos (plains c here), Option.isSome_or, onward, Bool.or_true]

theorem run_eq_none {text : List Char} (absent : delimiter ∉ text) (before : Option Char)
    (position : Nat) :
    run (delimitedCode delimiter escaped plain) before [3] text position none = none :=
  Option.not_isSome_iff_eq_none.mp (mt ((mem_of_run_isSome text).1 before position) absent)

/-- What stands in front of the end of the loop is passed over. -/
theorem run_of_closes (different : delimiter ≠ '\\')
    (escapes : ∀ c, c ≠ '\n' → escaped.contains c = true)
    (plains : ∀ c, c ≠ delimiter → plain.contains c = true) {text body rest : List Char}
    (closes : Closes delimiter text body rest) (before : Option Char) (position : Nat) :
    run (delimitedCode delimiter escaped plain) before [3] text position none =
      some (position + body.length + 1) := by
  obtain ⟨rfl, closed | ⟨⟨front, closed, rfl⟩, absent⟩⟩ := closes
  · exact run_body different escapes plains closed (run_delimiter rest) before position
  · have alone : ∀ before position, run (delimitedCode delimiter escaped plain) before [3]
        ('\\' :: delimiter :: rest) position none = some (position + 2) := by
      intro before position
      have stuck : run (delimitedCode delimiter escaped plain) (some '\\') [6] (delimiter :: rest)
          (position + 1) none = none := by
        rw [run_take rfl, run_eq_none absent, ite_self]
      rw [run_turn, if_neg (Ne.symm different), if_pos rfl, stuck, Option.none_or,
        if_pos (plains _ (Ne.symm different)), run_delimiter]
    rw [List.append_assoc, List.singleton_append, run_body different escapes plains closed alone,
      List.length_append, List.length_singleton]
    rfl

/-- A backslash does not take a character with it only if there is no delimiter behind that. -/
theorem notMem_of_stuck (escapes : ∀ c, c ≠ '\n' → escaped.contains c = true)
    (plains : ∀ c, c ≠ delimiter → plain.contains c = true) {text others : List Char} {c : Char}
    (unbroken : '\n' ∉ text) (shape : text = c :: others) {before : Option Char} {position : Nat}
    (stuck : run (delimitedCode delimiter escaped plain) before [6] text position none = none) :
    delimiter ∉ others := by
  intro member
  have fits : c ≠ '\n' := fun same => unbroken (shape ▸ same ▸ List.mem_cons_self)
  have ends := @run_isSome_of_mem _ escaped _ plains _ member (some c) (position + 1)
  rw [shape, run_take rfl, if_pos (escapes c fits)] at stuck
  rw [stuck] at ends
  cases ends

/-- From a place of the program on, with `front` of the body behind it, the end is at a delimiter
that closes the body. -/
def EndsAt (delimiter : Char) (escaped plain : CharSet) (place : Nat)
    (front text : List Char) : Prop :=
  ∀ before position stop,
    run (delimitedCode delimiter escaped plain) before [place] text position none = some stop →
    ∃ body rest, Closes delimiter (front ++ text) (front ++ body) rest ∧
      stop = position + body.length + 1

/-- A backslash is passed over together with the character behind it, or alone. -/
theorem endsAt_backslash (different : delimiter ≠ '\\')
    (escapes : ∀ c, c ≠ '\n' → escaped.contains c = true)
    (plains : ∀ c, c ≠ delimiter → plain.contains c = true) {text : List Char}
    (unbroken : '\n' ∉ text) (loop : EndsAt delimiter escaped plain 3 [] text)
    (piece : EndsAt delimiter escaped plain 6 ['\\'] text) :
    EndsAt delimiter escaped plain 3 [] ('\\' :: text) := by
  intro before position stop ends
  rw [run_turn, if_neg (Ne.symm different), if_pos rfl,
    if_pos (plains _ (Ne.symm different))] at ends
  rcases Option.or_eq_some_iff.mp ends with taken | ⟨stuck, passed⟩
  · obtain ⟨body, rest, closes, rfl⟩ := piece _ _ _ taken
    refine ⟨'\\' :: body, rest, closes, ?_⟩
    rw [List.length_cons]
    omega
  · obtain ⟨body, rest, closes, rfl⟩ := loop _ _ _ passed
    cases body with
    | cons d body =>
      have absent := notMem_of_stuck escapes plains unbroken closes.shape stuck
      exact absurd (List.mem_append_right body List.mem_cons_self) absent
    | nil =>
      have absent := notMem_of_stuck escapes plains unbroken closes.shape stuck
      have last : OpenBody delimiter ['\\'] := ⟨[], .nil, rfl⟩
      refine ⟨['\\'], rest, ⟨congrArg ('\\' :: ·) closes.shape, .inr ⟨last, absent⟩⟩, ?_⟩
      rw [List.length_singleton, List.length_nil]

/-- Where the loop ends. The induction also tells where it ends inside of a piece. -/
theorem endsAt_all (different : delimiter ≠ '\\')
    (escapes : ∀ c, c ≠ '\n' → escaped.contains c = true)
    (plains : ∀ c, c ≠ delimiter → plain.contains c = true) {text : List Char}
    (unbroken : '\n' ∉ text) :
    EndsAt delimiter escaped plain 3 [] text ∧ EndsAt delimiter escaped plain 6 ['\\'] text := by
  induction text with
  | nil =>
    constructor
    · intro before position stop ends
      rw [run_of_explore (explore_delimited _ _ _ _ _)] at ends
      cases ends
    · intro before position stop ends
      rw [run_of_explore (explore_singleton rfl rfl)] at ends
      cases ends
  | cons c text ih =>
    rw [List.mem_cons, not_or] at unbroken
    obtain ⟨fits, unbroken⟩ := unbroken
    obtain ⟨loop, piece⟩ := ih unbroken
    constructor
    · by_cases backslash : c = '\\'
      · rw [backslash]
        exact endsAt_backslash different escapes plains unbroken loop piece
      · intro before position stop ends
        rw [run_turn, if_neg backslash, Option.none_or] at ends
        by_cases here : c = delimiter
        · rw [if_pos here] at ends
          obtain rfl := Option.some.inj ends
          exact ⟨[], text, ⟨congrArg (· :: text) here, .inl .nil⟩, rfl⟩
        · rw [if_neg here, if_pos (plains c here)] at ends
          obtain ⟨body, rest, closes, rfl⟩ := loop _ _ _ ends
          refine ⟨c :: body, rest, closes.plain (Ne.symm fits) backslash here, ?_⟩
          rw [List.length_cons]
          omega
    · intro before position stop ends
      rw [run_take rfl, if_pos (escapes c (Ne.symm fits))] at ends
      obtain ⟨body, rest, closes, rfl⟩ := loop _ _ _ ends
      refine ⟨c :: body, rest, closes.escaped (Ne.symm fits), ?_⟩
      rw [List.length_cons]
      omega

/-- **A text up to the end of its body is taken as a whole.** -/
theorem findEnd_delimited (different : delimiter ≠ '\\')
    (escapes : ∀ c, c ≠ '\n' → escaped.contains c = true)
    (plains : ∀ c, c ≠ delimiter → plain.contains c = true) {text body rest : List Char}
    (closes : Closes delimiter text body rest) :
    (Regex.anchored (.delimited delimiter escaped plain)).program.findEnd (delimiter :: text) =
      some (body.length + 2) := by
  rw [program_delimited, findEnd_of_take rfl rfl, if_pos (contains_single_self delimiter),
    run_of_closes different escapes plains closes]
  simp only [Option.some.injEq]
  omega

/-- **Nothing else is taken on one line.** -/
theorem exists_closes_of_findEnd (different : delimiter ≠ '\\')
    (escapes : ∀ c, c ≠ '\n' → escaped.contains c = true)
    (plains : ∀ c, c ≠ delimiter → plain.contains c = true) {text : List Char}
    (unbroken : '\n' ∉ text)
    {stop : Nat} (found : (Regex.anchored (.delimited delimiter escaped plain)).program.findEnd
      (delimiter :: text) = some stop) :
    ∃ body rest, Closes delimiter text body rest ∧ stop = body.length + 2 := by
  rw [program_delimited, findEnd_of_take rfl rfl, if_pos (contains_single_self delimiter)] at found
  obtain ⟨body, rest, closes, rfl⟩ := (endsAt_all different escapes plains unbroken).1 _ _ _ found
  exact ⟨body, rest, closes, by omega⟩

end Delimited

end Pattern

/-! ### Rules whose expressions are known -/

/-- The rule of a kind whose matchers are read as an expression. -/
def Rule.ofRegex (kind : String) (matchers : List Matcher) (regex : Regex) : Rule where
  kind := kind
  pattern := combinedPattern matchers
  program := regex.program
  literals := matchers.filterMap Matcher.literal?

theorem Rule.compile_eq_ok {reserved : ReservedKinds} {kind : String} {matchers : List Matcher}
    {regex : Regex} (free : reserved.contains kind = false) (listed : matchers.isEmpty = false)
    (inked : matchers.any (·.source.isEmpty) = false)
    (reads : Regex.ofPattern? (combinedPattern matchers) = some regex) :
    compile reserved kind matchers = .ok (ofRegex kind matchers regex) := by
  rw [compile, compileBy, free, listed, inked, Pattern.Engine.unlimited_eq_ok_iff.mpr reads]
  rfl

/-- A rule that matches alone wins. -/
theorem Lexicon.longestMatch_of_alone {lexicon : Lexicon} {before after : List Rule} {rule : Rule}
    (shape : lexicon.rules = before ++ rule :: after) {input : List Char} {length : Nat}
    (silent : ∀ other ∈ before ++ after, other.program.findEnd input = none)
    (found : rule.program.findEnd input = some length) (positive : 0 < length) :
    lexicon.longestMatch input = some ⟨rule.kind, input.take length⟩ := by
  have none : ∀ rules : List Rule, (∀ other ∈ rules, other.program.findEnd input = none) →
      rules.filterMap (·.candidate? input) = [] := by
    intro rules silent
    refine List.filterMap_eq_nil_iff.mpr fun other member => ?_
    rw [Rule.candidate?, Rule.matchLength, silent other member]
    rfl
  have here : rule.candidate? input =
      some ⟨rule.kind, length, rule.literals.contains (input.take length)⟩ := by
    rw [Rule.candidate?, Rule.matchLength, found, Option.filter_some,
      if_pos (decide_eq_true positive)]
    rfl
  have alone : lexicon.rules.filterMap (·.candidate? input) =
      [⟨rule.kind, length, rule.literals.contains (input.take length)⟩] := by
    rw [shape, List.filterMap_append, List.filterMap_cons,
      none before fun other member => silent other (List.mem_append_left _ member),
      none after fun other member => silent other (List.mem_append_right _ member), here]
    rfl
  rw [longestMatch, alone]
  rfl

end Offside
