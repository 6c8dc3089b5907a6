/-
**How lines are ended does not matter.**

A line ends with a line feed, with a carriage return and a line feed, or with the text. The
terminator is left out of the line, so that nothing that reads the lines of a text can tell how they
were ended. A carriage return anywhere else belongs to its line, which is why none may stand in
front of a line feed if the line feeds are replaced, and none at the end of a text that gets a line
feed.

* `stretches_marked`: a mark in front of every separator is the end of every stretch that is
  terminated, by induction on the list;
* `linesOfText_withReturns`, `linesOfText_append_feed`, `linesOfText_append_return`: the lines stay
  the same;
* `readAlike_of_terminators`: so do tokens, carets and definitions.
-/

import Mathlib.Data.List.Infix
import Offside.Description
import Offside.Pipeline
import Offside.Proofs.Answers
import Offside.Proofs.Stretches

namespace Offside

namespace Text

/-! ### A mark in front of every separator -/

section Marks

variable {α : Type} [DecidableEq α] {mark separator : α}

/-- The list with a mark in front of every separator. -/
def marked (mark separator : α) (list : List α) : List α :=
  list.flatMap fun item => if item = separator then [mark, separator] else [item]

theorem marked_cons_separator (rest : List α) :
    marked mark separator (separator :: rest) =
      mark :: separator :: marked mark separator rest := by
  rw [marked, List.flatMap_cons, if_pos rfl]
  rfl

theorem marked_cons_other {head : α} (other : head ≠ separator) (rest : List α) :
    marked mark separator (head :: rest) = head :: marked mark separator rest := by
  rw [marked, List.flatMap_cons, if_neg other]
  rfl

/-- A stretch that is terminated ends with the mark in front of its separator. -/
theorem stretches_marked (distinct : mark ≠ separator) (list : List α) :
    stretches separator (marked mark separator list) =
      (stretches separator list).map fun (stretch, terminated) =>
        (if terminated then stretch ++ [mark] else stretch, terminated) := by
  induction list with
  | nil => rfl
  | cons head rest ih =>
    by_cases same : head = separator
    · subst same
      rw [marked_cons_separator, stretches, if_neg distinct, stretches, if_pos rfl, ih, stretches,
        if_pos rfl]
      rfl
    · rw [marked_cons_other same, stretches, if_neg same, ih, stretches, if_neg same]
      cases stretches separator rest with
      | nil => rfl
      | cons first others =>
        obtain ⟨stretch, terminated⟩ := first
        cases terminated <;> rfl

/-- A first stretch that is terminated stands at the start, with its separator behind it. -/
theorem prefix_of_stretches {list stretch : List α} {others : List (List α × Bool)}
    (shape : stretches separator list = (stretch, true) :: others) :
    stretch ++ [separator] <+: list := by
  induction list generalizing stretch others with
  | nil => cases shape
  | cons head rest ih =>
    rw [stretches] at shape
    split at shape
    · rename_i same
      cases shape
      exact ⟨rest, by rw [same]; rfl⟩
    · split at shape
      · cases shape
      · rename_i line terminated others onward
        cases shape
        exact List.cons_prefix_cons.mpr ⟨rfl, ih onward⟩

/-- Every stretch that is terminated stands in the list with its separator behind it. -/
theorem infix_of_mem_stretches {list stretch : List α}
    (member : (stretch, true) ∈ stretches separator list) : stretch ++ [separator] <:+: list := by
  induction list with
  | nil => cases member
  | cons head rest ih =>
    have onward : (stretch, true) ∈ stretches separator rest →
        stretch ++ [separator] <:+: head :: rest :=
      fun later => (ih later).trans (List.suffix_cons head rest).isInfix
    cases shape : stretches separator (head :: rest) with
    | nil => exact absurd shape (stretches_ne_nil (List.cons_ne_nil head rest))
    | cons first others =>
      rw [shape] at member
      rcases List.mem_cons.mp member with rfl | later
      · exact (prefix_of_stretches shape).isInfix
      · rw [stretches] at shape
        split at shape
        · cases shape
          exact onward later
        · split at shape
          · cases shape
            cases later
          · rename_i behind
            cases shape
            exact onward (behind ▸ List.mem_cons_of_mem _ later)

end Marks

/-! ### The same lines -/

section Lines

variable {text : List Char}

/-- The text with a carriage return and a line feed for every line feed. -/
def withReturns (text : List Char) : List Char := marked '\r' '\n' text

/-- Nothing is left out of a line but a carriage return at its end. -/
theorem dropReturn_of_getLast? {line : List Char} (plain : line.getLast? ≠ some '\r') :
    dropReturn line = line := by
  rw [dropReturn, if_neg plain]

/-- **Carriage returns in front of the line feeds are in no line**, if there were none before. -/
theorem linesOfText_withReturns (single : ¬ ['\r', '\n'] <:+: text) :
    linesOfText (withReturns text) = linesOfText text := by
  rw [linesOfText, withReturns, stretches_marked (by decide), List.map_map, linesOfText]
  refine List.map_congr_left fun part member => ?_
  obtain ⟨stretch, terminated⟩ := part
  cases terminated with
  | false => rfl
  | true =>
    have plain : stretch.getLast? ≠ some '\r' := by
      intro returned
      obtain ⟨front, rfl⟩ := List.getLast?_eq_some_iff.mp returned
      have behind := infix_of_mem_stretches member
      rw [List.append_assoc] at behind
      exact single ((List.suffix_append front _).isInfix.trans behind)
    show Line.text (dropReturn (stretch ++ ['\r'])) = Line.text (dropReturn stretch)
    rw [dropReturn_concat, dropReturn_of_getLast? plain]

/-- A text that does not end with a terminator ends with a line that has none. -/
theorem exists_open_line (some : text ≠ [])
    (unended : ∀ last ∈ text.getLast?, last ≠ '\n' ∧ last ≠ '\r') :
    ∃ closed line : List Char, text = closed ++ line ∧ (∀ last ∈ closed.getLast?, last = '\n') ∧
      '\n' ∉ line ∧ line.getLast? ≠ Option.some '\r' ∧
      linesOfText text = linesOfText closed ++ [.text line] := by
  obtain ⟨closed, line, rfl, ends, unbroken⟩ := exists_last_stretch '\n' text
  have more : line ≠ [] := by
    rintro rfl
    rw [List.append_nil] at some unended
    have last := List.getLast?_eq_some_getLast some
    exact (unended _ last).1 (ends _ last)
  rw [List.getLast?_append_of_ne_nil closed more] at unended
  refine ⟨closed, line, rfl, ends, unbroken, fun returned => (unended _ returned).2 rfl, ?_⟩
  rw [linesOfText_append_of_closed ends, linesOfText.eq_1 line, stretches_of_unbroken more unbroken]
  rfl

/-- **A line feed at the end of a text is in no line.** -/
theorem linesOfText_append_feed (some : text ≠ [])
    (unended : ∀ last ∈ text.getLast?, last ≠ '\n' ∧ last ≠ '\r') :
    linesOfText (text ++ ['\n']) = linesOfText text := by
  obtain ⟨closed, line, rfl, ends, unbroken, plain, lines⟩ := exists_open_line some unended
  rw [lines, List.append_assoc, linesOfText_append_of_closed ends, linesOfText_line unbroken,
    dropReturn_of_getLast? plain]
  rfl

/-- **Neither are a carriage return and a line feed.** -/
theorem linesOfText_append_return (some : text ≠ [])
    (unended : ∀ last ∈ text.getLast?, last ≠ '\n' ∧ last ≠ '\r') :
    linesOfText (text ++ ['\r', '\n']) = linesOfText text := by
  obtain ⟨closed, line, rfl, ends, unbroken, _, lines⟩ := exists_open_line some unended
  have unbroken' : '\n' ∉ line ++ ['\r'] := List.not_mem_append unbroken (by decide)
  have shape : closed ++ line ++ ['\r', '\n'] = closed ++ ((line ++ ['\r']) ++ '\n' :: []) := by
    simp only [List.append_assoc, List.cons_append, List.nil_append]
  rw [lines, shape, linesOfText_append_of_closed ends, linesOfText_line unbroken',
    dropReturn_concat]
  rfl

end Lines

end Text

/-! ### The same tokens -/

open Text TokenSource

/-- Two texts that nothing tells apart: scanners answer alike for ever and collect the same tokens
or the same failure, pipelines make the same tokens or the same failure of them, and as descriptions
they add the same rules to a draft and fail alike. -/
structure ReadAlike (first second : List Char) : Prop where
  scanned (lexicon : Lexicon) (count : Nat) :
    answers (Scanner.ofText lexicon first) count = answers (Scanner.ofText lexicon second) count
  collected (lexicon : Lexicon) :
    collect (Scanner.ofText lexicon first) = collect (Scanner.ofText lexicon second)
  tokenized (pipeline : Pipeline) :
    pipeline.tokenize (linesOfText first) = pipeline.tokenize (linesOfText second)
  loaded (draft : Draft) :
    Description.loadInto draft (linesOfText first) = Description.loadInto draft (linesOfText second)

theorem ReadAlike.of_lines {first second : List Char}
    (same : linesOfText first = linesOfText second) :
    ReadAlike first second where
  scanned lexicon count := by rw [Scanner.ofText, same, Scanner.ofText]
  collected lexicon := by rw [Scanner.ofText, same, Scanner.ofText]
  tokenized pipeline := by rw [same]
  loaded draft := by rw [same]

/-- **How lines are ended does not matter.** In a text without a carriage return in front of a line
feed every line feed may be replaced by both, and to a text that is not empty and ends with neither
of them either terminator may be added. -/
theorem readAlike_of_terminators (text : List Char) :
    (¬ ['\r', '\n'] <:+: text → ReadAlike (withReturns text) text) ∧
      (text ≠ [] → (∀ last ∈ text.getLast?, last ≠ '\n' ∧ last ≠ '\r') →
        ReadAlike (text ++ ['\n']) text ∧ ReadAlike (text ++ ['\r', '\n']) text) := by
  refine ⟨fun single => .of_lines (linesOfText_withReturns single), fun some unended => ⟨?_, ?_⟩⟩
  · exact .of_lines (linesOfText_append_feed some unended)
  · exact .of_lines (linesOfText_append_return some unended)

/-- A text with carriage returns inside a line, behind a line feed and in front of a blank at the
end of a line meets all conditions. -/
theorem readAlike_strayReturns :
    let text := "a\rb\n\r  c\r \n\nd".toList
    ¬ ['\r', '\n'] <:+: text ∧ text ≠ [] ∧ (∀ last ∈ text.getLast?, last ≠ '\n' ∧ last ≠ '\r') ∧
      ReadAlike (withReturns text) text ∧ ReadAlike (text ++ ['\n']) text ∧
      ReadAlike (text ++ ['\r', '\n']) text := by
  intro text
  have single : ¬ ['\r', '\n'] <:+: text := by decide
  have nonempty : text ≠ [] := by decide
  have unended : ∀ last ∈ text.getLast?, last ≠ '\n' ∧ last ≠ '\r' := by
    have ends : text.getLast? = some 'd' := by decide
    rw [ends]
    rintro last ⟨⟩
    decide
  have alike := readAlike_of_terminators text
  exact ⟨single, nonempty, unended, alike.1 single, alike.2 nonempty unended⟩

end Offside
