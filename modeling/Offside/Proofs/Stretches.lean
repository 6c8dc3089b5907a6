/-
**Texts and their lines.**

A text is taken apart at its line feeds. What stands in front of a text without a line feed belongs
to its first line; behind a line feed everything starts anew. Bytes are taken apart in the same way.

* `stretches_append_of_closed`, `stretches_append`: a text behind a line feed, and behind the start
  of a line;
* `exists_last_stretch`: every text is the start of a line behind a text that is closed by a line
  feed;
* `head_eq_takeWhile`, `lineText_append`: the first line, and how much of it the terminator leaves;
* `linesOfText_line`, `linesOfText_blank_cases`: a line that ends with a line feed, and one that
  goes on behind a blank.
-/

import Mathlib.Data.List.Basic
import Mathlib.Data.List.Induction
import Offside.Text.Lines

namespace Offside.Text

section Separators

variable {α : Type} [DecidableEq α] {separator : α}

theorem stretches_ne_nil {list : List α} (some : list ≠ []) : stretches separator list ≠ [] := by
  obtain ⟨head, rest, rfl⟩ := List.exists_cons_of_ne_nil some
  rw [stretches]
  split
  · exact List.cons_ne_nil _ _
  · split <;> exact List.cons_ne_nil _ _

/-- A list can be taken apart behind a separator. -/
theorem stretches_append_of_closed {first : List α}
    (closed : ∀ last ∈ first.getLast?, last = separator) (second : List α) :
    stretches separator (first ++ second) =
      stretches separator first ++ stretches separator second := by
  induction first with
  | nil => rfl
  | cons head rest ih =>
    have onward : stretches separator (rest ++ second) = _ := ih fun last member => closed last (by
      rw [List.getLast?_cons]
      rw [Option.mem_def] at member
      rw [member]
      rfl)
    rw [List.cons_append, stretches, stretches, onward]
    split
    · rfl
    · rename_i other
      have some : rest ≠ [] := by
        rintro rfl
        exact other (closed head rfl)
      have parts : stretches separator rest ≠ [] := stretches_ne_nil some
      obtain ⟨⟨stretch, terminated⟩, others, shape⟩ := List.exists_cons_of_ne_nil parts
      rw [shape]
      rfl

/-- The first stretch is what stands in front of the first separator. -/
theorem head_eq_takeWhile {list stretch : List α} {terminated : Bool}
    {others : List (List α × Bool)}
    (shape : stretches separator list = (stretch, terminated) :: others) :
    stretch = list.takeWhile (· ≠ separator) := by
  induction list generalizing stretch terminated others with
  | nil => cases shape
  | cons head rest ih =>
    rw [stretches] at shape
    split at shape
    · rename_i same
      cases shape
      rw [List.takeWhile_cons_of_neg (by simp [same])]
    · rename_i other
      rw [List.takeWhile_cons_of_pos (by simp [other])]
      split at shape
      · rename_i none
        cases shape
        cases rest with
        | nil => rfl
        | cons => exact absurd none (stretches_ne_nil (List.cons_ne_nil _ _))
      · rename_i onward
        cases shape
        rw [ih onward]

/-- Every list is the start of a stretch behind a list that is closed by a separator. -/
theorem exists_last_stretch (separator : α) (list : List α) :
    ∃ closed stretch : List α, list = closed ++ stretch ∧
      (∀ last ∈ closed.getLast?, last = separator) ∧ separator ∉ stretch := by
  induction list using List.reverseRecOn with
  | nil => exact ⟨[], [], rfl, (fun _ absent => nomatch absent), List.not_mem_nil⟩
  | append_singleton list last ih =>
    by_cases ends : last = separator
    · refine ⟨list ++ [last], [], (List.append_nil _).symm, fun other member => ?_,
        List.not_mem_nil⟩
      rw [List.getLast?_concat] at member
      exact (Option.some.inj member).symm.trans ends
    · obtain ⟨closed, stretch, rfl, closes, unbroken⟩ := ih
      refine ⟨closed, stretch ++ [last], List.append_assoc _ _ _, closes, ?_⟩
      rw [List.mem_append, List.mem_singleton, not_or]
      exact ⟨unbroken, Ne.symm ends⟩

theorem stretches_line {stretch : List α} (unbroken : separator ∉ stretch) (rest : List α) :
    stretches separator (stretch ++ separator :: rest) =
      (stretch, true) :: stretches separator rest := by
  induction stretch with
  | nil => rw [List.nil_append, stretches, if_pos rfl]
  | cons head stretch ih =>
    rw [List.mem_cons, not_or] at unbroken
    rw [List.cons_append, stretches, if_neg (Ne.symm unbroken.1), ih unbroken.2]

/-- What is put in front of a list without a separator is put in front of its first stretch. -/
theorem stretches_append {front list : List α} (some : front ≠ []) (unbroken : separator ∉ front) :
    stretches separator (front ++ list) =
      match stretches separator list with
      | [] => [(front, false)]
      | (stretch, terminated) :: others => (front ++ stretch, terminated) :: others := by
  induction front with
  | nil => exact absurd rfl some
  | cons head front ih =>
    rw [List.mem_cons, not_or] at unbroken
    rw [List.cons_append, stretches, if_neg (Ne.symm unbroken.1)]
    cases front with
    | nil =>
      rw [List.nil_append]
      cases stretches separator list <;> rfl
    | cons second front =>
      rw [ih (List.cons_ne_nil second front) unbroken.2]
      cases stretches separator list <;> rfl

theorem stretches_of_unbroken {stretch : List α} (some : stretch ≠ [])
    (unbroken : separator ∉ stretch) :
    stretches separator stretch = [(stretch, false)] := by
  have whole : stretches separator (stretch ++ []) = _ := stretches_append some unbroken
  rwa [List.append_nil] at whole

end Separators

/-! ### Terminators -/

/-- Only the end of a line matters for what is left out of it. -/
theorem lineText_append (front : List Char) {line : List Char} (some : line ≠ [])
    (terminated : Bool) :
    lineText (front ++ line) terminated = front ++ lineText line terminated := by
  unfold lineText dropReturn
  rw [List.getLast?_append_of_ne_nil front some, List.dropLast_append_of_ne_nil some]
  split
  · split <;> rfl
  · rfl

theorem dropReturn_concat (line : List Char) : dropReturn (line ++ ['\r']) = line := by
  rw [dropReturn, List.getLast?_concat, if_pos rfl, List.dropLast_concat]

/-- What is left out of a line is a carriage return at its end. -/
theorem dropReturn_cases (line : List Char) :
    dropReturn line = line ∨ line = dropReturn line ++ ['\r'] := by
  rcases List.eq_nil_or_concat line with rfl | ⟨front, last, rfl⟩
  · exact .inl rfl
  · rw [List.concat_eq_append]
    by_cases returned : last = '\r'
    · rw [returned, dropReturn_concat]
      exact .inr rfl
    · rw [dropReturn, List.getLast?_concat, if_neg fun same => returned (Option.some.inj same)]
      exact .inl rfl

theorem mem_of_mem_lineText {line : List Char} {terminated : Bool} {c : Char}
    (member : c ∈ lineText line terminated) : c ∈ line := by
  unfold lineText dropReturn at member
  split at member
  · split at member
    · exact List.dropLast_subset line member
    · exact member
  · exact member

/-! ### Lines -/

section Lines

variable {front text : List Char}

/-- The first line of a text is blank or starts as the text does. -/
theorem head?_stretches {line : List Char} {terminated : Bool} {others : List (List Char × Bool)}
    (shape : stretches '\n' text = (line, terminated) :: others) :
    line = [] ∨ line.head? = text.head? := by
  cases text with
  | nil => cases shape
  | cons c text =>
    rw [stretches] at shape
    split at shape
    · cases shape
      exact .inl rfl
    · split at shape
      · cases shape
        exact .inr rfl
      · cases shape
        exact .inr rfl

theorem linesOfText_append_of_closed (ends : ∀ last ∈ front.getLast?, last = '\n')
    (text : List Char) :
    linesOfText (front ++ text) = linesOfText front ++ linesOfText text := by
  rw [linesOfText, stretches_append_of_closed ends, List.map_append]
  rfl

theorem linesOfText_line (unbroken : '\n' ∉ front) (text : List Char) :
    linesOfText (front ++ '\n' :: text) = .text (dropReturn front) :: linesOfText text := by
  rw [linesOfText, stretches_line unbroken]
  rfl

/-- Behind a blank a line goes on with the first line of what follows. -/
theorem linesOfText_blank_cases (unbroken : '\n' ∉ front) (text : List Char) :
    text = [] ∧ linesOfText (front ++ ' ' :: text) = [.text (front ++ [' '])] ∨
      ∃ line others, linesOfText text = .text line :: others ∧
        linesOfText (front ++ ' ' :: text) = .text (front ++ ' ' :: line) :: others ∧
        ∀ c ∈ line, c ∈ text.takeWhile (· ≠ '\n') := by
  have blank : '\n' ∉ front ++ [' '] := List.not_mem_append unbroken (by decide)
  have nonempty : front ++ [' '] ≠ [] := List.append_ne_nil_of_right_ne_nil _ (List.cons_ne_nil _ _)
  have lines : stretches '\n' (front ++ [' '] ++ text) = _ := stretches_append nonempty blank
  rw [List.append_assoc, List.singleton_append] at lines
  cases shape : stretches '\n' text with
  | nil =>
    have none : text = [] := by
      by_contra some
      exact stretches_ne_nil some shape
    rw [shape] at lines
    exact .inl ⟨none, by rw [linesOfText, lines]; rfl⟩
  | cons first others =>
    obtain ⟨line, terminated⟩ := first
    rw [shape] at lines
    have ending : lineText (front ++ [' '] ++ line) terminated = front ++
        ' ' :: lineText line terminated := by
      have behind : lineText (' ' :: line) terminated = ' ' :: lineText line terminated := by
        cases line with
        | nil => cases terminated <;> rfl
        | cons c line => exact lineText_append [' '] (List.cons_ne_nil c line) terminated
      rw [List.append_assoc, List.singleton_append,
        lineText_append front (List.cons_ne_nil ' ' line), behind]
    refine .inr ⟨lineText line terminated,
      others.map _, by rw [linesOfText, shape]; rfl, ?_, fun c member => ?_⟩
    · rw [linesOfText, lines, ← ending]
      rfl
    · rw [← head_eq_takeWhile shape]
      exact mem_of_mem_lineText member

end Lines

end Offside.Text
