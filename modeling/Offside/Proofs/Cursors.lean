/-
**Three cursors, one place.**

The place of a scanner in its line is known as a number of bytes, as a column, which counts
characters, and as the padding of a caret, in which every character but the blanks is a space. The
three are moved on together, match by match and blanks by blanks, and set back at each new line.

* `Text.isValid_byteLength`: the bytes of the first characters of a text end between two characters;
* `ScanState.Stands`: all cursors stand behind the same part of the line; each step keeps this
  (`Stands.step`, `exists_stands_nextLine`), and with it whatever produces a token
  (`exists_stands_next`);
* `Scanner.Aligned`: what this means for each of the cursors;
* `aligned_calls`: they are aligned whatever a scanner is asked for.
-/

import Offside.Proofs.Absorbing
import Offside.Proofs.Tiling

namespace Offside

open Text TokenSource

/-! ### Bytes and characters -/

namespace Text

theorem foldl_utf8Size (text : List Char) (start : Nat) :
    text.foldl (fun total c => total + c.utf8Size) start = start + byteLength text := by
  induction text generalizing start with
  | nil => rfl
  | cons c text ih =>
    rw [byteLength, List.foldl_cons, List.foldl_cons, ih, ih, Nat.zero_add, Nat.add_assoc]

theorem byteLength_append (first second : List Char) :
    byteLength (first ++ second) = byteLength first + byteLength second := by
  rw [byteLength, List.foldl_append, foldl_utf8Size]
  rfl

theorem byteLength_cons (c : Char) (text : List Char) :
    byteLength (c :: text) = c.utf8Size + byteLength text := by
  rw [byteLength, List.foldl_cons, foldl_utf8Size, Nat.zero_add]

/-- The number of bytes is that of the text as a string. -/
theorem utf8ByteSize_ofList (text : List Char) :
    (String.ofList text).utf8ByteSize = byteLength text := by
  induction text with
  | nil => rfl
  | cons c text ih =>
    have parts : String.ofList (c :: text) = String.singleton c ++ String.ofList text := by
      rw [String.singleton_eq_ofList, ← String.ofList_append, List.singleton_append]
    rw [parts, String.utf8ByteSize_append, String.utf8ByteSize_singleton, ih, byteLength_cons]

/-- The bytes of the first characters of a text end between two characters. -/
theorem isValid_byteLength (part rest : List Char) :
    String.Pos.Raw.IsValid (String.ofList (part ++ rest)) ⟨byteLength part⟩ := by
  refine String.Pos.Raw.isValid_iff_exists_append.mpr
    ⟨String.ofList part, String.ofList rest, String.ofList_append, ?_⟩
  rw [← utf8ByteSize_ofList]
  rfl

end Text

namespace ScanState

/-! ### Steps -/

/-- All cursors of a scanner stand behind a part of its line. -/
structure Stands (state : ScanState) (part : List Char) : Prop extends state.Behind part where
  offset : state.offset = byteLength part
  /-- Within a line, what is left starts with a match or with something that no rule matches. -/
  inked : state.phase = .content → state.rest = [] ∨ StartsInked state.rest

section Steps

variable {state : ScanState} {part : List Char}

theorem offset_passBlanks (state : ScanState) :
    state.passBlanks.offset = state.offset + byteLength (leadingBlanks state.rest) := by
  have taken : leadingBlanks state.rest = state.rest.take (leadingBlanks state.rest).length :=
    List.prefix_iff_eq_take.mp (List.takeWhile_prefix _)
  conv_rhs => rw [taken]
  rfl

/-- A match and the blanks behind it are passed by all cursors. -/
theorem Stands.step {found : Match} (stands : state.Stands part)
    (matched : state.lexicon.longestMatch state.rest = some found) :
    (state.step found).Stands (part ++ (state.lexeme found).text) where
  toBehind := behind_step matched stands.toBehind
  offset := by
    have taken : found.text = state.rest.take found.text.length :=
      List.prefix_iff_eq_take.mp (Lexicon.longestMatch_text_isPrefix matched)
    have passed : (state.pass found.text.length).offset = state.offset + byteLength found.text := by
      conv_rhs => rw [taken]
      rfl
    rw [ScanState.step, offset_passBlanks, passed, rest_pass, stands.offset, Lexeme.text, lexeme,
      byteLength_append, byteLength_append, Nat.add_assoc]
  inked _ := rest_step state found ▸ afterBlanks_cases _

/-- At a new line all cursors stand in front of it, or behind its leading blanks if there is
something else. -/
theorem exists_stands_beginLine (state : ScanState) (line : List Char) (unread : List Line) :
    ∃ part, (state.beginLine line unread).2.Stands part := by
  by_cases blank : isBlankLine line
  · refine ⟨[], ⟨?_, ?_, ?_⟩, ?_, ?_⟩ <;> rw [beginLine, if_pos blank]
    · rfl
    · rfl
    · rfl
    · rfl
    · exact fun absent => Phase.noConfusion absent
  · obtain ⟨behind, rest⟩ := @behind_enterLine state line state.row unread blank
    refine ⟨leadingBlanks line, behind, ?_, fun _ => .inr (rest ▸ startsInked_afterBlanks blank)⟩
    rw [beginLine, if_neg blank]
    exact (offset_passBlanks _).trans (Nat.zero_add _)

theorem exists_stands_nextLine (stands : ∃ part, state.Stands part) :
    ∃ part, state.nextLine.2.Stands part := by
  obtain ⟨part, behind, offset, _⟩ := stands
  rw [nextLine]
  split
  · exact ⟨part, ⟨behind.line, behind.column, behind.padding⟩, offset,
      fun absent => Phase.noConfusion absent⟩
  · exact ⟨part, ⟨behind.line, behind.column, behind.padding⟩, offset,
      fun absent => Phase.noConfusion absent⟩
  · exact exists_stands_beginLine state _ _

/-- **Producing a token keeps the cursors together.** -/
theorem exists_stands_next (state : ScanState) :
    (∃ part, state.Stands part) → ∃ part, state.next.2.Stands part := by
  induction state using next_induction with
  | line state _ => exact exists_stands_nextLine
  | stuck state => exact id
  | skip state found _ _ matched _ onward =>
    exact fun ⟨_, stands⟩ => onward ⟨_, stands.step matched⟩
  | give state found _ _ matched => exact fun ⟨_, stands⟩ => ⟨_, stands.step matched⟩

end Steps

end ScanState

/-! ### Scanners -/

/-- The cursors of a scanner show the same place of its line. -/
structure Scanner.Aligned (scanner : Scanner) : Prop where
  /-- The offset is that of a byte of the line, or its end. -/
  within : scanner.stage.offset ≤ (String.ofList (line scanner)).utf8ByteSize
  /-- It lies between two characters, so that the line can be cut there. -/
  boundary : String.Pos.Raw.IsValid (String.ofList (line scanner)) ⟨scanner.stage.offset⟩
  /-- What is left of the line is what stands behind the offset, and the column counts the
  characters in front of it. -/
  column : ∃ before, line scanner = before ++ scanner.stage.rest ∧
    scanner.stage.offset = (String.ofList before).utf8ByteSize ∧
    scanner.stage.column = before.length + 1
  /-- The padding is that of a caret in this column. -/
  padding : padding scanner = blankPrefix (line scanner) (scanner.stage.column - 1)
  /-- Whatever is taken next of the rest, a match or blanks, ends between two characters too. -/
  onward : ∀ taken, taken <+: scanner.stage.rest →
    String.Pos.Raw.IsValid (String.ofList (line scanner))
    ⟨scanner.stage.offset + (String.ofList taken).utf8ByteSize⟩
  /-- Within a line the rest is empty or starts with a character that is not blank. -/
  content : scanner.stage.phase = .content →
    scanner.stage.rest = [] ∨ StartsInked scanner.stage.rest

theorem Scanner.aligned_of_stands {scanner : Scanner} {part : List Char}
    (stands : scanner.stage.Stands part) : scanner.Aligned := by
  have whole : line scanner = part ++ scanner.stage.rest := stands.line
  have bytes : scanner.stage.offset = (String.ofList part).utf8ByteSize := by
    rw [utf8ByteSize_ofList, stands.offset]
  have onward : ∀ taken, taken <+: scanner.stage.rest →
      String.Pos.Raw.IsValid (String.ofList (line scanner))
      ⟨scanner.stage.offset + (String.ofList taken).utf8ByteSize⟩ := by
    rintro taken ⟨left, shape⟩
    rw [whole, ← shape, ← List.append_assoc, utf8ByteSize_ofList, stands.offset,
      ← byteLength_append]
    exact isValid_byteLength _ _
  have boundary : String.Pos.Raw.IsValid (String.ofList (line scanner)) ⟨scanner.stage.offset⟩ :=
    onward [] (List.nil_prefix)
  refine ⟨boundary.le_rawEndPos, boundary, ⟨part, whole, bytes, stands.column⟩, ?_, onward,
    stands.inked⟩
  have caret := congrArg Caret.padding (ScanState.caret_of_behind stands.toBehind)
  rw [stands.column]
  exact caret

/-- **The cursors of a scanner are aligned**, whatever its rules and its lines are and however it
was peeked at and popped. -/
theorem aligned_calls (lexicon : Lexicon) (lines : List Line) (consumer : List Call) :
    Scanner.Aligned (calls (Scanner.ofLines lexicon lines) consumer).2 := by
  have start : ∃ part, (Scanner.ofLines lexicon lines).stage.Stands part :=
    ⟨[], ⟨rfl, rfl, rfl⟩, rfl, fun absent => Phase.noConfusion absent⟩
  have onward : ∀ (scanner : Scanner) (next : Call), (∃ part, scanner.stage.Stands part) →
      ∃ part, (call scanner next).2.stage.Stands part := by
    intro scanner next stands
    rcases Buffered.stage_call scanner next with same | produced
    · rw [same]
      exact stands
    · rw [produced]
      exact scanner.stage.exists_stands_next stands
  obtain ⟨part, stands⟩ := holds_calls onward start consumer
  exact Scanner.aligned_of_stands stands

end Offside
