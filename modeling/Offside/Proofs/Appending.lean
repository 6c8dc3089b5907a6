/-
**Descriptions one after the other.**

A description with another one behind it, from the next line on, is loaded like the first and then
the second. The first must load: then it ends where a definition may begin. One scanner reads both,
and the width of its indentation is carried over to the second, but this shows in the tokens for the
layout of lines only, which mean nothing in a description. What fails in the second description
fails further down.

* `read_append`: reading goes on behind items that are read to their end;
* `loadInto_append_lines`: the lines of two descriptions;
* `cutInto_of_return`: a carriage return at the end of a line is in none of its tokens. The
  induction is on how the line is cut;
* `loadInto_feed`: so a line feed behind the first description changes nothing;
* `loadInto_append`: the bytes of two descriptions.
-/

import Offside.Proofs.DescriptionLines
import Offside.Proofs.Relexing
import Offside.Proofs.Seams

namespace Offside

open Text TokenSource

/-! ### A line feed behind bytes -/

namespace Text

/-- A line feed is a byte of its own in UTF-8. -/
theorem notMem_of_decode? {bytes : List UInt8} {chars : List Char}
    (decoded : decode? bytes = some chars) (unbroken : 10 ∉ bytes) : '\n' ∉ chars := by
  obtain ⟨text, valid, rfl⟩ := Option.map_eq_some_iff.mp decoded
  have encoded : text.toByteArray = ⟨bytes.toArray⟩ := by
    rw [String.fromUTF8?] at valid
    split at valid
    · cases valid
      rfl
    · cases valid
  rw [← String.utf8Encode_toList, List.utf8Encode] at encoded
  have spelled : text.toList.flatMap String.utf8EncodeChar = bytes := by
    have data := congrArg (·.data.toList) encoded
    rwa [List.data_toByteArray] at data
  intro member
  rw [← spelled] at unbroken
  exact unbroken (List.mem_flatMap.mpr ⟨_, member, by decide⟩)

/-- The line of a stretch that stands alone. -/
theorem linesOfBytes_of_stretch {bytes line : List UInt8} {terminated : Bool}
    (alone : stretches 10 bytes = [(line, terminated)]) :
    linesOfBytes bytes =
      [(decode? line).elim .malformed fun chars => .text (lineText chars terminated)] := by
  rw [linesOfBytes, alone]
  simp only [List.map_cons, List.map_nil]
  cases decode? line <;> rfl

/-- A line feed behind bytes ends their last line, and if there is none it adds one that is
blank. -/
theorem linesOfBytes_feed_cases (first : List UInt8) :
    linesOfBytes (first ++ [10]) = linesOfBytes first ++ [.text []] ∨
      linesOfBytes (first ++ [10]) = linesOfBytes first ∨
      ∃ front line, '\n' ∉ line ∧ linesOfBytes first = front ++ [.text line] ∧
        linesOfBytes (first ++ [10]) = front ++ [.text (dropReturn line)] := by
  obtain ⟨closed, stretch, rfl, ends, unbroken⟩ := exists_last_stretch 10 first
  have shut := linesOfBytes_of_stretch (stretches_line unbroken [])
  rw [List.append_assoc, linesOfBytes_append ends, linesOfBytes_append ends, shut]
  by_cases empty : stretch = []
  · have blank : decode? [] = some [] := by decide +kernel
    rw [empty, blank]
    exact .inl (congrArg (· ++ _) (List.append_nil _).symm)
  · right
    have opened := linesOfBytes_of_stretch (stretches_of_unbroken empty unbroken)
    rw [opened]
    cases decoded : decode? stretch with
    | none => exact .inl rfl
    | some chars => exact .inr ⟨_, chars, notMem_of_decode? decoded unbroken, rfl, rfl⟩

end Text

namespace Description

/-! ### Reading on -/

/-- **Reading goes on behind items that are read to their end**: a definition is expected there. -/
theorem read_append {front : List (Except Failure Placed)} {last : Placed}
    (isEof : last.token.kind = lexicon.reserved.eof)
    (inside : ∀ placed, .ok placed ∈ front → placed.token.kind ≠ lexicon.reserved.eof)
    (rest : List (Except Failure Placed)) :
    ∀ draft expectation, (read draft expectation (front ++ [.ok last])).2 = none →
      read draft expectation (front ++ rest) =
        read (read draft expectation (front ++ [.ok last])).1 .definition rest := by
  induction front with
  | nil =>
    intro draft expectation reads
    rw [List.nil_append, read] at reads
    rw [List.nil_append, List.nil_append, read]
    rcases step_of_eof isEof expectation with rfl | rejected
    · rw [step_definition_of_eof isEof]
    · rw [rejected] at reads
      cases reads
  | cons item front ih =>
    intro draft expectation reads
    cases item with
    | error failure => cases reads
    | ok placed =>
      have onward := ih fun other member => inside other (List.mem_cons_of_mem _ member)
      rw [List.cons_append, read] at reads ⊢
      rw [List.cons_append, read]
      cases went : step expectation placed.token with
      | expect next added =>
        rw [went] at reads
        exact onward _ next reads
      | done => exact absurd (of_step_eq_done went) (inside placed List.mem_cons_self)
      | reject =>
        rw [went] at reads
        cases reads

/-- No end of input stands in a line. -/
theorem kind_ne_eof_of_mem {lines : List (Line × Nat)} {placed : Placed}
    (member : .ok placed ∈ lines.flatMap lineItems) : placed.token.kind ≠ lexicon.reserved.eof := by
  obtain ⟨⟨line, number⟩, _, inLine⟩ := List.mem_flatMap.mp member
  cases line with
  | malformed => cases List.mem_singleton.mp inLine
  | text line =>
    by_cases blank : isBlankLine line
    · rw [lineItems_blank _ blank] at inLine
      cases inLine
    · rw [lineItems_inked _ blank] at inLine
      have sound : (entered line number).lexicon.Sound := lexicon_entered number ▸ sound_lexicon
      rcases List.mem_append.mp inLine with inContent | stuck
      · obtain ⟨shown, found, same⟩ := List.mem_map.mp inContent
        obtain rfl := Except.ok.inj same
        have free := (ScanState.kind_of_mem_cutLine sound found).1
        rw [lexicon_entered] at free
        exact ReservedKinds.ne_eof_of_free free
      · split at stuck
        · cases stuck
        · cases List.mem_singleton.mp stuck

/-! ### Lines -/

/-- The items of lines some rows further down. -/
theorem written_below {lines : List Line} (some : lines ≠ []) (state : ScanState) (rows : Nat) :
    (lines.zipIdx rows).flatMap lineItems ++ [.ok (closing state (lines.zipIdx rows))] =
      (written lines).map (itemBelow rows) := by
  have further : lines.zipIdx rows = lines.zipIdx.map fun (line, number) =>
      (line, number + rows) := by
    rw [List.zipIdx_eq_map_add]
    refine List.map_congr_left fun (line, number) _ => ?_
    show (line, rows + number) = (line, number + rows)
    rw [Nat.add_comm]
  rw [further, written, List.map_append, List.flatMap_map, List.map_flatMap]
  refine congrArg₂ _ (List.flatMap_congr fun (line, number) _ => lineItems_below number rows line)
    ?_
  rw [closing, closing, List.getLast?_map]
  cases last : lines.zipIdx.getLast? with
  | none => exact absurd (List.zipIdx_eq_nil_iff.mp (List.getLast?_eq_none_iff.mp last)) some
  | some numbered =>
    exact congrArg (fun placed => [Except.ok placed]) (endOf_lineEnd_below _ rows _)

/-- **Lines one after the other are loaded one after the other.** -/
theorem loadInto_append_lines {draft : Draft} {first : List Line}
    (loads : (loadInto draft first).2 = none) (second : List Line) :
    loadInto draft (first ++ second) =
      ((loadInto (loadInto draft first).1 second).1,
        (loadInto (loadInto draft first).1 second).2.map (Failure.below first.length)) := by
  by_cases done : second = []
  · have nothing : ∀ draft, loadInto draft [] = (draft, none) := by
      intro draft
      rw [loadInto_eq]
      show read draft .definition [.ok (endOf _)] = _
      rw [read, step_definition_of_eof rfl]
    rw [done, List.append_nil, nothing, Option.map_none, ← loads]
  · have seam : written (first ++ second) =
        first.zipIdx.flatMap lineItems ++ (written second).map (itemBelow first.length) := by
      have more : second.zipIdx first.length ≠ [] := mt List.zipIdx_eq_nil_iff.mp done
      rw [written, List.zipIdx_append, Nat.zero_add, List.flatMap_append, List.append_assoc,
        closing, List.getLast?_append_of_ne_nil _ more, ← written_below done]
      rfl
    rw [loadInto_eq] at loads
    rw [loadInto_eq, loadInto_eq, loadInto_eq, seam, ← read_below]
    exact read_append rfl (fun _ => kind_ne_eof_of_mem) _ _ _ loads

/-! ### A line feed behind a description -/

/-- No token ends with a carriage return. -/
theorem Begins.solid {input : List Char} {found : Match} (begins : Begins input found) :
    found.text.getLast? ≠ some '\r' := by
  cases begins with
  | name isName => exact (@firm_name none _ isName fun _ absent => nomatch absent).solid
  | mark member => exact (@firm_mark none _ _ member).solid
  | @matcher matcher =>
    show (delimited matcher).getLast? ≠ some '\r'
    rw [delimited, ← List.cons_append, List.getLast?_concat]
    cases matcher with
    | literal _ => exact (by decide : some '\'' ≠ some '\r')
    | regex _ => exact (by decide : some '/' ≠ some '\r')

theorem unasserting_rules : ∀ rule ∈ lexicon.rules, rule.program.Unasserting := by
  rw [lexicon_eq]
  exact Draft.unasserting_of_compile compile_draft unasserting_draft

/-- A carriage return at the end of a line is in none of its tokens. -/
theorem cutInto_of_return {text : List Char} {tokens : List Match}
    (cut : CutInto lexicon text tokens)
    (unbroken : '\n' ∉ text) : ∀ front, text = front ++ ['\r'] → CutInto lexicon front tokens := by
  induction cut with
  | nil =>
    intro front shape
    exact absurd shape.symm (List.append_ne_nil_of_right_ne_nil _ (List.cons_ne_nil _ _))
  | @blank c text tokens blank rest ih =>
    intro front shape
    rw [List.mem_cons, not_or] at unbroken
    cases front with
    | nil =>
      obtain ⟨_, rfl⟩ := List.cons.inj shape
      rw [rest.of_nil]
      exact .nil
    | cons d front =>
      obtain ⟨rfl, shorter⟩ := List.cons.inj shape
      exact .blank blank (ih unbroken.2 front shorter)
  | @found found text tokens inked matched rest ih =>
    intro front shape
    have begins :=
      begins_of_longestMatch (List.append_ne_nil_of_left_ne_nil inked.ne_nil text) unbroken matched
    rw [List.mem_append, not_or] at unbroken
    rcases List.eq_nil_or_concat text with rfl | ⟨between, last, rfl⟩
    · rw [List.append_nil] at shape
      exact absurd (shape ▸ List.getLast?_concat) begins.solid
    · rw [List.concat_eq_append] at shape matched ih unbroken
      rw [← List.append_assoc] at shape matched
      obtain ⟨rfl, same⟩ := List.append_inj' shape rfl
      obtain rfl := List.singleton_inj.mp same
      have fits : found.text.length ≤ (found.text ++ between).length := by
        rw [List.length_append]
        exact Nat.le_add_right _ _
      exact .found inked (Lexicon.longestMatch_append unasserting_rules matched fits)
        (ih unbroken.2 between rfl)

theorem cutInto_dropReturn {text : List Char} {tokens : List Match}
    (cut : CutInto lexicon text tokens)
    (unbroken : '\n' ∉ text) : CutInto lexicon (dropReturn text) tokens := by
  rcases dropReturn_cases text with same | returned
  · rw [same]
    exact cut
  · exact cutInto_of_return cut unbroken _ returned

/-- **Lines that are cut into the same tokens are loaded alike**, if they are loaded at all. -/
theorem loadInto_of_cut {draft : Draft} {lines lines' : List Line}
    {parts parts' : List (List Char × List Match)} (shape : lines = parts.map (.text ·.1))
    (cut : ∀ part ∈ parts, CutInto lexicon part.1 part.2) (shape' : lines' = parts'.map (.text ·.1))
    (cut' : ∀ part ∈ parts', CutInto lexicon part.1 part.2)
    (same : parts'.flatMap (·.2) = parts.flatMap (·.2)) (loads : (loadInto draft lines).2 = none) :
    loadInto draft lines' = loadInto draft lines := by
  obtain ⟨placed, listed, tokens⟩ := exists_items_of_cut shape cut
  obtain ⟨placed', listed', tokens'⟩ := exists_items_of_cut shape' cut'
  have result : loadInto draft lines = ((loadInto draft lines).1, none) := Prod.ext rfl loads
  rw [result]
  show read draft .definition (items lines') = _
  rw [listed']
  refine read_congr ?_ _ _ _ ((congrArg _ listed.symm).trans result)
  rw [tokens, tokens', same]

/-- Whether something is read to its end does not depend on the rules to which it adds. -/
theorem read_snd (items : List (Except Failure Placed)) (draft draft' : Draft)
    (expectation : Expectation) :
    (read draft expectation items).2 = (read draft' expectation items).2 := by
  induction items generalizing draft draft' expectation with
  | nil => rfl
  | cons item items ih =>
    cases item with
    | error failure => rfl
    | ok placed =>
      rw [read, read]
      split
      · exact ih _ _ _
      · rfl
      · rfl

theorem load_of_loadInto {draft : Draft} {lines : List Line}
    (loads : (loadInto draft lines).2 = none) :
    load lines = .ok (loadInto {} lines).1 :=
  load_eq_ok_iff.mpr (Prod.ext rfl ((read_snd _ {} draft .definition).trans loads))

/-- A blank line behind a description that loads changes nothing. -/
theorem loadInto_blank {draft : Draft} {lines : List Line}
    (loads : (loadInto draft lines).2 = none) :
    loadInto draft (lines ++ [.text []]) = loadInto draft lines := by
  obtain ⟨parts, shape, cut⟩ := exists_parts_of_load (load_of_loadInto loads)
  have shape' : lines ++ [.text []] =
      (parts ++ [(([] : List Char), ([] : List Match))]).map (.text ·.1) := by
    rw [shape, List.map_append]
    rfl
  have cut' : ∀ part ∈ parts ++ [([], [])], CutInto lexicon part.1 part.2 :=
    List.forall_mem_append.mpr ⟨cut, List.forall_mem_singleton.mpr .nil⟩
  refine loadInto_of_cut shape cut shape' cut' ?_ loads
  rw [List.flatMap_append]
  exact List.append_nil _

/-- Nor does it that a carriage return at the end of the last line becomes a part of the line
break. -/
theorem loadInto_dropReturn {draft : Draft} {front : List Line} {line : List Char}
    (unbroken : '\n' ∉ line) (loads : (loadInto draft (front ++ [.text line])).2 = none) :
    loadInto draft (front ++ [.text (dropReturn line)]) =
      loadInto draft (front ++ [.text line]) := by
  obtain ⟨parts, shape, cut⟩ := exists_parts_of_load (load_of_loadInto loads)
  obtain ⟨others, _, rfl, rfl, isLast⟩ := List.map_eq_append_iff.mp shape.symm
  obtain ⟨⟨chars, tokens⟩, _, rfl, same, none⟩ := List.map_eq_cons_iff.mp isLast
  obtain rfl := List.map_eq_nil_iff.mp none
  obtain rfl : chars = line := Line.text.inj same
  obtain ⟨before, last⟩ := List.forall_mem_append.mp cut
  have here : CutInto lexicon chars tokens := last _ (List.mem_singleton_self _)
  have cut' : ∀ part ∈ others ++ [(dropReturn chars, tokens)], CutInto lexicon part.1 part.2 :=
    List.forall_mem_append.mpr
      ⟨before, List.forall_mem_singleton.mpr (cutInto_dropReturn here unbroken)⟩
  have shape' : others.map (.text ·.1) ++ [Line.text (dropReturn chars)] =
      (others ++ [(dropReturn chars, tokens)]).map (.text ·.1) := by
    rw [List.map_append]
    rfl
  refine loadInto_of_cut shape cut shape' cut' ?_ loads
  rw [List.flatMap_append, List.flatMap_append]
  rfl

/-- **A line feed behind a description that loads changes nothing**: it ends the last line, or adds
one that is blank. -/
theorem loadInto_feed {draft : Draft} {first : List UInt8}
    (loads : (loadInto draft (linesOfBytes first)).2 = none) :
    loadInto draft (linesOfBytes (first ++ [10])) = loadInto draft (linesOfBytes first) := by
  rcases linesOfBytes_feed_cases first with more | same | ⟨front, line, unbroken, opened, closed⟩
  · rw [more]
    exact loadInto_blank loads
  · rw [same]
  · rw [opened] at loads
    rw [opened, closed]
    exact loadInto_dropReturn unbroken loads

/-! ### Bytes -/

/-- **Descriptions one after the other are loaded one after the other.** Behind a description that
loads and a line feed a second one adds to the rules what it adds to those of the first, and it
fails if it fails there, in the same way, but as many rows further down as the first has lines with
the line feed behind it. -/
theorem loadInto_append (draft : Draft) {first : List UInt8}
    (loads : (loadInto draft (linesOfBytes first)).2 = none) (second : List UInt8) :
    let alone := loadInto (loadInto draft (linesOfBytes first)).1 (linesOfBytes second)
    loadInto draft (linesOfBytes (first ++ 10 :: second)) =
      (alone.1, alone.2.map (Failure.below (linesOfBytes (first ++ [10])).length)) := by
  intro alone
  have closed : ∀ last ∈ (first ++ [10]).getLast?, last = (10 : UInt8) := by
    intro last member
    rw [List.getLast?_concat] at member
    exact (Option.some.inj member).symm
  have lines : linesOfBytes (first ++ 10 :: second) = linesOfBytes (first ++ [10]) ++
      linesOfBytes second := by
    rw [← linesOfBytes_append closed, List.append_assoc]
    rfl
  have feed := loadInto_feed loads
  rw [← feed] at loads
  rw [lines, loadInto_append_lines loads, feed]

/-- The first description ends with a carriage return, which becomes a part of the line break, and
the second ends in the middle of an indented definition. -/
theorem loadInto_append_return :
    let first := "A: 'a';\r".toUTF8.toList
    let second := "  B: 'b' |".toUTF8.toList
    (loadInto {} (linesOfBytes first)).2 = none ∧
      loadInto {} (linesOfBytes (first ++ 10 :: second)) =
        ((loadInto (loadInto {} (linesOfBytes first)).1 (linesOfBytes second)).1,
          (loadInto (loadInto {} (linesOfBytes first)).1 (linesOfBytes second)).2.map
            (Failure.below (linesOfBytes (first ++ [10])).length)) := by
  intro first second
  have line : linesOfBytes first = [.text "A: 'a';\r".toList] := by decide +kernel
  have cut : CutInto lexicon "A: 'a';\r".toList
      [⟨nameKind, ['A']⟩, ⟨colonKind, [':']⟩, matcherToken (.literal ['a']),
        ⟨semicolonKind, [';']⟩] :=
    @cutInto_of_begins ⟨nameKind, ['A']⟩ _ _ (begins_of_ends (by decide) (by decide)) <|
    @cutInto_of_begins ⟨colonKind, [':']⟩ _ _ (.mark (by decide)) <| .blank rfl <|
    @cutInto_of_begins (matcherToken (.literal ['a'])) _ _ (.matcher ⟨rfl, by decide⟩) <|
    @cutInto_of_begins ⟨semicolonKind, [';']⟩ _ _ (.mark (by decide)) <| .blank rfl .nil
  have loaded : load (linesOfBytes first) = .ok { rules := [("A", [.literal ['a']])] } := by
    refine @load_of_cut _ _ [(_, _)] line (List.forall_mem_singleton.mpr cut)
      (List.map (fun found => ⟨⟨found.kind, found.text, 0, 0⟩, []⟩)
        [⟨nameKind, ['A']⟩, ⟨colonKind, [':']⟩, matcherToken (.literal ['a']),
          ⟨semicolonKind, [';']⟩, ⟨lexicon.reserved.eof, ['$']⟩]) rfl ?_
    simp only [List.map_cons, List.map_nil, read, step, lexicon_eq, matcherToken,
      withoutDelimiters_delimited]
    rfl
  have loads : (loadInto {} (linesOfBytes first)).2 = none := by
    rw [load_eq_ok_iff.mp loaded]
  exact ⟨loads, loadInto_append {} loads second⟩

end Description

end Offside
