/-
**A fragment between parentheses means what it means by itself.**

The matchers of a kind are put between parentheses and read as one pattern. While the text of one of
them is read, the reader does what it does with that text alone: it has more groups around it, which
it never touches, and it numbers groups from where the fragments in front of it left off. The one
thing that may happen is that a group has the name of a group in another fragment, and then nothing
is read at all.

* `Reader.within`: a reader with more around it;
* `Action.perform_within`: what is done is done in the same way there, or a name is taken;
* `Reader.Reads.within`: and so a text is read as it is read alone, up to a closing parenthesis, by
  induction on how it is read;
* `Reader.Reads.bracketed`: between parentheses it becomes one piece of what is around it;
* `ofPattern?_combined`: the matchers of a kind as one pattern.
-/

import Offside.Proofs.Actions
import Offside.Proofs.Renumbering

namespace Offside.Pattern

/-! ### Higher numbers -/

/-- The piece with the numbers of its groups raised. -/
def Piece.renumber (shift : Nat) (piece : Piece) : Piece :=
  { piece with outline := piece.outline.renumber shift }

namespace OpenGroup

/-- The group with the numbers of all groups in it raised, and its own. -/
def renumber (shift : Nat) (group : OpenGroup) : OpenGroup where
  alternatives := group.alternatives.map (Piece.renumber shift)
  pieces := group.pieces.map (Piece.renumber shift)
  number := group.number.map (· + shift)

variable (shift : Nat) (group : OpenGroup)

theorem deepest_renumber (pieces : List Piece) :
    deepest (pieces.map (Piece.renumber shift)) = deepest pieces := by
  rw [deepest, deepest, List.map_map]
  rfl

theorem outline_renumber (pieces : List Piece) :
    (pieces.map (Piece.renumber shift)).map (·.outline) =
      (pieces.map (·.outline)).map (Outline.renumber shift) := by
  rw [List.map_map, List.map_map]
  rfl

theorem current_renumber : (group.renumber shift).current = group.current.renumber shift := by
  obtain ⟨alternatives, pieces, number⟩ := group
  match pieces with
  | [] => rfl
  | [only] => rfl
  | first :: second :: rest =>
    have outlines := outline_renumber shift (first :: second :: rest).reverse
    have depth := deepest_renumber shift (first :: second :: rest)
    rw [List.map_reverse] at outlines
    simp only [renumber, current, List.map_cons] at outlines depth ⊢
    rw [outlines, depth, ← Outline.renumber_sequence]
    rfl

theorem alternate_renumber : (group.renumber shift).alternate = group.alternate.renumber shift := by
  rw [alternate, current_renumber]
  rfl

theorem whole_renumber : (group.renumber shift).whole = group.whole.renumber shift := by
  have here := current_renumber shift group
  obtain ⟨alternatives, pieces, number⟩ := group
  match alternatives with
  | [] => exact here
  | first :: rest =>
    unfold whole
    rw [here]
    simp only [renumber, List.map_cons]
    rw [← List.map_cons, ← List.map_cons, ← List.map_reverse, outline_renumber, deepest_renumber,
      ← Outline.renumber_choice]
    rfl

theorem closed_renumber : (group.renumber shift).closed = group.closed.renumber shift := by
  rw [closed, whole_renumber]
  obtain ⟨alternatives, pieces, number⟩ := group
  cases number <;> rfl

end OpenGroup

/-! ### Readers with more around them -/

/-- What is around a fragment: the groups that are open, and the number and the names of the groups
in front of it. -/
structure Surroundings where
  outer : List (OpenGroup × Flags)
  groups : Nat
  names : List (List Char)

namespace Reader

/-- The reader with more around it. -/
def within (around : Surroundings) (reader : Reader) : Reader where
  group := reader.group.renumber around.groups
  outer := reader.outer.map (fun entry => (entry.1.renumber around.groups, entry.2)) ++ around.outer
  flags := reader.flags
  groups := reader.groups + around.groups
  names := reader.names ++ around.names

variable {around : Surroundings} {reader next last : Reader}

theorem add_within (piece : Piece) :
    (reader.within around).add (piece.renumber around.groups) = (reader.add piece).within around :=
  rfl

theorem addClass_within (set : Unicode.CharSet) (depth : Nat) :
    (reader.within around).addClass set depth = (reader.addClass set depth).within around := by
  rw [addClass, addClass, ← add_within, Piece.renumber, Outline.renumber_ofSet]
  rfl

theorem addLiteral_within (c : Char) :
    (reader.within around).addLiteral c = (reader.addLiteral c).within around := by
  unfold addLiteral
  rw [addClass_within, addClass_within, apply_ite (within around), apply_ite (within around)]
  rfl

theorem openNumbered_within :
    (reader.within around).openNumbered = reader.openNumbered.within around := by
  have next : reader.groups + around.groups + 1 = reader.groups + 1 + around.groups := by omega
  simp only [openNumbered, openGroup, within, next]
  rfl

theorem closeGroup_within (closed : reader.closeGroup = some next) :
    (reader.within around).closeGroup = some (next.within around) := by
  obtain ⟨group, outer, flags, groups, names⟩ := reader
  cases outer with
  | nil => cases closed
  | cons parent outer =>
    cases closed
    simp only [closeGroup, within, List.map_cons, List.cons_append, OpenGroup.closed_renumber]
    rfl

theorem repeatLast_within {least : Nat} {most : Option Nat} {lazy : Bool}
    (repeated : reader.repeatLast least most lazy = some next) :
    (reader.within around).repeatLast least most lazy = some (next.within around) := by
  obtain ⟨⟨alternatives, pieces, number⟩, outer, flags, groups, names⟩ := reader
  cases pieces with
  | nil => cases repeated
  | cons piece earlier =>
    simp only [repeatLast, within, OpenGroup.renumber, List.map_cons] at repeated ⊢
    split_ifs at repeated with repeatable
    cases repeated
    rw [if_pos (show (piece.renumber around.groups).repeatable = true from repeatable),
      Piece.renumber, ← Outline.renumber_repetition]
    rfl

end Reader

/-- Whether a group of the reader has the name of a group around it. -/
def Reader.Clashes (around : Surroundings) (reader : Reader) : Prop :=
  ∃ name ∈ reader.names, name ∈ around.names

/-- What is done is done in the same way with more around, unless a name is taken. -/
theorem Action.perform_within (around : Surroundings) {action : Action} {reader next : Reader}
    (done : action.perform reader = some next) :
    action.perform (reader.within around) = some (next.within around) ∨
      action.perform (reader.within around) = none ∧ next.Clashes around := by
  cases action with
  | literal c =>
    cases done
    exact .inl (congrArg some (Reader.addLiteral_within c))
  | members set depth =>
    cases done
    exact .inl (congrArg some (Reader.addClass_within set depth))
  | assertion asked | openGroup flags | change flags =>
    cases done
    exact .inl rfl
  | alternate =>
    cases done
    refine .inl (congrArg some ?_)
    simp only [Reader.within, OpenGroup.alternate_renumber]
  | openNumbered =>
    cases done
    exact .inl (congrArg some Reader.openNumbered_within)
  | openNamed name =>
    simp only [Action.perform] at done ⊢
    split_ifs at done with taken
    cases done
    by_cases clash : name ∈ around.names
    · refine .inr ⟨if_pos ?_, name, List.mem_cons_self, clash⟩
      exact List.contains_iff_mem.mpr (List.mem_append_right _ clash)
    · left
      rw [if_neg, Reader.openNumbered_within]
      · rfl
      · rw [Reader.within, List.contains_iff_mem, List.mem_append, not_or]
        exact ⟨fun member => taken (List.contains_iff_mem.mpr member), clash⟩
  | closeGroup => exact .inl (Reader.closeGroup_within done)
  | repeatLast least most lazy => exact .inl (Reader.repeatLast_within done)

theorem Action.names_perform {action : Action} {reader next : Reader}
    (done : action.perform reader = some next) :
    reader.names ⊆ next.names := by
  cases action with
  | openNamed name =>
    simp only [Action.perform] at done
    split_ifs at done
    cases done
    exact List.subset_cons_self _ _
  | closeGroup =>
    obtain ⟨group, outer, flags, groups, names⟩ := reader
    cases outer <;> cases done
    exact List.Subset.refl _
  | repeatLast least most lazy =>
    simp only [Action.perform, Reader.repeatLast] at done
    split at done
    · cases done
    · split_ifs at done
      cases done
      exact List.Subset.refl _
  | literal c =>
    cases done
    simp only [Reader.addLiteral]
    split_ifs <;> exact List.Subset.refl _
  | _ =>
    cases done
    exact List.Subset.refl _

/-! ### Reading -/

namespace Reader

/-- Whether blanks mean something to the reader all through the text. -/
def staysPlain (reader : Reader) (text : List Char) : Bool :=
  !reader.flags.verbose &&
    match text with
    | [] => true
    | c :: rest =>
      match reader.step c rest with
      | none => true
      | some (next, left) => if left.length ≤ rest.length then next.staysPlain left else true
termination_by text.length
decreasing_by
  simp only [List.length_cons]
  omega

/-- A text is read to its end, and blanks mean something all through it. -/
inductive Reads : Reader → List Char → Reader → Prop
  | done {reader : Reader} (plain : reader.flags.verbose = false) : Reads reader [] reader
  | step {reader next last : Reader} {c : Char} {rest left : List Char} {action : Action}
      (plain : reader.flags.verbose = false)
      (found : readAction reader.flags c rest = some (action, left))
      (performed : action.perform reader = some next) (shorter : left.length ≤ rest.length)
      (later : Reads next left last) : Reads reader (c :: rest) last

variable {around : Surroundings} {reader next last : Reader}

theorem read_nil (reader : Reader) : reader.read [] = some reader := by
  have nothing : skipSpace reader.flags.verbose [] = [] := by
    unfold skipSpace
    split <;> rfl
  rw [read]
  split
  · rfl
  · rename_i some
    rw [nothing] at some
    cases some

theorem read_cons {reader : Reader} (plain : reader.flags.verbose = false) (c : Char)
    (rest : List Char) :
    reader.read (c :: rest) =
      (reader.step c rest).bind fun found => if found.2.length ≤ rest.length then
        found.1.read found.2 else none := by
  rw [read]
  split
  · rename_i nothing
    rw [skipSpace_of_plain plain] at nothing
    cases nothing
  · rename_i shown
    rw [skipSpace_of_plain plain] at shown
    cases shown
    cases reader.step c rest <;> rfl

/-- What is done first is done, and the rest of the text is read. -/
theorem read_of_perform (reader : Reader) (action : Action) {c : Char} {rest left : List Char}
    (plain : reader.flags.verbose = false)
    (found : readAction reader.flags c rest = some (action, left))
    (shorter : left.length ≤ rest.length) :
    reader.read (c :: rest) = (action.perform reader).bind (·.read left) := by
  rw [read_cons plain, step_eq, found, Option.bind_some, Option.bind_map]
  refine Option.bind_congr fun next _ => ?_
  exact if_pos shorter

theorem reads_of_read {text : List Char} (read : reader.read text = some last)
    (plain : reader.staysPlain text = true) : reader.Reads text last := by
  induction length : text.length using Nat.strong_induction_on generalizing reader text with
  | _ count ih =>
  have plainHere : reader.flags.verbose = false := by
    rw [staysPlain.eq_def, Bool.and_eq_true] at plain
    simpa using plain.1
  cases text with
  | nil =>
    rw [read_nil] at read
    cases read
    exact .done plainHere
  | cons c rest =>
    rw [staysPlain.eq_def, Bool.and_eq_true] at plain
    rw [read_cons plainHere] at read
    obtain ⟨⟨next, left⟩, step, read⟩ := Option.bind_eq_some_iff.mp read
    simp only [step] at read plain
    split_ifs at read with shorter
    rw [step_eq] at step
    obtain ⟨⟨action, left⟩, found, step⟩ := Option.bind_eq_some_iff.mp step
    obtain ⟨next, performed, same⟩ := Option.map_eq_some_iff.mp step
    cases same
    dsimp only at shorter
    refine .step plainHere found performed shorter (ih left.length ?_ read ?_ rfl)
    · rw [List.length_cons] at length
      omega
    · simpa [shorter] using plain.2

theorem Reads.read {text : List Char} (reads : reader.Reads text last) :
    reader.read text = some last := by
  induction reads with
  | done => exact read_nil _
  | step plain found performed shorter _ ih =>
    rw [read_of_perform _ _ plain found shorter, performed, Option.bind_some, ih]

theorem Reads.names {text : List Char} (reads : reader.Reads text last) :
    reader.names ⊆ last.names := by
  induction reads with
  | done => exact List.Subset.refl _
  | step _ _ performed _ _ ih => exact List.Subset.trans (Action.names_perform performed) ih

/-- **A text is read as it is read alone, up to a closing parenthesis behind it**, unless one of its
groups has a name that is taken. -/
theorem Reads.within {text : List Char} (reads : reader.Reads text last) (around : Surroundings)
    (more : List Char) :
    (reader.within around).read (text ++ ')' :: more) = (last.within around).read (')' :: more) ∨
      (reader.within around).read (text ++ ')' :: more) = none ∧ last.Clashes around := by
  induction reads with
  | done => exact .inl rfl
  | @step reader next last c rest left action plain found performed shorter later ih =>
    have again : readAction (reader.within around).flags c (rest ++ ')' :: more) =
        some (action, left ++ ')' :: more) :=
      local_readAction plain c found more
    have stillShorter : (left ++ ')' :: more).length ≤ (rest ++ ')' :: more).length := by
      simpa using shorter
    rw [List.cons_append, read_of_perform (reader.within around) action plain again stillShorter]
    rcases action.perform_within around performed with done | ⟨never, name, given, clash⟩
    · rw [done]
      exact ih
    · rw [never]
      exact .inr ⟨rfl, name, later.names given, clash⟩

theorem Reads.plain {text : List Char} (reads : reader.Reads text last) :
    last.flags.verbose = false := by
  induction reads with
  | done plain => exact plain
  | step _ _ _ _ _ ih => exact ih

theorem Reads.formed {text : List Char} (reads : reader.Reads text last) (formed : reader.Formed) :
    last.Formed := by
  induction reads with
  | done => exact formed
  | step _ _ performed _ _ ih => exact ih (Action.formed_perform performed formed)

/-! ### Fragments between parentheses -/

/-- The reader behind a fragment between parentheses, which it has read with nothing around as far
as `last`. -/
def joined (reader last : Reader) : Reader where
  group := reader.group.add (last.group.renumber reader.groups).closed
  outer := reader.outer
  flags := reader.flags
  groups := last.groups + reader.groups
  names := last.names ++ reader.names

theorem openGroup_eq_within (reader : Reader) :
    reader.openGroup {} =
      ({} : Reader).within ⟨(reader.group, reader.flags) :: reader.outer, reader.groups,
        reader.names⟩ := by
  simp [openGroup, Reader.within, OpenGroup.renumber]

theorem read_openGroup (flags : reader.flags = {}) (rest : List Char) :
    reader.read ('(' :: '?' :: ':' :: rest) = (reader.openGroup {}).read rest := by
  have found : readAction reader.flags '(' ('?' :: ':' :: rest) = some (.openGroup {}, rest) := by
    rw [flags]
    rfl
  rw [read_of_perform _ _ (by rw [flags]) found (by simp; omega)]
  rfl

theorem read_closeGroup (plain : reader.flags.verbose = false) (rest : List Char) :
    reader.read (')' :: rest) = reader.closeGroup.bind (·.read rest) :=
  read_of_perform reader .closeGroup plain rfl (Nat.le_refl _)

/-- A text between parentheses that do not count. -/
def bracketed (text : List Char) : List Char := "(?:".toList ++ text ++ [')']

/-- **Between parentheses a fragment becomes one piece of what is around it**, unless one of its
groups has a name that is taken. -/
theorem Reads.bracketed {text : List Char} (reads : ({} : Reader).Reads text last)
    (whole : last.outer = []) (flags : reader.flags = {}) (more : List Char) :
    reader.read (Reader.bracketed text ++ more) = (reader.joined last).read more ∨
      reader.read (Reader.bracketed text ++ more) = none ∧ last.names ≠ [] := by
  have shape : Reader.bracketed text ++ more = '(' :: '?' :: ':' :: (text ++ ')' :: more) := by
    simp [Reader.bracketed]
  rw [shape, read_openGroup flags, openGroup_eq_within]
  rcases reads.within ⟨(reader.group, reader.flags) :: reader.outer, reader.groups, reader.names⟩
    more with
    read | ⟨never, name, given, _⟩
  · left
    rw [read, read_closeGroup (show (last.within _).flags.verbose = false from reads.plain)]
    simp only [closeGroup, Reader.within, whole, List.map_nil, List.nil_append, Option.bind_some]
    rfl
  · exact .inr ⟨never, List.ne_nil_of_mem given⟩

/-- The reader behind several fragments, each between parentheses, with strokes between them. -/
def collected (reader : Reader) : List Reader → Reader
  | [] => reader
  | [only] => reader.joined only
  | last :: others =>
    Reader.collected
      { reader.joined last with group := (reader.joined last).group.alternate } others

/-- A text that can be read by itself, without any help of blanks, as far as the reader says. -/
structure Fragment (text : List Char) (last : Reader) : Prop where
  reads : ({} : Reader).Reads text last
  whole : last.outer = []

theorem read_alternatives (reader : Reader) {texts : List (List Char)} {lasts : List Reader}
    (fragments : List.Forall₂ Fragment texts lasts) (several : texts ≠ [])
    (flags : reader.flags = {}) (more : List Char) :
    reader.read (List.intercalate ['|'] (texts.map bracketed) ++ more) =
      (reader.collected lasts).read more ∨
      reader.read (List.intercalate ['|'] (texts.map bracketed) ++ more) = none ∧
        ∃ last ∈ lasts, last.names ≠ [] := by
  induction fragments generalizing reader with
  | nil => cases several rfl
  | @cons text last texts lasts fragment others ih =>
    cases others with
    | nil =>
      simp only [List.map_cons, List.map_nil, List.intercalate_singleton]
      rcases fragment.reads.bracketed fragment.whole flags more with read | ⟨never, named⟩
      · exact .inl read
      · exact .inr ⟨never, last, List.mem_cons_self, named⟩
    | @cons second other texts lasts next others =>
      have alternate (more : List Char) : (reader.joined last).read ('|' :: more) =
          Reader.read
            { reader.joined last with group := (reader.joined last).group.alternate } more := by
        refine (read_of_perform _ .alternate ?_ rfl (Nat.le_refl _)).trans rfl
        exact congrArg Flags.verbose flags
      rw [List.map_cons, List.map_cons, List.intercalate_cons_cons, List.append_assoc,
        List.append_assoc, List.singleton_append]
      rcases fragment.reads.bracketed fragment.whole flags _ with read | ⟨never, named⟩
      · rw [read, alternate]
        rcases ih { reader.joined last with group := (reader.joined last).group.alternate }
          (List.cons_ne_nil _ _) flags with read | ⟨never, last, member, named⟩
        · exact .inl read
        · exact .inr ⟨never, last, List.mem_cons_of_mem _ member, named⟩
      · exact .inr ⟨never, last, List.mem_cons_self, named⟩

/-! ### Several fragments as one pattern -/

/-- The pieces that fragments become, with their groups numbered from a given number on. -/
def numbered (groups : Nat) : List Reader → List Piece
  | [] => []
  | last :: others => (last.group.renumber groups).closed :: numbered (last.groups + groups) others

theorem collected_surroundings (reader : Reader) (lasts : List Reader) :
    (reader.collected lasts).outer = reader.outer ∧ (reader.collected lasts).flags = reader.flags ∧
      (reader.collected lasts).group.number = reader.group.number := by
  fun_induction Reader.collected reader lasts with
  | case1 => exact ⟨rfl, rfl, rfl⟩
  | case2 => exact ⟨rfl, rfl, rfl⟩
  | case3 reader last others _ ih => exact ih

/-- Each fragment becomes an alternative of the group that it stands in. -/
theorem alternatives_collected (reader : Reader) {lasts : List Reader} (several : lasts ≠ [])
    (fresh : reader.group.pieces = []) :
    (reader.collected lasts).group.current :: (reader.collected lasts).group.alternatives =
      (numbered reader.groups lasts).reverse ++ reader.group.alternatives := by
  fun_induction Reader.collected reader lasts with
  | case1 => cases several rfl
  | case2 reader only => simp [joined, OpenGroup.add, OpenGroup.current, fresh, numbered]
  | case3 reader last others another ih =>
    rw [ih another rfl, numbered, List.reverse_cons, List.append_assoc, List.singleton_append]
    simp [joined, OpenGroup.alternate, OpenGroup.add, OpenGroup.current, fresh]

end Reader

/-- One alternative, or the choice between several. -/
def Outline.either : List Outline → Outline
  | [only] => only
  | several => .choice several

/-- Several fragments as one pattern: as alternatives, anchored at the start. -/
def combined (texts : List (List Char)) : List Char :=
  "^(?:".toList ++ List.intercalate ['|'] (texts.map Reader.bracketed) ++ [')']

namespace OpenGroup

variable {group : OpenGroup} {pieces : List Piece} {depth : Nat}

theorem deepest_le (shallow : ∀ piece ∈ pieces, piece.depth ≤ depth) : deepest pieces ≤ depth := by
  have from_ (start : Nat) (low : start ≤ depth) :
      (pieces.map (·.depth)).foldl max start ≤ depth := by
    induction pieces generalizing start with
    | nil => exact low
    | cons piece pieces ih =>
      obtain ⟨here, others⟩ := List.forall_mem_cons.mp shallow
      exact ih others _ (Nat.max_le.mpr ⟨low, here⟩)
  exact from_ 0 (Nat.zero_le _)

theorem outline_of_alternatives
    (alternatives : group.current :: group.alternatives = pieces.reverse) :
    group.whole.outline = .either (pieces.map (·.outline)) := by
  have reversed : (group.current :: group.alternatives).reverse = pieces := by
    rw [alternatives, List.reverse_reverse]
  subst reversed
  unfold whole
  split
  · rename_i none
    rw [none]
    rfl
  · rename_i some
    unfold Outline.either
    split
    · rename_i only
      have single := congrArg List.length only
      exact absurd (by simpa using single) some
    · rfl

theorem depth_of_alternatives (alternatives : group.current :: group.alternatives = pieces.reverse)
    (shallow : ∀ piece ∈ pieces, piece.depth ≤ depth) : group.whole.depth ≤ depth + 1 := by
  have all : ∀ piece ∈ group.current :: group.alternatives, piece.depth ≤ depth :=
    fun piece member =>
    shallow piece (List.mem_reverse.mp (alternatives ▸ member))
  unfold whole
  split
  · exact Nat.le_succ_of_le (all _ List.mem_cons_self)
  · exact Nat.succ_le_succ (deepest_le all)

end OpenGroup

/-- The outlines of fragments, with their groups numbered from a given number on. -/
def outlinesFrom (groups : Nat) : List Reader → List Outline
  | [] => []
  | last :: others =>
    last.group.whole.outline.renumber groups :: outlinesFrom (last.groups + groups) others

theorem Reader.Fragment.uncounted {text : List Char} {last : Reader}
    (fragment : Fragment text last) :
    last.group.number = none := by
  have uncounted := (fragment.reads.formed formed_start).uncounted
  rwa [outermost, fragment.whole] at uncounted

theorem map_outline_numbered {texts : List (List Char)} {lasts : List Reader}
    (fragments : List.Forall₂ Reader.Fragment texts lasts) (groups : Nat) :
    (Reader.numbered groups lasts).map (·.outline) = outlinesFrom groups lasts := by
  induction fragments generalizing groups with
  | nil => rfl
  | @cons text last texts lasts fragment _ ih =>
    have uncounted := fragment.uncounted
    rw [Reader.numbered, List.map_cons, ih, outlinesFrom, OpenGroup.closed_renumber,
      OpenGroup.closed, uncounted]
    rfl

theorem depth_numbered {lasts : List Reader} {depth : Nat}
    (shallow : ∀ last ∈ lasts, last.group.whole.depth ≤ depth) (groups : Nat) :
    ∀ piece ∈ Reader.numbered groups lasts, piece.depth ≤ depth + 1 := by
  induction lasts generalizing groups with
  | nil => exact List.forall_mem_nil _
  | cons last lasts ih =>
    obtain ⟨here, others⟩ := List.forall_mem_cons.mp shallow
    refine List.forall_mem_cons.mpr ⟨?_, ih others _⟩
    rw [OpenGroup.closed_renumber, Piece.renumber, OpenGroup.closed]
    split <;> exact Nat.succ_le_succ here

theorem formed_outlinesFrom {texts : List (List Char)} {lasts : List Reader}
    (fragments : List.Forall₂ Reader.Fragment texts lasts) (groups : Nat) :
    ∀ outline ∈ outlinesFrom groups lasts, outline.Formed := by
  induction fragments generalizing groups with
  | nil => exact List.forall_mem_nil _
  | @cons text last texts lasts fragment _ ih =>
    have formed := (fragment.reads.formed Reader.formed_start).group.whole
    exact List.forall_mem_cons.mpr ⟨Outline.formed_renumber _ formed, ih _⟩

theorem mem_outlinesFrom_of_verbatim {last : Reader} {lasts : List Reader} {text : List Char}
    (member : last ∈ lasts) (outline : last.group.whole.outline = .verbatim text) (groups : Nat) :
    .verbatim text ∈ outlinesFrom groups lasts := by
  induction lasts generalizing groups with
  | nil => cases member
  | cons first others ih =>
    rcases List.mem_cons.mp member with rfl | later
    · rw [outlinesFrom, outline]
      exact List.mem_cons_self
    · exact List.mem_cons_of_mem _ (ih later _)

/-- The numbers of groups do not matter to what is matched. -/
theorem findSome?_outlinesFrom (groups : Nat) (lasts : List Reader) (text : List Char) :
    (outlinesFrom groups lasts).findSome? (·.regex.matchEnd text) =
      lasts.findSome? (·.group.whole.outline.regex.matchEnd text) := by
  induction lasts generalizing groups with
  | nil => rfl
  | cons last lasts ih =>
    rw [outlinesFrom, List.findSome?_cons, List.findSome?_cons, ih, Outline.regex_renumber]

/-- The outline of several fragments as one pattern. -/
def combinedOutline (lasts : List Reader) : Outline :=
  .sequence [.assert .textStart, .either (outlinesFrom 0 lasts)]

/-- **Several fragments are read as one pattern**, unless two groups have the same name. -/
theorem ofPattern?_combined {texts : List (List Char)} {lasts : List Reader}
    (fragments : List.Forall₂ Reader.Fragment texts lasts) (several : texts ≠ []) :
    (∃ depth, (∀ bound, (∀ last ∈ lasts, last.group.whole.depth ≤ bound) → depth ≤ bound + 4) ∧
      Regex.ofPattern? (combined texts) =
        if depth ≤ nestingLimit then some (combinedOutline lasts).regex else none) ∨
    Regex.ofPattern? (combined texts) = none ∧ ∃ last ∈ lasts, last.names ≠ [] := by
  have shape : combined texts =
      '^' :: '(' :: '?' :: ':' ::
        (List.intercalate ['|'] (texts.map Reader.bracketed) ++ [')']) := by
    simp [combined]
  let inner := (({} : Reader).addAssertion .textStart).openGroup {}
  have opened : ({} : Reader).read (combined texts) =
      inner.read (List.intercalate ['|'] (texts.map Reader.bracketed) ++ [')']) := by
    rw [shape]
    exact (Reader.read_of_perform _ (.assertion .textStart) rfl rfl (Nat.le_refl _)).trans
      (Reader.read_openGroup rfl _)
  have several' : lasts ≠ [] := by
    rintro rfl
    exact several (List.forall₂_nil_right_iff.mp fragments)
  obtain ⟨outer, flags, number⟩ := inner.collected_surroundings lasts
  have alternatives := inner.alternatives_collected several' rfl
  rw [show inner.group.alternatives = [] from rfl, List.append_nil] at alternatives
  rcases inner.read_alternatives fragments several rfl [')'] with read | ⟨never, named⟩
  · left
    generalize inner.collected lasts = collected at *
    have closed : collected.closeGroup = some
        { collected with
          group := (({} : Reader).addAssertion .textStart).group.add collected.group.closed
          outer := []
          flags := {} } := by
      rw [Reader.closeGroup, outer]
      rfl
    rw [Reader.read_closeGroup (by rw [flags]; rfl), closed, Option.bind_some,
      Reader.read_nil] at read
    have piece : collected.group.closed =
        ⟨collected.group.whole.outline, collected.group.whole.depth + 1, true⟩ := by
      rw [OpenGroup.closed, number]
      rfl
    have outline : collected.group.whole.outline = .either (outlinesFrom 0 lasts) := by
      rw [← map_outline_numbered fragments]
      exact OpenGroup.outline_of_alternatives alternatives
    refine ⟨max (max 0 (collected.group.whole.depth + 1)) 0 + 1, fun bound shallow => ?_, ?_⟩
    · have := OpenGroup.depth_of_alternatives alternatives (depth_numbered shallow _)
      omega
    · rw [Regex.ofPattern?, opened, read, piece, outline]
      exact if_congr (and_iff_right rfl) rfl rfl
  · right
    exact ⟨by rw [Regex.ofPattern?, opened, never]; rfl, named⟩

/-- A pattern that begins with the question for the start of the text is matched there only. -/
theorem isAnchored_combinedOutline (lasts : List Reader) :
    (combinedOutline lasts).regex.program.isAnchored = true := by
  have begins : combinedOutline lasts =
      .ofParts
        (.assert .textStart ::
          ((Outline.either (outlinesFrom 0 lasts)).parts).foldr Outline.joinPart []) := by
    rw [combinedOutline, Outline.sequence, List.flatMap_cons, List.flatMap_singleton]
    rfl
  rw [begins]
  cases ((Outline.either (outlinesFrom 0 lasts)).parts).foldr Outline.joinPart [] with
  | nil => rfl
  | cons first rest =>
    rw [Outline.ofParts, Outline.regex, Outline.regex]
    · simp [Program.isAnchored, Regex.program, Regex.assemble]
    · exact List.cons_ne_nil first rest

theorem matchEnd_combinedOutline (lasts : List Reader) (text : List Char) :
    (combinedOutline lasts).regex.matchEnd text =
      (Outline.either (outlinesFrom 0 lasts)).regex.matchEnd text := by
  have anchored := Outline.search_sequence (some ·.position) (.start text)
    [.assert .textStart, .either (outlinesFrom 0 lasts)]
  refine anchored.trans ?_
  rw [Outline.searchAll_cons, Outline.search]
  exact (Regex.search_assert _ _ _).trans (if_pos rfl)

theorem matchEnd_either {outlines : List Outline} {text : List Char}
    (formed : ∀ outline ∈ outlines, outline.Formed) (settled : Outline.Settled outlines text) :
    (Outline.either outlines).regex.matchEnd text = outlines.findSome? (·.regex.matchEnd text) := by
  unfold Outline.either
  split
  · exact List.findSome?_singleton.symm
  · exact Outline.matchEnd_choice formed settled

end Offside.Pattern
