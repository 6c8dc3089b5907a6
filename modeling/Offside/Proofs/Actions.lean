/-
**Reading a pattern is finding out what to do, and doing it.**

A reader of patterns looks at the next piece of the text, with nothing in mind but the flags, and
then does one of a few things with the groups that are open. The two are taken apart here: what is
done next can then be found out with more text behind, and it can be done with more groups around.

* `Reader.step_eq`: a step finds out what to do and does it;
* `local_readAction`: what is done does not depend on what follows the text;
* `Reader.Formed`: all classes read so far are in normal form, and `Action.formed_perform`: they
  stay so.
-/

import Offside.Proofs.Fragments
import Offside.Proofs.Outlines

namespace Offside.Pattern

open Unicode (CharSet)

/-- What is done with a piece of a pattern. -/
inductive Action
  | literal (c : Char)
  | members (set : CharSet) (depth : Nat)
  | assertion (assertion : Assertion)
  /-- Goes on with the next alternative of the group. -/
  | alternate
  /-- Opens a group that does not count. -/
  | openGroup (flags : Flags)
  | openNumbered
  | openNamed (name : List Char)
  | closeGroup
  /-- Changes the flags for the rest of the group. -/
  | change (flags : Flags)
  | repeatLast (least : Nat) (most : Option Nat) (lazy : Bool)

namespace Action

/-- Does it. -/
def perform (reader : Reader) : Action → Option Reader
  | literal c => some (reader.addLiteral c)
  | members set depth => some (reader.addClass set depth)
  | assertion asked => some (reader.addAssertion asked)
  | alternate => some { reader with group := reader.group.alternate }
  | openGroup flags => some (reader.openGroup flags)
  | openNumbered => some reader.openNumbered
  | openNamed name =>
    if reader.names.contains name then none
    else some { reader.openNumbered with names := name :: reader.names }
  | closeGroup => reader.closeGroup
  | change flags => some { reader.add ⟨.empty, 0, false⟩ with flags := flags }
  | repeatLast least most lazy => reader.repeatLast least most lazy

end Action

/-- Finds out what to do behind an opening parenthesis. -/
def readGroupAction (flags : Flags) (text : List Char) : Option (Action × List Char) :=
  match skipSpace flags.verbose text with
  | '?' :: '=' :: _ => none
  | '?' :: '!' :: _ => none
  | '?' :: '<' :: '=' :: _ => none
  | '?' :: '<' :: '!' :: _ => none
  | '?' :: 'P' :: '<' :: rest =>
    (readGroupName rest).map fun (name, rest) => (.openNamed name, rest)
  | '?' :: '<' :: rest => (readGroupName rest).map fun (name, rest) => (.openNamed name, rest)
  | '?' :: rest => do
    let (list, rest) ← readFlags flags [] false false rest
    if list.closing = ':' then some (.openGroup list.flags, rest)
    else if list.isEmpty then none
    else some (.change list.flags, rest)
  | rest => some (.openNumbered, rest)

/-- Finds out how often the last piece is repeated. -/
def readRepeatAction (least : Nat) (most : Option Nat) (text : List Char) :
    Option (Action × List Char) :=
  some (.repeatLast least most (readLazy text).1, (readLazy text).2)

/-- Finds out what to do next. -/
def readAction (flags : Flags) (c : Char) (rest : List Char) : Option (Action × List Char) :=
  match c with
  | '(' => readGroupAction flags rest
  | ')' => some (.closeGroup, rest)
  | '|' => some (.alternate, rest)
  | '[' => (readClass flags rest).bind fun (cls, rest) => some (.members cls.set cls.depth, rest)
  | '?' => readRepeatAction 0 (some 1) rest
  | '*' => readRepeatAction 0 none rest
  | '+' => readRepeatAction 1 none rest
  | '\x7b' =>
    (readBounds flags.verbose rest).bind fun (least, most, rest) => readRepeatAction least most rest
  | '\\' => (readEscape flags rest).bind fun
    | (.literal d fromByte, rest) =>
      if fromByte && !flags.unicode && 128 ≤ d.toNat then none else some (.literal d, rest)
    | (.class set, rest) => some (.members set 0, rest)
    | (.assertion assertion, rest) => some (.assertion assertion, rest)
  | '.' => (dotSet flags).bind fun set => some (.members set 0, rest)
  | '^' => some (.assertion (startAssertion flags), rest)
  | '$' => some (.assertion (endAssertion flags), rest)
  | _ => some (.literal c, rest)

theorem openNamed_eq (reader : Reader) (text : List Char) :
    openNamed reader text =
      ((readGroupName text).map fun (name, rest) => (Action.openNamed name, rest)).bind fun found =>
        (found.1.perform reader).map (·, found.2) := by
  unfold openNamed
  cases readGroupName text with
  | none => rfl
  | some found =>
    dsimp only [bind, Option.bind_some, Option.map_some, Action.perform]
    split <;> rfl

theorem readGroupStart_eq (reader : Reader) (text : List Char) :
    readGroupStart reader text =
      (readGroupAction reader.flags text).bind fun found =>
        (found.1.perform reader).map (·, found.2) := by
  unfold readGroupStart readGroupAction
  generalize skipSpace reader.flags.verbose text = shown
  split
  · rfl
  · rfl
  · rfl
  · rfl
  · exact openNamed_eq _ _
  · rename_i rest _ _
    have opened := openNamed_eq reader rest
    simp_all
  · rename_i rest _ _ _ _ _ _
    cases found : readFlags reader.flags [] false false rest with
    | none => simp_all
    | some found =>
      simp_all
      split_ifs <;> rfl
  · simp_all [Action.perform]

/-- **A step finds out what to do and does it.** -/
theorem Reader.step_eq (reader : Reader) (c : Char) (rest : List Char) :
    reader.step c rest =
      (readAction reader.flags c rest).bind fun found =>
        (found.1.perform reader).map (·, found.2) := by
  unfold Reader.step readAction
  split
  · exact readGroupStart_eq reader rest
  · rfl
  · rfl
  · cases readClass reader.flags rest <;> rfl
  · rfl
  · rfl
  · rfl
  · cases readBounds reader.flags.verbose rest <;> rfl
  · cases readEscape reader.flags rest with
    | none => rfl
    | some found =>
      obtain ⟨escape, left⟩ := found
      cases escape with
      | literal d fromByte =>
        dsimp only [bind, Option.bind_some]
        split_ifs <;> rfl
      | _ => rfl
  · cases dotSet reader.flags <;> rfl
  · rfl
  · rfl
  · simp_all [Action.perform]

/-! ### What is done does not depend on what follows -/

theorem local_openNamed :
    Local fun text => (readGroupName text).map fun (name, rest) =>
      (Action.openNamed name, rest) := by
  intro text action rest read more
  obtain ⟨⟨name, left⟩, here, same⟩ := Option.map_eq_some_iff.mp read
  cases same
  exact Option.map_eq_some_iff.mpr ⟨_, local_readGroupName here more, rfl⟩

theorem local_readGroupAction {flags : Flags} (plain : flags.verbose = false) :
    Local (readGroupAction flags) := by
  intro text action rest read more
  unfold readGroupAction at read ⊢
  simp only [skipSpace_of_plain plain] at read ⊢
  split at read
  · cases read
  · cases read
  · cases read
  · cases read
  · exact local_openNamed read more
  · rename_i inner equals mark
    rw [List.cons_append, List.cons_append]
    split
    case h_6 starts =>
      cases starts
      exact local_openNamed read more
    case h_3 starts =>
      obtain ⟨inside, rfl⟩ :=
        exists_of_append_eq_cons (List.cons.inj (List.cons.inj starts).2).2 (by decide)
      cases equals _ rfl
    case h_4 starts =>
      obtain ⟨inside, rfl⟩ :=
        exists_of_append_eq_cons (List.cons.inj (List.cons.inj starts).2).2 (by decide)
      cases mark _ rfl
    case h_7 angle starts =>
      cases starts
      cases angle _ rfl
    all_goals simp_all
  · rename_i inner equals mark behind behindNot counted angle
    rw [List.cons_append]
    have opens {c : Char} {rest : List Char} (starts : '?' :: (inner ++ ')' :: more) =
        '?' :: c :: rest)
        (other : c ≠ ')') : ∃ inside, inner = c :: inside :=
      exists_of_append_eq_cons (List.cons.inj starts).2 other
    split
    case h_1 starts =>
      obtain ⟨inside, rfl⟩ := opens starts (by decide)
      cases equals _ rfl
    case h_2 starts =>
      obtain ⟨inside, rfl⟩ := opens starts (by decide)
      cases mark _ rfl
    case h_3 starts | h_4 starts | h_6 starts =>
      obtain ⟨inside, rfl⟩ := opens starts (by decide)
      cases angle _ rfl
    case h_5 starts =>
      obtain ⟨inside, rfl⟩ := opens starts (by decide)
      obtain ⟨inside, rfl⟩ :=
        exists_of_append_eq_cons (List.cons.inj (List.cons.inj starts).2).2 (by decide)
      cases counted _ rfl
    case h_7 starts =>
      cases starts
      refine (local_readFlags _ _ _ _).andThen (fun list => ?_) read more
      exact local_ite (list.closing = ':') (local_some (Action.openGroup list.flags)) <|
        local_ite list.isEmpty local_none (local_some (Action.change list.flags))
    case h_8 mark => cases mark _ rfl
  · rename_i mark
    cases read
    split
    case h_8 => rfl
    all_goals
      rename_i starts
      obtain ⟨inside, rfl⟩ := exists_of_append_eq_cons starts (by decide)
      cases mark _ rfl

theorem local_readRepeatAction (least : Nat) (most : Option Nat) :
    Local (readRepeatAction least most) := by
  intro text action rest read more
  cases read
  rw [readRepeatAction, readLazy_append]

theorem local_readAction {flags : Flags} (plain : flags.verbose = false) (c : Char) :
    Local (readAction flags c) := by
  intro text action rest read more
  unfold readAction at read ⊢
  rw [plain] at read ⊢
  split at read
  · exact local_readGroupAction plain read more
  · exact local_some _ read more
  · exact local_some _ read more
  · exact (local_readClass plain).andThen (fun cls => local_some (Action.members cls.set cls.depth))
      read more
  · exact local_readRepeatAction _ _ read more
  · exact local_readRepeatAction _ _ read more
  · exact local_readRepeatAction _ _ read more
  · obtain ⟨⟨least, most, left⟩, here, read⟩ := Option.bind_eq_some_iff.mp read
    exact Option.bind_eq_some_iff.mpr ⟨_, readBounds_append here more,
      local_readRepeatAction _ _ read more⟩
  · refine (local_readEscape plain).andThen (fun escape => ?_) read more
    cases escape with
    | literal d fromByte =>
      exact local_ite (fromByte && !flags.unicode && 128 ≤ d.toNat) local_none
        (local_some (Action.literal d))
    | «class» set => exact local_some (Action.members set 0)
    | assertion asked => exact local_some (Action.assertion asked)
  · exact local_given (dotSet flags) (fun set => local_some (Action.members set 0)) read more
  · exact local_some _ read more
  · exact local_some _ read more
  · exact local_some _ read more

/-! ### Classes stay in normal form -/

/-- Whether all classes of the pieces of a group are in normal form. -/
structure OpenGroup.Formed (group : OpenGroup) : Prop where
  alternatives : ∀ piece ∈ group.alternatives, piece.outline.Formed
  pieces : ∀ piece ∈ group.pieces, piece.outline.Formed

namespace OpenGroup.Formed

variable {group : OpenGroup} (formed : group.Formed)

include formed

theorem add {piece : Piece} (last : piece.outline.Formed) : (group.add piece).Formed :=
  ⟨formed.alternatives, List.forall_mem_cons.mpr ⟨last, formed.pieces⟩⟩

theorem current : group.current.outline.Formed := by
  have pieces := formed.pieces
  unfold OpenGroup.current
  split
  · exact True.intro
  · exact pieces _ (by simp [*])
  · refine Outline.inherited_formed.sequence fun outline member => ?_
    obtain ⟨piece, listed, rfl⟩ := List.mem_map.mp member
    exact pieces piece (List.mem_reverse.mp listed)

theorem alternate : group.alternate.Formed :=
  ⟨List.forall_mem_cons.mpr ⟨formed.current, formed.alternatives⟩, List.forall_mem_nil _⟩

theorem whole : group.whole.outline.Formed := by
  have all : ∀ piece ∈ group.current :: group.alternatives, piece.outline.Formed :=
    List.forall_mem_cons.mpr ⟨formed.current, formed.alternatives⟩
  unfold OpenGroup.whole
  split
  · exact formed.current
  · refine Outline.inherited_formed.choice fun outline member => ?_
    obtain ⟨piece, listed, rfl⟩ := List.mem_map.mp member
    exact all piece (List.mem_reverse.mp listed)

theorem closed : group.closed.outline.Formed := by
  have inner := formed.whole
  unfold OpenGroup.closed
  dsimp only
  split <;> exact inner

end OpenGroup.Formed

/-- The outermost group of a reader. -/
def Reader.outermost (reader : Reader) : OpenGroup :=
  match reader.outer.getLast? with
  | none => reader.group
  | some entry => entry.1

/-- A reader all of whose classes are in normal form, and whose outermost group does not count. -/
structure Reader.Formed (reader : Reader) : Prop where
  group : reader.group.Formed
  outer : ∀ entry ∈ reader.outer, entry.1.Formed
  uncounted : reader.outermost.number = none

theorem Reader.formed_start : ({} : Reader).Formed :=
  ⟨⟨List.forall_mem_nil _, List.forall_mem_nil _⟩, List.forall_mem_nil _, rfl⟩

namespace Reader.Formed

variable {reader : Reader} (formed : reader.Formed)

include formed

/-- The innermost group may change, if its number does not. -/
theorem regroup {group : OpenGroup} (inner : group.Formed)
    (number : group.number = reader.group.number)
    {flags : Flags} {groups : Nat} {names : List (List Char)} :
    Reader.Formed ⟨group, reader.outer, flags, groups, names⟩ := by
  refine ⟨inner, formed.outer, ?_⟩
  have uncounted := formed.uncounted
  unfold outermost at uncounted ⊢
  split
  · rename_i alone
    rw [number]
    rwa [alone] at uncounted
  · rename_i entry outermost
    rwa [outermost] at uncounted

theorem add {piece : Piece} (last : piece.outline.Formed) : (reader.add piece).Formed :=
  formed.regroup (formed.group.add last) rfl

theorem addClass (set : CharSet) (depth : Nat) : (reader.addClass set depth).Formed :=
  formed.add (Outline.formed_ofSet _ _)

theorem addLiteral (c : Char) : (reader.addLiteral c).Formed := by
  unfold Reader.addLiteral
  split_ifs
  · exact formed.add True.intro
  · exact formed.addClass _ _
  · exact formed.addClass _ _

/-- A group may be opened inside. -/
theorem openGroup (flags : Flags) (number : Option Nat) {groups : Nat} {names : List (List Char)} :
    Reader.Formed ⟨{ number }, (reader.group, reader.flags) :: reader.outer, flags, groups,
      names⟩ := by
  refine ⟨⟨List.forall_mem_nil _, List.forall_mem_nil _⟩,
    List.forall_mem_cons.mpr ⟨formed.group, formed.outer⟩, ?_⟩
  have uncounted := formed.uncounted
  unfold outermost at uncounted ⊢
  rw [List.getLast?_cons]
  cases last : reader.outer.getLast? <;> simpa [last] using uncounted

theorem closeGroup {next : Reader} (closed : reader.closeGroup = some next) : next.Formed := by
  obtain ⟨group, outer, flags, groups, names⟩ := reader
  cases outer with
  | nil => cases closed
  | cons parent outer =>
    cases closed
    obtain ⟨around, others⟩ := List.forall_mem_cons.mp formed.outer
    refine ⟨around.add formed.group.closed, others, ?_⟩
    have uncounted := formed.uncounted
    unfold outermost at uncounted ⊢
    rw [List.getLast?_cons] at uncounted
    cases last : outer.getLast? <;> simpa [last, OpenGroup.add] using uncounted

theorem repeatLast {next : Reader} {least : Nat} {most : Option Nat} {lazy : Bool}
    (repeated : reader.repeatLast least most lazy = some next) : next.Formed := by
  unfold Reader.repeatLast at repeated
  split at repeated
  · cases repeated
  · rename_i piece earlier shape
    split_ifs at repeated
    cases repeated
    obtain ⟨last, others⟩ := List.forall_mem_cons.mp (shape ▸ formed.group.pieces)
    have inner : OpenGroup.Formed
        ⟨reader.group.alternatives,
          ⟨.repetition (lazy == reader.flags.swapGreed) least most piece.outline,
            piece.depth + 1, true⟩ :: earlier, reader.group.number⟩ :=
      ⟨formed.group.alternatives,
        List.forall_mem_cons.mpr ⟨Outline.inherited_formed.repetition _ _ _ last, others⟩⟩
    exact formed.regroup inner rfl

end Reader.Formed

/-- Whatever is done, classes stay in normal form. -/
theorem Action.formed_perform {action : Action} {reader next : Reader}
    (performed : action.perform reader = some next) (formed : reader.Formed) : next.Formed := by
  cases action with
  | literal c =>
    cases performed
    exact formed.addLiteral c
  | members set depth =>
    cases performed
    exact formed.addClass set depth
  | assertion asked =>
    cases performed
    exact formed.add True.intro
  | alternate =>
    cases performed
    exact formed.regroup formed.group.alternate rfl
  | openGroup flags =>
    cases performed
    exact formed.openGroup flags none
  | openNumbered =>
    cases performed
    exact formed.openGroup _ _
  | openNamed name =>
    simp only [perform] at performed
    split_ifs at performed
    cases performed
    exact formed.openGroup _ _
  | closeGroup => exact formed.closeGroup performed
  | change flags =>
    cases performed
    have empty : (⟨.empty, 0, false⟩ : Piece).outline.Formed := True.intro
    exact formed.regroup (formed.group.add empty) rfl
  | repeatLast least most lazy => exact formed.repeatLast performed

end Offside.Pattern
