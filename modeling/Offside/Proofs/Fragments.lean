/-
**Fragments are read without what follows them.**

A fragment of a pattern is put between parentheses and among others. Whatever can be read of it by
itself is read in the same way there: no part of a pattern that has ended looks at a closing
parenthesis behind it, and no part that has not ended is read at all. Blanks must mean something for
this; where they do not, a comment at the end of a fragment would take in the parenthesis.

* `Local`: readers whose answer stays as it is if the text goes on with a closing parenthesis;
* `local_readEscape`, `local_readClass`, `readBounds_append`: the parts of patterns are read by such
  readers.
-/

import Mathlib.Data.List.TakeWhile
import Offside.Pattern.Reader

namespace Offside.Pattern

open Unicode (CharSet)

/-- A reader that reads the same if the text goes on with a closing parenthesis. -/
def Local {α : Type} (read : List Char → Option (α × List Char)) : Prop :=
  ∀ ⦃text : List Char⦄ ⦃x : α⦄ ⦃rest : List Char⦄, read text = some (x, rest) →
    ∀ more : List Char, read (text ++ ')' :: more) = some (x, rest ++ ')' :: more)

/-- One reader after another. -/
theorem Local.andThen {α β : Type} {read : List Char → Option (α × List Char)}
    {next : α × List Char → Option (β × List Char)} (first : Local read)
    (second : ∀ x, Local fun rest => next (x, rest)) : Local fun text => (read text).bind next := by
  intro text y rest both more
  obtain ⟨⟨x, left⟩, here, there⟩ := Option.bind_eq_some_iff.mp both
  exact Option.bind_eq_some_iff.mpr ⟨_, first here more, second x there more⟩

theorem local_some {α : Type} (x : α) : Local fun rest => some (x, rest) := by
  intro text y rest read more
  cases read
  rfl

theorem local_none {α : Type} : Local fun _ => (none : Option (α × List Char)) :=
  fun _ _ _ read => nomatch read

/-- Something that is not read is worked out first. -/
theorem local_given {α β : Type} (value : Option α) {next : α → List Char → Option (β × List Char)}
    (each : ∀ x, Local (next x)) : Local fun rest => value.bind fun x => next x rest := by
  cases value with
  | none => exact local_none
  | some x => exact each x

theorem local_map {α β : Type} (value : Option α) (result : α → β) :
    Local fun rest => value.map fun x => (result x, rest) := by
  cases value with
  | none => exact local_none
  | some x => exact local_some (result x)

theorem local_ite {α : Type} (condition : Prop) [Decidable condition]
    {first second : List Char → Option (α × List Char)} (yes : Local first) (no : Local second) :
    Local fun text => if condition then first text else second text := by
  by_cases holds : condition
  · simpa only [holds, if_true] using yes
  · simpa only [holds, if_false] using no

theorem skipSpace_false (text : List Char) : skipSpace false text = text := rfl

/-- Nothing is skipped where blanks mean something. -/
theorem skipSpace_of_plain {flags : Flags} (plain : flags.verbose = false) (text : List Char) :
    skipSpace flags.verbose text = text := by
  rw [plain, skipSpace_false]

/-- A longer text begins with what the text begins with, or with the parenthesis behind it. -/
theorem exists_of_append_eq_cons {text more rest : List Char} {c : Char}
    (starts : text ++ ')' :: more = c :: rest)
    (other : c ≠ ')') : ∃ inside, text = c :: inside := by
  cases text with
  | nil => exact absurd (List.cons.inj starts).1.symm other
  | cons d text =>
    obtain ⟨rfl, _⟩ := List.cons.inj starts
    exact ⟨text, rfl⟩

/-! ### Flags and names -/

theorem local_readFlags (flags : Flags) (seen : List Char) (negated dangling : Bool) :
    Local (readFlags flags seen negated dangling) := by
  intro text list rest read more
  induction text generalizing flags seen negated dangling with
  | nil => cases read
  | cons c text ih =>
    rw [List.cons_append]
    rw [readFlags] at read ⊢
    split_ifs at read ⊢ with ends
    · cases read
      rfl
    · exact ih _ _ _ _ read
    · cases letter : flags.set? c !negated with
      | none => rw [letter] at read; cases read
      | some changed =>
        rw [letter] at read
        exact ih _ _ _ _ read

/-- Where a text is cut does not depend on what follows. -/
theorem cut_append {passes : Char → Bool} {text after : List Char} {c : Char}
    (cut : text.dropWhile passes = c :: after) (more : List Char) :
    (text ++ more).dropWhile passes = c :: (after ++ more) ∧
      (text ++ more).takeWhile passes = text.takeWhile passes := by
  induction text with
  | nil => cases cut
  | cons d text ih =>
    rw [List.cons_append, List.dropWhile_cons, List.takeWhile_cons, List.takeWhile_cons]
    rw [List.dropWhile_cons] at cut
    split_ifs at cut ⊢ with goes
    · exact ⟨(ih cut).1, congrArg (d :: ·) (ih cut).2⟩
    · obtain ⟨rfl, rfl⟩ := List.cons.inj cut
      exact ⟨rfl, rfl⟩

theorem local_readGroupName : Local readGroupName := by
  intro text name rest read more
  unfold readGroupName at read ⊢
  dsimp only at read ⊢
  split at read
  · rename_i after first others cut shape
    obtain ⟨cut, taken⟩ := cut_append cut (')' :: more)
    rw [cut, taken, shape]
    rw [shape] at read
    exact local_ite _ (local_some (first :: others)) local_none read more
  · cases read

/-! ### Code points -/

theorem local_readHexDigits (count : Nat) : Local (readHexDigits false count) := by
  intro text digits rest read more
  induction count generalizing text digits with
  | zero =>
    cases read
    rfl
  | succ count ih =>
    cases text with
    | nil => cases read
    | cons c text =>
      rw [List.cons_append]
      rw [readHexDigits] at read ⊢
      split_ifs at read ⊢
      obtain ⟨⟨others, left⟩, here, same⟩ := Option.map_eq_some_iff.mp read
      cases same
      exact Option.map_eq_some_iff.mpr ⟨_, ih here, rfl⟩

theorem local_readBraced : Local (readBraced false false) := by
  intro text body rest read more
  induction text generalizing body with
  | nil => cases read
  | cons c text ih =>
    rw [List.cons_append]
    simp only [readBraced, Bool.false_eq_true, if_false, Bool.false_and] at read ⊢
    split_ifs at read ⊢
    · cases read
      rfl
    · obtain ⟨⟨others, left⟩, here, same⟩ := Option.map_eq_some_iff.mp read
      cases same
      exact Option.map_eq_some_iff.mpr ⟨_, ih here, rfl⟩

theorem local_readCodePoint (digits : Nat) : Local (readCodePoint false digits) := by
  intro text escape rest read more
  unfold readCodePoint at read ⊢
  simp only [skipSpace_false] at read ⊢
  split at read
  · refine local_readBraced.andThen (fun body => ?_) read more
    exact local_ite (body = [] ∨ !body.all isHexDigit) local_none
      (local_given (charOfHex? body) fun c => local_some (Escape.literal c false))
  · rename_i plain
    split
    · rename_i starts
      obtain ⟨inside, rfl⟩ := exists_of_append_eq_cons starts (by decide)
      cases plain _ rfl
    · refine (local_readHexDigits digits).andThen (fun body => ?_) read more
      exact local_given (charOfHex? body) fun c => local_some (Escape.literal c (digits = 2))

/-! ### Escapes -/

theorem local_readProperty {flags : Flags} (plain : flags.verbose = false) (negated : Bool) :
    Local (readProperty flags negated) := by
  intro text escape rest read more
  unfold readProperty at read ⊢
  simp only [skipSpace_of_plain plain] at read ⊢
  rw [plain] at read ⊢
  split_ifs at read ⊢
  split at read
  · cases read
  · cases read
  · refine local_readBraced.andThen (fun query => ?_) read more
    exact local_given (propertySet? query) fun found =>
      local_given (flags.adjust (negated != found.2) found.1) fun set =>
        local_some (Escape.class set)
  · rename_i letter text backslash brace
    rw [List.cons_append]
    split
    · contradiction
    · rename_i starts
      cases starts
      cases backslash rfl
    · rename_i starts
      cases starts
      cases brace rfl
    · rename_i starts
      cases starts
      exact local_given (CharSet.ofName? [letter])
        (fun set => local_given (flags.adjust negated set) fun set => local_some (Escape.class set))
          read more

theorem local_readBoundary {flags : Flags} (plain : flags.verbose = false) :
    Local (readBoundary flags) := by
  intro text escape rest read more
  unfold readBoundary at read ⊢
  simp only [skipSpace_of_plain plain] at read ⊢
  rw [plain] at read ⊢
  split at read
  · rename_i inner
    cases inner with
    | nil => cases read
    | cons first inner =>
      rw [List.cons_append, List.cons_append]
      split
      · rename_i starts
        cases starts
        dsimp only at read ⊢
        split_ifs at read ⊢
        · cases read
          rfl
        · refine local_readBraced.andThen (fun body => ?_) read more
          exact local_ite (body = "start".toList) (local_some _) <|
            local_ite (body = "end".toList) (local_some _) <|
            local_ite (body = "start-half".toList) (local_some _) <|
            local_ite (body = "end-half".toList) (local_some _) local_none
      · rename_i brace
        cases brace _ rfl
  · rename_i brace
    cases read
    split
    · rename_i starts
      obtain ⟨inside, rfl⟩ := exists_of_append_eq_cons starts (by decide)
      cases brace _ rfl
    · rfl

theorem local_readEscape {flags : Flags} (plain : flags.verbose = false) :
    Local (readEscape flags) := by
  intro text escape rest read more
  cases text with
  | nil => cases read
  | cons c text =>
    rw [List.cons_append]
    simp only [readEscape] at read ⊢
    split_ifs at read ⊢
    · cases read
      rfl
    · have shorthand (negated : Bool) (unicode ascii : CharSet) :
          Local fun rest => (shorthandClass flags negated unicode ascii).map fun set =>
            (Escape.class set, rest) :=
        local_map _ _
      rw [plain] at read ⊢
      split at read
      all_goals first
        | exact local_readCodePoint _ read more
        | exact local_readProperty plain _ read more
        | exact local_readBoundary plain read more
        | exact shorthand _ _ _ read more
        | exact local_some _ read more
        | cases read

/-! ### Classes -/

theorem local_readMember {flags : Flags} (plain : flags.verbose = false) :
    Local (readMember flags) := by
  intro text member rest read more
  unfold readMember at read ⊢
  split at read
  · cases read
  · refine (local_readEscape plain).andThen (fun escape => ?_) read more
    cases escape with
    | literal c fromByte => exact local_map (literalMember flags c) id
    | «class» set => exact local_some (ClassMember.set set)
    | assertion assertion => exact local_none
  · rename_i c text backslash
    rw [List.cons_append]
    split
    · contradiction
    · rename_i starts
      cases starts
      cases backslash rfl
    · rename_i starts
      cases starts
      exact local_map (literalMember flags c) id read more

theorem local_readRange {flags : Flags} (plain : flags.verbose = false) :
    Local (readRange flags) := by
  unfold readRange
  refine (local_readMember plain).andThen fun first => ?_
  intro text part rest read more
  simp only [skipSpace_of_plain plain] at read ⊢
  rw [plain] at read ⊢
  -- what is read so far stands alone, unless a hyphen and one more character follow
  split at read
  · cases read
  · rename_i inner
    cases inner with
    | nil => cases read
    | cons next inner =>
      rw [List.cons_append, List.cons_append]
      split
      · contradiction
      · rename_i starts
        cases starts
        have peeks (text : List Char) : peekAfter false (next :: text) = some next := rfl
        rw [peeks] at read ⊢
        split_ifs at read ⊢
        · cases first <;> exact local_some _ read more
        · refine (local_readMember plain).andThen (fun last => ?_) read more
          cases last with
          | literal last =>
            cases first with
            | literal first => exact local_ite (first ≤ last) (local_some _) local_none
            | set set => exact local_none
          | set set => exact local_none
      · rename_i _ hyphen
        cases hyphen _ rfl
  · rename_i notEmpty hyphen
    split
    · rename_i starts
      simp at starts
    · rename_i starts
      obtain ⟨inside, rfl⟩ := exists_of_append_eq_cons starts (by decide)
      cases hyphen _ rfl
    · cases first <;> exact local_some _ read more

theorem namedClass?_of_mem {name : String} (inside : ')' ∈ name.toList) :
    namedClass? name = none := by
  unfold namedClass?
  split
  all_goals first
    | rfl
    | exact absurd inside (by decide)

/-- Reads the name of a named class up to its end. -/
def namedFrom (negated : Bool) (text : List Char) : Option (Bool × CharSet × List Char) :=
  match text.dropWhile (· ≠ ':') with
  | ':' :: ']' :: after =>
    (namedClass? (String.ofList (text.takeWhile (· ≠ ':')))).map fun set => (negated, set, after)
  | _ => none

/-- The sign that negates a named class, and what follows. -/
def negationSign : List Char → Bool × List Char
  | '^' :: rest => (true, rest)
  | text => (false, text)

theorem readNamedClass?_colon (text : List Char) :
    readNamedClass? (':' :: text) = namedFrom (negationSign text).1 (negationSign text).2 := by
  fun_cases negationSign text
  · rfl
  · rename_i caret
    rw [readNamedClass?]
    · rfl
    · exact caret

theorem negationSign_append (text more : List Char) :
    negationSign (text ++ ')' :: more) =
      ((negationSign text).1, (negationSign text).2 ++ ')' :: more) := by
  fun_cases negationSign text
  · rfl
  · rename_i caret
    rw [negationSign]
    intro rest starts
    obtain ⟨inside, rfl⟩ := exists_of_append_eq_cons starts (by decide)
    exact caret _ rfl

/-- A named class has to end before the parenthesis. -/
theorem namedFrom_append (negated : Bool) (text more : List Char) :
    namedFrom negated (text ++ ')' :: more) =
      (namedFrom negated text).map fun found => (found.1, found.2.1, found.2.2 ++ ')' :: more) := by
  cases cut : text.dropWhile (· ≠ ':') with
  | nil =>
    have passes := List.dropWhile_eq_nil_iff.mp cut
    have name : ')' ∈ (text ++ ')' :: more).takeWhile (· ≠ ':') := by
      rw [List.takeWhile_append_of_pos passes]
      exact List.mem_append_right _ (by simp)
    have nothing : namedFrom negated text = none := by
      rw [namedFrom, cut]
    rw [nothing, namedFrom, namedClass?_of_mem (String.toList_ofList ▸ name)]
    split <;> rfl
  | cons c after =>
    obtain ⟨longer, name⟩ := cut_append cut (')' :: more)
    rw [namedFrom, namedFrom, longer, name, cut]
    split
    · rename_i inner starts
      obtain ⟨rfl, closes⟩ := List.cons.inj starts
      obtain ⟨inside, rfl⟩ := exists_of_append_eq_cons closes (by decide)
      cases closes
      cases namedClass? (String.ofList (text.takeWhile (· ≠ ':'))) <;> rfl
    · rename_i closes
      split
      · rename_i starts
        cases starts
        cases closes _ rfl
      · rfl

theorem readNamedClass?_append (text more : List Char) :
    readNamedClass? (text ++ ')' :: more) =
      (readNamedClass? text).map fun found => (found.1, found.2.1, found.2.2 ++ ')' :: more) := by
  by_cases colon : ∃ inside, text = ':' :: inside
  · obtain ⟨inside, rfl⟩ := colon
    rw [List.cons_append, readNamedClass?_colon, readNamedClass?_colon, negationSign_append,
      namedFrom_append]
  · unfold readNamedClass?
    split
    · rename_i starts
      exact absurd (exists_of_append_eq_cons starts (by decide)) colon
    · split
      · exact absurd ⟨_, rfl⟩ colon
      · rfl

theorem local_leadingHyphens {flags : Flags} (plain : flags.verbose = false) (cls : OpenClass) :
    Local (readClassStart.leadingHyphens flags cls) := by
  intro text opened rest read more
  induction text generalizing cls with
  | nil =>
    rw [readClassStart.leadingHyphens] at read
    cases read
  | cons c text ih =>
    rw [List.cons_append]
    by_cases bracket : c = ']'
    · subst bracket
      rw [readClassStart.leadingHyphens] at read ⊢
      split_ifs at read ⊢
      · simp only [skipSpace_of_plain plain] at read ⊢
        cases text with
        | nil => cases read
        | cons d text =>
          cases read
          rfl
      · cases read
        rfl
    by_cases hyphen : c = '-'
    · subst hyphen
      rw [readClassStart.leadingHyphens] at read ⊢
      simp only [skipSpace_of_plain plain, Nat.le_refl, if_true] at read ⊢
      exact ih _ read
    have other (text : List Char) : readClassStart.leadingHyphens flags cls (c :: text) =
        some (cls, c :: text) := by
      rw [readClassStart.leadingHyphens]
      · exact List.cons_ne_nil c text
      · exact fun rest starts => bracket (List.cons.inj starts).1
      · exact fun rest starts => hyphen (List.cons.inj starts).1
    rw [other] at read ⊢
    cases read
    rfl

theorem local_readClassStart {flags : Flags} (plain : flags.verbose = false) :
    Local (readClassStart flags) := by
  intro text opened rest read more
  unfold readClassStart at read ⊢
  simp only [skipSpace_of_plain plain] at read ⊢
  split at read
  · exact local_leadingHyphens plain _ read more
  · rename_i caret
    split
    · rename_i starts
      obtain ⟨inside, rfl⟩ := exists_of_append_eq_cons starts (by decide)
      cases caret _ rfl
    · exact local_leadingHyphens plain _ read more

/-- The same step with more text behind it. -/
def ClassStep.followed (more : List Char) : ClassStep → ClassStep
  | .done part rest => .done part (rest ++ more)
  | .more cls outer rest => .more cls outer (rest ++ more)

theorem stepClass_append {flags : Flags} (plain : flags.verbose = false) {cls : OpenClass}
    {outer : OuterClasses}
    {text : List Char} {step : ClassStep} (taken : stepClass flags cls outer text = some step)
    (more : List Char) :
    stepClass flags cls outer (text ++ ')' :: more) = some (step.followed (')' :: more)) := by
  fun_cases stepClass flags cls outer text with
  | case1 => cases taken
  | case2 rest negated set after named =>
    rw [stepClass, named] at taken
    rw [List.cons_append, stepClass, readNamedClass?_append, named]
    obtain ⟨adjusted, adjusts, rfl⟩ := Option.map_eq_some_iff.mp taken
    exact Option.map_eq_some_iff.mpr ⟨adjusted, adjusts, rfl⟩
  | case3 rest unnamed =>
    rw [stepClass, unnamed] at taken
    rw [List.cons_append, stepClass, readNamedClass?_append, unnamed]
    obtain ⟨⟨inner, after⟩, starts, rfl⟩ := Option.map_eq_some_iff.mp taken
    exact Option.map_eq_some_iff.mpr ⟨_, local_readClassStart plain starts more, rfl⟩
  | case4 rest =>
    rw [stepClass] at taken
    rw [List.cons_append, stepClass]
    obtain ⟨part, closes, taken⟩ := Option.bind_eq_some_iff.mp taken
    refine Option.bind_eq_some_iff.mpr ⟨part, closes, ?_⟩
    cases outer <;> cases taken <;> rfl
  | case5 rest | case6 rest | case7 rest =>
    rw [stepClass] at taken
    cases taken
    rfl
  | case8 _ notEmpty bracket closing ands minuses tildes =>
    rw [stepClass] at taken
    obtain ⟨⟨part, after⟩, range, rfl⟩ := Option.map_eq_some_iff.mp taken
    have opens {c : Char} (other : c ≠ ')') (starts : ∀ rest, text ≠ c :: rest) (rest : List Char) :
        text ++ ')' :: more ≠ c :: rest := fun same => by
      obtain ⟨inside, rfl⟩ := exists_of_append_eq_cons same other
      exact starts inside rfl
    have operates {c : Char} (other : c ≠ ')') (starts : ∀ rest, text ≠ c :: c :: rest)
        (rest : List Char) :
        text ++ ')' :: more ≠ c :: c :: rest := fun same => by
      obtain ⟨inside, rfl⟩ := exists_of_append_eq_cons same other
      obtain ⟨inside, rfl⟩ := exists_of_append_eq_cons (List.cons.inj same).2 other
      exact starts inside rfl
    rw [stepClass]
    · exact Option.map_eq_some_iff.mpr ⟨_, local_readRange plain range more, rfl⟩
    · simp
    · exact opens (by decide) bracket
    · exact opens (by decide) closing
    · exact operates (by decide) ands
    · exact operates (by decide) minuses
    · exact operates (by decide) tildes
    all_goals assumption

theorem local_readClassRest {flags : Flags} (plain : flags.verbose = false) (cls : OpenClass)
    (outer : OuterClasses) : Local (readClassRest flags cls outer) := by
  intro text part rest read more
  fun_induction readClassRest flags cls outer text with
  | case1 => cases read
  | case2 cls outer text part left taken =>
    cases read
    rw [skipSpace_of_plain plain] at taken
    rw [readClassRest, skipSpace_of_plain plain, stepClass_append plain taken more]
    rfl
  | case3 cls outer text next around left taken shorter ih =>
    rw [skipSpace_of_plain plain] at taken
    rw [readClassRest, skipSpace_of_plain plain, stepClass_append plain taken more]
    dsimp only [ClassStep.followed]
    rw [if_pos (by simpa using shorter)]
    exact ih read
  | case4 => cases read

theorem local_readClass {flags : Flags} (plain : flags.verbose = false) : Local (readClass flags) :=
  (local_readClassStart plain).andThen fun cls => local_readClassRest plain cls []

/-! ### Repetitions -/

/-- What passes over a text stops at a parenthesis that does not pass. -/
theorem dropWhile_append_close {passes : Char → Bool} (stops : passes ')' = false)
    (text more : List Char) :
    (text ++ ')' :: more).dropWhile passes = text.dropWhile passes ++ ')' :: more ∧
      (text ++ ')' :: more).takeWhile passes = text.takeWhile passes := by
  induction text with
  | nil => simp [stops]
  | cons c text ih =>
    rw [List.cons_append, List.dropWhile_cons, List.takeWhile_cons, List.dropWhile_cons,
      List.takeWhile_cons, ih.1, ih.2]
    split <;> exact ⟨rfl, rfl⟩

theorem readDigits_plain (text : List Char) :
    readDigits false false text = (text.takeWhile Char.isDigit, text.dropWhile Char.isDigit) := by
  induction text with
  | nil => rfl
  | cons c text ih =>
    rw [readDigits, ih, List.takeWhile_cons, List.dropWhile_cons]
    cases c.isDigit <;> rfl

theorem local_readCount : Local (readCount false) := by
  intro text count rest read more
  have blanks (text : List Char) : Text.afterBlanks (text ++ ')' :: more) =
      Text.afterBlanks text ++ ')' :: more :=
    (dropWhile_append_close (by decide) text more).1
  have digits (text : List Char) :=
    dropWhile_append_close (by decide : Char.isDigit ')' = false) text more
  unfold readCount at read ⊢
  simp only [blanks, readDigits_plain, digits] at read ⊢
  split_ifs at read ⊢
  cases read
  rfl

theorem readBounds_append {text rest : List Char} {least : Nat} {most : Option Nat}
    (read : readBounds false text = some (least, most, rest)) (more : List Char) :
    readBounds false (text ++ ')' :: more) = some (least, most, rest ++ ')' :: more) := by
  unfold readBounds at read ⊢
  obtain ⟨⟨count, left⟩, here, read⟩ := Option.bind_eq_some_iff.mp read
  refine Option.bind_eq_some_iff.mpr ⟨_, local_readCount here more, ?_⟩
  simp only [skipSpace_false] at read ⊢
  split at read
  · cases read
    rfl
  · rename_i inner
    rw [List.cons_append]
    split
    · rename_i starts
      exact absurd (List.cons.inj starts).1 (by decide)
    · rename_i starts
      cases starts
      split at read
      · cases read
        rfl
      · rename_i brace
        split
        · rename_i starts
          obtain ⟨inside, rfl⟩ := exists_of_append_eq_cons starts (by decide)
          cases brace _ rfl
        · obtain ⟨⟨bound, left⟩, there, read⟩ := Option.bind_eq_some_iff.mp read
          refine Option.bind_eq_some_iff.mpr ⟨_, local_readCount there more, ?_⟩
          dsimp only at read ⊢
          split at read
          · split_ifs at read with ordered
            cases read
            rw [List.cons_append]
            exact if_pos ordered
          · cases read
    · rename_i comma
      cases comma _ rfl
  · cases read

theorem readLazy_append (text more : List Char) :
    readLazy (text ++ ')' :: more) = ((readLazy text).1, (readLazy text).2 ++ ')' :: more) := by
  fun_cases readLazy text
  · rfl
  · rename_i mark
    rw [readLazy]
    intro rest starts
    obtain ⟨inside, rfl⟩ := exists_of_append_eq_cons starts (by decide)
    exact mark _ rfl

end Offside.Pattern
