/-
**A match does not need the text behind it.**

A pattern that asks for nothing but the start of the text takes its characters one by one, and what
it has taken does not depend on what comes next. So the ways to match it in the beginning of a text
are its ways to match it in the whole text that end there, in the same order of preference. If the
match in the whole text ends there it is the first of them as well, and where no rule takes more
than the one that wins, cutting the text behind it changes nothing for any rule.

* `explore_unasserting`: what is reached without a character does not depend on what comes next;
* `map_position_ends_append`: the ends in the beginning of a text. The induction is on the
  beginning;
* `Program.findEnd_append`: a match that ends there is found there, also where it starts behind the
  start of the text;
* `Rule.candidate?_append`: so all rules are ranked alike where none takes more;
* `Lexicon.longestMatch_append`: what is selected in a text is selected in its beginning, if it
  fits;
* `Draft.longestMatch_again`: what is selected is selected again for the text that it took.
-/

import Mathlib.Data.List.Nodup
import Offside.Proofs.Assertions
import Offside.Proofs.DescriptionRules
import Offside.Proofs.Winners

namespace Offside

open Pattern (Program Regex)

namespace Pattern

/-! ### Ways to match -/

section Ends

variable {code : Array Instr} {before : Option Char} {todo : List Nat}

theorem ahead_unasserting {entry : Nat} (plain : Program.Unasserting ⟨code, entry⟩) {place : Nat}
    {instr : Instr} (here : code[place]? = some instr) (after other : Option Char) :
    instr.ahead before after = instr.ahead before other := by
  cases instr with
  | check assertion next =>
    obtain rfl := plain place assertion next here
    rfl
  | _ => rfl

/-- What is reached without a character does not depend on what comes next. -/
theorem explore_unasserting {entry : Nat} (plain : Program.Unasserting ⟨code, entry⟩)
    (after other : Option Char) (todo : List Nat) (seen : Std.HashSet Nat) :
    explore code before after todo seen = explore code before other todo seen := by
  induction todo, seen using explore_induction code before after with
  | nil seen => rw [explore_nil, explore_nil]
  | passed place todo seen passed ih => rw [explore_of_passed passed, explore_of_passed passed, ih]
  | fresh place todo seen instr fresh here ih =>
    rw [explore_of_fresh fresh here, explore_of_fresh fresh here, ih,
      ahead_unasserting plain here after other]

/-- What a way to match ends behind is taken from the text. -/
theorem position_of_mem_ends {text : List Char} {position : Nat} {spot : Spot}
    (member : spot ∈ ends code before todo text position) :
    position ≤ spot.position ∧ spot.position ≤ position + text.length := by
  induction text generalizing before todo position with
  | nil =>
    rw [ends] at member
    obtain ⟨instr, _, here⟩ := List.mem_flatMap.mp member
    cases instr with
    | halt =>
      obtain rfl := List.mem_singleton.mp here
      exact ⟨Nat.le_refl _, Nat.le_add_right _ _⟩
    | _ => cases here
  | cons c rest ih =>
    rw [ends] at member
    obtain ⟨instr, _, here⟩ := List.mem_flatMap.mp member
    cases instr with
    | halt =>
      obtain rfl := List.mem_singleton.mp here
      exact ⟨Nat.le_refl _, Nat.le_add_right _ _⟩
    | take set next =>
      simp only at here
      split at here
      · obtain ⟨low, high⟩ := ih here
        rw [List.length_cons]
        omega
      · cases here
    | _ => cases here

/-- **The ways to match in the beginning of a text** are those in the whole text that end there, in
the same order. -/
theorem map_position_ends_append {entry : Nat} (plain : Program.Unasserting ⟨code, entry⟩)
    (taken rest : List Char) (position : Nat) :
    (ends code before todo taken position).map (·.position) =
      ((ends code before todo (taken ++ rest) position).map (·.position)).filter
        (· ≤ position + taken.length) := by
  induction taken generalizing before todo position with
  | nil =>
    -- Behind the beginning all that counts is where the match ends at once.
    have later (c : Char) (next : Nat) (text : List Char) :
        ((ends code (some c) [next] text (position + 1)).map (·.position)).filter (· ≤ position) =
          [] := by
      refine List.filter_eq_nil_iff.mpr fun reached member => ?_
      obtain ⟨spot, inside, rfl⟩ := List.mem_map.mp member
      have := (position_of_mem_ends inside).1
      simp only [decide_eq_true_eq]
      omega
    cases rest with
    | nil =>
      refine (List.filter_eq_self.mpr fun reached member => ?_).symm
      obtain ⟨spot, inside, rfl⟩ := List.mem_map.mp member
      simpa using (position_of_mem_ends inside).2
    | cons c rest =>
      rw [List.nil_append, ends, ends, explore_unasserting plain none (some c), List.map_flatMap,
        List.map_flatMap, List.filter_flatMap]
      congr 1
      funext instr
      cases instr with
      | take set next =>
        simp only [List.map_nil, List.length_nil, Nat.add_zero]
        split
        · exact (later c next rest).symm
        · rfl
      | halt => simp
      | _ => rfl
  | cons c taken ih =>
    rw [List.cons_append, ends, ends, List.map_flatMap, List.map_flatMap, List.filter_flatMap]
    congr 1
    funext instr
    cases instr with
    | take set next =>
      have length : position + 1 + taken.length = position + (c :: taken).length := by
        rw [List.length_cons]
        omega
      simp only
      split
      · rw [ih, length]
      · rfl
    | halt => simp
    | _ => rfl

end Ends

/-! ### Matches -/

namespace Program

variable {program : Program} {before : Option Char} {taken : List Char} {position : Nat}

/-- The match that starts here is the first of the ways to match. -/
theorem matchHere_eq_head? (text : List Char) :
    program.matchHere before text position =
      ((ends program.code before [program.entry] text position).map (·.position)).head? := by
  rw [matchHere, run_eq_search, search_eq_findSome?_ends]
  cases ends program.code before [program.entry] text position <;> rfl

theorem position_of_matchHere {text : List Char} {reached : Nat}
    (matched : program.matchHere before text position = some reached) :
    position ≤ reached ∧ reached ≤ position + text.length := by
  rw [matchHere_eq_head?] at matched
  obtain ⟨spot, inside, rfl⟩ := List.mem_map.mp (List.mem_of_head? matched)
  exact position_of_mem_ends inside

theorem position_of_findFrom {text : List Char} {reached : Nat}
    (matched : program.findFrom before text position = some reached) :
    position ≤ reached ∧ reached ≤ position + text.length := by
  induction text generalizing before position with
  | nil =>
    rw [findFrom] at matched
    split at matched
    · rename_i here
      exact position_of_matchHere (here.trans matched)
    · cases matched
  | cons c rest ih =>
    rw [findFrom] at matched
    split at matched
    · rename_i here
      exact position_of_matchHere (here.trans matched)
    · obtain ⟨low, high⟩ := ih matched
      rw [List.length_cons]
      omega

variable (plain : program.Unasserting) (rest : List Char)

include plain

/-- A match that ends in the beginning of a text is found there. -/
theorem matchHere_append
    (within : ∀ reached ∈ program.matchHere before (taken ++ rest) position,
      reached ≤ position + taken.length) :
    program.matchHere before taken position =
      program.matchHere before (taken ++ rest) position := by
  rw [matchHere_eq_head?] at within ⊢
  rw [matchHere_eq_head?, map_position_ends_append plain taken rest]
  cases shape :
    (ends program.code before [program.entry] (taken ++ rest) position).map (·.position) with
  | nil => rfl
  | cons reached others =>
    rw [shape] at within
    rw [List.filter_cons_of_pos (by simpa using within reached rfl), List.head?_cons,
      List.head?_cons]

theorem findFrom_append
    (within : ∀ reached ∈ program.findFrom before (taken ++ rest) position,
      reached ≤ position + taken.length) :
    program.findFrom before taken position = program.findFrom before (taken ++ rest) position := by
  have here (before : Option Char) (taken : List Char) (position : Nat)
      (within : ∀ reached ∈ program.findFrom before (taken ++ rest) position,
        reached ≤ position + taken.length) :
      program.matchHere before taken position = program.matchHere before (taken ++ rest) position :=
    matchHere_append plain rest fun reached matched => within reached (by
      rw [Option.mem_def] at matched ⊢
      rw [findFrom.eq_def, matched])
  induction taken generalizing before position with
  | nil =>
    have same := here before [] position within
    rw [List.nil_append] at within same ⊢
    rw [findFrom, same]
    rw [findFrom.eq_def] at within ⊢
    cases matched : program.matchHere before rest position with
    | some reached => rfl
    | none =>
      -- A match that starts later ends later, too.
      rw [matched] at within
      cases rest with
      | nil => rfl
      | cons c rest =>
        cases found : program.findFrom (some c) rest (position + 1) with
        | none => exact found.symm
        | some reached =>
          have low := (position_of_findFrom found).1
          have high := within reached found
          rw [List.length_nil] at high
          omega
  | cons c taken ih =>
    have same := here before (c :: taken) position within
    rw [List.cons_append] at within same ⊢
    rw [findFrom, same]
    rw [findFrom] at within ⊢
    cases matched : program.matchHere before (c :: (taken ++ rest)) position with
    | some reached => rfl
    | none =>
      refine ih fun reached found => ?_
      rw [matched] at within
      have high := within reached found
      rw [List.length_cons] at high
      omega

/-- **A match that ends in the beginning of a text is found there**, wherever it starts. -/
theorem findEnd_append
    (within : ∀ reached ∈ program.findEnd (taken ++ rest), reached ≤ taken.length) :
    program.findEnd taken = program.findEnd (taken ++ rest) := by
  rw [findEnd_eq_findFrom] at within
  rw [findEnd_eq_findFrom, findEnd_eq_findFrom]
  refine findFrom_append plain rest fun reached found => ?_
  rw [Nat.zero_add]
  exact within reached found

end Program

end Pattern

/-! ### Rules -/

namespace Rule

variable {rule : Rule} {input taken rest : List Char} {length : Nat}

/-- A rule matches nothing but what is there. -/
theorem length_of_matchLength (matched : rule.matchLength input = some length) :
    length ≤ input.length := by
  have found := (Option.filter_eq_some_iff.mp matched).1
  rw [Program.findEnd_eq_findFrom] at found
  have within := (Program.position_of_findFrom found).2
  rwa [Nat.zero_add] at within

section Beginnings

variable (plain : rule.program.Unasserting)
  (within : ∀ length ∈ rule.matchLength (taken ++ rest), length ≤ taken.length)

include plain within

/-- A rule that takes no more than the beginning of a text takes the same of that alone. -/
theorem matchLength_append : rule.matchLength taken = rule.matchLength (taken ++ rest) := by
  unfold matchLength at within ⊢
  rw [Program.findEnd_append plain rest fun reached found => ?_]
  by_cases inked : 0 < reached
  · exact within reached (Option.filter_eq_some_iff.mpr ⟨found, decide_eq_true inked⟩)
  · omega

theorem candidate?_append : rule.candidate? taken = rule.candidate? (taken ++ rest) := by
  unfold candidate?
  rw [matchLength_append plain within]
  cases matched : rule.matchLength (taken ++ rest) with
  | none => rfl
  | some length =>
    rw [Option.map_some, Option.map_some, List.take_append_of_le_length (within length matched)]

end Beginnings

end Rule

/-! ### What is selected is selected again -/

namespace Lexicon

variable {lexicon : Lexicon} {input : List Char} {found : Match} {rule : Rule}

/-- No rule matches more than what is selected. -/
theorem Selects.matchLength_le (selects : lexicon.Selects input found rule) {other : Rule}
    (member : other ∈ lexicon.rules) {length : Nat}
    (matched : other.matchLength input = some length) :
    length ≤ found.text.length := by
  have within := selects.length_le member matched
  rwa [List.length_take, Nat.min_eq_left (other.length_of_matchLength matched)] at within

/-- The rule that is selected matches what is selected. -/
theorem Selects.matchLength_eq (selects : lexicon.Selects input found rule) :
    rule.matchLength input = some found.text.length := by
  obtain ⟨_, _, length, literal, _, ranked, rfl, _⟩ := selects
  obtain ⟨same, matched, rank⟩ := Option.map_eq_some_iff.mp ranked
  obtain rfl : same = length := congrArg (fun rank => (ofLex rank).1) rank
  rw [matched, List.length_take, Nat.min_eq_left (rule.length_of_matchLength matched)]

/-- **What is matched in a text is matched in its beginning**, if that is long enough. -/
theorem longestMatch_append {taken rest : List Char}
    (plain : ∀ rule ∈ lexicon.rules, rule.program.Unasserting)
    (matched : lexicon.longestMatch (taken ++ rest) = some found)
    (fits : found.text.length ≤ taken.length) :
    lexicon.longestMatch taken = some found := by
  obtain ⟨rule, selects⟩ := selects_of_longestMatch matched
  have alike : ∀ other ∈ lexicon.rules, other.candidate? taken = other.candidate? (taken ++ rest) :=
    fun other member => Rule.candidate?_append (plain other member) fun length took =>
      (selects.matchLength_le member took).trans fits
  obtain ⟨best, won, rfl⟩ := Option.map_eq_some_iff.mp matched
  have same : taken.take best.length = (taken ++ rest).take best.length := by
    by_cases within : best.length ≤ taken.length
    · rw [List.take_append_of_le_length within]
    · -- All of the text is taken, so nothing stands behind its beginning.
      rw [List.length_take, List.length_append] at fits
      have none : rest = [] := List.length_eq_zero_iff.mp (by omega)
      rw [none, List.append_nil]
  unfold longestMatch
  rw [List.filterMap_congr alike, won, Option.map_some, same]

/-- The rule of a kind, where no other rule has the kind. -/
theorem rule?_of_mem (distinct : (lexicon.rules.map (·.kind)).Nodup)
    (member : rule ∈ lexicon.rules) :
    lexicon.rule? rule.kind = some rule := by
  unfold rule?
  cases named : lexicon.rules.find? (·.kind == rule.kind) with
  | none =>
    exact absurd (beq_self_eq_true rule.kind) (List.find?_eq_none.mp named rule member)
  | some other =>
    have sameKind := List.find?_some named
    rw [List.inj_on_of_nodup_map distinct (List.mem_of_find?_eq_some named) member
      (beq_iff_eq.mp sameKind)]

end Lexicon

namespace Draft

variable {draft : Draft} {lexicon : Lexicon}

theorem map_kind_of_compile (compiled : draft.compile = .ok lexicon) :
    lexicon.rules.map (·.kind) = draft.kinds := by
  obtain ⟨_, each, _⟩ := compile_eq_ok_iff.mp compiled
  unfold kinds
  generalize draft.rules = entries, lexicon.rules = rules at each ⊢
  induction each with
  | nil => rfl
  | cons here _ ih =>
    obtain ⟨_, regex, _, rfl⟩ := Rule.compile_eq_ok_iff.mp here
    rw [List.map_cons, List.map_cons, ih]
    rfl

/-- The rules of a draft that asks for nothing ask for nothing. -/
theorem unasserting_of_compile (compiled : draft.compile = .ok lexicon)
    (plain : draft.Unasserting) :
    ∀ rule ∈ lexicon.rules, rule.program.Unasserting := by
  obtain ⟨_, each, _⟩ := compile_eq_ok_iff.mp compiled
  unfold Unasserting at plain
  generalize draft.rules = entries, lexicon.rules = rules at each plain ⊢
  induction each with
  | nil => exact List.forall_mem_nil _
  | cons here _ ih =>
    obtain ⟨_, regex, reads, rfl⟩ := Rule.compile_eq_ok_iff.mp here
    obtain ⟨first, others⟩ := List.forall_mem_cons.mp plain
    exact List.forall_mem_cons.mpr ⟨(first regex reads).program, ih others⟩

/-- **A match is matched again without the text behind it.** Where no pattern asks for anything but
the start of the text, the kind that is selected for an input is selected again for the text that it
took, with all of that text, and recognizes it. -/
theorem longestMatch_again (compiled : draft.compile = .ok lexicon) (distinct : draft.kinds.Nodup)
    (plain : draft.Unasserting) {input : List Char} {found : Match}
    (matched : lexicon.longestMatch input = some found) :
    lexicon.longestMatch found.text = some found ∧
      lexicon.recognizes found.kind found.text = true := by
  have asksNothing := unasserting_of_compile compiled plain
  obtain ⟨rule, selects⟩ := Lexicon.selects_of_longestMatch matched
  obtain ⟨rest, shape⟩ := Lexicon.longestMatch_text_isPrefix matched
  constructor
  · rw [← shape] at matched
    exact Lexicon.longestMatch_append asksNothing matched (Nat.le_refl _)
  · have within : ∀ length ∈ rule.matchLength (found.text ++ rest), length ≤ found.text.length :=
      fun length taken => selects.matchLength_le selects.mem (shape ▸ taken)
    have whole : rule.matchLength found.text = some found.text.length := by
      rw [Rule.matchLength_append (asksNothing rule selects.mem) within, shape]
      exact selects.matchLength_eq
    have named : lexicon.rule? found.kind = some rule := by
      obtain ⟨_, _, _, _, _, _, rfl, _⟩ := id selects
      exact Lexicon.rule?_of_mem (map_kind_of_compile compiled ▸ distinct) selects.mem
    rw [Lexicon.recognizes, named, Option.bind_some, whole]
    exact beq_self_eq_true _

end Draft

/-- The rules of descriptions ask for nothing. -/
theorem Description.unasserting_draft : draft.Unasserting :=
  Draft.unasserting_of_matchers (by decide +kernel)

/-- A name in a description is a name by itself. -/
theorem Draft.longestMatch_again_name :
    Description.lexicon.longestMatch "if: 'x'".toList = some ⟨Description.nameKind, "if".toList⟩ ∧
      Description.draft.kinds.Nodup ∧ Description.draft.Unasserting ∧
      Description.lexicon.longestMatch "if".toList = some ⟨Description.nameKind, "if".toList⟩ ∧
      Description.lexicon.recognizes Description.nameKind "if".toList = true := by
  have compiled : Description.draft.compile = .ok Description.lexicon :=
    Description.lexicon_eq ▸ Description.compile_draft
  have distinct : Description.draft.kinds.Nodup := by decide
  have isName : Description.IsName "if".toList := by decide
  have ends : ∀ c ∈ (": 'x'".toList).head?, Description.nameCharacters.contains c = false := by
    rintro c ⟨⟩
    decide
  have matched := Description.longestMatch_name isName ends
  exact ⟨matched, distinct, Description.unasserting_draft,
    Draft.longestMatch_again compiled distinct Description.unasserting_draft matched⟩

end Offside
