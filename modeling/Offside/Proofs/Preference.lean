/-
**What is preferred decides.**

Matching keeps the places that it has reached in the order of preference and advances all of them
together; a place that is reached twice counts once. This comes to the same as trying one place
after the other, each with all that it leads to, until one of them comes to the end of the program:
a place that was left out because it had been seen before either was tried already, in vain, or is
not tried at all.

* `explore_of_fresh`: one equation for all instructions, from what an instruction keeps and where it
  leads to; `explore_induction` is the induction that goes with it;
* `exists_explored`: what is left behind when places are explored is closed;
* `findSome?_explore_of_dead`: places from which nothing comes may be taken for seen. Exploring goes
  two ways here that differ in nothing but dead places, which is the invariant of the induction;
* `run_eq_findSome?`: matching is a search through what is reached. The induction is on the text.
-/

import Offside.Pattern.Program

namespace Offside.Pattern

/-! ### Exploring -/

/-- The places that an instruction leads to without a character. -/
def Instr.ahead (before after : Option Char) : Instr → List Nat
  | .halt => []
  | .take _ _ => []
  | .check assertion next => if assertion.holds before after then [next] else []
  | .fork preferred other => [preferred, other]

/-- The instruction itself, if it takes a character or ends the program. -/
def Instr.kept : Instr → List Instr
  | .halt => [.halt]
  | .take set next => [.take set next]
  | .check _ _ => []
  | .fork _ _ => []

section Explore

variable {code : Array Instr} {before after : Option Char} {place : Nat} {todo : List Nat}
  {seen : Std.HashSet Nat}

/-- Places that are passed over: those that were seen, and those outside of the program. -/
def Passed (code : Array Instr) (seen : Std.HashSet Nat) (place : Nat) : Prop :=
  place ∈ seen ∨ code.size ≤ place

theorem Passed.mono {later : Std.HashSet Nat} (grows : ∀ known ∈ seen, known ∈ later)
    (passed : Passed code seen place) : Passed code later place :=
  passed.imp_left (grows place)

theorem explore_nil : explore code before after [] seen = [] := by
  rw [explore]

theorem explore_of_passed (passed : Passed code seen place) :
    explore code before after (place :: todo) seen = explore code before after todo seen := by
  rw [explore]
  rcases passed with known | beyond
  · rw [if_pos known]
  · rw [dif_neg (Nat.not_lt.mpr beyond), ite_self]

/-- A place that is not passed over gives what its instruction keeps, and then what is ahead of
it. -/
theorem explore_of_fresh {instr : Instr} (fresh : place ∉ seen) (here : code[place]? = some instr) :
    explore code before after (place :: todo) seen =
      instr.kept ++
        explore code before after (instr.ahead before after ++ todo) (seen.insert place) := by
  obtain ⟨within, rfl⟩ := Array.getElem?_eq_some_iff.mp here
  rw [explore, if_neg fresh, dif_pos within]
  cases code[place] with
  | halt => rfl
  | take set next => rfl
  | fork preferred other => rfl
  | check assertion next =>
    simp only [Instr.ahead, Instr.kept]
    split <;> rfl

/-- The induction along which places are explored. -/
theorem explore_induction (code : Array Instr) (before after : Option Char)
    {motive : List Nat → Std.HashSet Nat → Prop}
    (nil : ∀ seen, motive [] seen)
    (passed : ∀ place todo seen, Passed code seen place → motive todo seen →
      motive (place :: todo) seen)
    (fresh : ∀ place todo seen instr, place ∉ seen → code[place]? = some instr →
      motive (instr.ahead before after ++ todo) (seen.insert place) → motive (place :: todo) seen)
    (todo : List Nat) (seen : Std.HashSet Nat) : motive todo seen := by
  have step : ∀ {place : Nat} (within : place < code.size), code[place]? = some code[place] :=
    fun within => Array.getElem?_eq_getElem within
  fun_induction explore code before after todo seen with
  | case1 => exact nil _
  | case2 place todo seen known ih => exact passed place todo _ (.inl known) ih
  | case3 place todo seen new within nowSeen halt ih =>
    exact fresh place todo _ _ new (step within) (by rw [halt]; exact ih)
  | case4 place todo seen new within nowSeen set next take ih =>
    exact fresh place todo _ _ new (step within) (by rw [take]; exact ih)
  | case5 place todo seen new within nowSeen assertion next check holds ih =>
    exact fresh place todo _ _ new (step within)
      (by rw [check, Instr.ahead, if_pos holds]; exact ih)
  | case6 place todo seen new within nowSeen assertion next check fails ih =>
    exact fresh place todo _ _ new (step within)
      (by rw [check, Instr.ahead, if_neg fails]; exact ih)
  | case7 place todo seen new within nowSeen preferred other fork ih =>
    exact fresh place todo _ _ new (step within) (by rw [fork]; exact ih)
  | case8 place todo seen _ beyond ih => exact passed place todo _ (.inr (Nat.not_lt.mp beyond)) ih

theorem explore_append_of_passed {front : List Nat}
    (passed : ∀ place ∈ front, Passed code seen place) :
    explore code before after (front ++ todo) seen = explore code before after todo seen := by
  induction front with
  | nil => rfl
  | cons place front ih =>
    rw [List.cons_append, explore_of_passed (passed place List.mem_cons_self)]
    exact ih fun other member => passed other (List.mem_cons_of_mem _ member)

/-- Places that lead to none but each other. -/
def Closed (code : Array Instr) (before after : Option Char) (region : Nat → Prop) : Prop :=
  ∀ place, region place → ∀ instr, code[place]? = some instr → ∀ next ∈ instr.ahead before after,
    region next

/-- What is left behind when places are explored: more places are seen, and all that these lead to
has been seen or handed out. Nothing is seen outside of a region that cannot be left. -/
structure Explored (code : Array Instr) (before after : Option Char) (todo : List Nat)
    (seen final : Std.HashSet Nat) : Prop where
  append : ∀ others, explore code before after (todo ++ others) seen =
    explore code before after todo seen ++ explore code before after others final
  grows : ∀ place ∈ seen, place ∈ final
  covers : ∀ place ∈ todo, Passed code final place
  ahead : ∀ place ∈ final, place ∉ seen → ∀ instr, code[place]? = some instr →
    ∀ next ∈ instr.ahead before after, Passed code final next
  kept : ∀ place ∈ final, place ∉ seen → ∀ instr, code[place]? = some instr →
    ∀ thread ∈ instr.kept, thread ∈ explore code before after todo seen
  inside : ∀ region, Closed code before after region → (∀ place ∈ todo, region place) →
    ∀ place ∈ final, place ∈ seen ∨ region place

theorem exists_explored (todo : List Nat) (seen : Std.HashSet Nat) :
    ∃ final, Explored code before after todo seen final := by
  induction todo, seen using explore_induction code before after with
  | nil seen =>
    refine ⟨seen, ?_, fun _ => id, List.forall_mem_nil _, ?_, ?_, fun _ _ _ _ => .inl⟩
    · intro others
      rw [explore_nil, List.nil_append, List.nil_append]
    · intro place known new
      exact absurd known new
    · intro place known new
      exact absurd known new
  | passed place todo seen passed ih =>
    obtain ⟨final, explored⟩ := ih
    refine ⟨final, ?_, explored.grows, ?_, explored.ahead, ?_, ?_⟩
    · intro others
      rw [List.cons_append, explore_of_passed passed, explore_of_passed passed]
      exact explored.append others
    · exact List.forall_mem_cons.mpr ⟨passed.mono explored.grows, explored.covers⟩
    · rw [explore_of_passed passed]
      exact explored.kept
    · exact fun region closed within =>
        explored.inside region closed (List.forall_mem_cons.mp within).2
  | fresh place todo seen instr fresh here ih =>
    obtain ⟨final, explored⟩ := ih
    have inFinal : place ∈ final := explored.grows place Std.HashSet.mem_insert_self
    have later : ∀ other, other ∉ seen → other ≠ place → other ∉ seen.insert place := by
      intro other new different inserted
      rcases Std.HashSet.mem_insert.mp inserted with same | known
      · exact different (beq_iff_eq.mp same).symm
      · exact new known
    have reached : ∀ next ∈ instr.ahead before after ++ todo, Passed code final next :=
      explored.covers
    refine ⟨final, ?_, ?_, ?_, ?_, ?_, ?_⟩
    · intro others
      rw [List.cons_append, explore_of_fresh fresh here, explore_of_fresh fresh here,
        ← List.append_assoc, explored.append, List.append_assoc]
    · intro known member
      exact explored.grows known (Std.HashSet.mem_insert.mpr (.inr member))
    · refine List.forall_mem_cons.mpr ⟨.inl inFinal, fun next member => ?_⟩
      exact reached next (List.mem_append_right _ member)
    · intro other member new otherInstr otherHere
      by_cases same : other = place
      · subst same
        obtain rfl := Option.some.inj (here.symm.trans otherHere)
        exact fun next inAhead => reached next (List.mem_append_left _ inAhead)
      · exact explored.ahead other member (later other new same) otherInstr otherHere
    · intro other member new otherInstr otherHere thread inKept
      rw [explore_of_fresh fresh here]
      by_cases same : other = place
      · subst same
        obtain rfl := Option.some.inj (here.symm.trans otherHere)
        exact List.mem_append_left _ inKept
      · exact List.mem_append_right _
          (explored.kept other member (later other new same) otherInstr otherHere thread inKept)
    · intro region closed within other member
      obtain ⟨known, others⟩ := List.forall_mem_cons.mp within
      have onward := List.forall_mem_append.mpr ⟨closed place known instr here, others⟩
      rcases explored.inside region closed onward other member with inserted | inRegion
      · rcases Std.HashSet.mem_insert.mp inserted with same | old
        · exact .inr (beq_iff_eq.mp same ▸ known)
        · exact .inl old
      · exact .inr inRegion

/-! ### Places from which nothing comes -/

variable {α : Type} {value : Instr → Option α}

/-- Places that lead to none but each other, and from which nothing comes. -/
structure Dead (code : Array Instr) (before after : Option Char) (value : Instr → Option α)
    (places : Std.HashSet Nat) : Prop where
  ahead : ∀ place ∈ places, ∀ instr, code[place]? = some instr →
    ∀ next ∈ instr.ahead before after, Passed code places next
  kept : ∀ place ∈ places, ∀ instr, code[place]? = some instr →
    ∀ thread ∈ instr.kept, value thread = none

/-- Dead places may be taken for seen. -/
theorem findSome?_explore_of_dead {places : Std.HashSet Nat}
    (dead : Dead code before after value places) (todo : List Nat) (seen : Std.HashSet Nat) :
    ∀ both : Std.HashSet Nat, (∀ place, place ∈ both ↔ place ∈ seen ∨ place ∈ places) →
      (explore code before after todo both).findSome? value =
        (explore code before after todo seen).findSome? value := by
  induction todo, seen using explore_induction code before after with
  | nil seen =>
    intro both _
    rw [explore_nil, explore_nil]
  | passed place todo seen passed ih =>
    intro both together
    have also : Passed code both place :=
      passed.mono fun known member => (together known).mpr (.inl member)
    rw [explore_of_passed passed, explore_of_passed also]
    exact ih both together
  | fresh place todo seen instr fresh here ih =>
    intro both together
    rw [explore_of_fresh fresh here, List.findSome?_append]
    by_cases member : place ∈ places
    · -- On one way the place is passed over; on the other it gives nothing and leads to dead
      -- places.
      have silent : instr.kept.findSome? value = none :=
        List.findSome?_eq_none_iff.mpr (dead.kept place member instr here)
      have skipped : ∀ next ∈ instr.ahead before after, Passed code both next := fun next inAhead =>
        (dead.ahead place member instr here next inAhead).mono fun known inPlaces =>
          (together known).mpr (.inr inPlaces)
      rw [explore_of_passed (.inl ((together place).mpr (.inr member))), silent, Option.none_or,
        ← ih both ?_, explore_append_of_passed skipped]
      intro other
      rw [together, Std.HashSet.mem_insert, beq_iff_eq]
      exact ⟨fun known => known.imp_left .inr, fun known => known.elim
        (fun here => here.elim (fun same => .inr (same ▸ member)) .inl) .inr⟩
    · have alsoFresh : place ∉ both := fun inBoth => ((together place).mp inBoth).elim fresh member
      rw [explore_of_fresh alsoFresh here, List.findSome?_append, ih (both.insert place) ?_]
      intro other
      rw [Std.HashSet.mem_insert, Std.HashSet.mem_insert, together, or_assoc]

/-- **What comes of the places that are explored first decides.** -/
theorem findSome?_explore_append (first second : List Nat) :
    (explore code before after (first ++ second) {}).findSome? value =
      ((explore code before after first {}).findSome? value).or
        ((explore code before after second {}).findSome? value) := by
  obtain ⟨final, explored⟩ : ∃ final, Explored code before after first {} final :=
    exists_explored first {}
  rw [explored.append, List.findSome?_append]
  cases nothing : (explore code before after first {}).findSome? value with
  | some found => rfl
  | none =>
    have silent := List.findSome?_eq_none_iff.mp nothing
    have dead : Dead code before after value final :=
      ⟨fun place member => explored.ahead place member Std.HashSet.not_mem_empty,
        fun place member instr here thread inKept => silent thread
          (explored.kept place member Std.HashSet.not_mem_empty instr here thread inKept)⟩
    rw [Option.none_or, Option.none_or]
    exact findSome?_explore_of_dead dead second {} final fun place => by simp

theorem findSome?_explore (todo : List Nat) :
    (explore code before after todo {}).findSome? value =
      todo.findSome? fun place => (explore code before after [place] {}).findSome? value := by
  induction todo with
  | nil => rw [explore_nil, List.findSome?_nil, List.findSome?_nil]
  | cons place todo ih =>
    rw [List.findSome?_cons, ← ih, ← List.singleton_append, findSome?_explore_append]
    cases (explore code before after [place] {}).findSome? value <;> rfl

end Explore

/-! ### Matching -/

section Run

variable {code : Array Instr} {before : Option Char} {todo : List Nat} {text : List Char}
  {position : Nat}
  {best : Option Nat}

/-- The end of the match that is found through an instruction. -/
def Instr.outcome (code : Array Instr) (text : List Char) (position : Nat) : Instr → Option Nat
  | .halt => some position
  | .take set next =>
    match text with
    | [] => none
    | c :: rest =>
      if set.contains c then run code (some c) [next] rest (position + 1) none else none
  | .check _ _ => none
  | .fork _ _ => none

/-- At the end of a text there is a match if an end of the program is reached. -/
theorem findSome?_outcome_nil (threads : List Instr) :
    (if (untilHalt threads).2 then some position else best) =
      (threads.findSome? (Instr.outcome code [] position)).or best := by
  induction threads with
  | nil => rfl
  | cons thread threads ih => cases thread <;> first | rfl | exact ih

/-- Elsewhere an end counts if nothing that is preferred to it takes a character and leads to
one. -/
theorem findSome?_outcome_cons (c : Char) (rest : List Char) (threads : List Instr) :
    ((advance c (untilHalt threads).1).findSome? fun next =>
        run code (some c) [next] rest (position + 1) none).or
      (if (untilHalt threads).2 then some position else best) =
      (threads.findSome? (Instr.outcome code (c :: rest) position)).or best := by
  induction threads with
  | nil => rfl
  | cons thread threads ih =>
    cases thread with
    | halt => rfl
    | check assertion next => exact ih
    | fork preferred other => exact ih
    | take set next =>
      rw [List.findSome?_cons]
      by_cases taken : set.contains c
      · have ahead : advance c (untilHalt (.take set next :: threads)).1 =
            next :: advance c (untilHalt threads).1 :=
          List.filterMap_cons_some (if_pos taken)
        have here : Instr.outcome code (c :: rest) position (.take set next) =
            run code (some c) [next] rest (position + 1) none := if_pos taken
        rw [ahead, here, List.findSome?_cons]
        cases run code (some c) [next] rest (position + 1) none with
        | some found => rfl
        | none => exact ih
      · have ahead : advance c (untilHalt (.take set next :: threads)).1 =
            advance c (untilHalt threads).1 :=
          List.filterMap_cons_none (if_neg taken)
        have here : Instr.outcome code (c :: rest) position (.take set next) = none := if_neg taken
        rw [ahead, here]
        exact ih

/-- **Matching is a search through what is reached, in the order of preference.** -/
theorem run_eq_findSome? (text : List Char) :
    ∀ before todo position best, run code before todo text position best =
      ((explore code before text.head? todo {}).findSome? (Instr.outcome code text position)).or
        best := by
  induction text with
  | nil =>
    intro before todo position best
    rw [run]
    exact findSome?_outcome_nil _
  | cons c rest ih =>
    intro before todo position best
    have onward : ∀ nexts ends, run code (some c) nexts rest (position + 1) ends =
        (nexts.findSome? fun next => run code (some c) [next] rest (position + 1) none).or
          ends := by
      intro nexts ends
      simp only [ih, Option.or_none]
      rw [findSome?_explore]
    rw [run, ← findSome?_outcome_cons]
    split
    · rename_i none
      rw [List.head?_cons] at none ⊢
      rw [none, List.findSome?_nil, Option.none_or]
    · exact onward _ _

/-- Matching from a place where what is reached is known. -/
theorem run_of_explore {threads : List Instr}
    (reached : explore code before text.head? todo {} = threads) :
    run code before todo text position none =
      threads.findSome? (Instr.outcome code text position) := by
  rw [run_eq_findSome?, reached, Option.or_none]

end Run

end Offside.Pattern
