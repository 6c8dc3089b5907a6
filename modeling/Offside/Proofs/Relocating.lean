/-
**Programs inside of others.**

The program of an expression is found again in the program of any larger expression. It stands there
in other places, goes on elsewhere where it ends by itself, and what it goes on to never leads back
into it.

* `Regex.assemble_map`: an expression that is placed elsewhere is made of the same instructions,
  which lead to other places;
* `Regex.confined`: they lead to each other, and to the place where the expression goes on;
* `explore_congr`: what is reached within a region that cannot be left does not depend on what was
  seen outside of it;
* `SeenAlike`: what has been seen of the smaller program is in step with what has been seen of the
  larger one;
* `explore_hosted`: what is reached inside of a larger program is what is reached in the smaller
  one, with what is reached behind it in the place of its end. The induction follows the exploration
  of the smaller program.
-/

import Offside.Proofs.Preference

namespace Offside.Pattern

/-! ### Instructions in other places -/

namespace Instr

/-- The places that an instruction can lead to. -/
def targets : Instr → List Nat
  | halt => []
  | take _ next => [next]
  | check _ next => [next]
  | fork preferred other => [preferred, other]

/-- The instruction with other places to lead to. -/
def map (ρ : Nat → Nat) : Instr → Instr
  | halt => halt
  | take set next => take set (ρ next)
  | check assertion next => check assertion (ρ next)
  | fork preferred other => fork (ρ preferred) (ρ other)

theorem mem_targets_of_mem_ahead {before after : Option Char} {instr : Instr} {next : Nat}
    (member : next ∈ instr.ahead before after) : next ∈ instr.targets := by
  cases instr with
  | halt => cases member
  | take set next => cases member
  | fork preferred other => exact member
  | check assertion next =>
    simp only [ahead] at member
    split at member
    · exact member
    · cases member

theorem ahead_map (ρ : Nat → Nat) (before after : Option Char) (instr : Instr) :
    (instr.map ρ).ahead before after = (instr.ahead before after).map ρ := by
  cases instr with
  | check assertion next =>
    simp only [map, ahead]
    split <;> rfl
  | _ => rfl

theorem map_choose (ρ : Nat → Nat) (greedy : Bool) (body after : Nat) :
    (choose greedy body after).map ρ = choose greedy (ρ body) (ρ after) := by
  cases greedy <;> rfl

end Instr

/-- A map of places that moves a block moves its parts alike. -/
theorem moves_part {ρ : Nat → Nat} {size base place : Nat}
    (moves : ∀ index < size, ρ (base + index) = place + index) (offset : Nat) {count : Nat}
    (within : offset + count ≤ size) :
    ∀ index < count, ρ (base + offset + index) = place + offset + index := by
  intro index inside
  rw [Nat.add_assoc, moves _ (by omega), Nat.add_assoc]

theorem moves_start {ρ : Nat → Nat} {size base place : Nat}
    (moves : ∀ index < size, ρ (base + index) = place + index) (inhabited : 0 < size) :
    ρ base = place :=
  moves 0 inhabited

namespace Regex

/-- Instructions that are placed elsewhere are the same instructions with other places. -/
theorem assemble_map (ρ : Nat → Nat) (regex : Regex) {base place : Nat}
    (moves : ∀ index < regex.size, ρ (base + index) = place + index) (next : Nat) :
    regex.assemble place (ρ next) =
      (ρ (regex.assemble base next).1, (regex.assemble base next).2.map (Instr.map ρ)) := by
  induction regex generalizing base place next with
  | empty => rfl
  | one set | assert assertion =>
    rw [assemble, assemble, moves_start moves Nat.one_pos]
    rfl
  | seq first second first_ih second_ih =>
    have head := first_ih fun index within => moves index (by rw [size]; omega)
    have tail := second_ih (moves_part moves _ (Nat.le_refl _))
    simp only [assemble, head, tail, List.map_append]
  | alt first second first_ih second_ih =>
    have here := moves_start moves (by rw [size]; omega)
    have left := first_ih (moves_part moves 1 (by rw [size]; omega))
    have right := second_ih (moves_part moves (1 + first.size) (by rw [size]; omega))
    simp only [← Nat.add_assoc] at right
    simp only [assemble, left, right, List.map_append, List.map_cons, Instr.map, here]
  | opt greedy body ih =>
    have here := moves_start moves (by rw [size]; omega)
    have inner := ih (moves_part moves 1 (by rw [size]; omega))
    simp only [assemble, inner, List.map_cons, Instr.map_choose, here]
  | star greedy body ih | plus greedy body ih =>
    have here := moves_start moves (by rw [size]; omega)
    have inner := ih (moves_part moves 1 (by rw [size]; omega)) base
    rw [here] at inner
    simp only [assemble, inner, List.map_cons, Instr.map_choose, here]

/-- An expression leads to its own places and to the one where it goes on, and never ends by
itself. -/
theorem confined (regex : Regex) (reached : Nat → Prop) (base : Nat) {next : Nat}
    (own : ∀ place, base ≤ place → place < base + regex.size → reached place)
    (onward : reached next) :
    reached (regex.assemble base next).1 ∧
      ∀ instr ∈ (regex.assemble base next).2, instr ≠ .halt ∧
        ∀ target ∈ instr.targets, reached target := by
  have choice {body after : Nat} (greedy : Bool) (inner : reached body) (outer : reached after) :
      Instr.choose greedy body after ≠ .halt ∧
        ∀ target ∈ (Instr.choose greedy body after).targets, reached target := by
    cases greedy <;> simp [Instr.choose, Instr.targets, inner, outer]
  induction regex generalizing base next with
  | empty => exact ⟨onward, fun _ member => by cases member⟩
  | one set | assert assertion =>
    refine ⟨own base (Nat.le_refl _) (Nat.lt_succ_self _), fun instr member => ?_⟩
    obtain rfl := List.mem_singleton.mp member
    simp [Instr.targets, onward]
  | seq first second first_ih second_ih =>
    rw [size] at own
    have tail := second_ih (base + first.size)
      (fun place low high => own place (by omega) (by omega)) onward
    have head := first_ih base (fun place low high => own place low (by omega)) tail.1
    exact ⟨head.1, List.forall_mem_append.mpr ⟨head.2, tail.2⟩⟩
  | alt first second first_ih second_ih =>
    rw [size] at own
    have left := first_ih (base + 1) (fun place low high => own place (by omega) (by omega)) onward
    have right := second_ih (base + 1 + first.size)
      (fun place low high => own place (by omega) (by omega)) onward
    refine ⟨own base (Nat.le_refl _) (by omega),
      List.forall_mem_cons.mpr ⟨?_, List.forall_mem_append.mpr ⟨left.2, right.2⟩⟩⟩
    simp [Instr.targets, left.1, right.1]
  | opt greedy body ih =>
    rw [size] at own
    have inner := ih (base + 1) (fun place low high => own place (by omega) (by omega)) onward
    exact ⟨own base (Nat.le_refl _) (by omega),
      List.forall_mem_cons.mpr ⟨choice greedy inner.1 onward, inner.2⟩⟩
  | star greedy body ih =>
    rw [size] at own
    have here := own base (Nat.le_refl _) (by omega)
    have inner := ih (base + 1) (fun place low high => own place (by omega) (by omega)) here
    exact ⟨here, List.forall_mem_cons.mpr ⟨choice greedy inner.1 onward, inner.2⟩⟩
  | plus greedy body ih =>
    rw [size] at own
    have here := own base (Nat.le_refl _) (by omega)
    have inner := ih (base + 1) (fun place low high => own place (by omega) (by omega)) here
    exact ⟨inner.1, List.forall_mem_cons.mpr ⟨choice greedy inner.1 onward, inner.2⟩⟩

end Regex

/-! ### What is reached inside of a larger program -/

/-- A program inside of a larger one. Where it ends the larger one goes on, in a region apart from
it. -/
structure Hosted (inner code : Array Instr) (ρ : Nat → Nat) (region : Nat → Prop) : Prop where
  ends : inner[0]? = some .halt
  stands : ∀ (place : Nat) (instr : Instr), 0 < place → inner[place]? = some instr →
    instr ≠ .halt ∧ code[ρ place]? = some (instr.map ρ)
  leads : ∀ (place : Nat) (instr : Instr), inner[place]? = some instr →
    ∀ next ∈ instr.targets, next < inner.size
  injective : ∀ place other, 0 < place → 0 < other → ρ place = ρ other → place = other
  apart : ∀ place, 0 < place → place < inner.size → ¬ region (ρ place)
  enters : region (ρ 0)
  closed : ∀ before after, Closed code before after region

section Explore

variable {code inner : Array Instr} {before after : Option Char} {region : Nat → Prop}
  {ρ : Nat → Nat}

/-- What is reached within a region depends on what has been seen of it alone. -/
theorem explore_congr (closed : Closed code before after region) (todo : List Nat)
    (seen : Std.HashSet Nat) :
    ∀ other : Std.HashSet Nat, (∀ place ∈ todo, region place) →
      (∀ place, region place → (place ∈ other ↔ place ∈ seen)) →
        explore code before after todo other = explore code before after todo seen := by
  induction todo, seen using explore_induction code before after with
  | nil seen =>
    intro other _ _
    rw [explore_nil, explore_nil]
  | passed place todo seen passed ih =>
    intro other within alike
    obtain ⟨here, within⟩ := List.forall_mem_cons.mp within
    have also : Passed code other place := passed.imp_left (alike place here).mpr
    rw [explore_of_passed passed, explore_of_passed also]
    exact ih other within alike
  | fresh place todo seen instr fresh here ih =>
    intro other within alike
    obtain ⟨known, within⟩ := List.forall_mem_cons.mp within
    have alsoFresh : place ∉ other := mt (alike place known).mp fresh
    rw [explore_of_fresh fresh here, explore_of_fresh alsoFresh here]
    refine congrArg (instr.kept ++ ·) (ih (other.insert place) ?_ fun next inside => ?_)
    · exact List.forall_mem_append.mpr ⟨closed place known instr here, within⟩
    · rw [Std.HashSet.mem_insert, Std.HashSet.mem_insert, alike next inside]

/-- What an instruction of the smaller program amounts to in the larger one. -/
def Instr.inside (code : Array Instr) (before after : Option Char) (ρ : Nat → Nat) :
    Instr → List Instr
  | .halt => explore code before after [ρ 0] {}
  | instr => [instr.map ρ]

theorem Instr.flatMap_inside_kept {instr : Instr} (goesOn : instr ≠ .halt) :
    instr.kept.flatMap (Instr.inside code before after ρ) = (instr.map ρ).kept := by
  cases instr with
  | halt => exact absurd rfl goesOn
  | _ => rfl

/-- What is seen of the larger program, beside what is seen of the smaller one: the same places, and
behind its end nothing before the end is seen. -/
structure SeenAlike (inner code : Array Instr) (ρ : Nat → Nat) (region : Nat → Prop)
    (both seen : Std.HashSet Nat) : Prop where
  alike : ∀ place, 0 < place → place < inner.size → (ρ place ∈ both ↔ place ∈ seen)
  ended : 0 ∈ seen → Passed code both (ρ 0)
  untouched : 0 ∉ seen → ∀ place, region place → place ∉ both

namespace SeenAlike

variable {both seen : Std.HashSet Nat}

theorem nothing : SeenAlike inner code ρ region {} {} := by
  constructor <;> simp

theorem passed (step : SeenAlike inner code ρ region both seen) {place : Nat}
    (inProgram : place < inner.size) (known : place ∈ seen) : Passed code both (ρ place) := by
  rcases Nat.eq_zero_or_pos place with rfl | positive
  · exact step.ended known
  · exact .inl ((step.alike place positive inProgram).mpr known)

/-- Both go on to a place before the end. -/
theorem insert (hosted : Hosted inner code ρ region)
    (step : SeenAlike inner code ρ region both seen) {place : Nat}
    (positive : 0 < place) (inProgram : place < inner.size) :
    SeenAlike inner code ρ region (both.insert (ρ place)) (seen.insert place) := by
  have zero : 0 ∈ seen.insert place ↔ 0 ∈ seen := by
    rw [Std.HashSet.mem_insert, beq_iff_eq, or_iff_right (Nat.ne_of_gt positive)]
  constructor
  · intro next above within
    have same : ρ place = ρ next ↔ place = next :=
      ⟨hosted.injective place next positive above, congrArg ρ⟩
    rw [Std.HashSet.mem_insert, Std.HashSet.mem_insert, beq_iff_eq, beq_iff_eq,
      step.alike next above within, same]
  · intro known
    exact (step.ended (zero.mp known)).mono fun next old => Std.HashSet.mem_insert.mpr (.inr old)
  · intro new next inside inserted
    rcases Std.HashSet.mem_insert.mp inserted with same | old
    · exact hosted.apart place positive inProgram (beq_iff_eq.mp same ▸ inside)
    · exact step.untouched (mt zero.mpr new) next inside old

/-- The smaller program ends, and the larger one sees what is behind its end. -/
theorem finish (hosted : Hosted inner code ρ region)
    (step : SeenAlike inner code ρ region both seen)
    {final : Std.HashSet Nat} (explored : Explored code before after [ρ 0] both final) :
    SeenAlike inner code ρ region final (seen.insert 0) := by
  have inRegion :=
    explored.inside region (hosted.closed before after)
      (List.forall_mem_singleton.mpr hosted.enters)
  constructor
  · intro next above within
    rw [Std.HashSet.mem_insert, beq_iff_eq, or_iff_right (Nat.ne_of_lt above),
      ← step.alike next above within]
    exact ⟨fun known => (inRegion _ known).resolve_right (hosted.apart next above within),
      fun known => explored.grows _ known⟩
  · exact fun _ => explored.covers (ρ 0) List.mem_cons_self
  · exact fun new => absurd Std.HashSet.mem_insert_self new

/-- What is seen before the end does not matter behind it. -/
theorem explore_end (hosted : Hosted inner code ρ region)
    (step : SeenAlike inner code ρ region both seen) (fresh : 0 ∉ seen) :
    explore code before after [ρ 0] both = explore code before after [ρ 0] {} := by
  refine explore_congr (hosted.closed before after) [ρ 0] {} both
    (List.forall_mem_singleton.mpr hosted.enters) ?_
  intro next inside
  exact ⟨fun known => absurd known (step.untouched fresh next inside),
    fun known => absurd known Std.HashSet.not_mem_empty⟩

end SeenAlike

/-- **What is reached inside of a larger program** is what is reached in the smaller one, with what
is reached behind it in the place of its end. -/
theorem explore_hosted (hosted : Hosted inner code ρ region) (todo : List Nat)
    (seen : Std.HashSet Nat) :
    ∀ both : Std.HashSet Nat, SeenAlike inner code ρ region both seen →
      (∀ place ∈ todo, place < inner.size) →
      explore code before after (todo.map ρ) both =
        (explore inner before after todo seen).flatMap (Instr.inside code before after ρ) := by
  induction todo, seen using explore_induction inner before after with
  | nil seen =>
    intro both _ _
    rw [List.map_nil, explore_nil, explore_nil, List.flatMap_nil]
  | passed place todo seen passed ih =>
    intro both step within
    obtain ⟨here, others⟩ := List.forall_mem_cons.mp within
    have known : place ∈ seen := passed.resolve_right (Nat.not_le.mpr here)
    rw [List.map_cons, explore_of_passed (step.passed here known), explore_of_passed passed]
    exact ih both step others
  | fresh place todo seen instr fresh here ih =>
    intro both step within
    obtain ⟨inProgram, others⟩ := List.forall_mem_cons.mp within
    rw [List.map_cons, explore_of_fresh fresh here, List.flatMap_append]
    rcases Nat.eq_zero_or_pos place with rfl | positive
    · -- The smaller program ends here; the larger one goes on in the region, of which nothing is
      -- seen.
      obtain rfl := Option.some.inj (hosted.ends.symm.trans here)
      obtain ⟨final, explored⟩ : ∃ final, Explored code before after [ρ 0] both final :=
        exists_explored [ρ 0] both
      have halts : Instr.halt.kept.flatMap (Instr.inside code before after ρ) =
          explore code before after [ρ 0] {} := List.flatMap_singleton _ _
      rw [← List.singleton_append, explored.append, step.explore_end hosted fresh, halts]
      exact congrArg (explore code before after [ρ 0] {} ++ ·)
        (ih final (step.finish hosted explored) others)
    · obtain ⟨goesOn, there⟩ := hosted.stands place instr positive here
      have alsoFresh : ρ place ∉ both := mt (step.alike place positive inProgram).mp fresh
      have onward : (instr.map ρ).ahead before after ++ todo.map ρ =
          (instr.ahead before after ++ todo).map ρ := by
        rw [Instr.ahead_map, List.map_append]
      have inside : ∀ next ∈ instr.ahead before after ++ todo, next < inner.size :=
        List.forall_mem_append.mpr ⟨fun next ahead =>
          hosted.leads place instr here next (Instr.mem_targets_of_mem_ahead ahead), others⟩
      rw [explore_of_fresh alsoFresh there, Instr.flatMap_inside_kept goesOn, onward]
      exact congrArg ((instr.map ρ).kept ++ ·) (ih _ (step.insert hosted positive inProgram) inside)

end Explore

end Offside.Pattern
