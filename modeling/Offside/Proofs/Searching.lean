/-
**Expressions are searched one after the other.**

A program looks for the first way, in its order of preference, in which its expression can be
matched. Here it goes on behind each way with a search of another kind, and takes the first way from
which that finds something. So the meaning of an expression becomes one function, `Regex.search`,
from what follows to what is found, and the meaning of a sequence is the composition of those of its
parts.

* `search_eq_findSome?_ends`: the ends of the ways are tried one after the other;
* `search_hosted`, `search_standing`: inside of a larger program an expression finds what it finds
  by itself, if the search goes on where the larger program does. The induction is on the text;
* `Regex.search_seq`, `Regex.search_alt`, `Regex.search_opt`, `Regex.search_one_cons`: one equation
  for each kind of expression that has no loop;
* `Regex.findEnd_anchored`: what an expression takes at the start of a text.
-/

import Offside.Proofs.Relocating
import Offside.Proofs.TokenPatterns

namespace Offside.Pattern

open Unicode (CharSet)

/-- A place in a text: the character in front of it, what stands behind it, and the number of
characters in front of it. -/
structure Spot where
  before : Option Char
  rest : List Char
  position : Nat
  deriving DecidableEq

/-- The start of a text. -/
def Spot.start (text : List Char) : Spot := ⟨none, text, 0⟩

/-! ### Searching -/

theorem findSome?_congr {α β : Type} {list : List α} {first second : α → Option β}
    (same : ∀ x ∈ list, first x = second x) : list.findSome? first = list.findSome? second := by
  induction list with
  | nil => rfl
  | cons x list ih =>
    obtain ⟨here, others⟩ := List.forall_mem_cons.mp same
    rw [List.findSome?_cons, List.findSome?_cons, here, ih others]

theorem findSome?_flatMap {α β γ : Type} (list : List α) (lists : α → List β)
    (find : β → Option γ) :
    (list.flatMap lists).findSome? find = list.findSome? fun x => (lists x).findSome? find := by
  induction list with
  | nil => rfl
  | cons x list ih =>
    rw [List.flatMap_cons, List.findSome?_append, ih, List.findSome?_cons]
    cases (lists x).findSome? find <;> rfl

/-- What is reached are instructions of the program. -/
theorem exists_place_of_mem_explore {code : Array Instr} {before after : Option Char}
    {todo : List Nat} {seen : Std.HashSet Nat} {thread : Instr}
    (member : thread ∈ explore code before after todo seen) :
    ∃ place : Nat, code[place]? = some thread := by
  induction todo, seen using explore_induction code before after with
  | nil seen =>
    rw [explore_nil] at member
    cases member
  | passed place todo seen passed ih =>
    rw [explore_of_passed passed] at member
    exact ih member
  | fresh place todo seen instr fresh here ih =>
    rw [explore_of_fresh fresh here] at member
    rcases List.mem_append.mp member with kept | later
    · refine ⟨place, here.trans (congrArg some ?_)⟩
      cases instr <;> simp_all [Instr.kept]
    · exact ih later

section Search

variable {α : Type}

/-- What `follow` finds behind the first way, in order of preference, behind which it finds
anything. The search is for what the places `todo` of the program lead to. -/
def search (code : Array Instr) (follow : Spot → Option α) :
    (before : Option Char) → (todo : List Nat) → (text : List Char) → (position : Nat) → Option α
  | before, todo, [], position =>
    (explore code before none todo {}).findSome? fun
      | .halt => follow ⟨before, [], position⟩
      | _ => none
  | before, todo, c :: rest, position =>
    (explore code before (some c) todo {}).findSome? fun
      | .halt => follow ⟨before, c :: rest, position⟩
      | .take set next =>
        if set.contains c then search code follow (some c) [next] rest (position + 1) else none
      | _ => none

/-- What is found through an instruction. -/
def Instr.found (code : Array Instr) (follow : Spot → Option α) (spot : Spot) : Instr → Option α
  | .halt => follow spot
  | .take set next =>
    match spot.rest with
    | [] => none
    | c :: rest =>
      if set.contains c then search code follow (some c) [next] rest (spot.position + 1) else none
  | _ => none

variable {code inner : Array Instr} {follow : Spot → Option α} {before : Option Char}
  {todo : List Nat}
  {text : List Char} {position : Nat}

theorem search_eq_findSome? :
    search code follow before todo text position =
      (explore code before text.head? todo {}).findSome?
        (Instr.found code follow ⟨before, text, position⟩) := by
  cases text with
  | nil =>
    rw [search]
    congr 1
    funext instr
    cases instr <;> rfl
  | cons c rest =>
    rw [search]
    rfl

/-- A program that is run by itself looks for any end. -/
theorem run_eq_search (code : Array Instr) (before : Option Char) (todo : List Nat)
    (text : List Char) (position : Nat) :
    run code before todo text position none =
      search code (some ·.position) before todo text position := by
  induction text generalizing before todo position with
  | nil =>
    rw [run_eq_findSome?, search_eq_findSome?, Option.or_none]
    congr 1
    funext instr
    cases instr <;> rfl
  | cons c rest ih =>
    rw [run_eq_findSome?, search_eq_findSome?, Option.or_none]
    congr 1
    funext instr
    cases instr with
    | take set next => simp only [Instr.outcome, Instr.found, ih]
    | _ => rfl

/-- What the first places lead to decides, and if nothing is found there, what the others lead
to. -/
theorem search_append (first second : List Nat) :
    search code follow before (first ++ second) text position =
      (search code follow before first text position).or
        (search code follow before second text position) := by
  rw [search_eq_findSome?, search_eq_findSome?, search_eq_findSome?, findSome?_explore_append]

/-- A program finds inside of a larger one what it finds by itself, if the search goes on where the
larger one does. -/
theorem search_hosted {ρ : Nat → Nat} {region : Nat → Prop} (hosted : Hosted inner code ρ region)
    (within : ∀ place ∈ todo, place < inner.size) :
    search code follow before (todo.map ρ) text position =
      search inner (fun spot => search code follow spot.before [ρ 0] spot.rest spot.position)
        before todo text position := by
  induction text generalizing before todo position with
  | nil =>
    rw [search_eq_findSome?, search_eq_findSome?, explore_hosted hosted todo {} {} .nothing within,
      findSome?_flatMap]
    refine findSome?_congr fun instr _ => ?_
    cases instr with
    | halt => exact search_eq_findSome?.symm
    | _ => rfl
  | cons c rest ih =>
    rw [search_eq_findSome?, search_eq_findSome?, explore_hosted hosted todo {} {} .nothing within,
      findSome?_flatMap]
    refine findSome?_congr fun instr member => ?_
    cases instr with
    | halt => exact search_eq_findSome?.symm
    | take set next =>
      obtain ⟨place, here⟩ := exists_place_of_mem_explore member
      have inProgram := hosted.leads place _ here next List.mem_cons_self
      simp only [Instr.inside, Instr.map, List.findSome?_singleton, Instr.found]
      rw [← ih (List.forall_mem_singleton.mpr inProgram), List.map_singleton]
    | _ => rfl

/-- A place to which no way leads back may be explored again behind it. -/
theorem explore_unreturned {place : Nat} {instr : Instr} {after : Option Char} {region : Nat → Prop}
    (here : code[place]? = some instr) (closed : Closed code before after region)
    (apart : ¬ region place) (onward : ∀ next ∈ instr.ahead before after, region next) :
    explore code before after [place] {} = instr.kept ++
      explore code before after (instr.ahead before after) {} := by
  rw [explore_of_fresh Std.HashSet.not_mem_empty here, List.append_nil]
  refine congrArg (instr.kept ++ ·) (explore_congr closed _ {} _ onward fun next inside => ?_)
  have different : place ≠ next := fun same => apart (same ▸ inside)
  rw [Std.HashSet.mem_insert, beq_iff_eq, or_iff_right different]

/-- A fork comes to the first of its two places, and else to the other. -/
theorem search_fork {place preferred other : Nat} {region : Nat → Prop}
    (here : code[place]? = some (.fork preferred other))
    (closed : ∀ before after, Closed code before after region) (apart : ¬ region place)
    (first : region preferred) (second : region other) :
    search code follow before [place] text position =
      (search code follow before [preferred] text position).or
        (search code follow before [other] text position) := by
  have onward : ∀ next ∈ (Instr.fork preferred other).ahead before text.head?, region next := by
    simp [Instr.ahead, first, second]
  rw [search_eq_findSome?, explore_unreturned here (closed _ _) apart onward, ← search_append]
  exact search_eq_findSome?.symm

/-- An assertion comes to the place behind it where it holds. -/
theorem search_check {place next : Nat} {assertion : Assertion} {region : Nat → Prop}
    (here : code[place]? = some (.check assertion next))
    (closed : ∀ before after, Closed code before after region) (apart : ¬ region place)
    (onward : region next) :
    search code follow before [place] text position =
      if assertion.holds before text.head? then search code follow before [next] text position
        else none := by
  have ahead : ∀ other ∈ (Instr.check assertion next).ahead before text.head?, region other := by
    intro other member
    rw [Instr.ahead] at member
    split at member
    · exact List.mem_singleton.mp member ▸ onward
    · cases member
  rw [search_eq_findSome?, explore_unreturned here (closed _ _) apart ahead, Instr.kept,
    List.nil_append, Instr.ahead]
  split
  · exact search_eq_findSome?.symm
  · rw [explore_nil, List.findSome?_nil]

theorem search_halt {place : Nat} (here : code[place]? = some .halt) :
    search code follow before [place] text position = follow ⟨before, text, position⟩ := by
  rw [search_eq_findSome?, explore_singleton here rfl]
  exact List.findSome?_singleton

/-- The places behind which the search goes on, the most preferred first. -/
def ends (code : Array Instr) :
    (before : Option Char) → (todo : List Nat) → (text : List Char) → (position : Nat) → List Spot
  | before, todo, [], position =>
    (explore code before none todo {}).flatMap fun
      | .halt => [⟨before, [], position⟩]
      | _ => []
  | before, todo, c :: rest, position =>
    (explore code before (some c) todo {}).flatMap fun
      | .halt => [⟨before, c :: rest, position⟩]
      | .take set next =>
        if set.contains c then ends code (some c) [next] rest (position + 1) else []
      | _ => []

/-- What follows is looked for behind one end after the other. -/
theorem search_eq_findSome?_ends :
    search code follow before todo text position =
      (ends code before todo text position).findSome? follow := by
  induction text generalizing before todo position with
  | nil =>
    rw [search, ends, findSome?_flatMap]
    refine findSome?_congr fun instr _ => ?_
    cases instr with
    | halt => exact List.findSome?_singleton.symm
    | _ => rfl
  | cons c rest ih =>
    rw [search, ends, findSome?_flatMap]
    refine findSome?_congr fun instr _ => ?_
    cases instr with
    | halt => exact List.findSome?_singleton.symm
    | take set next =>
      simp only
      split
      · exact ih
      · rfl
    | _ => rfl

end Search

/-! ### Expressions -/

section Standing

variable {code : Array Instr} {regex : Regex} {base next : Nat} {region : Nat → Prop}

/-- Where the places of an expression by itself are if it stands from `base` on and goes on at
`next`. -/
def placeOf (base next : Nat) : Nat → Nat
  | 0 => next
  | index + 1 => base + index

/-- An expression that stands in a program and goes on in a region apart from it. -/
structure Standing (code : Array Instr) (base next : Nat) (region : Nat → Prop)
    (regex : Regex) : Prop where
  block : ∀ (index : Nat) (instr : Instr), (regex.assemble base next).2[index]? = some instr →
    code[base + index]? = some instr
  apart : ∀ index < regex.size, ¬ region (base + index)
  enters : region next
  closed : ∀ before after, Closed code before after region

theorem assemble_eq_map (regex : Regex) (base next : Nat) :
    regex.assemble base next =
      (placeOf base next regex.program.entry,
        (regex.assemble 1 0).2.map (Instr.map (placeOf base next))) := by
  refine regex.assemble_map (placeOf base next) (fun index _ => ?_) 0
  rw [Nat.add_comm]
  rfl

theorem getElem?_program_succ (regex : Regex) (index : Nat) :
    regex.program.code[index + 1]? = (regex.assemble 1 0).2[index]? := by
  rw [Regex.program, List.getElem?_toArray, List.getElem?_cons_succ]

theorem size_program (regex : Regex) : regex.program.code.size = regex.size + 1 := by
  rw [Regex.program, List.size_toArray, List.length_cons, regex.length_assemble]

/-- A program leads to its own places only. -/
theorem confined_program (regex : Regex) :
    regex.program.entry < regex.program.code.size ∧ ∀ instr ∈ (regex.assemble 1 0).2,
      instr ≠ .halt ∧ ∀ target ∈ instr.targets, target < regex.program.code.size := by
  rw [size_program]
  exact regex.confined (· < regex.size + 1) 1 (fun place _ high => by omega) (Nat.succ_pos _)

theorem Standing.hosted (standing : Standing code base next region regex) :
    Hosted regex.program.code code (placeOf base next) region := by
  have confined := confined_program regex
  have listed : ∀ {index : Nat} {instr : Instr}, regex.program.code[index + 1]? = some instr →
      instr ∈ (regex.assemble 1 0).2 := fun here => by
    rw [getElem?_program_succ] at here
    exact List.mem_of_getElem? here
  constructor
  case ends => rfl
  case enters => exact standing.enters
  case closed => exact standing.closed
  case stands =>
    intro place instr positive here
    obtain ⟨index, rfl⟩ := Nat.exists_eq_succ_of_ne_zero (Nat.ne_of_gt positive)
    refine ⟨(confined.2 instr (listed here)).1, standing.block index _ ?_⟩
    rw [Nat.succ_eq_add_one, getElem?_program_succ] at here
    rw [assemble_eq_map, List.getElem?_map, here]
    rfl
  case leads =>
    intro place instr here target listed'
    cases place with
    | zero =>
      obtain rfl := Option.some.inj (here.symm.trans rfl : some instr = some .halt)
      cases listed'
    | succ index => exact (confined.2 instr (listed here)).2 target listed'
  case injective =>
    intro place other positive otherPositive same
    cases place with
    | zero => cases positive
    | succ index =>
      cases other with
      | zero => cases otherPositive
      | succ otherIndex => exact congrArg (· + 1) (Nat.add_left_cancel same)
  case apart =>
    intro place positive within
    cases place with
    | zero => cases positive
    | succ index => exact standing.apart index (by rw [size_program] at within; omega)

variable {α : Type}

/-- What is found behind a match of an expression. -/
def Regex.search (regex : Regex) (follow : Spot → Option α) (spot : Spot) : Option α :=
  Pattern.search regex.program.code follow spot.before [regex.program.entry] spot.rest spot.position

/-- The places behind the ways in which an expression can be matched, the most preferred first. -/
def Regex.ends (regex : Regex) (spot : Spot) : List Spot :=
  Pattern.ends regex.program.code spot.before [regex.program.entry] spot.rest spot.position

theorem Regex.search_eq_ends (regex : Regex) (follow : Spot → Option α) (spot : Spot) :
    regex.search follow spot = (regex.ends spot).findSome? follow :=
  search_eq_findSome?_ends

/-- An expression finds what it finds by itself, wherever it stands. -/
theorem search_standing (standing : Standing code base next region regex) (follow : Spot → Option α)
    (before : Option Char) (text : List Char) (position : Nat) :
    search code follow before [(regex.assemble base next).1] text position =
      regex.search (fun spot => search code follow spot.before [next] spot.rest spot.position)
        ⟨before, text, position⟩ := by
  have inProgram : regex.program.entry < regex.program.code.size :=
    (confined_program regex).1
  rw [assemble_eq_map]
  exact search_hosted standing.hosted (List.forall_mem_singleton.mpr inProgram)

end Standing

/-! ### One equation for each expression -/

/-- The places behind the first `count` instructions of a program, and its end. -/
def Behind (count place : Nat) : Prop := place = 0 ∨ count < place

/-- What stands last in a program may lead to itself and to the end. -/
theorem closed_behind (front back : List Instr)
    (leads : ∀ instr ∈ back, instr ≠ .halt ∧ ∀ target ∈ instr.targets, Behind front.length target)
    (before after : Option Char) :
    Closed (Instr.halt :: (front ++ back)).toArray before after (Behind front.length) := by
  intro place inside instr here target ahead
  rw [List.getElem?_toArray] at here
  rcases inside with rfl | behind
  · obtain rfl := Option.some.inj here
    cases ahead
  · obtain ⟨index, rfl⟩ := Nat.exists_eq_succ_of_ne_zero (Nat.ne_zero_of_lt behind)
    rw [Nat.succ_eq_add_one, List.getElem?_cons_succ, List.getElem?_append_right (by omega)] at here
    exact (leads instr (List.mem_of_getElem? here)).2 target (Instr.mem_targets_of_mem_ahead ahead)

/-- Nothing stands behind the whole of a program but its end. -/
theorem closed_end (code : List Instr) {count : Nat} (whole : code.length = count)
    (before after : Option Char) :
    Closed (Instr.halt :: code).toArray before after (Behind count) := by
  have closed := closed_behind code [] (fun _ member => by cases member) before after
  rwa [List.append_nil, whole] at closed

/-- An expression whose instructions are among those of a program. -/
theorem standing_block {regex : Regex} {base next : Nat} {code : List Instr}
    (front back : List Instr) {count : Nat}
    (shape : code = front ++ ((regex.assemble base next).2 ++ back))
    (placed : base = 1 + front.length)
    (room : front.length + regex.size ≤ count) (enters : Behind count next)
    (closed : ∀ before after, Closed (Instr.halt :: code).toArray before after (Behind count)) :
    Standing (Instr.halt :: code).toArray base next (Behind count) regex := by
  refine ⟨fun index instr here => ?_, fun index within inside => ?_, enters, closed⟩
  · have inBlock : index < (regex.assemble base next).2.length :=
      (List.getElem?_eq_some_iff.mp here).1
    have place : base + index = front.length + index + 1 := by omega
    rw [shape, List.getElem?_toArray, place, List.getElem?_cons_succ,
      List.getElem?_append_right (Nat.le_add_right _ _), Nat.add_sub_cancel_left,
      List.getElem?_append_left inBlock, here]
  · rcases inside with zero | behind <;> omega

namespace Regex

variable {α : Type} (follow : Spot → Option α) (spot : Spot)

/-- At the end of a program the search goes on with what follows. -/
theorem search_standing_end {code : List Instr} {base : Nat} {region : Nat → Prop} {regex : Regex}
    (standing : Standing (Instr.halt :: code).toArray base 0 region regex) :
    Pattern.search (Instr.halt :: code).toArray follow spot.before [(regex.assemble base 0).1]
      spot.rest spot.position = regex.search follow spot := by
  have ends :
      (fun spot : Spot => Pattern.search (Instr.halt :: code).toArray follow spot.before [0]
        spot.rest spot.position) = follow := by
    funext spot
    exact search_halt rfl
  rw [search_standing standing, ends]

/-- **Behind the first part of a sequence the second is searched.** -/
theorem search_seq (first second : Regex) :
    (seq first second).search follow spot = first.search (second.search follow) spot := by
  have length (next : Nat) : (first.assemble 1 next).2.length = first.size :=
    first.length_assemble 1 next
  have tail := second.confined (Behind first.size) (1 + first.size)
    (fun place low _ => .inr (by omega)) (.inl rfl)
  have head : Standing (seq first second).program.code 1 (second.assemble (1 + first.size) 0).1
      (Behind first.size) first := by
    refine standing_block [] _ rfl rfl (by simp) tail.1 fun before after => ?_
    have closed := closed_behind (first.assemble 1 (second.assemble (1 + first.size) 0).1).2
      (second.assemble (1 + first.size) 0).2 (by simpa only [length] using tail.2) before after
    rwa [length] at closed
  have last :
      Standing (seq first second).program.code (1 + first.size) 0
        (Behind (first.size + second.size)) second := by
    refine standing_block _ [] (by rw [List.append_nil]; rfl) (by rw [length]) ?_ (.inl rfl)
      (closed_end _ ((seq first second).length_assemble 1 0))
    exact Nat.le_of_eq (congrArg (· + second.size) (length _))
  have onward :
      (fun spot : Spot => Pattern.search (seq first second).program.code follow spot.before
      [(second.assemble (1 + first.size) 0).1] spot.rest spot.position) = second.search follow := by
    funext spot
    exact search_standing_end follow spot last
  rw [← onward, ← search_standing head]
  rfl

/-- **Of two alternatives the first decides, and if nothing is found behind it, the other.** -/
theorem search_alt (first second : Regex) :
    (alt first second).search follow spot =
      (first.search follow spot).or (second.search follow spot) := by
  have length : (first.assemble 2 0).2.length = first.size := first.length_assemble 2 0
  have whole :=
    closed_end (alt first second |>.assemble 1 0).2 ((alt first second).length_assemble 1 0)
  have left :
      Standing (alt first second).program.code 2 0 (Behind (first.size + second.size + 1)) first :=
    standing_block [_] _ rfl rfl (by simp; omega) (.inl rfl) whole
  have right : Standing (alt first second).program.code (2 + first.size) 0
      (Behind (first.size + second.size + 1)) second := by
    refine standing_block (.fork (first.assemble 2 0).1 (second.assemble (2 + first.size) 0).1 ::
      (first.assemble 2 0).2) [] ?_ ?_ ?_ (.inl rfl) whole
    · rw [List.append_nil]
      rfl
    · rw [List.length_cons, length]
      omega
    · rw [List.length_cons, length]
      omega
  have inLeft := first.confined (Behind 1) 2
    (fun place low _ => .inr low) (.inl rfl)
  have inRight := second.confined (Behind 1) (2 + first.size)
    (fun place low _ => .inr (by omega)) (.inl rfl)
  have branches : ∀ before after, Closed (alt first second).program.code before after (Behind 1) :=
    closed_behind [.fork (first.assemble 2 0).1 (second.assemble (2 + first.size) 0).1] _
      (List.forall_mem_append.mpr ⟨inLeft.2, inRight.2⟩)
  have apart : ¬ Behind 1 1 := by
    rintro (zero | behind) <;> omega
  rw [← search_standing_end follow spot left, ← search_standing_end follow spot right]
  exact search_fork rfl branches apart inLeft.1 inRight.1

/-- What may be left out is preferred to nothing if it is greedy, and nothing to it if it is
lazy. -/
theorem search_opt (greedy : Bool) (body : Regex) :
    (opt greedy body).search follow spot =
      if greedy then (body.search follow spot).or (follow spot)
        else (follow spot).or (body.search follow spot) := by
  have whole :=
    closed_end (opt greedy body |>.assemble 1 0).2 ((opt greedy body).length_assemble 1 0)
  have inner : Standing (opt greedy body).program.code 2 0 (Behind (body.size + 1)) body := by
    refine standing_block [.choose greedy (body.assemble 2 0).1 0] [] ?_ rfl ?_ (.inl rfl) whole
    · rw [List.append_nil]
      rfl
    · rw [List.length_singleton]
      omega
  have inBody := body.confined (Behind 1) 2 (fun place low _ => .inr low) (.inl rfl)
  have branches : ∀ before after, Closed (opt greedy body).program.code before after (Behind 1) :=
    closed_behind [.choose greedy (body.assemble 2 0).1 0] _ inBody.2
  have apart : ¬ Behind 1 1 := by
    rintro (zero | behind) <;> omega
  have ends :
      Pattern.search (opt greedy body).program.code follow spot.before [0] spot.rest spot.position =
      follow spot := search_halt rfl
  rw [← search_standing_end follow spot inner, ← ends]
  cases greedy
  · exact search_fork rfl branches apart (.inl rfl) inBody.1
  · exact search_fork rfl branches apart inBody.1 (.inl rfl)

theorem search_assert (assertion : Assertion) :
    (assert assertion).search follow spot =
      if assertion.holds spot.before spot.rest.head? then follow spot else none := by
  have apart : ¬ Behind 1 1 := by
    rintro (zero | behind) <;> omega
  have ends :
      Pattern.search (assert assertion).program.code follow spot.before [0] spot.rest
        spot.position = follow spot := search_halt rfl
  rw [← ends]
  exact search_check rfl (closed_end [.check assertion 0] rfl) apart (.inl rfl)

theorem search_empty : empty.search follow spot = follow spot :=
  search_halt rfl

theorem search_one_nil (set : CharSet) (before : Option Char) (position : Nat) :
    (one set).search follow ⟨before, [], position⟩ = none := by
  rw [search, search_eq_findSome?, explore_singleton rfl rfl]
  rfl

theorem search_one_cons (set : CharSet) (before : Option Char) (c : Char) (rest : List Char)
    (position : Nat) :
    (one set).search follow ⟨before, c :: rest, position⟩ =
      if set.contains c then follow ⟨some c, rest, position + 1⟩ else none := by
  have next : Pattern.search (one set).program.code follow (some c) [0] rest (position + 1) =
      follow ⟨some c, rest, position + 1⟩ := search_halt rfl
  rw [search, search_eq_findSome?, explore_singleton rfl rfl]
  exact List.findSome?_singleton.trans (by rw [Instr.found]; simp only [next])

/-- The end of the match that an expression prefers at the start of a text. -/
def matchEnd (regex : Regex) (text : List Char) : Option Nat :=
  regex.search (some ·.position) (.start text)

theorem matchHere_eq_matchEnd (regex : Regex) (text : List Char) :
    regex.program.matchHere none text 0 = regex.matchEnd text :=
  run_eq_search _ _ _ _ _

/-- An expression at the start of a text takes what it prefers there. -/
theorem findEnd_anchored (body : Regex) (text : List Char) :
    (anchored body).program.findEnd text = body.matchEnd text := by
  have start : (anchored body).program.isAnchored = true := by
    simp [Program.isAnchored, anchored, program, assemble]
  rw [Program.findEnd, if_pos start, matchHere_eq_matchEnd, matchEnd, anchored, search_seq,
    search_assert]
  exact if_pos rfl

end Regex

end Offside.Pattern
