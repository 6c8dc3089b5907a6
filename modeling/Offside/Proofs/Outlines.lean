/-
**What outlines match.**

An outline is put together so that it says the same as the pattern it was read from: texts that
follow one another are joined, branches that are characters become a class. None of this changes
what is found, with one exception. If all branches of a choice begin alike, the beginning is taken
in front of the choice, and then the way it prefers decides before the branches are compared.

* `Outline.search_sequence`: a sequence is searched part by part;
* `Outline.search_merge`: a choice that is not taken apart is searched branch by branch;
* `Outline.search_choice`: behind the common beginning the rests are searched one after the other;
* `Outline.findSome?_taken`: this is what the branches say, except that each of them looks for
  another way through the beginning by itself;
* `Outline.matchEnd_choice`: where the beginning leads to one place at most from which a branch goes
  on, the first branch that matches decides.
-/

import Mathlib.Data.List.Forall2
import Offside.Proofs.CharacterClasses
import Offside.Proofs.Searching

namespace Offside.Pattern

open Unicode (CharSet CodeRanges)
open Unicode.Boundary (Sound toRanges)

/-- A list of partial steps succeeds where each of them does. -/
theorem mapM_eq_some_iff {α β : Type} {step : α → Option β} {inputs : List α} {outputs : List β} :
    inputs.mapM step = some outputs ↔
      List.Forall₂ (fun input output => step input = some output) inputs outputs := by
  induction inputs generalizing outputs with
  | nil =>
    rw [List.mapM_nil, List.forall₂_nil_left_iff]
    exact ⟨fun same => (Option.some.inj same).symm, fun same => congrArg some same.symm⟩
  | cons input inputs ih =>
    simp only [List.mapM_cons, Option.bind_eq_bind, Option.bind_eq_some_iff,
      List.forall₂_cons_left_iff, ih]
    constructor
    · rintro ⟨first, here, others, there, same⟩
      exact ⟨first, others, here, there, (Option.some.inj same).symm⟩
    · rintro ⟨first, others, here, there, rfl⟩
      exact ⟨first, here, others, there, rfl⟩

theorem isSome_of_mapM {α β : Type} {step : α → Option β} {inputs : List α} {outputs : List β}
    (whole : inputs.mapM step = some outputs) : ∀ input ∈ inputs, (step input).isSome := by
  have pairs := mapM_eq_some_iff.mp whole
  clear whole
  induction pairs with
  | nil => exact List.forall_mem_nil _
  | cons here _ ih => exact List.forall_mem_cons.mpr ⟨Option.isSome_of_eq_some here, ih⟩

theorem findSome?_eq_of_only {α β : Type} {list : List α} {find : α → Option β} {x : α}
    (member : x ∈ list)
    (only : ∀ y ∈ list, (find y).isSome → y = x) : list.findSome? find = find x := by
  induction list with
  | nil => cases member
  | cons y list ih =>
    obtain ⟨here, others⟩ := List.forall_mem_cons.mp only
    rw [List.findSome?_cons]
    cases found : find y with
    | some result => exact found.symm.trans (congrArg find (here (by rw [found]; rfl)))
    | none =>
      rcases List.mem_cons.mp member with rfl | later
      · exact (List.findSome?_eq_none_iff.mpr fun z inside => by
          by_contra something
          exact something ((others z inside (Option.isSome_iff_ne_none.mpr something)) ▸
            found)).trans found.symm
      · exact ih later others

/-- Two searches, one inside of the other, may change places if the places of one of them at which
anything is found are the same. -/
theorem findSome?_comm_of_settled {α β γ : Type} {places : List α} {choices : List β}
    {find : β → α → Option γ}
    (settled : ∀ x ∈ places, ∀ y ∈ places, (∃ choice ∈ choices, (find choice x).isSome) →
      (∃ choice ∈ choices, (find choice y).isSome) → x = y) :
    (places.findSome? fun place => choices.findSome? (find · place)) =
      choices.findSome? fun choice => places.findSome? (find choice) := by
  by_cases some : ∃ x ∈ places, ∃ choice ∈ choices, (find choice x).isSome
  · obtain ⟨x, member, leads⟩ := some
    rw [findSome?_eq_of_only member fun y inside found =>
      settled y inside x member (List.findSome?_isSome_iff.mp found) leads]
    exact findSome?_congr fun choice listed => (findSome?_eq_of_only member fun y inside found =>
      settled y inside x member ⟨choice, listed, found⟩ leads).symm
  · have nothing : ∀ x ∈ places, ∀ choice ∈ choices, find choice x = none := by
      intro x member choice listed
      by_contra found
      exact some ⟨x, member, choice, listed, Option.isSome_iff_ne_none.mpr found⟩
    rw [List.findSome?_eq_none_iff.mpr fun x member => List.findSome?_eq_none_iff.mpr
      (nothing x member),
      List.findSome?_eq_none_iff.mpr fun choice listed => List.findSome?_eq_none_iff.mpr
        fun x member =>
        nothing x member choice listed]

/-! ### Single characters -/

section OneCharacter

variable {α : Type} (follow : Spot → Option α) (spot : Spot)

/-- Sets with the same members take the same characters. -/
theorem search_one_congr {first second : CharSet}
    (same : ∀ c, first.contains c = second.contains c) :
    (Regex.one first).search follow spot = (Regex.one second).search follow spot := by
  obtain ⟨before, rest, position⟩ := spot
  cases rest with
  | nil => rw [Regex.search_one_nil, Regex.search_one_nil]
  | cons c rest => rw [Regex.search_one_cons, Regex.search_one_cons, same c]

theorem findSome?_if (sets : List CharSet) (c : Char) (found : Option α) :
    (sets.findSome? fun set => if set.contains c then found else none) =
      if sets.any (·.contains c) then found else none := by
  induction sets with
  | nil => rfl
  | cons set sets ih =>
    rw [List.findSome?_cons, ih, List.any_cons]
    cases set.contains c <;> cases found <;> simp

/-- A union of sets takes what one of them takes. -/
theorem search_one_unionOf (sets : List CharSet) :
    (Regex.one (.unionOf sets)).search follow spot =
      sets.findSome? fun set => (Regex.one set).search follow spot := by
  obtain ⟨before, rest, position⟩ := spot
  cases rest with
  | nil =>
    rw [Regex.search_one_nil]
    exact (List.findSome?_eq_none_iff.mpr fun set _ => Regex.search_one_nil _ set _ _).symm
  | cons c rest => simp only [Regex.search_one_cons, findSome?_if, CharSet.contains_unionOf]

end OneCharacter

/-! ### Texts -/

section Texts

variable {α : Type} (follow : Spot → Option α) (spot : Spot)

namespace Regex

theorem search_verbatim_cons (c : Char) (text : List Char) :
    (verbatim (c :: text)).search follow spot =
      (one (.single c)).search ((verbatim text).search follow) spot := by
  cases text with
  | nil =>
    have ends : (verbatim []).search follow = follow := funext fun spot => search_empty follow spot
    rw [ends]
    rfl
  | cons d text => exact search_seq _ _ _ _

theorem search_verbatim_append (first second : List Char) :
    (verbatim (first ++ second)).search follow spot =
      (verbatim first).search ((verbatim second).search follow) spot := by
  induction first generalizing spot with
  | nil => exact (search_empty _ _).symm
  | cons c first ih =>
    rw [List.cons_append, search_verbatim_cons, search_verbatim_cons, funext ih]

/-- A text is found where it stands. -/
theorem search_verbatim (text : List Char) (before : Option Char) (rest : List Char)
    (position : Nat) :
    (verbatim text).search follow ⟨before, rest, position⟩ =
      if text <+: rest then
        follow ⟨text.getLast?.or before, rest.drop text.length, position + text.length⟩
      else none := by
  induction text generalizing before rest position with
  | nil => exact (search_empty _ _).trans (if_pos List.nil_prefix).symm
  | cons c text ih =>
    rw [search_verbatim_cons]
    cases rest with
    | nil => rw [search_one_nil, if_neg (by simp)]
    | cons d rest =>
      have last : (c :: text).getLast?.or before = text.getLast?.or (some c) := by
        cases text with
        | nil => rfl
        | cons e text =>
          rw [List.getLast?_cons_cons, List.getLast?_eq_some_getLast (List.cons_ne_nil _ _)]; rfl
      rw [search_one_cons, CharSet.contains_single, last]
      by_cases same : d = c
      · subst same
        rw [if_pos (decide_eq_true rfl), ih, List.length_cons, List.drop_succ_cons, Nat.add_assoc,
          Nat.add_comm 1]
        exact if_congr (by simp) rfl rfl
      · rw [if_neg (by simpa using same), if_neg]
        rw [List.cons_prefix_cons]
        exact fun both => same both.1.symm

/-- What a text takes at the start of an input. -/
theorem matchEnd_verbatim (text input : List Char) :
    (verbatim text).matchEnd input = if text <+: input then some text.length else none := by
  rw [matchEnd, Spot.start, search_verbatim, Nat.zero_add]

end Regex

end Texts

/-! ### Outlines -/

namespace Outline

section Searching

variable {α : Type}

/-- What is found behind a match of an outline. -/
def search (outline : Outline) (follow : Spot → Option α) (spot : Spot) : Option α :=
  outline.regex.search follow spot

/-- What is found behind matches of several outlines, one after the other. -/
def searchAll (outlines : List Outline) (follow : Spot → Option α) : Spot → Option α :=
  outlines.foldr search follow

variable (follow : Spot → Option α) (spot : Spot)

@[simp] theorem search_empty : search .empty follow spot = follow spot :=
  Regex.search_empty follow spot

theorem search_seq (first rest : Outline) :
    (seq first rest).search follow spot = first.search (rest.search follow) spot :=
  Regex.search_seq follow spot first.regex rest.regex

theorem search_alt (first rest : Outline) :
    (alt first rest).search follow spot = (first.search follow spot).or (rest.search follow spot) :=
  Regex.search_alt follow spot first.regex rest.regex

/-- No character is in the class without members. -/
theorem search_one_nothing (unicode : Bool) : (one unicode ⟨[]⟩).search follow spot = none := by
  obtain ⟨before, rest, position⟩ := spot
  cases rest with
  | nil => exact Regex.search_one_nil _ _ _ _
  | cons c rest => exact Regex.search_one_cons _ _ _ _ _ _

theorem searchAll_cons (outline : Outline) (outlines : List Outline) :
    searchAll (outline :: outlines) follow spot = outline.search (searchAll outlines follow) spot :=
  rfl

theorem searchAll_append (first second : List Outline) :
    searchAll (first ++ second) follow = searchAll first (searchAll second follow) :=
  List.foldr_append

/-! #### Sequences -/

theorem search_ofParts (outlines : List Outline) :
    (ofParts outlines).search follow spot = searchAll outlines follow spot := by
  induction outlines generalizing spot with
  | nil => exact search_empty follow spot
  | cons first rest ih =>
    cases rest with
    | nil => rfl
    | cons second rest =>
      rw [ofParts, search_seq, funext ih, searchAll_cons]
      exact List.cons_ne_nil second rest

theorem searchAll_parts (outline : Outline) :
    searchAll outline.parts follow spot = outline.search follow spot := by
  induction outline generalizing spot with
  | empty => exact (search_empty follow spot).symm
  | seq first rest _ ih => rw [parts, searchAll_cons, funext ih, search_seq]
  | _ => rfl

/-- Joining texts changes nothing. -/
theorem searchAll_joinPart (part : Outline) (outlines : List Outline) :
    searchAll (joinPart part outlines) follow spot =
      part.search (searchAll outlines follow) spot := by
  fun_cases joinPart part outlines with
  | case1 text more rest => exact Regex.search_verbatim_append _ _ _ _
  | case2 => rfl

/-- A sequence is searched part by part. -/
theorem search_sequence (outlines : List Outline) :
    (sequence outlines).search follow spot = searchAll outlines follow spot := by
  have joined (pieces : List Outline) (spot : Spot) :
      searchAll (pieces.foldr joinPart []) follow spot = searchAll pieces follow spot := by
    induction pieces generalizing spot with
    | nil => rfl
    | cons piece pieces ih => rw [List.foldr_cons, searchAll_joinPart, funext ih, searchAll_cons]
  rw [sequence, search_ofParts, joined]
  induction outlines generalizing spot with
  | nil => rfl
  | cons outline outlines ih =>
    rw [List.flatMap_cons, searchAll_append, funext ih, searchAll_parts, searchAll_cons]

theorem search_of_sequence? {outline : Outline} {parts : List Outline}
    (whole : outline.sequence? = some parts) :
    outline.search follow spot = searchAll parts follow spot := by
  fun_cases sequence? outline with
  | case1 first rest =>
    obtain rfl := Option.some.inj (whole.symm.trans rfl)
    rw [search_seq, searchAll_cons, funext (searchAll_parts follow · rest)]
  | case2 _ other => simp [sequence?] at whole

/-! #### Choices -/

theorem search_ofBranches (outlines : List Outline) :
    (ofBranches outlines).search follow spot = outlines.findSome? (·.search follow spot) := by
  induction outlines with
  | nil => exact search_one_nothing follow spot false
  | cons first rest ih =>
    cases rest with
    | nil => exact List.findSome?_singleton.symm
    | cons second rest =>
      rw [ofBranches, search_alt, ih, ← List.singleton_append (x := first), List.findSome?_append,
        List.findSome?_singleton]
      exact List.cons_ne_nil second rest

theorem findSome?_branches (outline : Outline) :
    outline.branches.findSome? (·.search follow spot) = outline.search follow spot := by
  induction outline with
  | alt first rest _ ih =>
    rw [branches, ← List.singleton_append, List.findSome?_append, List.findSome?_singleton, ih,
      search_alt]
  | _ => exact List.findSome?_singleton

theorem findSome?_flatMap_branches (outlines : List Outline) :
    (outlines.flatMap branches).findSome? (·.search follow spot) =
      outlines.findSome? (·.search follow spot) := by
  rw [findSome?_flatMap]
  exact findSome?_congr fun outline _ => findSome?_branches follow spot outline

end Searching

/-! ### Classes in normal form -/

/-- Whether all classes of the outline are in normal form. -/
def Formed : Outline → Prop
  | one _ members => ∃ boundaries, Sound boundaries ∧ members = ⟨toRanges boundaries⟩
  | group _ body => body.Formed
  | repeated _ _ _ body => body.Formed
  | seq first rest => first.Formed ∧ rest.Formed
  | alt first rest => first.Formed ∧ rest.Formed
  | _ => True

theorem formed_nothing (unicode : Bool) : (one unicode ⟨[]⟩).Formed :=
  ⟨[], Unicode.Boundary.sound_nil, rfl⟩

theorem formed_ofSet (unicode : Bool) (set : CharSet) : (ofSet unicode set).Formed := by
  have sound := Unicode.Boundary.sound_boundaries set
  unfold ofSet CharSet.canonical
  split
  · exact formed_nothing false
  · rename_i first last shape
    split_ifs
    · exact True.intro
    · exact ⟨_, sound, congrArg CodeRanges.mk shape.symm⟩
  · exact ⟨_, sound, rfl⟩

/-! ### Properties of all parts -/

/-- A property that outlines get from their parts, and that their parts get from them. -/
structure Inherited (holds : Outline → Prop) : Prop where
  empty : holds .empty
  verbatim : ∀ text, holds (.verbatim text)
  nothing : holds (.one false ⟨[]⟩)
  ofSet : ∀ unicode set, holds (ofSet unicode set)
  repeated : ∀ greedy least most {body}, holds body → holds (.repeated greedy least most body)
  seq : ∀ {first rest}, holds (.seq first rest) ↔ holds first ∧ holds rest
  alt : ∀ {first rest}, holds (.alt first rest) ↔ holds first ∧ holds rest

theorem inherited_formed : Inherited Formed where
  empty := True.intro
  verbatim _ := True.intro
  nothing := formed_nothing false
  ofSet := formed_ofSet
  repeated _ _ _ _ := id
  seq := Iff.rfl
  alt := Iff.rfl

namespace Inherited

variable {holds : Outline → Prop} (inherited : Inherited holds) {outline : Outline}
  {outlines : List Outline}

include inherited

theorem parts (here : holds outline) : ∀ part ∈ outline.parts, holds part := by
  induction outline with
  | empty => exact List.forall_mem_nil _
  | seq first rest _ ih =>
    obtain ⟨first, rest⟩ := inherited.seq.mp here
    exact List.forall_mem_cons.mpr ⟨first, ih rest⟩
  | _ => exact List.forall_mem_singleton.mpr here

theorem ofParts (each : ∀ outline ∈ outlines, holds outline) : holds (ofParts outlines) := by
  fun_induction Outline.ofParts outlines with
  | case1 => exact inherited.empty
  | case2 only => exact List.forall_mem_singleton.mp each
  | case3 first rest _ ih =>
    obtain ⟨here, others⟩ := List.forall_mem_cons.mp each
    exact inherited.seq.mpr ⟨here, ih others⟩

theorem joinPart (first : holds outline) (each : ∀ outline ∈ outlines, holds outline) :
    ∀ part ∈ joinPart outline outlines, holds part := by
  fun_cases Outline.joinPart outline outlines with
  | case1 text more rest =>
    exact List.forall_mem_cons.mpr ⟨inherited.verbatim _, (List.forall_mem_cons.mp each).2⟩
  | case2 => exact List.forall_mem_cons.mpr ⟨first, each⟩

theorem sequence (each : ∀ outline ∈ outlines, holds outline) : holds (sequence outlines) := by
  have pieces : ∀ part ∈ outlines.flatMap Outline.parts, holds part := fun part member => by
    obtain ⟨outline, listed, inside⟩ := List.mem_flatMap.mp member
    exact inherited.parts (each outline listed) part inside
  refine inherited.ofParts ?_
  generalize outlines.flatMap Outline.parts = list at pieces
  induction list with
  | nil => exact List.forall_mem_nil _
  | cons part list ih =>
    obtain ⟨first, others⟩ := List.forall_mem_cons.mp pieces
    exact inherited.joinPart first (ih others)

theorem branches (here : holds outline) : ∀ branch ∈ outline.branches, holds branch := by
  induction outline with
  | alt first rest _ ih =>
    obtain ⟨first, rest⟩ := inherited.alt.mp here
    exact List.forall_mem_cons.mpr ⟨first, ih rest⟩
  | _ => exact List.forall_mem_singleton.mpr here

theorem flatMap_branches (each : ∀ outline ∈ outlines, holds outline) :
    ∀ branch ∈ outlines.flatMap Outline.branches, holds branch := fun branch member => by
  obtain ⟨outline, listed, inside⟩ := List.mem_flatMap.mp member
  exact inherited.branches (each outline listed) branch inside

theorem ofBranches (each : ∀ outline ∈ outlines, holds outline) : holds (ofBranches outlines) := by
  fun_induction Outline.ofBranches outlines with
  | case1 => exact inherited.nothing
  | case2 only => exact List.forall_mem_singleton.mp each
  | case3 first rest _ ih =>
    obtain ⟨here, others⟩ := List.forall_mem_cons.mp each
    exact inherited.alt.mpr ⟨here, ih others⟩

theorem merge (each : ∀ outline ∈ outlines, holds outline) : holds (merge outlines) := by
  unfold Outline.merge
  split
  · exact inherited.nothing
  · exact List.forall_mem_singleton.mp each
  · split
    · exact inherited.ofSet _ _
    · exact inherited.ofBranches each

theorem repetition (greedy : Bool) (least : Nat) (most : Option Nat) (here : holds outline) :
    holds (repetition greedy least most outline) := by
  unfold Outline.repetition
  dsimp only
  split_ifs
  · exact inherited.empty
  · exact here
  · exact inherited.repeated _ _ _ here
  · exact inherited.empty
  · exact here
  · exact inherited.repeated _ _ _ here

end Inherited

/-! ### Choices -/

section Choices

variable {α : Type} (follow : Spot → Option α) (spot : Spot)

/-- The class of a set takes the characters of its normal form. -/
theorem search_ofSet (unicode : Bool) (set : CharSet) :
    (ofSet unicode set).search follow spot =
      (Regex.one (.listed set.canonical)).search follow spot := by
  have sameRanges {ranges : List (Nat × Nat)} (shape : set.canonical.ranges = ranges) :
      (Regex.one (.listed ⟨ranges⟩)).search follow spot =
        (Regex.one (.listed set.canonical)).search follow spot := by
    rw [← shape]
  unfold ofSet
  split
  · exact sameRanges ‹_›
  · rename_i first last shape
    split_ifs with single
    · subst single
      have valid : first.isValidChar := by
        refine Unicode.Boundary.isValidChar_of_mem_toRanges (Unicode.Boundary.sound_boundaries set)
          (first, first) ?_
        rw [show toRanges set.boundaries = [(first, first)] from shape]
        exact List.mem_singleton_self _
      rw [← sameRanges shape]
      refine search_one_congr follow spot fun c => ?_
      rw [CharSet.contains_single, CharSet.contains, CodeRanges.contains, CodeRanges.holds,
        CodeRanges.holds,
        Bool.eq_iff_iff, decide_eq_true_eq, ← Char.toNat_inj, Unicode.Boundary.toNat_ofNat valid]
      split_ifs <;> simp <;> omega
    · exact sameRanges shape
  · exact sameRanges rfl

/-- A set whose boundaries tell its members and which takes what the outline takes. -/
def Takes (outline : Outline) (set : CharSet) : Prop :=
  set.Known ∧ outline.regex = .one set

theorem takes_of_character? {outline : Outline} {set : CharSet}
    (single : outline.character? = some set) :
    outline.Takes set := by
  fun_cases character? outline with
  | case1 c =>
    obtain rfl := Option.some.inj (single.symm.trans rfl)
    exact ⟨CharSet.known_single c, rfl⟩
  | case2 => simp_all [character?]

theorem takes_of_members? {outline : Outline} {set : CharSet}
    (members : outline.members? = some set) (formed : outline.Formed) : outline.Takes set := by
  fun_cases members? outline with
  | case1 unicode ranges =>
    obtain rfl := Option.some.inj (members.symm.trans rfl)
    obtain ⟨boundaries, sound, rfl⟩ := formed
    exact ⟨CharSet.known_listed sound, rfl⟩
  | case2 => simp_all [members?]

/-- What branches are made into one class of. -/
theorem forall₂_takes {outlines : List Outline} {sets : List CharSet}
    (formed : ∀ outline ∈ outlines, outline.Formed)
    (classes : (outlines.mapM character? <|> outlines.mapM members?) = some sets) :
    List.Forall₂ Takes outlines sets := by
  rw [Option.orElse_eq_orElse, Option.orElse_eq_or, Option.or_eq_some_iff] at classes
  rcases classes with characters | ⟨_, members⟩
  · exact (mapM_eq_some_iff.mp characters).imp fun _ _ single => takes_of_character? single
  · have pairs := (List.forall₂_and_left _ _).mpr ⟨formed, mapM_eq_some_iff.mp members⟩
    exact pairs.imp fun _ _ both => takes_of_members? both.2 both.1

/-- A class takes what one of the branches takes that it was made of. -/
theorem search_ofSet_unionOf {outlines : List Outline} {sets : List CharSet}
    (takes : List.Forall₂ Takes outlines sets) :
    (ofSet true (.unionOf sets)).search follow spot =
      outlines.findSome? (·.search follow spot) := by
  have known : ∀ set ∈ sets, set.Known := by
    induction takes with
    | nil => exact List.forall_mem_nil _
    | cons here _ ih => exact List.forall_mem_cons.mpr ⟨here.1, ih⟩
  rw [search_ofSet,
    search_one_congr follow spot (CharSet.contains_canonical (CharSet.known_unionOf known)),
    search_one_unionOf]
  clear known
  induction takes with
  | nil => rfl
  | cons here _ ih => rw [List.findSome?_cons, List.findSome?_cons, ih, search, here.2]

/-- A choice that is not taken apart is searched branch by branch. -/
theorem search_merge {outlines : List Outline} (formed : ∀ outline ∈ outlines, outline.Formed) :
    (merge outlines).search follow spot = outlines.findSome? (·.search follow spot) := by
  fun_cases merge outlines with
  | case1 => exact search_ofBranches follow spot []
  | case2 only => exact List.findSome?_singleton.symm
  | case3 _ _ _ sets classes =>
    exact search_ofSet_unionOf follow spot (forall₂_takes formed classes)
  | case4 => exact search_ofBranches follow spot outlines

/-- The beginning that a choice takes in front of its branches, and what is left of them. -/
def taken (outlines : List Outline) : List Outline × List Outline :=
  let branches := outlines.flatMap branches
  match merge branches, branches.mapM sequence? with
  | .alt _ _, some (first :: others) =>
    let shared := others.foldl sharedStart first
    (shared, (first :: others).map fun parts => ofParts (parts.drop shared.length))
  | _, _ => ([], branches)

theorem sharedStart_isPrefix (first second : List Outline) :
    sharedStart first second <+: first ∧ sharedStart first second <+: second := by
  unfold sharedStart
  induction first generalizing second with
  | nil => simp
  | cons outline first ih =>
    cases second with
    | nil => simp
    | cons other second =>
      rw [List.zip_cons_cons, List.takeWhile_cons]
      by_cases same : outline = other
      · subst same
        simpa using ih second
      · simp [same]

/-- All lists begin with what they share. -/
theorem foldl_sharedStart_isPrefix (first : List Outline) (others : List (List Outline)) :
    ∀ parts ∈ first :: others, others.foldl sharedStart first <+: parts := by
  induction others generalizing first with
  | nil => exact List.forall_mem_singleton.mpr (List.prefix_refl _)
  | cons second others ih =>
    obtain ⟨start, rest⟩ := List.forall_mem_cons.mp (ih (sharedStart first second))
    obtain ⟨inFirst, inSecond⟩ := sharedStart_isPrefix first second
    exact List.forall_mem_cons.mpr
      ⟨start.trans inFirst, List.forall_mem_cons.mpr ⟨start.trans inSecond, rest⟩⟩

/-- What is left of a sequence behind parts that it begins with. -/
theorem search_ofParts_drop {shared parts : List Outline} (start : shared <+: parts) :
    searchAll shared ((ofParts (parts.drop shared.length)).search follow) spot =
      searchAll parts follow spot := by
  obtain ⟨rest, rfl⟩ := start
  rw [List.drop_left, funext (search_ofParts follow · rest), searchAll_append]

/-- A branch is found by going through the common beginning and then through what is left of it. -/
theorem findSome?_taken (outlines : List Outline) :
    ((taken outlines).2.findSome?
      fun rest => searchAll (taken outlines).1 (rest.search follow) spot) =
      outlines.findSome? (·.search follow spot) := by
  rw [← findSome?_flatMap_branches]
  unfold taken
  dsimp only
  split
  · rename_i first others _ whole
    have starts := foldl_sharedStart_isPrefix first others
    generalize others.foldl sharedStart first = shared at starts
    generalize outlines.flatMap branches = list at whole
    have pairs := mapM_eq_some_iff.mp whole
    generalize first :: others = lists at starts pairs
    clear whole
    induction pairs with
    | nil => rfl
    | cons here _ ih =>
      obtain ⟨start, starts⟩ := List.forall_mem_cons.mp starts
      rw [List.map_cons, List.findSome?_cons, List.findSome?_cons, ih starts,
        search_ofParts_drop follow spot start, search_of_sequence? follow spot here]
  · rfl

theorem Inherited.of_sequence? {holds : Outline → Prop} (inherited : Inherited holds)
    {outline : Outline}
    {parts : List Outline} (whole : outline.sequence? = some parts) (here : holds outline) :
    ∀ part ∈ parts, holds part := by
  fun_cases sequence? outline with
  | case1 first rest =>
    obtain rfl := Option.some.inj (whole.symm.trans rfl)
    obtain ⟨first, rest⟩ := inherited.seq.mp here
    exact List.forall_mem_cons.mpr ⟨first, inherited.parts rest⟩
  | case2 => simp_all [sequence?]

theorem Inherited.taken {holds : Outline → Prop} (inherited : Inherited holds)
    {outlines : List Outline} (each : ∀ outline ∈ outlines, holds outline) :
    (∀ part ∈ (taken outlines).1, holds part) ∧ ∀ rest ∈ (taken outlines).2, holds rest := by
  have eachBranch := inherited.flatMap_branches each
  unfold Outline.taken
  dsimp only
  split
  · rename_i first others _ whole
    have pieces : ∀ parts ∈ first :: others, ∀ part ∈ parts, holds part := by
      have pairs := (List.forall₂_and_left _ _).mpr ⟨eachBranch, mapM_eq_some_iff.mp whole⟩
      generalize first :: others = lists at pairs
      clear whole
      generalize outlines.flatMap Outline.branches = list at pairs
      induction pairs with
      | nil => exact List.forall_mem_nil _
      | cons here _ ih =>
        exact List.forall_mem_cons.mpr ⟨inherited.of_sequence? here.2 here.1, ih⟩
    constructor
    · intro part member
      exact pieces first List.mem_cons_self part
        ((foldl_sharedStart_isPrefix first others first List.mem_cons_self).subset member)
    · intro rest member
      obtain ⟨parts, listed, rfl⟩ := List.mem_map.mp member
      exact inherited.ofParts fun part inside =>
        pieces parts listed part (List.mem_of_mem_drop inside)
  · exact ⟨List.forall_mem_nil _, eachBranch⟩

theorem choice_eq (outlines : List Outline) :
    choice outlines =
      if (taken outlines).1.isEmpty then merge (outlines.flatMap branches)
      else sequence ((taken outlines).1 ++ [merge ((taken outlines).2.flatMap branches)]) := by
  rw [choice, taken]
  dsimp only
  generalize merge (outlines.flatMap branches) = merged
  generalize (outlines.flatMap branches).mapM sequence? = whole
  cases merged <;> rcases whole with _ | _ | ⟨first, others⟩ <;> rfl

/-- **Behind the common beginning of a choice the rests are searched one after the other.** -/
theorem search_choice {outlines : List Outline} (formed : ∀ outline ∈ outlines, outline.Formed) :
    (choice outlines).search follow spot =
      searchAll (taken outlines).1 (fun spot => (taken outlines).2.findSome? (·.search follow spot))
        spot := by
  rw [choice_eq]
  split_ifs with none
  · have whole := findSome?_taken follow spot outlines
    rw [List.isEmpty_iff.mp none] at whole ⊢
    rw [search_merge _ _ (inherited_formed.flatMap_branches formed), findSome?_flatMap_branches,
      ← whole]
    rfl
  · have rests := inherited_formed.flatMap_branches (inherited_formed.taken formed).2
    have behind : searchAll [merge ((taken outlines).2.flatMap branches)] follow =
        fun spot => (taken outlines).2.findSome? (·.search follow spot) := by
      funext spot
      rw [searchAll_cons]
      exact (search_merge _ _ rests).trans (findSome?_flatMap_branches _ _ _)
    rw [search_sequence, searchAll_append, behind]

theorem Inherited.choice {holds : Outline → Prop} (inherited : Inherited holds)
    {outlines : List Outline}
    (each : ∀ outline ∈ outlines, holds outline) : holds (choice outlines) := by
  rw [choice_eq]
  split_ifs
  · exact inherited.merge (inherited.flatMap_branches each)
  · refine inherited.sequence (List.forall_mem_append.mpr ⟨(inherited.taken each).1, ?_⟩)
    exact List.forall_mem_singleton.mpr
      (inherited.merge (inherited.flatMap_branches (inherited.taken each).2))

end Choices

/-! ### Beginnings that lead to one place -/

/-- Whether a match of one of several outlines goes on from a place. -/
def GoesOn (outlines : List Outline) (spot : Spot) : Prop :=
  ∃ outline ∈ outlines, (outline.search (some ·.position) spot).isSome

/-- What all branches of a choice begin with leads, from the start of the text, to at most one place
from which a branch goes on. Where they begin differently nothing is asked for: the start is the
only place. -/
def Settled (outlines : List Outline) (text : List Char) : Prop :=
  ∀ first ∈ (ofParts (taken outlines).1).regex.ends (.start text),
    ∀ second ∈ (ofParts (taken outlines).1).regex.ends (.start text),
      GoesOn (taken outlines).2 first → GoesOn (taken outlines).2 second → first = second

theorem ends_empty (spot : Spot) : Regex.empty.ends spot = [spot] := by
  obtain ⟨before, rest, position⟩ := spot
  unfold Regex.ends
  cases rest <;> rw [Pattern.ends, explore_singleton rfl rfl] <;> rfl

theorem settled_of_apart {outlines : List Outline} (apart : (taken outlines).1 = [])
    (text : List Char) :
    Settled outlines text := by
  intro first here second there _ _
  rw [apart, ofParts, regex, ends_empty, List.mem_singleton] at here there
  rw [here, there]

/-- A text has no beginning of its own, so nothing is taken in front of a choice that it is a branch
of. -/
theorem taken_of_verbatim {outlines : List Outline} {text : List Char}
    (member : verbatim text ∈ outlines) :
    (taken outlines).1 = [] := by
  have listed : verbatim text ∈ outlines.flatMap branches :=
    List.mem_flatMap.mpr ⟨_, member, List.mem_singleton_self _⟩
  unfold taken
  dsimp only
  split
  · rename_i first others _ whole
    cases isSome_of_mapM whole _ listed
  · rfl

/-- **Where a choice is settled the first branch that matches decides.** -/
theorem matchEnd_choice {outlines : List Outline} {text : List Char}
    (formed : ∀ outline ∈ outlines, outline.Formed) (settled : Settled outlines text) :
    (choice outlines).regex.matchEnd text = outlines.findSome? (·.regex.matchEnd text) := by
  have through (follow : Spot → Option Nat) : searchAll (taken outlines).1 follow (.start text) =
      ((ofParts (taken outlines).1).regex.ends (.start text)).findSome? follow := by
    rw [← search_ofParts]
    exact Regex.search_eq_ends _ _ _
  calc (choice outlines).regex.matchEnd text
      = ((ofParts (taken outlines).1).regex.ends (.start text)).findSome? fun spot =>
          (taken outlines).2.findSome? (·.search (some ·.position) spot) :=
        (search_choice _ _ formed).trans (through _)
    _ = (taken outlines).2.findSome? fun rest =>
          ((ofParts (taken outlines).1).regex.ends (.start text)).findSome?
            (rest.search (some ·.position)) :=
        findSome?_comm_of_settled settled
    _ = outlines.findSome? (·.regex.matchEnd text) := by
        rw [← findSome?_congr fun rest _ => through (rest.search (some ·.position))]
        exact findSome?_taken _ _ outlines

end Outline

end Offside.Pattern
