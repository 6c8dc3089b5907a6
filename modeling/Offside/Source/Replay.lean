/-
**Replaying a list.**

A list of tokens and failures as a token source. Everything is handed out once, failures too, except
that an end of input that stands last stays for ever. The source counts how often it was popped.
-/

import Offside.Source.Basic

namespace Offside

/-- A list of results to hand out. -/
structure Replay where
  items : List (Except Failure Token)
  /-- How often the source was popped. -/
  pulls : Nat := 0

namespace Replay

/-- The kinds that stand for layout in a replayed list. -/
def reservedKinds : ReservedKinds := {}

/-- Tokens of the given kinds without text, one on each row, and the end of input. -/
def ofKinds (kinds : List String) : Replay :=
  ⟨(kinds.zipIdx.map fun (kind, index) => .ok ⟨kind, [], index + 1, 1⟩) ++
    [.ok ⟨reservedKinds.eof, ['$'], kinds.length + 1, 1⟩], 0⟩

/-- Shows the first item. -/
def peek (source : Replay) : Pulled Replay :=
  match source.items with
  | [] => (.error .exhausted, source)
  | item :: _ => (item, source)

/-- Takes the first item; an end of input that stands alone is kept. -/
def pop (source : Replay) : Pulled Replay :=
  match source.items with
  | [] => (.error .exhausted, ⟨[], source.pulls + 1⟩)
  | [.ok token] =>
    (.ok token, ⟨if token.kind = reservedKinds.eof then [.ok token] else [], source.pulls + 1⟩)
  | item :: rest => (item, ⟨rest, source.pulls + 1⟩)

theorem peek_result (source : Replay) : source.peek.1 = source.pop.1 := by
  rw [peek, pop]
  split <;> split <;> simp_all

theorem pop_peek (source : Replay) : source.peek.2.pop = source.pop := by
  have same : source.peek.2 = source := by
    rw [peek]
    split <;> rfl
  rw [same]

/-- Popping takes an item, unless it is an end of input that stands alone. -/
theorem length_items_pop {source later : Replay} {token : Token}
    (popped : source.pop = (.ok token, later)) :
    later.items.length < source.items.length ∨
      token.kind = reservedKinds.eof ∧ later.items.length ≤ source.items.length := by
  rw [pop] at popped
  split at popped
  · cases popped
  · rename_i only shape
    cases popped
    rw [shape]
    by_cases isEof : token.kind = reservedKinds.eof
    · simp only [if_pos isEof]
      exact .inr ⟨isEof, Nat.le_refl _⟩
    · simp only [if_neg isEof]
      exact .inl Nat.zero_lt_one
  · rename_i item rest _ shape
    simp only [Prod.mk.injEq] at popped
    obtain ⟨_, rfl⟩ := popped
    rw [shape]
    exact .inl (Nat.lt_succ_self _)

instance : TokenSource Replay where
  reserved _ := reservedKinds
  peek := peek
  pop := pop
  line _ := []
  padding _ := []
  peek_result := peek_result
  pop_peek := pop_peek
  line_peek _ := rfl
  padding_peek _ := rfl
  reserved_peek _ := rfl
  reserved_pop _ := rfl
  ends := Advances.wellFounded_of_measure (fun source => source.items.length) length_items_pop

end Replay

end Offside
