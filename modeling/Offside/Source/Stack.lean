/-
**Stacks of filters.**

A stack is a scanner or a replayed list with any number of filters around it. Its shape, the list of
its filters from the outside in, is known while the program runs only; `Layers` is the type of the
stacks of one shape, and each of them is a token source.
-/

import Offside.Source.Collapse
import Offside.Source.Leveled
import Offside.Source.Replay
import Offside.Source.Scanner
import Offside.Source.Tokens

namespace Offside

/-! ### Either of two sources -/

namespace TokenSource

variable {σ τ : Type} [TokenSource σ] [TokenSource τ]

/-- An answer about one of two sources. -/
def mapSource {ρ : Type} (wrap : σ → ρ) (answer : Pulled σ) : Pulled ρ := (answer.1, wrap answer.2)

/-- The kinds that stand for layout in one of two sources. -/
def reservedEither : σ ⊕ τ → ReservedKinds
  | .inl left => reserved left
  | .inr right => reserved right

/-- Shows the next token of one of two sources. -/
def peekEither : σ ⊕ τ → Pulled (σ ⊕ τ)
  | .inl left => mapSource Sum.inl (peek left)
  | .inr right => mapSource Sum.inr (peek right)

/-- Takes the next token of one of two sources. -/
def popEither : σ ⊕ τ → Pulled (σ ⊕ τ)
  | .inl left => mapSource Sum.inl (pop left)
  | .inr right => mapSource Sum.inr (pop right)

omit [TokenSource σ] in
theorem exists_of_mapSource {ρ : Type} {wrap : σ → ρ} {answer : Pulled σ}
    {result : Except Failure Token} {later : ρ} (mapped : mapSource wrap answer = (result, later)) :
    ∃ inner, answer = (result, inner) ∧ wrap inner = later := by
  cases mapped
  exact ⟨answer.2, rfl, rfl⟩

theorem ends_either : WellFounded (Advances (reservedEither (σ := σ) (τ := τ)) popEither) := by
  refine Advances.wellFounded_of_rank
    (Sum.lex_wf (TokenSource.ends (σ := σ)) (TokenSource.ends (σ := τ))) id
    (fun {s later token} popped less below => ?_) (fun {s later token} popped inside => ?_)
  · cases s with
    | inl left =>
      obtain ⟨inner, taken, rfl⟩ := exists_of_mapSource popped
      cases below with
      | inl advances => exact .inl (.more taken advances)
    | inr right =>
      obtain ⟨inner, taken, rfl⟩ := exists_of_mapSource popped
      cases below with
      | inr advances => exact .inr (.more taken advances)
      | sep => exact .sep _ _
  · cases s with
    | inl left =>
      obtain ⟨inner, taken, rfl⟩ := exists_of_mapSource popped
      exact .inl (.last taken inside)
    | inr right =>
      obtain ⟨inner, taken, rfl⟩ := exists_of_mapSource popped
      exact .inr (.last taken inside)

/-- The line that is being read by one of two sources. -/
def lineEither : σ ⊕ τ → List Char
  | .inl left => line left
  | .inr right => line right

/-- What stands in front of a caret in one of two sources. -/
def paddingEither : σ ⊕ τ → List Char
  | .inl left => padding left
  | .inr right => padding right

instance sum : TokenSource (σ ⊕ τ) where
  reserved := reservedEither
  peek := peekEither
  pop := popEither
  line := lineEither
  padding := paddingEither
  peek_result
    | .inl left => peek_result left
    | .inr right => peek_result right
  pop_peek
    | .inl left => congrArg (mapSource Sum.inl) (pop_peek left)
    | .inr right => congrArg (mapSource Sum.inr) (pop_peek right)
  line_peek
    | .inl left => line_peek left
    | .inr right => line_peek right
  padding_peek
    | .inl left => padding_peek left
    | .inr right => padding_peek right
  reserved_peek
    | .inl left => reserved_peek left
    | .inr right => reserved_peek right
  reserved_pop
    | .inl left => reserved_pop left
    | .inr right => reserved_pop right
  ends := ends_either

end TokenSource

/-! ### Stacks -/

/-- The kinds of filters. -/
inductive FilterKind
  | collapse
  | levels
  deriving DecidableEq

/-- What stands at the bottom of a stack. -/
abbrev Origin := Scanner ⊕ Replay

/-- The stacks with the given filters, from the outside in. -/
def Layers : List FilterKind → Type
  | [] => Origin
  | .collapse :: shape => Collapsed (Layers shape)
  | .levels :: shape => Leveled (Layers shape)

/-- Every stack is a token source. -/
@[reducible] def Layers.source : (shape : List FilterKind) → TokenSource (Layers shape)
  | [] => inferInstanceAs (TokenSource Origin)
  | .collapse :: shape =>
    have := Layers.source shape
    inferInstanceAs (TokenSource (Collapsed (Layers shape)))
  | .levels :: shape =>
    have := Layers.source shape
    inferInstanceAs (TokenSource (Leveled (Layers shape)))

instance (shape : List FilterKind) : TokenSource (Layers shape) := Layers.source shape

namespace Layers

/-- The width of the indentation of the scanner at the bottom. -/
def depth? : {shape : List FilterKind} → Layers shape → Option Nat
  | [], .inl scanner => some scanner.depth
  | [], .inr _ => none
  | .collapse :: _, layers => depth? layers.stage.inner
  | .levels :: _, layers => depth? layers.stage.inner

/-- How often the list at the bottom was popped. -/
def pulls? : {shape : List FilterKind} → Layers shape → Option Nat
  | [], .inl _ => none
  | [], .inr replay => some replay.pulls
  | .collapse :: _, layers => pulls? layers.stage.inner
  | .levels :: _, layers => pulls? layers.stage.inner

/-- The number of levels that are open in the outermost filter that counts them. -/
def level? : {shape : List FilterKind} → Layers shape → Option Nat
  | [], _ => none
  | .collapse :: _, layers => level? layers.stage.inner
  | .levels :: _, layers => some (Leveled.level layers)

end Layers

/-- A stack of any shape. -/
structure Stack where
  shape : List FilterKind
  layers : Layers shape

namespace Stack

/-- A scanner without filters. -/
def ofScanner (scanner : Scanner) : Stack := ⟨[], .inl scanner⟩

/-- A replayed list without filters. -/
def ofReplay (replay : Replay) : Stack := ⟨[], .inr replay⟩

/-- The kinds that stand for layout. -/
def reserved (stack : Stack) : ReservedKinds := TokenSource.reserved stack.layers

/-- Shows the next token. -/
def peek (stack : Stack) : Except Failure Token × Stack :=
  let (result, layers) := TokenSource.peek stack.layers
  (result, ⟨stack.shape, layers⟩)

/-- Takes the next token. -/
def pop (stack : Stack) : Except Failure Token × Stack :=
  let (result, layers) := TokenSource.pop stack.layers
  (result, ⟨stack.shape, layers⟩)

/-- The tokens of the stack one by one. -/
def tokens (stack : Stack) : Tokens (Layers stack.shape) := TokenSource.tokens stack.layers

/-- The results up to the end of input or the first failure, and the stack after them. -/
def drain (stack : Stack) : List (Except Failure Token) × Stack :=
  let (results, layers) := TokenSource.drain stack.layers
  (results, ⟨stack.shape, layers⟩)

/-- The tokens up to the end of input, or the first failure. -/
def collect (stack : Stack) : Except Failure (List Token) := TokenSource.collect stack.layers

/-- The line that is being read. -/
def line (stack : Stack) : List Char := TokenSource.line stack.layers

/-- What stands in front of a caret at the next token of the line. -/
def padding (stack : Stack) : List Char := TokenSource.padding stack.layers

/-- Puts a filter around the stack that collapses newlines. -/
def collapse (stack : Stack) (trim : Bool) : Stack :=
  ⟨.collapse :: stack.shape, Collapsed.of stack.layers trim⟩

/-- Puts a filter around the stack that counts indentation in units. -/
def countLevels (stack : Stack) (unit : List Char) : Stack :=
  ⟨.levels :: stack.shape, Leveled.of stack.layers unit⟩

/-- Puts a filter around the stack that counts indentation in units, which may not be empty. -/
def countLevels? (stack : Stack) (unit : List Char) : Except RuleError Stack := do
  let layers ← Leveled.of? stack.layers unit
  return ⟨.levels :: stack.shape, layers⟩

/-- Takes the outermost filter off; what it holds back is lost. -/
def unwrap : Stack → Option Stack
  | ⟨[], _⟩ => none
  | ⟨.collapse :: shape, layers⟩ => some ⟨shape, layers.stage.inner⟩
  | ⟨.levels :: shape, layers⟩ => some ⟨shape, layers.stage.inner⟩

end Stack

end Offside
