/-
**Paths in settings.**

A path names a key of the whole, a key of the table at a path, or an item of the list at a path, as
in `structure.indent_unit` or `names[0]`. The case of the letters of ASCII does not matter in keys.
Setting a value makes room for it: what stands on the way and is no table, or no list, is replaced
by one. A table is not set as a whole: its entries are set one by one in the table that is there.
There is no room before the start of a list, so that a path with a negative index may lead nowhere.
-/

import Offside.Settings.Value
import Offside.Text.Reader

namespace Offside.Settings

open Offside.Text (Reader)
open Offside.Text.Reader

/-- Where a value stands. -/
inductive Path
  | key (name : String)
  | child (parent : Path) (name : String)
  | item (parent : Path) (index : Int)
  deriving DecidableEq

/-! ### Setting values -/

/-- A key with the letters of ASCII in lower case. -/
def lowerKey (key : String) : String := String.ofList (key.toList.map Char.toLower)

namespace Value

/-- The value of a key. -/
def get? (value : Value) (key : String) : Option Value := value.entries.get? (lowerKey key)

/-- Replaces the value of a key, in an empty table if the value is no table. -/
def put (target : Value) (key : String) (value : Value) : Value :=
  match target with
  | table origin entries => .table origin (Entries.put (lowerKey key) value entries)
  | _ => .table none [(lowerKey key, value)]

mutual

/-- Sets the value of a key; a table is merged into the value that is there. -/
def set (target : Value) (key : String) : Value → Value
  | .table _ entries => target.put key (setAll ((target.get? key).getD emptyTable) entries)
  | value => target.put key value

/-- Sets entries one by one. -/
def setAll (target : Value) : List (String × Value) → Value
  | [] => target
  | (key, value) :: rest => setAll (set target key value) rest

end

/-- The position of an item, if there is one; a negative index counts from the end. -/
def position? (index : Int) (length : Nat) : Option Nat :=
  if 0 ≤ index then some index.toNat
  else if index.natAbs ≤ length then some (length - index.natAbs)
  else none

/-- Changes an item of a list, of the empty list if the value is no list. Missing items before it
come into being. -/
def alterItem (target : Value) (index : Int) (change : Value → Option Value) : Option Value := do
  let origin := match target with
    | array origin _ => origin
    | _ => none
  let position ← position? index target.items.length
  let items := target.items ++ List.replicate (position + 1 - target.items.length) .nil
  let changed ← change (items.getD position .nil)
  return .array origin (items.set position changed)

end Value

namespace Path

/-- Changes the value at a path, which comes into being if it is missing. -/
def alter (change : Value → Option Value) : Path → Value → Option Value
  | key name, root => (change ((root.get? name).getD .nil)).map (root.put name)
  | child parent name, root =>
    parent.alter (fun value => (change ((value.get? name).getD .nil)).map (value.put name)) root
  | item parent index, root => parent.alter (fun value => value.alterItem index change) root

/-- Sets the value at a path, unless the path leads before the start of a list. -/
def set (value : Value) : Path → Value → Option Value
  | key name, root => some (root.set name value)
  | child parent name, root => parent.alter (fun table => some (table.set name value)) root
  | item parent index, root =>
    parent.alter (fun list => list.alterItem index fun _ => some value) root

/-! ### Reading paths -/

/-- The characters of keys in paths. -/
def isKeyChar (c : Char) : Bool := c.isAlphanum || c == ' ' || c == '_' || c == '-'

/-- A key in a path. -/
def name : Reader String := do
  return String.ofList (← takeWhile1 isKeyChar)

/-- An index between brackets. -/
def index : Reader Int := do
  let isSpace (c : Char) : Bool := c == ' ' || c == '\t'
  exactly '['
  let _ ← takeWhile isSpace
  let minus ← optional? (exactly '-')
  let digits ← takeWhile1 Char.isDigit
  let _ ← takeWhile isSpace
  exactly ']'
  let magnitude := digits.foldl (fun value digit => 10 * value + (digit.toNat - '0'.toNat)) 0
  let index : Int := if minus.isSome then -(magnitude : Int) else magnitude
  if -(Int.pow 2 63) ≤ index ∧ index < Int.pow 2 63 then return index else failure

/-- One step of a path, as a function of the path before it. -/
def step : Reader (Path → Path) :=
  (do
    exactly '.'
    let name ← name
    return fun parent => .child parent name) <|> do
    let index ← index
    return fun parent => .item parent index

/-- The path that a text stands for. -/
def ofText? (text : List Char) : Option Path :=
  readAll? (do
    let name ← name
    let steps ← many step
    return steps.foldl (fun path step => step path) (.key name)) text

end Path

end Offside.Settings
