/-
**Values of TOML.**

A document is a table of values. A table remembers how it came to be, since that decides who may add
to it: a table written as a value is complete, one opened by a header takes the assignments below
the header and further headers, and one that only stands on the way to a header or to a dotted key
may still be opened or extended in the same manner.
-/

import Offside.Entries
import Offside.Number.Binary64

namespace Offside.Toml

/-- How a table came to be. -/
inductive Form
  /-- Written as a value. -/
  | inline
  /-- Opened by a header. -/
  | header
  /-- On the way to a header. -/
  | implied
  /-- On the way to a dotted key. -/
  | dotted
  deriving DecidableEq

/-- A value. -/
inductive Value
  | text (chars : List Char)
  | integer (value : Int)
  | float (value : Number.Binary64)
  | truth (value : Bool)
  /-- A date, a time or both, as text. -/
  | moment (chars : List Char)
  | array (items : List Value)
  /-- An array of tables that are opened by headers of their own. -/
  | tables (items : List Value)
  | table (form : Form) (entries : List (String × Value))

namespace Value

/-- A table that comes into being on the way to a header or to a dotted key. -/
def passage (dotted : Bool) : Value := .table (if dotted then .dotted else .implied) []

/-- Changes the table at the end of a path that a header or a dotted key takes. Missing tables come
into being on the way; of an array of tables the last one is taken. -/
def alter (dotted : Bool) (change : Value → Option Value) : List String → Value → Option Value
  | [], root => change root
  | key :: path, .table form entries =>
    match Entries.get? entries key with
    | none => do
      let child ← alter dotted change path (passage dotted)
      return .table form (Entries.put key child entries)
    | some (.table childForm childEntries) =>
      if childForm = .inline ∨ (dotted ∧ childForm = .header) then none
      else do
        let child ← alter dotted change path (.table childForm childEntries)
        return .table form (Entries.put key child entries)
    | some (.tables items) => do
      let last ← items.getLast?
      let last ← alter dotted change path last
      return .table form (Entries.put key (.tables (items.dropLast ++ [last])) entries)
    | some _ => none
  | _ :: _, _ => none

/-- Adds an entry to a table. A dotted key may add only to a table that dotted keys brought into
being, a plain key only to another one, and no key may be added twice. -/
def add (dotted : Bool) (key : String) (value : Value) : Value → Option Value
  | .table form entries =>
    if dotted ≠ decide (form = .dotted) then none
    else if (Entries.get? entries key).isSome then none
    else some (.table form (Entries.put key value entries))
  | _ => none

/-- Assigns a value to a key, behind a dotted path, in the table under a header. -/
def assign (header path : List String) (key : String) (value root : Value) : Option Value :=
  alter false (alter true (add (!path.isEmpty) key value) path) header root

/-- Opens the table of a header. A table that was only on the way to another header becomes the last
entry. -/
def openTable (path : List String) (key : String) (root : Value) : Option Value :=
  alter false (fun
    | .table form entries =>
      match Entries.get? entries key with
      | none => some (.table form (Entries.put key (.table .header []) entries))
      | some (.table .implied inner) =>
        some (.table form (Entries.put key (.table .header inner) (Entries.erase key entries)))
      | some _ => none
    | _ => none) path root

/-- Opens the next table of an array of tables. -/
def openItem (path : List String) (key : String) (root : Value) : Option Value :=
  alter false (fun
    | .table form entries =>
      match Entries.get? entries key with
      | none => some (.table form (Entries.put key (.tables [.table .header []]) entries))
      | some (.tables items) =>
        some (.table form (Entries.put key (.tables (items ++ [.table .header []])) entries))
      | some _ => none
    | _ => none) path root

end Value

end Offside.Toml
