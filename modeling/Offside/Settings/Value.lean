/-
**Values of settings.**

What settings are made of: tables by key, lists, texts, numbers and truth values, and the absence of
a value. Texts, lists and tables remember the file they were read from, which is named when they
stand where something else is expected. The tables of a document are read into hash tables, which
list their entries in an order of their own.
-/

import Offside.Toml.Value

namespace Offside.Settings

/-- The name of the file that a value was read from, if it was read from one. -/
abbrev Origin := Option (List Char)

/-- A value of settings. -/
inductive Value
  | nil
  | truth (value : Bool)
  | integer (value : Int)
  | float (value : Number.Binary64)
  | text (origin : Origin) (chars : List Char)
  | array (origin : Origin) (items : List Value)
  | table (origin : Origin) (entries : List (String × Value))

namespace Value

/-- The table without entries. -/
def emptyTable : Value := .table none []

/-- The entries of a table; no entries of anything else. -/
def entries : Value → Entries Value
  | table _ entries => entries
  | _ => []

/-- The items of an array; no items of anything else. -/
def items : Value → List Value
  | array _ items => items
  | _ => []

mutual

/-- A value of a document that was read from a file; `arrange` puts the entries of a table into the
order in which they are listed. -/
def ofToml (arrange : Entries Value → Entries Value) (origin : Origin) : Toml.Value → Value
  | .text chars => .text origin chars
  | .integer value => .integer value
  | .float value => .float value
  | .truth value => .truth value
  | .moment chars => .text origin chars
  | .array items => .array origin (ofItems arrange origin items)
  | .tables items => .array origin (ofItems arrange origin items)
  | .table _ entries => .table origin (arrange (ofEntries arrange origin entries))

/-- The values of a list. -/
def ofItems (arrange : Entries Value → Entries Value) (origin : Origin) :
    List Toml.Value → List Value
  | [] => []
  | item :: rest => ofToml arrange origin item :: ofItems arrange origin rest

/-- The values of entries. -/
def ofEntries (arrange : Entries Value → Entries Value) (origin : Origin) :
    List (String × Toml.Value) → List (String × Value)
  | [] => []
  | (key, value) :: rest => (key, ofToml arrange origin value) :: ofEntries arrange origin rest

end

end Value

end Offside.Settings
