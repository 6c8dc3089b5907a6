/-
**Sources of settings.**

Settings are put together from layers over the defaults: documents, each of which is merged into
what the ones before it gave. Single values that are set by path come last, whenever they were set,
so they win over every document. The entries of a document and the single values are kept in hash
tables; which of two values wins that are given for one place is up to their `Order`.
-/

import Offside.Settings.Basic
import Offside.Toml.Document

namespace Offside.Settings

/-- A layer of settings. -/
inductive Layer
  /-- A document, with the file that it was read from. -/
  | document (origin : Origin) (text : List Char)
  /-- A file that does not exist. -/
  | missingFile (name : List Char) (required : Bool)
  /-- A file that is no text in UTF-8. -/
  | malformedFile

/-- Everything that settings are put together from, in order. -/
structure Sources where
  layers : List Layer := []
  overrides : List (Path × Value) := []

/-- The order in which hash tables list the entries of documents, and the single values. -/
structure Order where
  entries : Entries Value → Entries Value
  singles : List (Path × Value) → List (Path × Value)
  entries_perm : ∀ list, (entries list).Perm list
  singles_perm : ∀ list, (singles list).Perm list

/-- Everything is listed as it was given. -/
def Order.given : Order := ⟨id, id, List.Perm.refl, List.Perm.refl⟩

/-- Sets a value by its path. -/
def setPath (root : Value) (single : Path × Value) : Except Error Value :=
  (single.1.set single.2 root).elim (.error .beforeStart) .ok

/-- The path that a key stands for; a key that is none stands for itself. -/
def pathOfKey (key : String) : Path := (Path.ofText? key.toList).getD (.key key)

/-- Merges a layer into a value. -/
def Layer.apply (order : Order) (root : Value) : Layer → Except Error Value
  | .document origin text =>
    match Toml.ofText? text with
    | some table =>
      let entries := (Value.ofToml order.entries origin table).entries
      (entries.map fun entry => (pathOfKey entry.1, entry.2)).foldlM setPath root
    | none => .error .malformedDocument
  | .missingFile name true => .error (.missingFile name)
  | .missingFile _ false => .ok root
  | .malformedFile => .error .malformedText

namespace Sources

/-- Adds a layer over the others. -/
def add (sources : Sources) (layer : Layer) : Sources :=
  { sources with layers := sources.layers ++ [layer] }

/-- Sets a single value by its path, instead of the one that was set before. -/
def override (sources : Sources) (path : List Char) (value : Value) : Except Error Sources :=
  match Path.ofText? path with
  | some path =>
    let others := sources.overrides.filter fun single => single.1 ≠ path
    .ok { sources with overrides := others ++ [(path, value)] }
  | none => .error .malformedPath

/-- The value that all layers and single values give over another one. -/
def value (order : Order) (base : Value) (sources : Sources) : Except Error Value := do
  let root ← sources.layers.foldlM (Layer.apply order) base
  (order.singles sources.overrides).foldlM setPath root

/-- The settings that all layers and single values give over the defaults. -/
def load (order : Order) (sources : Sources) : Except Error Settings := do
  ofValue (← sources.value order defaults)

end Sources

end Offside.Settings
