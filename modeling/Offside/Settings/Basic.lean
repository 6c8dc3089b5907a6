/-
**Settings.**

What can be set: the names of the kinds for layout, a kind that is left out, and what is done to the
tokens of the scanner. Settings are read from a value with three sections, each a table with a key
for every setting, or a list of the settings in order. Texts such as `yes` and `off` and numbers are
taken as truth values, and numbers and truth values as texts.

* `ofValue_defaults`: the value of the defaults is read as the defaults.
-/

import Offside.Settings.Path
import Offside.Text.Quoted
import Offside.Token
import Offside.Unicode.LowerCase

namespace Offside

/-- Everything that can be set. -/
structure Settings where
  reserved : ReservedKinds := {}
  /-- A kind whose tokens are left out. -/
  ignored : Option String := none
  /-- Whether runs of newlines are collapsed. -/
  collapse : Bool := true
  /-- Whether newlines at the start and the end are left out. -/
  trim : Bool := true
  /-- Whether indentation is counted in units. -/
  levels : Bool := true
  /-- One level of indentation. -/
  unit : List Char := "    ".toList
  deriving DecidableEq

namespace Settings

/-- What can be wrong with settings. -/
inductive Error
  /-- A file that has to exist does not. -/
  | missingFile (name : List Char)
  /-- A file is no text in UTF-8. -/
  | malformedText
  /-- A document breaks the rules of TOML. -/
  | malformedDocument
  /-- A text is no path. -/
  | malformedPath
  /-- A section is neither a table nor a list, or a setting of it is missing. -/
  | malformedSection (name : String)
  /-- A setting is of the wrong type. -/
  | mistyped (found : List Char) (expected : String) (key : List Char) (origin : Origin)
  /-- A path leads before the start of a list. This is not reported: the program breaks off. -/
  | beforeStart
  deriving DecidableEq

namespace Error

/-- What is reported. What is said of a document, a path or a section that is malformed is left
out. -/
def message : Error → List Char
  | missingFile name => "configuration file \"".toList ++ name ++ "\" not found".toList
  | malformedText => "stream did not contain valid UTF-8".toList
  | malformedDocument => []
  | malformedPath => []
  | malformedSection _ => []
  | beforeStart => []
  | mistyped found expected key origin =>
    "invalid type: ".toList ++ found ++ ", expected ".toList ++ expected.toList ++
      " for key \x60".toList ++ key ++ ['\x60'] ++
      (match origin with
      | some file => " in ".toList ++ file
      | none => [])

end Error

/-! ### Single settings -/

/-- A whole number in decimal digits. -/
def decimalInt (value : Int) : List Char :=
  if value < 0 then '-' :: Text.decimal value.natAbs else Text.decimal value.natAbs

/-- The texts that stand for truth values, in lower case. -/
def truthWords : List (List Char × Bool) :=
  [("1".toList, true), ("true".toList, true), ("on".toList, true), ("yes".toList, true),
   ("0".toList, false), ("false".toList, false), ("off".toList, false), ("no".toList, false)]

/-- A truth value. -/
def readTruth (key : List Char) (value : Value) : Except Error Bool :=
  let refuse (found : List Char) (origin : Origin) : Except Error Bool :=
    .error (.mistyped found "a boolean" key origin)
  match value with
  | .truth value => .ok value
  | .integer value => .ok (value != 0)
  | .float value => .ok !value.isZero
  | .text origin chars =>
    match truthWords.lookup (chars.map Char.toLower) with
    | some value => .ok value
    | none => refuse ("string ".toList ++ Text.quoted (Unicode.lowerText chars)) origin
  | .nil => refuse "unit value".toList none
  | .array origin _ => refuse "sequence".toList origin
  | .table origin _ => refuse "map".toList origin

/-- A text. -/
def readText (key : List Char) (value : Value) : Except Error (List Char) :=
  let refuse (found : List Char) (origin : Origin) : Except Error (List Char) :=
    .error (.mistyped found "a string" key origin)
  match value with
  | .truth value => .ok (if value then "true".toList else "false".toList)
  | .integer value => .ok (decimalInt value)
  | .float value => .ok value.render
  | .text _ chars => .ok chars
  | .nil => refuse "unit value".toList none
  | .array origin _ => refuse "sequence".toList origin
  | .table origin _ => refuse "map".toList origin

/-- The name of a kind. -/
def readKind (key : List Char) (value : Value) : Except Error String :=
  (readText key value).map String.ofList

/-- The name of a kind, or none. -/
def readKind? (key : List Char) : Value → Except Error (Option String)
  | .nil => .ok none
  | value => (readKind key value).map some

/-! ### Sections -/

/-- A setting of a section with its key, if it is there: under its name, or at its place. -/
def setting? (name : String) (inside : Value) (setting : String) (place : Nat) :
    Option (List Char × Value) :=
  match inside with
  | .array _ items =>
    items[place]?.map fun value => (name.toList ++ '[' :: Text.decimal place ++ [']'], value)
  | _ => (inside.get? setting).map fun value => (name.toList ++ '.' :: setting.toList, value)

/-- Reads a setting of a section, if it is there. -/
def readSetting {α : Type} (name : String) (inside : Value)
    (read : List Char → Value → Except Error α) (setting : String) (place : Nat) :
    Except Error (Option α) :=
  match setting? name inside setting place with
  | some (key, value) => (read key value).map some
  | none => .ok none

/-- The value of a section, which is a table or a list. -/
def sectionOf (root : Value) (name : String) : Except Error Value :=
  match root.get? name with
  | some (.table origin entries) => .ok (.table origin entries)
  | some (.array origin items) => .ok (.array origin items)
  | _ => .error (.malformedSection name)

/-- What a section needs to have. -/
def required {α : Type} (name : String) : Option α → Except Error α
  | some value => .ok value
  | none => .error (.malformedSection name)

/-- Reads the kinds for layout and the ignored kind. -/
def readReserved (root : Value) : Except Error (ReservedKinds × Option String) := do
  let name := "reserved"
  let inside ← sectionOf root name
  let indent ← readSetting name inside readKind "indent" 0
  let deindent ← readSetting name inside readKind "deindent" 1
  let newline ← readSetting name inside readKind "newline" 2
  let eof ← readSetting name inside readKind "eof" 3
  let ignored ← readSetting name inside readKind? "ignore" 4
  return (⟨← required name indent, ← required name deindent, ← required name newline,
    ← required name eof⟩, ignored.join)

/-- Reads how newlines are collapsed. -/
def readCollapse (root : Value) : Except Error (Bool × Bool) := do
  let name := "collapse"
  let inside ← sectionOf root name
  let enabled ← readSetting name inside readTruth "enabled" 0
  let trim ← readSetting name inside readTruth "trim" 1
  return (← required name enabled, ← required name trim)

/-- Reads how indentation is counted. -/
def readStructure (root : Value) : Except Error (Bool × List Char) := do
  let name := "structure"
  let inside ← sectionOf root name
  let enabled ← readSetting name inside readTruth "enabled" 0
  let unit ← readSetting name inside readText "indent_unit" 1
  return (← required name enabled, ← required name unit)

/-- Reads settings from their value. -/
def ofValue (root : Value) : Except Error Settings := do
  let (reserved, ignored) ← readReserved root
  let (collapse, trim) ← readCollapse root
  let (levels, unit) ← readStructure root
  return { reserved, ignored, collapse, trim, levels, unit }

/-! ### Defaults -/

/-- The value of a text that was read from no file. -/
def textValue (text : String) : Value := .text none text.toList

/-- The value of the defaults. -/
def defaults : Value :=
  .table none
    [("reserved", .table none
        [("indent", textValue "INDENT"), ("deindent", textValue "DEINDENT"),
         ("newline", textValue "NEWLINE"), ("eof", textValue "EOF")]),
     ("collapse", .table none [("enabled", .truth true), ("trim", .truth true)]),
     ("structure", .table none [("enabled", .truth true), ("indent_unit", textValue "    ")])]

/-- The defaults are read as they are declared. -/
theorem ofValue_defaults : ofValue defaults = .ok {} := by
  rfl

end Settings

end Offside
