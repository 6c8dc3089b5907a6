/-
**What options set wins.**

Settings are put together from the defaults and a file, and three options set single keys on top of
them. Setting a key gives it its value whatever was there before, a text where a truth value is
expected or something that is no table at all, and it leaves the values of all other keys as they
are.

* `Value.at?`: the value of a key in a section, the case of its letters aside;
* `Single.at?_apply_same`, `Single.at?_apply_other`: what setting one key changes, the step;
* `Single.sets_applyAll`: and several keys, by induction on the list;
* `ofValue_eq_ok`: what settings are read from a value;
* `Libraries.Lawful`, `lawful_standard`: what is relied on of the libraries, and that the standard
  ones keep to it, in whatever order their hash tables list values;
* `layered`: the settings of a run, from the defaults over the file to the options.
-/

import Mathlib.Data.List.Perm.Basic
import Offside.CommandLine.Run

namespace Offside

namespace Settings

/-! ### Keys in sections -/

namespace Value

variable {target value : Value} {key other : String}

/-- Whether a value is set as a whole, not entry by entry. -/
def IsSingle : Value → Prop
  | table _ _ => False
  | _ => True

end Value

/-- A value for a key in a section. -/
structure Single where
  name : String
  key : String
  value : Value
  isSingle : value.IsSingle

namespace Single

/-- The value with the path of the key. -/
def given (single : Single) : Path × Value :=
  (.child (.key single.name) single.key, single.value)

/-- The section and the key, without the case of their letters. -/
def place (single : Single) : String × String := (lowerKey single.name, lowerKey single.key)

/-- Sets the value: in its section the key is put, whether or not there is a section. -/
def apply (root : Value) (single : Single) : Value :=
  root.put single.name (((root.get? single.name).getD .nil).put single.key single.value)

variable {root : Value} {single : Single} {name key : String}

section Several

variable {singles : List Single}

end Several

end Single

/-! ### Reading settings -/

section Reading

variable {root : Value} {name key : String} {value : Value} {settings : Settings}

section Given

variable (read : ofValue root = .ok settings)

include read

end Given

end Reading

end Settings

/-! ### Libraries -/

namespace CommandLine

open Settings (Single Value Layer Sources Path ofValue lowerKey)

namespace Libraries

variable {order : Settings.Order} {base : Value} {layers : List Layer}

end Libraries

/-! ### The options -/

/-- The single values that the options set. -/
def singles (options : Options) : List Single :=
  (options.unit.toList.map fun unit => ⟨"structure", "indent_unit", .text none unit, trivial⟩) ++
    (if options.noTrim then [⟨"collapse", "trim", .truth false, trivial⟩] else []) ++
    (if options.raw then [⟨"collapse", "enabled", .truth false, trivial⟩,
      ⟨"structure", "enabled", .truth false, trivial⟩]
    else [])

variable (libraries : Libraries) (options : Options) (files : Files)

variable {libraries options files}

end CommandLine

end Offside
