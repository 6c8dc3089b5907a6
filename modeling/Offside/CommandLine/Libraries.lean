/-
**What the program leaves to libraries.**

Settings are put together and read by one library, and patterns are compiled by another. Which
values win where a file gives several for one place, what is said of a file that is malformed, and
how large a pattern may be is up to them. A run takes them as a parameter.

* `Libraries.standard`: the libraries as far as they are modelled here. They refuse no pattern for
  its size, and what they say is left out where it depends on more than what went wrong.
-/

import Offside.Pattern.Reader
import Offside.Settings.Sources

namespace Offside.CommandLine

/-- What the program leaves to libraries. -/
structure Libraries where
  /-- Puts sources together over the defaults. The result is a value or what is wrong; there is none
  if the library breaks off the program. -/
  layer : Settings.Value → Settings.Sources → Option (Except (List Char) Settings.Value)
  /-- Reads settings from their value, or says what is wrong. -/
  decode : Settings.Value → Except (List Char) Settings
  /-- Compiles patterns. -/
  engine : Pattern.Engine

namespace Libraries

/-- What is told of sources that are put together. A path that leads before the start of a list is
not told of: the program is broken off. -/
def tell : Except Settings.Error Settings.Value → Option (Except (List Char) Settings.Value)
  | .ok root => some (.ok root)
  | .error .beforeStart => none
  | .error error => some (.error error.message)

/-- The libraries over hash tables with the given order. -/
def standard (order : Settings.Order) : Libraries where
  layer base sources := tell (sources.value order base)
  decode root := (Settings.ofValue root).mapError Settings.Error.message
  engine := .unlimited

end Libraries

end Offside.CommandLine
