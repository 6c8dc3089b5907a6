/-
**Folders and paths.**

The files that a run may ask for are given as a working folder. A path is followed part by part,
from the working folder or from the root: a dot stays, two dots go up, and a name goes down. Outside
of the working folder nothing is known but the folders that every system has and the devices for
nothing and for standard input.
-/

import Offside.Text.Lines

namespace Offside.CommandLine

open Text (byteLength)

/-- Why a path cannot be opened. -/
inductive Absence
  | noSuchFile
  /-- A part that is not the last one names no folder. -/
  | notFolder
  /-- A part, or the whole path, has too many bytes. -/
  | nameTooLong
  deriving DecidableEq

/-- What is reported. -/
def Absence.message : Absence → List Char
  | noSuchFile => "No such file or directory (os error 2)".toList
  | notFolder => "Not a directory (os error 20)".toList
  | nameTooLong => "File name too long (os error 36)".toList

/-- What a path leads to. -/
inductive Stored
  | absent (reason : Absence)
  | folder
  | file (bytes : List UInt8)
  /-- A device with nothing to be read. -/
  | emptyDevice
  /-- Standard input under a name of its own. -/
  | standardInput
  deriving DecidableEq

/-- Everything that is stored, by path. -/
abbrev Files := List Char → Stored

/-! ### Paths -/

/-- The parts of a path between slashes. -/
def pathParts (path : List Char) : List (List Char) :=
  ((Text.stretches '/' path).map (·.1)).filter (· ≠ [])

/-- Whether a path begins at the root. -/
def isAbsolute (path : List Char) : Bool := path.head? == some '/'

/-- A path without the parts that lead nowhere, as in `./name`. -/
def plainPath (path : List Char) : List Char :=
  let parts := List.intercalate ['/'] ((pathParts path).filter (· ≠ ['.']))
  if isAbsolute path then '/' :: parts else parts

/-- The parts to be followed; a slash at the end asks for a folder as a dot does. -/
def stepsOf (path : List Char) : List (List Char) :=
  pathParts path ++ if path.getLast? == some '/' then [['.']] else []

/-- The greatest number of bytes of a part. -/
def longestPart : Nat := 255

/-- The greatest number of bytes of a path. -/
def longestPath : Nat := 4095

/-- The path with `suffix` after its last name. Slashes and dots that lead nowhere are left out at
the end; a path that ends with two dots, or has no name at all, has none. -/
def extendName? (suffix path : List Char) : Option (List Char) :=
  let kept := (trimReversed path.reverse).reverse
  let name := (kept.reverse.takeWhile (· ≠ '/')).reverse
  if name = [] ∨ name = ['.', '.'] then none else some (kept ++ suffix)
where
  /-- A path that is read backwards, without slashes and dots that lead nowhere. -/
  trimReversed : List Char → List Char
    | '/' :: rest => trimReversed rest
    | ['.'] => []
    | '.' :: '/' :: rest => trimReversed rest
    | text => text

/-! ### Following a path -/

/-- A working folder, with its files by path. -/
structure Folder where
  files : List (List Char × List UInt8)

/-- Where a path has led so far. -/
inductive Place
  /-- In the working folder or below it. -/
  | inside (parts : List (List Char))
  /-- Above the working folder. -/
  | above
  | root
  /-- In a folder below the root. -/
  | system (name : List Char)
  deriving DecidableEq

/-- The folders below the root that every system has. -/
def systemFolders : List (List Char) :=
  ["bin", "boot", "dev", "etc", "home", "lib", "media", "mnt", "opt", "proc", "root", "run", "sbin",
    "srv", "sys", "tmp", "usr", "var"].map String.toList

/-- The devices by the folder and the name. -/
def devices : List ((List Char × List Char) × Stored) :=
  [(("dev".toList, "null".toList), .emptyDevice),
   (("dev".toList, "stdin".toList), .standardInput)]

namespace Folder

/-- The place below another one that a name leads to, or what stands there instead. -/
def descend (folder : Folder) (place : Place) (name : List Char) : Except Stored Place :=
  match place with
  | .inside parts =>
    let path := parts ++ [name]
    match folder.files.find? fun file => pathParts file.1 == path with
    | some file => .error (.file file.2)
    | none =>
      if folder.files.any fun file => path.isPrefixOf (pathParts file.1) then .ok (.inside path)
      else .error (.absent .noSuchFile)
  | .above => .error (.absent .noSuchFile)
  | .root =>
    if systemFolders.contains name then .ok (.system name) else .error (.absent .noSuchFile)
  | .system parent => .error ((devices.lookup (parent, name)).getD (.absent .noSuchFile))

/-- The place above another one. -/
def ascend : Place → Place
  | .inside [] => .above
  | .inside parts => .inside parts.dropLast
  | .above => .above
  | .root => .root
  | .system _ => .root

/-- What is found where something that is no folder stands in front of further parts. -/
def past (found : Stored) : Stored :=
  match found with
  | .absent reason => .absent reason
  | _ => .absent .notFolder

/-- What the parts of a path lead to. -/
def follow (folder : Folder) (place : Place) : List (List Char) → Stored
  | [] => .folder
  | part :: rest =>
    if part = ['.'] then follow folder place rest
    else if part = ['.', '.'] then follow folder (ascend place) rest
    else if longestPart < byteLength part then .absent .nameTooLong
    else
      match folder.descend place part with
      | .ok place => follow folder place rest
      | .error found => if rest = [] then found else past found

/-- What a path leads to. -/
def lookup (folder : Folder) : Files := fun path =>
  if path = [] then .absent .noSuchFile
  else if longestPath < byteLength path then .absent .nameTooLong
  else follow folder (if isAbsolute path then .root else .inside []) (stepsOf path)

end Folder

end Offside.CommandLine
