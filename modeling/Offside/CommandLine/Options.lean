/-
**Options of the command line.**

The words of a command line are read from left to right. A word that begins with a hyphen is an
option, up to the word `--`; an option that takes a value takes the rest of its word, or else the
next word, which must not look like an option itself. All other words name files, the rules first
and then the input. No option may be given twice.
-/

namespace Offside.CommandLine

/-- What is asked for. -/
structure Options where
  /-- The file that describes the rules. -/
  rules : List Char
  /-- The file to be read instead of standard input. -/
  input : Option (List Char) := none
  /-- A file with settings. -/
  config : Option (List Char) := none
  /-- One level of indentation. -/
  unit : Option (List Char) := none
  /-- Whether newlines at the start and the end are kept. -/
  noTrim : Bool := false
  /-- Whether the tokens of the scanner are left as they are. -/
  raw : Bool := false
  format : List Char := "token-simple".toList
  deriving DecidableEq

/-- What a command line asks for. -/
inductive Request
  | run (options : Options)
  | help
  | version
  deriving DecidableEq

/-- An option. -/
inductive Switch
  | config
  | unit
  | format
  | noTrim
  | raw
  | help
  | version
  deriving DecidableEq

namespace Switch

/-- The option of a long name. -/
def ofName? (name : List Char) : Option Switch :=
  [("config".toList, config), ("indent-unit".toList, unit), ("format".toList, format),
   ("no-trim".toList, noTrim), ("raw".toList, raw), ("help".toList, help),
   ("version".toList, version)].lookup name

/-- The option of a letter. -/
def ofLetter? : Char → Option Switch
  | 'c' => some config
  | 'f' => some format
  | 'h' => some help
  | 'V' => some version
  | _ => none

/-- Whether the option takes a value. -/
def takesValue : Switch → Bool
  | config => true
  | unit => true
  | format => true
  | _ => false

end Switch

/-- What has been read of a command line. -/
structure Given where
  /-- The files, in order. -/
  files : List (List Char) := []
  config : Option (List Char) := none
  unit : Option (List Char) := none
  format : Option (List Char) := none
  noTrim : Bool := false
  raw : Bool := false

namespace Given

/-- Adds the value of an option, unless it has one already. -/
def setValue (given : Given) (switch : Switch) (value : List Char) : Option Given :=
  match switch with
  | .config => if given.config.isSome then none else some { given with config := some value }
  | .unit => if given.unit.isSome then none else some { given with unit := some value }
  | .format => if given.format.isSome then none else some { given with format := some value }
  | _ => none

/-- Adds an option without value, unless it is there already. -/
def setFlag (given : Given) (switch : Switch) : Option Given :=
  match switch with
  | .noTrim => if given.noTrim then none else some { given with noTrim := true }
  | .raw => if given.raw then none else some { given with raw := true }
  | _ => none

/-- Adds a file; there are two at most. -/
def addFile (given : Given) (file : List Char) : Option Given :=
  if given.files.length < 2 then some { given with files := given.files ++ [file] } else none

/-- Adds files. -/
def addFiles (given : Given) (files : List (List Char)) : Option Given := files.foldlM addFile given

/-- What a whole command line asks for; the rules have to be there. -/
def finish (given : Given) : Option Request :=
  match given.files with
  | [] => none
  | rules :: others =>
    some (.run
      { rules
        input := others.head?
        config := given.config
        unit := given.unit
        noTrim := given.noTrim
        raw := given.raw
        format := given.format.getD "token-simple".toList })

end Given

/-- An option as it is written. -/
structure Written where
  switch : Switch
  /-- The value in the same word. -/
  attached : Option (List Char)

/-- Whether a word begins like an option. -/
def looksLikeOption : List Char → Bool
  | '-' :: _ :: _ => true
  | _ => false

/-- Reads an option with a long name, without the two hyphens. -/
def Written.ofLong? (body : List Char) : Option Written := do
  let switch ← Switch.ofName? (body.takeWhile (· ≠ '='))
  match body.dropWhile (· ≠ '=') with
  | '=' :: value => if switch.takesValue then some ⟨switch, some value⟩ else none
  | _ => some ⟨switch, none⟩

/-- Reads an option with a letter, without the hyphen. -/
def Written.ofShort? : List Char → Option Written
  | [] => none
  | letter :: rest => do
    let switch ← Switch.ofLetter? letter
    if switch.takesValue then
      match rest with
      | [] => some ⟨switch, none⟩
      | '=' :: value => some ⟨switch, some value⟩
      | value => some ⟨switch, some value⟩
    else some ⟨switch, none⟩

/-- Reads the option that a word is, if the word is one. -/
def Written.ofWord? : List Char → Option Written
  | '-' :: '-' :: body => ofLong? body
  | '-' :: body => ofShort? body
  | _ => none

/-- Reads the words of a command line after what was read before. -/
def readWords (given : Given) : List (List Char) → Option Request
  | [] => given.finish
  | word :: rest =>
    if word = "--".toList then (given.addFiles rest).bind Given.finish
    else if looksLikeOption word then
      match Written.ofWord? word with
      | none => none
      | some written =>
        match written.switch, written.attached with
        | .help, _ => some .help
        | .version, _ => some .version
        | switch, some value =>
          match given.setValue switch value with
          | some given => readWords given rest
          | none => none
        | switch, none =>
          if switch.takesValue then
            match rest with
            | [] => none
            | value :: rest =>
              if looksLikeOption value then none
              else
                match given.setValue switch value with
                | some given => readWords given rest
                | none => none
          else
            match given.setFlag switch with
            | some given => readWords given rest
            | none => none
    else
      match given.addFile word with
      | some given => readWords given rest
      | none => none

/-- What the words of a command line ask for; nothing if they cannot be understood. -/
def Request.ofWords? (words : List (List Char)) : Option Request := readWords {} words

end Offside.CommandLine
