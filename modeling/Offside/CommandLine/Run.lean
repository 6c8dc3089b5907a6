/-
**Running a command line.**

A run goes through fixed steps: the format, the settings, the rules, the pipeline, the input, the
tokens. The first step that fails is reported and nothing is written; otherwise all tokens are
written at once. The files and the standard input are given as values.

A run need not come to an end of its own: the library for settings may break it off, and the tokens
may never end if newlines are collapsed that have the name of the end of input.
-/

import Offside.CommandLine.Folder
import Offside.CommandLine.Libraries
import Offside.CommandLine.Options
import Offside.Description
import Offside.Json
import Offside.Pipeline

namespace Offside.CommandLine

open Text (Line)

/-- The formats in which tokens are written. -/
inductive Format
  | simple
  | json
  deriving DecidableEq

/-- The format of a name. -/
def Format.ofName? (name : List Char) : Option Format :=
  [("token-simple".toList, simple), ("token-json".toList, json)].lookup name

/-- Writes tokens. -/
def Format.write : Format → List Token → List Char
  | simple, tokens => Token.renderAll tokens
  | json, tokens => (Json.array (tokens.map Token.toJson)).pretty

/-! ### What can go wrong -/

/-- The first step that fails, and why it does. -/
inductive Problem
  | format (name : List Char)
  /-- There are no settings, for the reason that the library gives. -/
  | settings (reason : List Char)
  /-- The rules cannot be opened. -/
  | rulesFile (name : List Char) (reason : Absence)
  /-- The description of the rules is wrong. -/
  | rules (name : List Char) (failure : Failure)
  /-- The rules cannot be compiled. -/
  | pipeline (error : RuleError)
  /-- The input cannot be opened. -/
  | inputFile (name : List Char) (reason : Absence)
  | tokens (failure : Failure)
  deriving DecidableEq

/-- A folder can be opened, but not read. -/
def isFolder : Failure := .unreadable "Is a directory (os error 21)".toList

namespace Problem

/-- What is reported. -/
def message : Problem → List Char
  | format name =>
    "Format '".toList ++ name ++
      "' not supported. Available formats: token-simple, token-json".toList
  | settings reason => "Error loading settings: ".toList ++ reason
  | rulesFile name reason =>
    "Error reading rules file ".toList ++ name ++ ": ".toList ++ reason.message
  | rules name failure =>
    "Error in rules file ".toList ++ name ++ ": ".toList ++ failure.message
  | pipeline error => error.message.toList
  | inputFile name reason =>
    "Error reading input file ".toList ++ name ++ ": ".toList ++ reason.message
  | tokens failure => failure.message

end Problem

/-! ### The steps -/

/-- The layer of settings in a file; a file that is not in UTF-8 cannot be read. -/
def documentLayer (name : List Char) (bytes : List UInt8) : Settings.Layer :=
  match Text.decode? bytes with
  | some text => .document (some (plainPath name)) text
  | none => .malformedFile

/-- The layer of settings in a file, which may be named without its ending. -/
def configLayer (files : Files) (name : List Char) : Settings.Layer :=
  match files name with
  | .file bytes => documentLayer name bytes
  | _ =>
    match extendName? ".toml".toList name with
    | none => .missingFile name true
    | some longer =>
      match files longer with
      | .file bytes => documentLayer longer bytes
      | _ => .missingFile name true

/-- The single values that the options set. -/
def overrides (options : Options) : List (String × Settings.Value) :=
  (options.unit.toList.map fun unit => ("structure.indent_unit", .text none unit)) ++
    (if options.noTrim then [("collapse.trim", .truth false)] else []) ++
    (if options.raw then
      [("collapse.enabled", .truth false), ("structure.enabled", .truth false)]
    else [])

/-- What the settings are put together from. -/
def sources (options : Options) (files : Files) : Settings.Sources where
  layers := options.config.toList.map (configLayer files)
  overrides := (overrides options).map fun single => (Settings.pathOfKey single.1, single.2)

/-- The settings that the options ask for, if the library does not break off. -/
def loadSettings (libraries : Libraries) (options : Options) (files : Files) :
    Option (Except (List Char) Settings) :=
  (libraries.layer Settings.defaults (sources options files)).map (· >>= libraries.decode)

/-- The rules in a file. -/
def loadRules (files : Files) (standardInput : List UInt8) (name : List Char) :
    Except Problem Draft :=
  let load (bytes : List UInt8) : Except Problem Draft :=
    (Description.load (Text.linesOfBytes bytes)).mapError (.rules name)
  match files name with
  | .absent reason => .error (.rulesFile name reason)
  | .folder => .error (.rules name isFolder)
  | .file bytes => load bytes
  | .emptyDevice => load []
  | .standardInput => load standardInput

/-- Something that may meet a problem, or not come back at all. -/
abbrev Attempt := ExceptT Problem Option

namespace Attempt

variable {α : Type}

/-- An attempt with a result. -/
def ofResult (result : Except Problem α) : Attempt α := ExceptT.mk (some result)

/-- An attempt that does not come back. -/
def lost : Attempt α := ExceptT.mk none

end Attempt

/-- The tokens of an input. -/
def readTokens (pipeline : Pipeline) (bytes : List UInt8) : Attempt (List Token) :=
  match pipeline.tokenize (Text.linesOfBytes bytes) with
  | .ok tokens => .ofResult (.ok tokens)
  | .error .endless => .lost
  | .error failure => .ofResult (.error (.tokens failure))

/-- A run whose input has not been read. -/
structure Job where
  pipeline : Pipeline
  format : Format

namespace Job

/-- The steps up to the pipeline. -/
def prepare (libraries : Libraries) (options : Options) (files : Files)
    (standardInput : List UInt8) : Attempt Job :=
  match Format.ofName? options.format with
  | none => .ofResult (.error (.format options.format))
  | some format => do
    let settings ← ExceptT.mk ((loadSettings libraries options files).map (·.mapError .settings))
    let draft ← .ofResult (loadRules files standardInput options.rules)
    let pipeline ←
      .ofResult ((Pipeline.ofRulesBy libraries.engine draft settings).mapError .pipeline)
    return ⟨pipeline, format⟩

/-- Writes the tokens of an input. -/
def write (job : Job) (bytes : List UInt8) : Attempt (List Char) := do
  return job.format.write (← readTokens job.pipeline bytes)

end Job

/-- The bytes of the input. -/
def readInput (options : Options) (files : Files) (standardInput : List UInt8) :
    Except Problem (List UInt8) :=
  match options.input with
  | none => .ok standardInput
  | some name =>
    match files name with
    | .absent reason => .error (.inputFile name reason)
    | .folder => .error (.tokens isFolder)
    | .file bytes => .ok bytes
    | .emptyDevice => .ok []
    | .standardInput => .ok standardInput

/-- What is left of standard input when the rules have been read. -/
def inputAfterRules (options : Options) (files : Files) (standardInput : List UInt8) :
    List UInt8 :=
  if files options.rules = .standardInput then [] else standardInput

/-- What is written in the end, or the problem of the first step that fails. -/
def tokenText (libraries : Libraries) (options : Options) (files : Files)
    (standardInput : List UInt8) : Attempt (List Char) := do
  let job ← Job.prepare libraries options files standardInput
  job.write
    (← .ofResult (readInput options files (inputAfterRules options files standardInput)))

/-! ### Outcomes -/

/-- What a run leaves behind. -/
structure Outcome where
  exitCode : Nat
  output : List Char := []
  errors : List Char := []
  deriving DecidableEq

/-- The outcome of a run that came to an end, or to a problem. -/
def Outcome.ofResult : Except Problem (List Char) → Outcome
  | .ok text => { exitCode := 0, output := text ++ ['\n'] }
  | .error problem =>
    { exitCode := 1, errors := "Error: ".toList ++ problem.message ++ ['\n'] }

/-- What a program that is broken off leaves behind. -/
def Outcome.brokenOff : Outcome := { exitCode := 101 }

/-- The answer to the question for the version. -/
def versionText : List Char := "hvitt 0.1.0\n".toList

/-- The shape of a command line. -/
def usage : String := "Usage: hvitt [OPTIONS] <rules> [input]\n"

/-- The options with what they do. -/
def optionLines : List (String × String) :=
  [("-c, --config <config>", "Settings file layered over the built-in defaults"),
   ("    --indent-unit <indent-unit>", "Whitespace making up one indentation level"),
   ("    --no-trim", "Keep blank lines at the start and end of the input"),
   ("    --raw", "Print scanner output without collapsing or structure checks"),
   ("-f, --format <format>",
    "Output format: token-simple or token-json [default: token-simple]"),
   ("-h, --help", "Print help"),
   ("-V, --version", "Print version")]

/-- The answer to the question for help. -/
def helpText : List Char :=
  ("Tokenize indentation-sensitive text with runtime-configured rules\n\n" ++ usage ++
    "\nArguments:\n" ++
    "  <rules>  Path to the rule-description file\n" ++
    "  [input]  Path to the source file (defaults to standard input)\n" ++
    "\nOptions:\n").toList ++
  optionLines.flatMap fun (option, effect) =>
    "  ".toList ++ option.toList ++ List.replicate (33 - option.length) ' ' ++ effect.toList ++
      ['\n']

/-- The outcome of a command line that cannot be understood. -/
def Outcome.misused : Outcome :=
  { exitCode := 2, errors := ("error: invalid command line\n\n" ++ usage).toList }

/-- Runs a command line over files and a standard input. There is no outcome if the run does not
come to an end of its own. -/
def run (libraries : Libraries) (words : List (List Char)) (files : Files)
    (standardInput : List UInt8) : Option Outcome :=
  match Request.ofWords? words with
  | none => some .misused
  | some .help => some { exitCode := 0, output := helpText }
  | some .version => some { exitCode := 0, output := versionText }
  | some (.run options) => (tokenText libraries options files standardInput).run.map .ofResult

end Offside.CommandLine
