/-
**The program.**

Reads the files that the command line names, and standard input if it names none to be read, and
writes what the run leaves behind.
-/

import Offside.CommandLine.Run

open Offside CommandLine

/-- What a path leads to. -/
def readStored (path : List Char) : IO Stored := do
  try
    return .file (← IO.FS.readBinFile (String.ofList path)).toList
  catch failure =>
    match failure with
    | .noFileOrDirectory .. => return .absent .noSuchFile
    | .invalidArgument .. => return .absent .nameTooLong
    | .inappropriateType _ code _ => return if code = 20 then .absent .notFolder else .folder
    | _ => return .folder

/-- The files that a run may ask for. -/
def readFiles (options : Options) : IO Files := do
  let config := match options.config with
    | some name => name :: (extendName? ".toml".toList name).toList
    | none => []
  let paths := options.rules :: options.input.toList ++ config
  let stored ← paths.mapM fun path => return (path, ← readStored path)
  return fun path => (stored.lookup path).getD (.absent .noSuchFile)

/-- Everything that is left on standard input. -/
def readStandardInput : IO (List UInt8) := do
  return (← (← IO.getStdin).readBinToEnd).toList

/-- The libraries of the program. -/
def libraries : Libraries := .standard .given

/-- The outcome of an attempt; one that does not come back is broken off. -/
def outcome (attempt : Attempt (List Char)) : Outcome :=
  (attempt.run.map .ofResult).getD .brokenOff

/-- Runs the command line; standard input is read only when the steps before it have succeeded. -/
def runRequest : Option Request → IO Outcome
  | some (.run options) => do
    let files ← readFiles options
    match (Job.prepare libraries options files []).run with
    | none => return .brokenOff
    | some (.error problem) => return .ofResult (.error problem)
    | some (.ok job) =>
      let standardInput ← if options.input.isSome then pure [] else readStandardInput
      return outcome do job.write (← .ofResult (readInput options files standardInput))
  | some .help => return { exitCode := 0, output := helpText }
  | some .version => return { exitCode := 0, output := versionText }
  | none => return .misused

/-- Runs the program and answers its exit code. -/
def main (words : List String) : IO UInt32 := do
  let outcome ← runRequest (Request.ofWords? (words.map String.toList))
  IO.print (String.ofList outcome.output)
  IO.eprint (String.ofList outcome.errors)
  return outcome.exitCode.toUInt32
