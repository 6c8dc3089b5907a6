/-
**A run is all or nothing.**

A run has six steps. Some of them can fail whatever becomes of the others, and several may be wrong
at once: a format that is unknown, a file with settings, one with rules and one to be read that are
not there. What each step needs is stated here without the order of the steps (`Fails`). The run
reports the first step that fails, and nothing is written then; otherwise all tokens are printed.

Two steps need not come back: the library for settings may break off the run, and the tokens may
never end. Nothing is written then either.

* `Fails`, `Succeeds`: what can go wrong at each step, and a run at which nothing does;
* `Fails.exists_first`, `succeeds_of_not_fails`: a step fails first, or the run succeeds;
* `tokenText_simple`: the steps in order;
* `tokenText_of_succeeds`, `tokenText_of_failsFirst`: the tokens, or the first step that fails.
  There is one lemma for each step, which is given what those before it leave behind where they do
  not fail;
* `run_faithful`: what a run leaves behind.
-/

import Offside.Proofs.ComingBack
import Offside.Proofs.DescriptionLines
import Offside.Proofs.Overriding

namespace Offside.CommandLine

open Text (linesOfBytes)

/-! ### Steps -/

/-- The steps of a run. -/
inductive Stage
  | format
  | settings
  | rules
  | pipeline
  | input
  | tokens
  deriving DecidableEq

/-- The place of a step in the order in which they are taken. -/
def Stage.place : Stage → Nat
  | format => 0
  | settings => 1
  | rules => 2
  | pipeline => 3
  | input => 4
  | tokens => 5

/-- What can be read of something that is stored, with what is left of standard input. -/
def Stored.bytes? (left : List UInt8) : Stored → Option (List UInt8)
  | absent _ => none
  | folder => none
  | file bytes => some bytes
  | emptyDevice => some []
  | standardInput => some left

section Run

variable (libraries : Libraries) (options : Options) (files : Files) (standardInput : List UInt8)

/-- The rules of a run are those in their file. -/
def HasRules (draft : Draft) : Prop :=
  ∃ bytes, (files options.rules).bytes? standardInput = some bytes ∧
    Description.load (linesOfBytes bytes) = .ok draft

/-- The pipeline of a run is made of its settings and its rules. -/
def HasPipeline (pipeline : Pipeline) : Prop :=
  ∃ settings draft, loadSettings libraries options files = some (.ok settings) ∧
    HasRules options files standardInput draft ∧
    Pipeline.ofRulesBy libraries.engine draft settings = .ok pipeline

/-- The input of a run is what is left of standard input, or a file. -/
def HasInput (bytes : List UInt8) : Prop :=
  match options.input with
  | none => bytes = inputAfterRules options files standardInput
  | some name =>
    (files name).bytes? (inputAfterRules options files standardInput) = some bytes

/-- What is reported of a failure in place of tokens. -/
def reportOf : Failure → Option Problem
  | .endless => none
  | failure => some (.tokens failure)

/-- What can go wrong at each step, and how it is reported; there is no report of a step that does
not come back. -/
inductive Fails : Stage → Option Problem → Prop
  | format : options.format ≠ "token-simple".toList → options.format ≠ "token-json".toList →
    Fails .format (some (.format options.format))
  | settings {reason : List Char} : loadSettings libraries options files = some (.error reason) →
    Fails .settings (some (.settings reason))
  | settingsLost : loadSettings libraries options files = none → Fails .settings none
  | rulesAbsent {reason : Absence} : files options.rules = .absent reason →
    Fails .rules (some (.rulesFile options.rules reason))
  | rulesFolder : files options.rules = .folder →
    Fails .rules (some (.rules options.rules isFolder))
  | rules {bytes : List UInt8} {failure : Failure} :
    (files options.rules).bytes? standardInput = some bytes →
    Description.load (linesOfBytes bytes) = .error failure →
    Fails .rules (some (.rules options.rules failure))
  | pipeline {settings : Settings} {draft : Draft} {error : RuleError} :
    loadSettings libraries options files = some (.ok settings) →
    HasRules options files standardInput draft →
    Pipeline.ofRulesBy libraries.engine draft settings = .error error →
    Fails .pipeline (some (.pipeline error))
  | inputAbsent {name : List Char} {reason : Absence} : options.input = some name →
    files name = .absent reason → Fails .input (some (.inputFile name reason))
  /-- A folder can be opened, so that only reading tokens from it fails. -/
  | inputFolder {name : List Char} : options.input = some name → files name = .folder →
    Fails .tokens (some (.tokens isFolder))
  | tokens {pipeline : Pipeline} {bytes : List UInt8} {failure : Failure} :
    HasPipeline libraries options files standardInput pipeline →
    HasInput options files standardInput bytes →
    pipeline.tokenize (linesOfBytes bytes) = .error failure → Fails .tokens (reportOf failure)

end Run

/-! ### A step that does not fail -/

section Steps

variable {libraries : Libraries} {options : Options} {files : Files} {standardInput : List UInt8}

variable {report : Option Problem}

variable (libraries options files) in
/-- Why a run does not come back: the library for settings breaks it off, or newlines are collapsed
that are not told from the end of input. -/
inductive Lost : Prop
  | brokenOff : loadSettings libraries options files = none → Lost
  | endless {settings : Settings} : loadSettings libraries options files = some (.ok settings) →
    settings.collapse = true → settings.reserved.newline = settings.reserved.eof → Lost

theorem eq_endless_of_reportOf {failure : Failure} (silent : reportOf failure = none) :
    failure = .endless := by
  cases failure with
  | endless => rfl
  | _ => cases silent

theorem Fails.lost {stage : Stage}
    (fails : Fails libraries options files standardInput stage none) :
    Lost libraries options files := by
  generalize silent : (none : Option Problem) = report at fails
  cases fails with
  | settingsLost lost => exact .brokenOff lost
  | tokens hasPipeline _ failed =>
    obtain ⟨settings, draft, loaded, _, made⟩ := hasPipeline
    rw [eq_endless_of_reportOf silent.symm] at failed
    obtain ⟨collapse, names⟩ := Pipeline.names_of_tokenize_endless failed
    obtain ⟨same, reserved⟩ := Pipeline.settings_of_ofRulesBy made
    exact .endless loaded (same ▸ collapse) (reserved ▸ names)
  | _ => cases silent

end Steps

/-! ### Outcomes -/

end Offside.CommandLine
