/-
**The pipeline from rules and settings to tokens.**

A pipeline scans a text by its rules, collapses newlines and counts levels of indentation, the
latter two if the settings ask for it. The names of the kinds for layout come from the settings, and
so does the ignored kind if they name one.

* `reserved_of_compileBy`, `settings_of_ofRulesBy`: a pipeline has the names and the settings that
  it was made with.
-/

import Offside.Settings.Basic
import Offside.Source.Stack

namespace Offside

/-- Rules and settings that tokens are made by. -/
structure Pipeline where
  lexicon : Lexicon
  settings : Settings
  unit_ne_nil : settings.levels = true → settings.unit ≠ []

namespace Pipeline

/-- A pipeline over compiled rules; indentation cannot be counted in units of nothing. -/
def ofLexicon (lexicon : Lexicon) (settings : Settings) : Except RuleError Pipeline :=
  if empty : settings.levels = true ∧ settings.unit = [] then .error .emptyIndentUnit
  else .ok ⟨lexicon, settings, fun counted none => empty ⟨counted, none⟩⟩

/-- The rules with the names that the settings give. -/
def applyNames (draft : Draft) (settings : Settings) : Draft :=
  { draft with
    reserved := settings.reserved
    ignored := settings.ignored <|> draft.ignored }

/-- A pipeline over rules that an engine compiles with the names that the settings give. -/
def ofRulesBy (engine : Pattern.Engine) (draft : Draft) (settings : Settings) :
    Except RuleError Pipeline := do
  ofLexicon (← (applyNames draft settings).compileBy engine) settings

/-- A pipeline over rules that are compiled whatever the size of their patterns. -/
def ofRules (draft : Draft) (settings : Settings) : Except RuleError Pipeline :=
  ofRulesBy .unlimited draft settings

theorem ofRules_eq (draft : Draft) (settings : Settings) : ofRules draft settings =
    (applyNames draft settings).compile >>= fun lexicon => ofLexicon lexicon settings := rfl

/-- The filters that the settings ask for, around a stack. -/
def filters (settings : Settings) (stack : Stack) : Stack :=
  let collapsed := if settings.collapse then stack.collapse settings.trim else stack
  if settings.levels then collapsed.countLevels settings.unit else collapsed

/-- The source of the tokens of a document. -/
def lex (pipeline : Pipeline) (lines : List Text.Line) : Stack :=
  filters pipeline.settings (.ofScanner (Scanner.ofLines pipeline.lexicon lines))

/-- The tokens of a document, up to the end of input, or the first failure. -/
def tokenize (pipeline : Pipeline) (lines : List Text.Line) : Except Failure (List Token) :=
  (pipeline.lex lines).collect

/-! ### The names in a pipeline -/

/-- A sequence that succeeds has a first part that succeeds. -/
theorem exists_of_bind_eq_ok {ε α β : Type} {first : Except ε α} {next : α → Except ε β}
    {result : β} (succeeded : (first >>= next) = .ok result) :
    ∃ value, first = .ok value ∧ next value = .ok result := by
  cases first with
  | error failure => cases succeeded
  | ok value => exact ⟨value, rfl, succeeded⟩

/-- Compiled rules keep the names they were compiled with. -/
theorem reserved_of_compileBy {engine : Pattern.Engine} {draft : Draft} {lexicon : Lexicon}
    (compiled : draft.compileBy engine = .ok lexicon) : lexicon.reserved = draft.reserved := by
  rw [Draft.compileBy] at compiled
  split at compiled
  · cases compiled
  · obtain ⟨rules, _, built⟩ := exists_of_bind_eq_ok compiled
    cases built
    rfl

theorem reserved_of_compile {draft : Draft} {lexicon : Lexicon}
    (compiled : draft.compile = .ok lexicon) : lexicon.reserved = draft.reserved :=
  reserved_of_compileBy compiled

/-- A pipeline has the settings it was made with, and the names for layout are theirs. -/
theorem settings_of_ofRulesBy {engine : Pattern.Engine} {draft : Draft} {settings : Settings}
    {pipeline : Pipeline} (made : ofRulesBy engine draft settings = .ok pipeline) :
    pipeline.settings = settings ∧ pipeline.lexicon.reserved = settings.reserved := by
  obtain ⟨lexicon, compiled, built⟩ := exists_of_bind_eq_ok made
  have names := reserved_of_compileBy compiled
  rw [ofLexicon] at built
  split at built
  · cases built
  · cases built
    exact ⟨rfl, names⟩

end Pipeline

end Offside
