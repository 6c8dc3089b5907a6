/-
**Descriptions and their language.**

Over the kinds of tokens, the descriptions form a regular language. The machine that reads them
accepts this language and no other, and stops at the first token that no description could go on
with. Whatever becomes of the rest, the alternatives up to there are registered.

* `descriptions`: the language; `sentences`, with the end of input behind each description;
* `Expectation.onward`: what may come where something is expected; `cons_mem_onward_iff` says that a
  step of the machine takes it to what may come behind the token;
* `alternatives`: the alternatives among tokens, each under the name that stands last before it;
* `read_cases`: how reading ends. The induction is on the tokens; what was registered before and the
  name of the current definition are carried along;
* `loadInto_cases`: how reading the lines of a description ends.
-/

import Mathlib.Computability.Language
import Offside.Proofs.DescriptionRules

namespace Offside.Description

open TokenSource
open scoped Computability

/-! ### The language -/

/-- An alternative: a text or a pattern. -/
def choice : Language String := {[literalKind], [regexKind]}

/-- A definition: a name, a colon, alternatives with separators between them, and a semicolon. -/
def definition : Language String :=
  {[nameKind]} * {[colonKind]} * choice * ({[separatorKind]} * choice)∗ * {[semicolonKind]}

/-- A description: any number of definitions. -/
def descriptions : Language String := definition∗

/-- Descriptions with the end of input behind them. -/
def sentences : Language String := descriptions * {[lexicon.reserved.eof]}

/-- What may come behind an alternative. -/
def behindChoice : Language String :=
  ({[separatorKind]} * choice)∗ * ({[semicolonKind]} * sentences)

/-- What may come where something is expected. -/
def Expectation.onward : Expectation → Language String
  | .definition => sentences
  | .colon _ => {[colonKind]} * (choice * behindChoice)
  | .alternative _ => choice * behindChoice
  | .separator _ => behindChoice

section Language

variable {language : Language String} {kind first : String} {rest : List String}

theorem cons_mem_singleton_mul :
    kind :: rest ∈ ({[first]} : Language String) * language ↔ kind = first ∧ rest ∈ language := by
  rw [Language.mem_mul]
  constructor
  · rintro ⟨_, rfl, others, member, same⟩
    obtain ⟨rfl, rfl⟩ := List.cons.inj same
    exact ⟨rfl, member⟩
  · rintro ⟨rfl, member⟩
    exact ⟨[kind], rfl, rest, member, rfl⟩

theorem choice_eq : choice = {[literalKind]} + {[regexKind]} := by
  ext word
  rfl

theorem cons_mem_choice_mul :
    kind :: rest ∈ choice * language ↔
      (kind = literalKind ∨ kind = regexKind) ∧ rest ∈ language := by
  rw [choice_eq, add_mul, Language.mem_add, cons_mem_singleton_mul, cons_mem_singleton_mul,
    or_and_right]

/-- A sentence is the end of input alone or starts with a definition. -/
theorem sentences_eq : sentences =
    {[lexicon.reserved.eof]} + {[nameKind]} * ({[colonKind]} * (choice * behindChoice)) := by
  have unfolded : sentences = (1 + definition * definition∗) * {[lexicon.reserved.eof]} := by
    rw [Language.one_add_self_mul_kstar_eq_kstar]
    rfl
  rw [unfolded, add_mul, one_mul, mul_assoc]
  simp only [definition, behindChoice, sentences, descriptions, mul_assoc]

/-- Behind an alternative comes a separator with another one, or the semicolon. -/
theorem behindChoice_eq : behindChoice =
    {[semicolonKind]} * sentences + {[separatorKind]} * (choice * behindChoice) := by
  conv_lhs => rw [behindChoice, ← Language.one_add_self_mul_kstar_eq_kstar]
  rw [add_mul, one_mul]
  simp only [behindChoice, mul_assoc]

theorem cons_mem_sentences : kind :: rest ∈ sentences ↔
    kind = lexicon.reserved.eof ∧ rest = [] ∨
      kind = nameKind ∧ rest ∈ ({[colonKind]} : Language String) * (choice * behindChoice) := by
  conv_lhs => rw [sentences_eq]
  rw [Language.mem_add, cons_mem_singleton_mul]
  refine or_congr_left ?_
  show kind :: rest = [_] ↔ _
  exact List.cons.injEq .. ▸ Iff.rfl

theorem cons_mem_behindChoice : kind :: rest ∈ behindChoice ↔
    kind = semicolonKind ∧ rest ∈ sentences ∨
      kind = separatorKind ∧ rest ∈ choice * behindChoice := by
  conv_lhs => rw [behindChoice_eq]
  rw [Language.mem_add, cons_mem_singleton_mul, cons_mem_singleton_mul]

end Language

/-- **A step takes what may come to what may come behind the token.** -/
theorem cons_mem_onward_iff (expectation : Expectation) (token : Token) (rest : List String) :
    token.kind :: rest ∈ expectation.onward ↔
      match step expectation token with
      | .expect next _ => rest ∈ next.onward
      | .done => rest = []
      | .reject => False := by
  have eofNotName : lexicon.reserved.eof ≠ nameKind := by
    rw [lexicon_eq]
    decide
  cases expectation with
  | definition =>
    rw [Expectation.onward, cons_mem_sentences, step]
    by_cases isName : token.kind = nameKind
    · have noEof : token.kind ≠ lexicon.reserved.eof := isName ▸ Ne.symm eofNotName
      simp [isName, Ne.symm eofNotName, Expectation.onward]
    · by_cases isEof : token.kind = lexicon.reserved.eof
      · simp [isEof, eofNotName]
      · simp [isName, isEof]
  | colon name =>
    rw [Expectation.onward, cons_mem_singleton_mul, step]
    by_cases isColon : token.kind = colonKind <;> simp [isColon, Expectation.onward]
  | alternative name =>
    rw [Expectation.onward, cons_mem_choice_mul, step]
    by_cases isLiteral : token.kind = literalKind
    · simp [isLiteral, Expectation.onward]
    · by_cases isRegex : token.kind = regexKind
      · simp [isRegex, show regexKind ≠ literalKind by decide, Expectation.onward]
      · simp [isLiteral, isRegex]
  | separator name =>
    rw [Expectation.onward, cons_mem_behindChoice, step]
    by_cases isSeparator : token.kind = separatorKind
    · simp [isSeparator, show separatorKind ≠ semicolonKind by decide, Expectation.onward]
    · by_cases isSemicolon : token.kind = semicolonKind
      · simp [isSemicolon, show semicolonKind ≠ separatorKind by decide, Expectation.onward]
      · simp [isSeparator, isSemicolon]

/-- Whatever is expected, a description can be completed. -/
theorem exists_mem_onward (expectation : Expectation) : ∃ rest, rest ∈ expectation.onward := by
  have finished : [lexicon.reserved.eof] ∈ sentences := cons_mem_sentences.mpr (.inl ⟨rfl, rfl⟩)
  have closed : [semicolonKind, lexicon.reserved.eof] ∈ behindChoice :=
    cons_mem_behindChoice.mpr (.inl ⟨rfl, finished⟩)
  have more : [literalKind, semicolonKind, lexicon.reserved.eof] ∈ choice * behindChoice :=
    cons_mem_choice_mul.mpr ⟨.inl rfl, closed⟩
  cases expectation with
  | definition => exact ⟨_, finished⟩
  | colon _ => exact ⟨_, cons_mem_singleton_mul.mpr ⟨rfl, more⟩⟩
  | alternative _ => exact ⟨_, more⟩
  | separator _ => exact ⟨_, closed⟩

/-! ### Alternatives and their names -/

/-- The name that holds behind a token: a name starts a new definition. -/
def nameBehind (name : String) (token : Token) : String :=
  if token.kind = nameKind then String.ofList token.text else name

/-- The matcher that a token describes. -/
def matcher? (token : Token) : Option Matcher :=
  if token.kind = literalKind then some (.literal (withoutDelimiters token.text))
  else if token.kind = regexKind then some (.regex (withoutDelimiters token.text))
  else none

/-- The alternatives among tokens, each under the name that stands last before it; `name` is the one
that stands before all of them. -/
def alternatives : (name : String) → List Token → List (String × Matcher)
  | _, [] => []
  | name, token :: tokens =>
    ((matcher? token).map fun matcher => (name, matcher)).toList ++
      alternatives (nameBehind name token) tokens

/-- Registers matchers one by one. -/
def registerAll (draft : Draft) (added : List (String × Matcher)) : Draft :=
  added.foldl (fun draft (name, matcher) => draft.register name [matcher]) draft

theorem registerAll_append (draft : Draft) (first second : List (String × Matcher)) :
    registerAll draft (first ++ second) = registerAll (registerAll draft first) second :=
  List.foldl_append

theorem register_eq_registerAll (draft : Draft) (added : Option (String × Matcher)) :
    register draft added = registerAll draft added.toList := by
  cases added <;> rfl

/-- What is expected belongs to the definition of a name. -/
def Expectation.Of (name : String) : Expectation → Prop
  | .definition => True
  | .colon other => other = name
  | .alternative other => other = name
  | .separator other => other = name

/-- Reading goes on behind tokens other than the end of input, and what a step registers is the
alternative that the token describes. -/
theorem of_step_eq_expect {name : String} {expectation next : Expectation} {token : Token}
    {added : Option (String × Matcher)} (here : expectation.Of name)
    (went : step expectation token = .expect next added) :
    token.kind ≠ lexicon.reserved.eof ∧ next.Of (nameBehind name token) ∧
      added = (matcher? token).map fun matcher => (name, matcher) := by
  rw [lexicon_eq]
  cases expectation with
  | definition =>
    rw [step] at went
    split at went
    · rename_i isName
      cases went
      simp [Expectation.Of, nameBehind, matcher?, isName, nameKind, literalKind, regexKind]
    · split at went <;> cases went
  | colon other =>
    obtain rfl : other = name := here
    rw [step] at went
    split at went
    · rename_i isColon
      cases went
      simp [Expectation.Of, nameBehind, matcher?, isColon, colonKind, nameKind, literalKind,
        regexKind]
    · cases went
  | alternative other =>
    obtain rfl : other = name := here
    rw [step] at went
    split at went
    · rename_i isLiteral
      cases went
      simp [Expectation.Of, nameBehind, matcher?, isLiteral, nameKind, literalKind]
    · split at went
      · rename_i isRegex
        cases went
        simp [Expectation.Of, nameBehind, matcher?, isRegex, nameKind, literalKind, regexKind]
      · cases went
  | separator other =>
    obtain rfl : other = name := here
    rw [step] at went
    split at went
    · rename_i isSeparator
      cases went
      simp [Expectation.Of, nameBehind, matcher?, isSeparator, separatorKind, nameKind, literalKind,
        regexKind]
    · split at went
      · rename_i isSemicolon
        cases went
        simp [Expectation.Of, matcher?, isSemicolon, semicolonKind, literalKind, regexKind]
      · cases went

/-- Only the end of input completes a description. -/
theorem of_step_eq_done {expectation : Expectation} {token : Token}
    (went : step expectation token = .done) :
    token.kind = lexicon.reserved.eof := by
  cases expectation with
  | definition =>
    rw [step] at went
    split at went
    · cases went
    · split at went
      · assumption
      · cases went
  | colon _ =>
    rw [step] at went
    split at went <;> cases went
  | alternative _ =>
    rw [step] at went
    split at went
    · cases went
    · split at went <;> cases went
  | separator _ =>
    rw [step] at went
    split at went
    · cases went
    · split at went <;> cases went

section Eof

variable {token : Token} (isEof : token.kind = lexicon.reserved.eof)

include isEof

theorem step_definition_of_eof : step .definition token = .done := by
  rw [lexicon_eq] at isEof
  simp [step, isEof, nameKind, lexicon_eq]

/-- The end of input stands nowhere but where a definition may begin. -/
theorem step_of_eof (expectation : Expectation) :
    expectation = .definition ∨ step expectation token = .reject := by
  rw [lexicon_eq] at isEof
  cases expectation with
  | definition => exact .inl rfl
  | colon => exact .inr (by simp [step, isEof, colonKind])
  | alternative => exact .inr (by simp [step, isEof, literalKind, regexKind])
  | separator => exact .inr (by simp [step, isEof, separatorKind, semicolonKind])

end Eof

/-! ### How reading ends -/

/-- What a scanner hands out ends with the end of input or a failure, and has neither before. -/
inductive Ended : List (Except Failure Placed) → Prop
  | failure (failure : Failure) : Ended [.error failure]
  | eof {placed : Placed} : placed.token.kind = lexicon.reserved.eof → Ended [.ok placed]
  | more {placed : Placed} {items : List (Except Failure Placed)} :
    placed.token.kind ≠ lexicon.reserved.eof → Ended items → Ended (.ok placed :: items)

/-- The kinds of tokens. -/
def kinds (placed : List Placed) : List String := placed.map (·.token.kind)

/-- Whether an item can stand behind tokens where something is expected: it is a token, and
something can follow it. -/
def CanFollow (language : Language String) (before : List Placed) : Except Failure Placed → Prop
  | .error _ => False
  | .ok placed => ∃ rest, kinds before ++ placed.token.kind :: rest ∈ language

/-- The failure that an item gives if it cannot follow: its own, or one that names the token and the
place where it stands. -/
def Blames (failure : Failure) : Except Failure Placed → Prop
  | .error own => failure = own
  | .ok placed => ∃ expected, failure = .unexpectedToken expected placed.token.label
      (Caret.atColumn placed.line placed.token.row placed.token.column)

/-- The alternatives among the tokens of a description. -/
def described (name : String) (placed : List Placed) : List (String × Matcher) :=
  alternatives name (placed.map (·.token))

/-- How reading ends where something is expected: all items are tokens of a sentence, or some item
cannot follow those before it. The alternatives up to there are registered. -/
inductive Outcome (language : Language String) (draft : Draft) (name : String) :
    List (Except Failure Placed) → Draft × Option Failure → Prop
  | complete {inside : List Placed} {last : Placed} :
    last.token.kind = lexicon.reserved.eof → kinds (inside ++ [last]) ∈ language →
    Outcome language draft name ((inside ++ [last]).map .ok)
      (registerAll draft (described name inside), none)
  | stopped {before : List Placed} {item : Except Failure Placed}
      {after : List (Except Failure Placed)} {failure : Failure} :
    (∃ rest, kinds before ++ rest ∈ language) → ¬ CanFollow language before item →
      Blames failure item →
    Outcome language draft name (before.map .ok ++ item :: after)
      (registerAll draft (described name before), some failure)

section Outcome

variable {draft : Draft} {expectation next : Expectation} {name : String} {placed : Placed}
  {items : List (Except Failure Placed)}

/-- A token that is not expected cannot follow. -/
theorem Outcome.of_reject (went : step expectation placed.token = .reject) :
    Outcome expectation.onward draft name (.ok placed :: items)
      (draft, some (unexpected expectation placed)) := by
  have wrong : ¬ CanFollow expectation.onward [] (.ok placed) := by
    rintro ⟨rest, member⟩
    have stuck := (cons_mem_onward_iff expectation placed.token rest).mp member
    rw [went] at stuck
    exact stuck
  exact .stopped (exists_mem_onward expectation) wrong ⟨expectation.describe, rfl⟩

/-- A token that is expected is read before everything else. -/
theorem Outcome.of_expect {added : Option (String × Matcher)} {result : Draft × Option Failure}
    (here : expectation.Of name) (went : step expectation placed.token = .expect next added)
    (outcome : Outcome next.onward (register draft added) (nameBehind name placed.token) items
      result) :
    Outcome expectation.onward draft name (.ok placed :: items) result := by
  obtain ⟨_, _, adds⟩ := of_step_eq_expect here went
  have onward : ∀ rest, placed.token.kind :: rest ∈ expectation.onward ↔ rest ∈ next.onward := by
    intro rest
    rw [cons_mem_onward_iff, went]
  have more : ∀ others : List Placed, registerAll (register draft added)
      (described (nameBehind name placed.token) others) =
        registerAll draft (described name (placed :: others)) := by
    intro others
    rw [register_eq_registerAll, ← registerAll_append, adds]
    rfl
  cases outcome with
  | @complete inside last isEof member =>
    rw [more]
    exact @Outcome.complete _ _ _ (placed :: inside) last isEof ((onward _).mpr member)
  | @stopped before item after failure viable wrong blames =>
    rw [more]
    refine @Outcome.stopped _ _ _ (placed :: before) item after failure ?_ ?_ blames
    · obtain ⟨rest, member⟩ := viable
      exact ⟨rest, (onward _).mpr member⟩
    · cases item with
      | error => exact id
      | ok other =>
        rintro ⟨rest, member⟩
        exact wrong ⟨rest, (onward _).mp member⟩

end Outcome

/-- **How reading ends.** -/
theorem read_cases {items : List (Except Failure Placed)} (ended : Ended items) :
    ∀ (draft : Draft) (expectation : Expectation) (name : String), expectation.Of name →
      Outcome expectation.onward draft name items (read draft expectation items) := by
  induction ended with
  | failure failure =>
    intro draft expectation name _
    exact @Outcome.stopped _ _ _ [] _ [] _ (exists_mem_onward expectation) id rfl
  | @eof placed isEof =>
    intro draft expectation name here
    rw [read]
    cases went : step expectation placed.token with
    | expect next added => exact absurd isEof (of_step_eq_expect here went).1
    | reject => exact .of_reject went
    | done =>
      have alone : kinds ([] ++ [placed]) ∈ expectation.onward := by
        have finished := (cons_mem_onward_iff expectation placed.token []).mpr
        rw [went] at finished
        exact finished rfl
      exact .complete isEof alone
  | @more placed items inside _ ih =>
    intro draft expectation name here
    rw [read]
    cases went : step expectation placed.token with
    | expect next added =>
      exact .of_expect here went (ih _ next _ (of_step_eq_expect here went).2.1)
    | reject => exact .of_reject went
    | done => exact absurd (of_step_eq_done went) inside

/-! ### What there is to read -/

/-- What a scanner hands out up to the end of input or the first failure. -/
theorem ended_scan {scanner : Scanner} (kinds : reserved scanner = lexicon.reserved) :
    Ended (scan scanner) := by
  unfold scan
  fun_induction history scanner with
  | case1 scanner failure later popped => exact .failure failure
  | case2 scanner token later popped isEof =>
    rw [kinds] at isEof
    exact .eof isEof
  | case3 scanner token later popped inside ih =>
    have same : reserved later = reserved scanner := by
      rw [← reserved_pop scanner, popped]
    rw [kinds] at inside
    exact .more inside (ih (same.trans kinds))

theorem isLayout_of_eof {placed : Placed} (isEof : placed.token.kind = lexicon.reserved.eof) :
    isLayout (.ok placed) = false := by
  rw [lexicon_eq] at isEof
  simp [isLayout, isEof, lexicon_eq]

/-- Leaving out the tokens for the layout of lines keeps the end. -/
theorem Ended.filter {items : List (Except Failure Placed)} (ended : Ended items) :
    Ended (items.filter fun result => !isLayout result) := by
  induction ended with
  | failure failure => exact .failure failure
  | eof isEof =>
    rw [List.filter_cons_of_pos (by rw [isLayout_of_eof isEof]; rfl)]
    exact .eof isEof
  | @more placed items inside _ ih =>
    rw [List.filter_cons]
    split
    · exact .more inside ih
    · exact ih

/-- What there is to read in the lines of a description: what the scanner hands out, without the
tokens for the layout of lines. -/
def items (lines : List Text.Line) : List (Except Failure Placed) :=
  (scan (Scanner.ofLines lexicon lines)).filter fun result => !isLayout result

theorem ended_items (lines : List Text.Line) : Ended (items lines) :=
  (ended_scan rfl).filter

/-- All items are tokens, and those in front of the end of input make a description. -/
def Complete (items : List (Except Failure Placed)) (inside : List Placed) : Prop :=
  ∃ last : Placed, items = (inside ++ [last]).map .ok ∧ last.token.kind = lexicon.reserved.eof ∧
    kinds inside ∈ descriptions

/-- A sentence is a description with the end of input behind it. -/
theorem concat_mem_sentences {words : List String} :
    words ++ [lexicon.reserved.eof] ∈ sentences ↔ words ∈ descriptions := by
  rw [sentences, Language.mem_mul]
  constructor
  · rintro ⟨front, member, _, rfl, same⟩
    obtain ⟨rfl, _⟩ := List.append_inj' same rfl
    exact member
  · exact fun member => ⟨words, member, _, rfl, rfl⟩

theorem kinds_concat {inside : List Placed} {last : Placed}
    (isEof : last.token.kind = lexicon.reserved.eof) :
    kinds (inside ++ [last]) = kinds inside ++ [lexicon.reserved.eof] := by
  rw [kinds, List.map_append, List.map_singleton, isEof]
  rfl

/-- What can follow the tokens before it does not stand where reading stops. -/
theorem Complete.not_stopped {inside before : List Placed} {item : Except Failure Placed}
    {after : List (Except Failure Placed)}
    (complete : Complete (before.map .ok ++ item :: after) inside)
    (wrong : ¬ CanFollow sentences before item) : False := by
  obtain ⟨last, same, isEof, member⟩ := complete
  obtain ⟨front, others, shape, isBefore, isItem⟩ := List.map_eq_append_iff.mp same.symm
  obtain ⟨placed, behind, rfl, rfl, _⟩ := List.map_eq_cons_iff.mp isItem
  have sameFront : front = before :=
    (List.map_inj_right fun _ _ => Except.ok.inj).mp isBefore
  subst sameFront
  refine wrong ⟨kinds behind, ?_⟩
  rw [← concat_mem_sentences, ← kinds_concat isEof, shape, kinds, List.map_append,
    List.map_cons] at member
  exact member

/-- **Descriptions are read up to the first token that does not fit.** Reading succeeds if and only
if what there is to read is a description with the end of input behind it, and then registers all of
its alternatives. Otherwise it fails at the first item that cannot follow those before it, with the
failure of that item or with one that names the token and its place, and has registered the
alternatives before it. Each alternative is registered on its own, in order, under the name of its
definition. -/
theorem loadInto_cases (draft : Draft) (lines : List Text.Line) :
    ((loadInto draft lines).2 = none ↔ ∃ inside, Complete (items lines) inside) ∧
    (∀ inside, Complete (items lines) inside →
      (loadInto draft lines).1 = registerAll draft (described "" inside)) ∧
    ∀ failure, (loadInto draft lines).2 = some failure → ∃ before item after,
      items lines = before.map .ok ++ item :: after ∧
      (∃ rest, kinds before ++ rest ∈ sentences) ∧ ¬ CanFollow sentences before item ∧
      Blames failure item ∧ (loadInto draft lines).1 = registerAll draft (described "" before) := by
  have outcome : Outcome sentences draft "" (items lines) (loadInto draft lines) :=
    read_cases (ended_items lines) draft .definition "" trivial
  generalize items lines = list at outcome
  generalize loadInto draft lines = result at outcome
  cases outcome with
  | @complete inside last isEof member =>
    rw [kinds_concat isEof, concat_mem_sentences] at member
    refine ⟨⟨fun _ => ⟨inside, last, rfl, isEof, member⟩, fun _ => rfl⟩, ?_, ?_⟩
    · rintro others ⟨final, same, _, _⟩
      have tokens : inside ++ [last] = others ++ [final] :=
        (List.map_inj_right fun _ _ => Except.ok.inj).mp same
      rw [(List.append_inj' tokens rfl).1]
    · intro failure absent
      cases absent
  | @stopped before item after failure viable wrong blames =>
    refine ⟨⟨fun absent => ?_, fun ⟨_, complete⟩ => (complete.not_stopped wrong).elim⟩, ?_, ?_⟩
    · cases absent
    · exact fun _ complete => (complete.not_stopped wrong).elim
    · intro other same
      obtain rfl := Option.some.inj same
      exact ⟨before, item, after, rfl, viable, wrong, blames, rfl⟩

end Offside.Description
