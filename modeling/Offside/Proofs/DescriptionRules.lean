/-
**The tokens of descriptions.**

Descriptions are cut by six rules, which start with different characters: the first character of a
token tells which rule it belongs to, and that rule alone tells how long it is.

* `compile_draft`: the six rules compile, and what their programs are;
* `longestMatch_name`, `longestMatch_mark`, `longestMatch_delimited`: names, the marks between them,
  and texts or patterns between their delimiters, each in front of what may follow.
-/

import Offside.Description
import Offside.Proofs.Kinds
import Offside.Proofs.TokenPatterns

namespace Offside

open Pattern (Closes)
open Unicode (CharSet CodeRanges)

namespace Description

/-! ### The six rules -/

/-- The characters that names start with. -/
def letters : CharSet := .listed ⟨[(65, 90), (97, 122)]⟩

/-- The characters that names go on with. -/
def nameCharacters : CharSet := .listed ⟨[(48, 57), (65, 90), (95, 95), (97, 122)]⟩

/-- The separators between alternatives. -/
def separators : CharSet := .listed ⟨[(44, 44), (124, 124)]⟩

/-- All characters but one. -/
def allBut (code : Nat) : CharSet := .listed ⟨[(0, code - 1), (code + 1, 1114111)]⟩

def nameRule : Rule :=
  .ofRegex nameKind [.regex "[a-zA-Z][a-zA-Z0-9_]*".toList]
    (.anchored (.word letters nameCharacters))

def colonRule : Rule := .ofRegex colonKind [.literal [':']] (.anchored (.one (.single ':')))

def semicolonRule : Rule := .ofRegex semicolonKind [.literal [';']] (.anchored (.one (.single ';')))

def separatorRule : Rule :=
  .ofRegex separatorKind [.literal ['|'], .literal [',']] (.anchored (.one separators))

def literalRule : Rule :=
  .ofRegex literalKind [.regex "'(\\\\.|[^'])*?'".toList]
    (.anchored (.delimited '\'' (allBut 10) (allBut 39)))

def regexRule : Rule :=
  .ofRegex regexKind [.regex "/(\\\\.|[^/])*?/".toList]
    (.anchored (.delimited '/' (allBut 10) (allBut 47)))

/-- The rules of descriptions, compiled. -/
def rules : List Rule := [nameRule, colonRule, semicolonRule, separatorRule, literalRule, regexRule]

theorem combinedPattern_separators :
    Rule.combinedPattern [.literal ['|'], .literal [',']] = "^(?:(?:\\|)|(?:,))".toList := by
  have order : Rule.inOrder [.literal ['|'], .literal [',']] = [.literal ['|'], .literal [',']] :=
    List.mergeSort_of_pairwise (by decide)
  rw [Rule.combinedPattern, order]
  decide

/-- The rules of descriptions compile. -/
theorem compile_draft : draft.compile = .ok ⟨rules, {}, none⟩ := by
  have names : Rule.compile {} nameKind [.regex "[a-zA-Z][a-zA-Z0-9_]*".toList] = .ok nameRule :=
    Rule.compile_eq_ok (by decide) rfl (by decide) (by decide +kernel)
  have colons : Rule.compile {} colonKind [.literal [':']] = .ok colonRule :=
    Rule.compile_eq_ok (by decide) rfl (by decide) (by decide +kernel)
  have semicolons : Rule.compile {} semicolonKind [.literal [';']] = .ok semicolonRule :=
    Rule.compile_eq_ok (by decide) rfl (by decide) (by decide +kernel)
  have separators : Rule.compile {} separatorKind [.literal ['|'], .literal [',']] =
      .ok separatorRule :=
    Rule.compile_eq_ok (by decide) rfl (by decide)
      (by rw [combinedPattern_separators]; decide +kernel)
  have literals : Rule.compile {} literalKind [.regex "'(\\\\.|[^'])*?'".toList] =
      .ok literalRule :=
    Rule.compile_eq_ok (by decide) rfl (by decide) (by decide +kernel)
  have regexes : Rule.compile {} regexKind [.regex "/(\\\\.|[^/])*?/".toList] = .ok regexRule :=
    Rule.compile_eq_ok (by decide) rfl (by decide) (by decide +kernel)
  have listed : draft = ⟨[(nameKind, [.regex "[a-zA-Z][a-zA-Z0-9_]*".toList]),
      (colonKind, [.literal [':']]), (semicolonKind, [.literal [';']]),
      (separatorKind, [.literal ['|'], .literal [',']]),
      (literalKind, [.regex "'(\\\\.|[^'])*?'".toList]),
      (regexKind, [.regex "/(\\\\.|[^/])*?/".toList])], {}, none⟩ := by
    decide
  rw [listed]
  simp only [Draft.compile_eq, Option.filter_none, List.mapM_cons, List.mapM_nil, names, colons,
    semicolons, separators, literals, regexes]
  rfl

theorem lexicon_eq : lexicon = ⟨rules, {}, none⟩ := by
  rw [lexicon, compile_draft]

theorem sound_lexicon : lexicon.Sound := by
  refine Lexicon.sound_of_compile (compile_draft.trans (congrArg _ lexicon_eq.symm)) ?_
  rw [lexicon_eq]
  decide

/-! ### Characters -/

theorem isUpper_eq (c : Char) : c.isUpper = decide (c.val ≥ 65 ∧ c.val ≤ 90) := rfl

theorem isLower_eq (c : Char) : c.isLower = (decide (c.val ≥ 97) && decide (c.val ≤ 122)) := rfl

theorem isAlpha_eq (c : Char) : c.isAlpha = (c.isUpper || c.isLower) := rfl

theorem contains_letters (c : Char) : letters.contains c = c.isAlpha := by
  rw [Bool.eq_iff_iff]
  simp [letters, CharSet.contains, CodeRanges.contains, CodeRanges.holds, isAlpha_eq, isUpper_eq,
    isLower_eq, UInt32.le_iff_toNat_le]
  omega

theorem contains_nameCharacters (c : Char) :
    nameCharacters.contains c = (c.isAlphanum || c == '_') := by
  have lowLine : c = '_' ↔ c.toNat = 95 := Char.toNat_inj.symm
  rw [Bool.eq_iff_iff, Bool.or_eq_true, beq_iff_eq, lowLine]
  simp [nameCharacters, CharSet.contains, CodeRanges.contains, CodeRanges.holds, Char.isAlphanum,
    isAlpha_eq, isUpper_eq, isLower_eq, Char.isDigit, UInt32.le_iff_toNat_le]
  omega

/-- Blanks are no part of a name. -/
theorem contains_nameCharacters_of_isBlank {c : Char} (blank : Text.isBlank c = true) :
    nameCharacters.contains c = false := by
  simp [Text.isBlank] at blank
  simp [nameCharacters, CharSet.contains, CodeRanges.contains, CodeRanges.holds]
  omega

theorem contains_allBut {code : Nat} (positive : 0 < code) {c : Char} (different : c.toNat ≠ code) :
    (allBut code).contains c = true := by
  have bound : c.toNat < 1114112 := by
    rcases c.valid with low | ⟨_, high⟩
    · exact Nat.lt_trans low (by decide)
    · exact high
  simp [allBut, CharSet.contains, CodeRanges.contains, CodeRanges.holds]
  omega

theorem contains_allBut_lineFeed (c : Char) (other : c ≠ '\n') : (allBut 10).contains c = true :=
  contains_allBut (by decide) fun same => other (Char.toNat_inj.mp same)

theorem contains_allBut_quote (c : Char) (other : c ≠ '\'') : (allBut 39).contains c = true :=
  contains_allBut (by decide) fun same => other (Char.toNat_inj.mp same)

theorem contains_allBut_slash (c : Char) (other : c ≠ '/') : (allBut 47).contains c = true :=
  contains_allBut (by decide) fun same => other (Char.toNat_inj.mp same)

theorem contains_separators (c : Char) : separators.contains c = (c == '|' || c == ',') := by
  have bar : c = '|' ↔ c.toNat = 124 := Char.toNat_inj.symm
  have comma : c = ',' ↔ c.toNat = 44 := Char.toNat_inj.symm
  rw [Bool.eq_iff_iff, Bool.or_eq_true, beq_iff_eq, beq_iff_eq, bar, comma]
  simp [separators, CharSet.contains, CodeRanges.contains, CodeRanges.holds]
  omega

/-! ### The rules on their own -/

section Rules

variable (c : Char) (rest : List Char)

@[simp]
theorem findEnd_nameRule : nameRule.program.findEnd (c :: rest) =
    if c.isAlpha then some (1 + (rest.takeWhile nameCharacters.contains).length) else none := by
  rw [← contains_letters]
  exact Pattern.findEnd_word _ _ _ _

@[simp]
theorem findEnd_colonRule :
    colonRule.program.findEnd (c :: rest) = if c = ':' then some 1 else none := by
  have found : colonRule.program.findEnd (c :: rest) = _ := Pattern.findEnd_one _ _ _
  simpa [CharSet.contains_single] using found

@[simp]
theorem findEnd_semicolonRule :
    semicolonRule.program.findEnd (c :: rest) = if c = ';' then some 1 else none := by
  have found : semicolonRule.program.findEnd (c :: rest) = _ := Pattern.findEnd_one _ _ _
  simpa [CharSet.contains_single] using found

@[simp]
theorem findEnd_separatorRule :
    separatorRule.program.findEnd (c :: rest) = if c = '|' ∨ c = ',' then some 1 else none := by
  have found : separatorRule.program.findEnd (c :: rest) = _ := Pattern.findEnd_one _ _ _
  simpa [contains_separators] using found

variable {c}

@[simp]
theorem findEnd_literalRule_of_ne (different : c ≠ '\'') :
    literalRule.program.findEnd (c :: rest) = none :=
  Pattern.findEnd_delimited_of_ne different rest

@[simp]
theorem findEnd_regexRule_of_ne (different : c ≠ '/') :
    regexRule.program.findEnd (c :: rest) = none :=
  Pattern.findEnd_delimited_of_ne different rest

end Rules

section Delimited

variable {text body rest : List Char}

theorem findEnd_literalRule (closes : Closes '\'' text body rest) :
    literalRule.program.findEnd ('\'' :: text) = some (body.length + 2) :=
  Pattern.findEnd_delimited (by decide) contains_allBut_lineFeed contains_allBut_quote closes

theorem findEnd_regexRule (closes : Closes '/' text body rest) :
    regexRule.program.findEnd ('/' :: text) = some (body.length + 2) :=
  Pattern.findEnd_delimited (by decide) contains_allBut_lineFeed contains_allBut_slash closes

theorem exists_closes_of_findEnd_literalRule (unbroken : '\n' ∉ text) {stop : Nat}
    (found : literalRule.program.findEnd ('\'' :: text) = some stop) :
    ∃ body rest, Closes '\'' text body rest ∧ stop = body.length + 2 :=
  Pattern.exists_closes_of_findEnd (by decide) contains_allBut_lineFeed contains_allBut_quote
    unbroken found

theorem exists_closes_of_findEnd_regexRule (unbroken : '\n' ∉ text) {stop : Nat}
    (found : regexRule.program.findEnd ('/' :: text) = some stop) :
    ∃ body rest, Closes '/' text body rest ∧ stop = body.length + 2 :=
  Pattern.exists_closes_of_findEnd (by decide) contains_allBut_lineFeed contains_allBut_slash
    unbroken found

end Delimited

/-! ### Names -/

/-- A letter, and then letters, digits and low lines, all of ASCII. -/
def IsName : List Char → Prop
  | [] => False
  | c :: rest => c.isAlpha = true ∧ ∀ d ∈ rest, d.isAlphanum = true ∨ d = '_'

instance (name : List Char) : Decidable (IsName name) :=
  match name with
  | [] => inferInstanceAs (Decidable False)
  | _ :: rest => @instDecidableAnd _ _ _ (List.decidableBAll _ rest)

theorem IsName.contains {name : List Char} (isName : IsName name) :
    ∀ c ∈ name, nameCharacters.contains c = true := by
  obtain _ | ⟨c, more⟩ := name
  · exact isName.elim
  · intro d member
    rw [contains_nameCharacters, Bool.or_eq_true, beq_iff_eq]
    rcases List.mem_cons.mp member with rfl | member
    · exact .inl (by rw [Char.isAlphanum, isName.1, Bool.true_or])
    · exact isName.2 d member

/-- A name is matched where it is not followed by more of a name. -/
theorem longestMatch_name {name rest : List Char} (isName : IsName name)
    (ends : ∀ c ∈ rest.head?, nameCharacters.contains c = false) :
    lexicon.longestMatch (name ++ rest) = some ⟨nameKind, name⟩ := by
  obtain _ | ⟨c, more⟩ := name
  · exact isName.elim
  have letter := isName.1
  have whole : (more ++ rest).takeWhile nameCharacters.contains = more := by
    have stops : rest.takeWhile nameCharacters.contains = [] := by
      cases rest with
      | nil => rfl
      | cons d rest => exact List.takeWhile_cons_of_neg (Bool.eq_false_iff.mp (ends d rfl))
    rw [List.takeWhile_append_of_pos, stops, List.append_nil]
    exact fun d member => isName.contains d (List.mem_cons_of_mem c member)
  have found : nameRule.program.findEnd (c :: (more ++ rest)) = some (1 + more.length) := by
    rw [findEnd_nameRule, if_pos letter, whole]
  have unlike : ∀ d : Char, d.isAlpha = false → c ≠ d := fun d other same => by
    rw [same, other] at letter
    cases letter
  have alone : ∀ other ∈ [] ++ [colonRule, semicolonRule, separatorRule, literalRule, regexRule],
      other.program.findEnd (c :: (more ++ rest)) = none := by
    simp [unlike]
  rw [lexicon_eq, List.cons_append, Lexicon.longestMatch_of_alone rfl alone found (by omega)]
  have taken : (c :: (more ++ rest)).take (1 + more.length) = c :: more := by
    rw [Nat.add_comm, List.take_succ_cons, List.take_left]
  rw [taken]
  rfl

/-! ### Marks -/

/-- The marks between names and alternatives, with their kinds. -/
def marks : List (Char × String) :=
  [(':', colonKind), (';', semicolonKind), ('|', separatorKind), (',', separatorKind)]

theorem longestMatch_mark {mark : Char} {kind : String} (member : (mark, kind) ∈ marks)
    (rest : List Char) : lexicon.longestMatch (mark :: rest) = some ⟨kind, [mark]⟩ := by
  have colon : lexicon.longestMatch (':' :: rest) = some ⟨colonKind, [':']⟩ := by
    have alone : ∀ other ∈ [nameRule] ++ [semicolonRule, separatorRule, literalRule, regexRule],
        other.program.findEnd (':' :: rest) = none := by
      simp
    rw [lexicon_eq]
    exact Lexicon.longestMatch_of_alone rfl alone (findEnd_colonRule ':' rest) (by decide)
  have semicolon : lexicon.longestMatch (';' :: rest) = some ⟨semicolonKind, [';']⟩ := by
    have alone : ∀ other ∈ [nameRule, colonRule] ++ [separatorRule, literalRule, regexRule],
        other.program.findEnd (';' :: rest) = none := by
      simp
    rw [lexicon_eq]
    exact Lexicon.longestMatch_of_alone rfl alone (findEnd_semicolonRule ';' rest) (by decide)
  have separator : ∀ c, c = '|' ∨ c = ',' →
      lexicon.longestMatch (c :: rest) = some ⟨separatorKind, [c]⟩ := by
    intro c either
    have alone : ∀ other ∈ [nameRule, colonRule, semicolonRule] ++ [literalRule, regexRule],
        other.program.findEnd (c :: rest) = none := by
      rcases either with rfl | rfl <;> simp
    have found := findEnd_separatorRule c rest
    rw [if_pos either] at found
    rw [lexicon_eq]
    exact Lexicon.longestMatch_of_alone rfl alone found (by decide)
  simp only [marks, List.mem_cons, Prod.mk.injEq, List.not_mem_nil, or_false] at member
  rcases member with ⟨rfl, rfl⟩ | ⟨rfl, rfl⟩ | ⟨rfl, rfl⟩ | ⟨rfl, rfl⟩
  · exact colon
  · exact semicolon
  · exact separator _ (.inl rfl)
  · exact separator _ (.inr rfl)

/-! ### Texts and patterns -/

/-- What a matcher stands between. -/
def delimiter : Matcher → Char
  | .literal _ => '\''
  | .regex _ => '/'

/-- The kind of the token that describes a matcher. -/
def matcherKind : Matcher → String
  | .literal _ => literalKind
  | .regex _ => regexKind

/-- A matcher as it is described. -/
def delimited (matcher : Matcher) : List Char :=
  delimiter matcher :: (matcher.source ++ [delimiter matcher])

theorem take_delimited {matcher : Matcher} {text rest : List Char}
    (closes : Closes (delimiter matcher) text matcher.source rest) :
    (delimiter matcher :: text).take (matcher.source.length + 2) = delimited matcher := by
  have shape : delimiter matcher :: text = delimited matcher ++ rest := by
    rw [closes.shape, delimited, List.cons_append, List.append_assoc, List.singleton_append]
  rw [shape]
  exact List.take_left' (by simp [delimited])

theorem longestMatch_delimited {matcher : Matcher} {text rest : List Char}
    (closes : Closes (delimiter matcher) text matcher.source rest) :
    lexicon.longestMatch (delimiter matcher :: text) =
      some ⟨matcherKind matcher, delimited matcher⟩ := by
  rw [lexicon_eq, ← take_delimited closes]
  cases matcher with
  | literal _ =>
    have alone : ∀ other ∈ [nameRule, colonRule, semicolonRule, separatorRule] ++ [regexRule],
        other.program.findEnd ('\'' :: text) = none := by
      simp
    exact Lexicon.longestMatch_of_alone rfl alone (findEnd_literalRule closes) (by omega)
  | regex _ =>
    have alone : ∀ other ∈ [nameRule, colonRule, semicolonRule, separatorRule, literalRule] ++ [],
        other.program.findEnd ('/' :: text) = none := by
      simp
    exact Lexicon.longestMatch_of_alone rfl alone (findEnd_regexRule closes) (by omega)

end Description

end Offside
