/-
**Properties of characters.**

The groups of general categories and the binary properties of Unicode, each put together from the
tables in the way the standard defines it.
-/

import Offside.Unicode.Category
import Offside.Unicode.CharSet
import Offside.Unicode.Listed

namespace Offside.Unicode.CharSet

/-! ### Groups of general categories -/

open Category

/-- Letters with case. -/
def casedLetter : CharSet := tables [uppercaseLetter, lowercaseLetter, titlecaseLetter]

/-- Letters. -/
def letter : CharSet :=
  tables [uppercaseLetter, lowercaseLetter, titlecaseLetter, modifierLetter, otherLetter]

/-- Marks. -/
def mark : CharSet := tables [nonspacingMark, spacingMark, enclosingMark]

/-- Numbers. -/
def number : CharSet := tables [decimalNumber, letterNumber, otherNumber]

/-- Punctuation. -/
def punctuation : CharSet :=
  tables [connectorPunctuation, dashPunctuation, openPunctuation, closePunctuation,
    initialPunctuation, finalPunctuation, otherPunctuation]

/-- Symbols. -/
def symbol : CharSet := tables [mathSymbol, currencySymbol, modifierSymbol, otherSymbol]

/-- Separators. -/
def separator : CharSet := tables [spaceSeparator, lineSeparator, paragraphSeparator]

/-- The characters with a general category. -/
def assigned : CharSet :=
  unionOf [letter, mark, number, punctuation, symbol, separator,
    tables [control, format, privateUse]]

/-- The characters without a general category. -/
def unassigned : CharSet := .compl assigned

/-- Control, format, private use and unassigned characters. -/
def other : CharSet := .union (tables [control, format, privateUse]) unassigned

/-! ### Letters and case -/

/-- Letters and letter-like characters. -/
def alphabetic : CharSet := .union letter (tables [letterNumber, Listed.otherAlphabetic])

/-- Lowercase characters. -/
def lowercase : CharSet := tables [lowercaseLetter, Listed.otherLowercase]

/-- Uppercase characters. -/
def uppercase : CharSet := tables [uppercaseLetter, Listed.otherUppercase]

/-- Characters with case. -/
def cased : CharSet := unionOf [lowercase, uppercase, .listed titlecaseLetter]

/-- The characters that do not interrupt a word where case is concerned. -/
def caseIgnorable : CharSet :=
  tables [nonspacingMark, enclosingMark, format, modifierLetter, modifierSymbol,
    Listed.otherCaseIgnorable]

/-- The characters that lower case changes. -/
def changesInLowerCase : CharSet :=
  diff (.union uppercase (.listed titlecaseLetter)) (.listed Listed.capitalsWithoutSmall)

/-- The characters that upper case changes. -/
def changesInUpperCase : CharSet :=
  diff (.union lowercase (.listed titlecaseLetter)) (.listed Listed.smallsWithoutCapital)

/-- The capitals of two letters, which only title case takes apart. -/
def digraphCapital : CharSet :=
  unionOf [single '\u01C4', single '\u01C7', single '\u01CA', single '\u01F1']

/-- The characters that title case changes. -/
def changesInTitleCase : CharSet :=
  .union (diff changesInUpperCase (.listed Listed.titleForms)) digraphCapital

/-- The capitals of Cherokee, to which its small letters fold. -/
def cherokeeCapital : CharSet := .range '\u13A0' '\u13F5'

/-- The characters that case folding changes. -/
def changesInCaseFolding : CharSet :=
  .union (diff changesInLowerCase cherokeeCapital) (.listed Listed.otherFolded)

/-- The characters that lower, upper or title case changes. -/
def changesInCase : CharSet :=
  unionOf [changesInLowerCase, changesInUpperCase, changesInTitleCase]

/-! ### Words and identifiers -/

/-- The two characters that control how their neighbours join. -/
def joinControl : CharSet := .range '\u200C' '\u200D'

/-- The digits of any script. -/
def digit : CharSet := .listed decimalNumber

/-- The characters of words: letters, marks, digits, connectors and the two join controls. -/
def word : CharSet :=
  unionOf [alphabetic, mark, digit, .listed connectorPunctuation, joinControl]

/-- What is kept for patterns and starts or continues no identifier. -/
def patternReserved : CharSet := tables [Listed.patternSyntax, Listed.patternWhiteSpace]

/-- The characters that start identifiers. -/
def idStart : CharSet :=
  diff (unionOf [letter, tables [letterNumber, Listed.otherIdStart]]) patternReserved

/-- The characters that continue identifiers. -/
def idContinue : CharSet :=
  .union idStart (tables [nonspacingMark, spacingMark, decimalNumber, connectorPunctuation,
    Listed.otherIdContinue])

/-- The hexadecimal digits of ASCII. -/
def asciiHexDigit : CharSet := unionOf [.range '0' '9', .range 'A' 'F', .range 'a' 'f']

/-- Hexadecimal digits, those of full width among them. -/
def hexDigit : CharSet :=
  unionOf [asciiHexDigit, .range '\uFF10' '\uFF19', .range '\uFF21' '\uFF26',
    .range '\uFF41' '\uFF46']

/-! ### Shapes -/

/-- The characters that extend the one before them. -/
def graphemeExtend : CharSet :=
  tables [nonspacingMark, enclosingMark, Listed.otherGraphemeExtend]

/-- The characters that have a shape of their own. -/
def graphemeBase : CharSet :=
  diff (diff any (unionOf [other, tables [lineSeparator, paragraphSeparator]])) graphemeExtend

end Offside.Unicode.CharSet
