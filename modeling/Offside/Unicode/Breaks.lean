/-
**Where text may be broken.**

The classes of characters that decide where a text falls into the characters that a reader sees,
into words and into sentences.
-/

import Offside.Unicode.Property
import Offside.Unicode.Script

namespace Offside.Unicode

/-! ### Characters as a reader sees them -/

namespace GraphemeBreak

open CharSet Category

/-- The joiner of zero width. -/
def joiner : CharSet := single '\u200D'

/-- Marks and the like, which stay with the character before them. -/
def extend : CharSet := .union graphemeExtend (.listed Listed.emojiModifier)

/-- Controls, which stand alone. -/
def control : CharSet :=
  diff
    (.union (tables [lineSeparator, paragraphSeparator, Category.control, format])
      (.inter unassigned (.listed Listed.defaultIgnorable)))
    (unionOf [single '\r', single '\n', joiner, graphemeExtend,
      .listed Listed.prependedConcatenationMark])

/-- Signs that stay with the character after them. -/
def prepend : CharSet :=
  tables [Listed.prependedConcatenationMark,
    .ofText "D4E 111C2-111C3 113D1 1193F 11941 11A3A 11A84-11A89 11D46 11F02"]

/-- Marks that take a place of their own and stay with the character before them. -/
def spacingMark : CharSet :=
  diff (diff (tables [Category.spacingMark, .ofText "E33 EB3"]) graphemeExtend)
    (.listed (.ofText
      "102B-102C 1038 1062-1064 1067-106D 1083 1087-108C 108F 109A-109C 1A61 1A63-1A64 AA7B AA7D
        11720-11721"))

/-- The leading consonants of Korean. -/
def leading : CharSet := .listed (.ofText "1100-115F A960-A97C")

/-- The vowels of Korean. -/
def vowel : CharSet := .listed (.ofText "1160-11A7 D7B0-D7C6 16D63 16D67-16D6A")

/-- The trailing consonants of Korean. -/
def trailing : CharSet := .listed (.ofText "11A8-11FF D7CB-D7FB")

/-- The syllables of Korean without a trailing consonant; there are 28 syllables, this one the
first, for each leading consonant with a vowel. -/
def openSyllable : CharSet := .listed (.ofText "AC00-D788/1C")

/-- The syllables of Korean with a trailing consonant. -/
def closedSyllable : CharSet := diff (.range '\uAC00' '\uD7A3') openSyllable

end GraphemeBreak

/-! ### Words -/

namespace WordBreak

open CharSet Category

/-- Line breaks of one character, other than the two of ASCII. -/
def newline : CharSet := .listed (.ofText "B-C 85 2028-2029")

/-- Marks and the like, which belong to the character before them. -/
def extend : CharSet := .union GraphemeBreak.extend (.listed spacingMark)

/-- Format characters, which break nothing. -/
def format : CharSet :=
  diff (.listed Category.format)
    (unionOf [.listed Listed.prependedConcatenationMark, graphemeExtend, single '\u200B',
      GraphemeBreak.joiner])

/-- Katakana, with the marks that go with it. -/
def katakana : CharSet :=
  tables [Script.katakana.members, .ofText "3031-3035 309B-309C 30A0 30FC FF70"]

/-- The letters of Hebrew. -/
def hebrewLetter : CharSet := .inter (.listed Script.hebrew.members) (.listed otherLetter)

/-- The letters of scripts that are written without blanks between words. -/
def unspacedLetter : CharSet :=
  .listed (.ofText
    "E01-E30 E32-E33 E40-E46 E81-E82 E84 E86-E8A E8C-EA3 EA5 EA7-EB0 EB2-EB3 EBD EC0-EC4 EC6
      EDC-EDF 1000-102A 103F 1050-1055 105A-105D 1061 1065-1066 106E-1070 1075-1081 108E 1780-17B3
      17D7 17DC 1950-196D 1970-1974 1980-19AB 19B0-19C9 1A20-1A54 1AA7 A9E0-A9E4 A9E6-A9EF
      A9FA-A9FE AA60-AA76 AA7A AA7E-AAAF AAB1 AAB5-AAB6 AAB9-AABD AAC0 AAC2 AADB-AADD 11700-1171A
      11740-11746")

/-- The letters of words, with some signs that stand between letters. -/
def letter : CharSet :=
  .union
    (diff alphabetic (unionOf [.listed Listed.ideographic, katakana,
      .listed Script.hiragana.members, hebrewLetter, unspacedLetter, extend]))
    (.listed (.ofText
      "2C2-2C5 2D2-2D7 2DE-2DF 2E5-2EB 2ED 2EF-2FF 55A-55C 55E 58A 5F3 70F A708-A716 A720-A721
        A789-A78A AB5B"))

/-- What may stand between letters. -/
def midLetter : CharSet := .listed (.ofText "3A B7 387 55F 5F4 2027 FE13 FE55 FF1A")

/-- What may stand between digits. -/
def midNumber : CharSet :=
  .listed (.ofText "2C 3B 37E 589 60C-60D 66C 7F8 2044 FE50 FE54 FF0C FF1B")

/-- What may stand between letters and between digits. -/
def midBoth : CharSet := .listed (.ofText "2E 2018-2019 2024 FE52 FF07 FF0E")

/-- Digits, with the signs that enclose them. -/
def numeric : CharSet :=
  tables [decimalNumber, .ofText "600-605 66B 6DD 890-891 8E2 19DA 110BD 110CD"]

/-- Connectors of words. -/
def connector : CharSet := .union (.listed connectorPunctuation) (single '\u202F')

/-- Blanks that may be broken at. -/
def blank : CharSet :=
  diff (.listed spaceSeparator) (unionOf [single '\u00A0', single '\u2007', single '\u202F'])

end WordBreak

/-! ### Sentences -/

namespace SentenceBreak

open CharSet Category

/-- Separators of paragraphs. -/
def separator : CharSet := .listed (.ofText "85 2028-2029")

/-- Marks and the like, which belong to the character before them. -/
def extend : CharSet := unionOf [graphemeExtend, .listed spacingMark, GraphemeBreak.joiner]

/-- Format characters, which break nothing. -/
def format : CharSet := unionOf [WordBreak.format, single '\u070F', single '\u200B']

/-- Blanks within a paragraph. -/
def blank : CharSet := diff .blank (unionOf [separator, single '\r', single '\n'])

/-- Small letters; the letters of Georgian begin no sentence and end none. -/
def lower : CharSet :=
  diff (diff lowercase graphemeExtend) (.listed (.ofText "10D0-10FA 10FD-10FF"))

/-- Capitals. -/
def upper : CharSet :=
  diff (.union uppercase (.listed titlecaseLetter)) (.listed (.ofText "1C90-1CBA 1CBD-1CBF"))

/-- Letters that are neither small nor capital. -/
def letter : CharSet :=
  .union (diff alphabetic (unionOf [lower, upper, extend])) (single '\u05F3')

/-- Digits, with the signs that enclose and group them. -/
def numeric : CharSet := .union WordBreak.numeric (single '\u066C')

/-- Full stops, which need not end a sentence. -/
def fullStop : CharSet := .listed (.ofText "2E 2024 FE52 FF0E")

/-- What ends a sentence. -/
def terminal : CharSet := diff (.listed Listed.sentenceTerminal) fullStop

/-- What a sentence goes on after. -/
def goesOn : CharSet :=
  .listed (.ofText
    "2C-2D 3A-3B 37E 55D 60C-60D 7F8 1802 1808 2013-2014 3001 FE10-FE11 FE13-FE14 FE31-FE32
      FE50-FE51 FE54-FE55 FE58 FE63 FF0C-FF0D FF1A-FF1B FF64")

/-- Brackets and quotation marks. -/
def close : CharSet :=
  tables [openPunctuation, closePunctuation, initialPunctuation, finalPunctuation,
    .ofText "22 27 275B-2760 2E00-2E01 2E06-2E08 2E0B 1F676-1F678"]

end SentenceBreak

end Offside.Unicode
