/-
**Characters of the latest version.**

Patterns ask for the characters of version 16 of the Unicode standard, while names of groups, lower
case and texts that are shown between quotes know those of version 17 as well. What version 17 adds
is listed here; of the characters before it, one alone changes: U+0295 has no case any more.
-/

import Offside.Unicode.Property

namespace Offside.Unicode

namespace Later

/-- The characters that are added. -/
def assigned : CodeRanges := .ofText
  "88F C5C CDC 1ACF-1ADD 1AE0-1AEB 20C1 2B96 A7CE-A7CF A7D2 A7D4 A7F1 FBC3-FBD2 FD90-FD91
    FDC8-FDCE 10940-10959 10EC5-10EC7 10ED0-10ED8 10EFA-10EFB 11B60-11B67 11DB0-11DDB 11DE0-11DE9
    16EA0-16EB8 16EBB-16ED3 16FF2-16FF6 187F8-187FF 18D09-18D1E 18D80-18DF2 1CCFA-1CCFC
    1CEBA-1CED0 1CEE0-1CEF0 1E6C0-1E6DE 1E6E0-1E6F5 1E6FE-1E6FF 1F6D8 1F777-1F77A 1F8D0-1F8D8
    1FA54-1FA57 1FA8A 1FA8E 1FAC8 1FACD 1FAEA 1FAEF 1FBFA 2B73A-2B73F 2CEA2-2CEAD 323B0-33479"

/-- The letters and letter-like characters among them. -/
def alphabetic : CodeRanges := .ofText
  "88F C5C CDC A7CE-A7CF A7D2 A7D4 A7F1 10940-10959 10EC5-10EC7 10EFA-10EFB 11B60-11B67
    11DB0-11DDB 16EA0-16EB8 16EBB-16ED3 16FF2-16FF6 187F8-187FF 18D09-18D1E 18D80-18DF2
    1E6C0-1E6DE 1E6E0-1E6F5 1E6FE-1E6FF 2B73A-2B73F 2CEA2-2CEAD 323B0-33479"

/-- The numbers among them. -/
def number : CodeRanges := .ofText "11DE0-11DE9 16FF4-16FF6"

/-- The characters with case among them. -/
def cased : CodeRanges := .ofText "A7CE-A7CF A7D2 A7D4 A7F1 16EA0-16EB8 16EBB-16ED3"

/-- The characters among them that do not interrupt a word where case is concerned. -/
def caseIgnorable : CodeRanges := .ofText
  "1ACF-1ADD 1AE0-1AEB A7F1 10EC5 10EFA-10EFB 11B60 11B62-11B64 11B66 11DD9 16FF2-16FF3 1E6E3
    1E6E6 1E6EE-1E6EF 1E6F5 1E6FF"

/-- The characters among them that extend the one before them. -/
def graphemeExtend : CodeRanges := .ofText
  "1ACF-1ADD 1AE0-1AEB 10EFA-10EFB 11B60 11B62-11B64 11B66 1E6E3 1E6E6 1E6EE-1E6EF 1E6F5"

/-- The capitals among them, with the distance to their small letters. -/
def capitalRuns : List FoldingRun :=
  (words "A7CE+1 A7D2-A7D4/2+1 16EA0-16EB8+1B").map FoldingRun.ofWord

end Later

namespace CharSet

/-- Letters and letter-like characters, the latest among them. -/
def latestAlphabetic : CharSet := .union alphabetic (.listed Later.alphabetic)

/-- Numbers, the latest among them. -/
def latestNumber : CharSet := .union number (.listed Later.number)

/-- Characters with case, as the latest version has them. -/
def latestCased : CharSet := .union (diff cased (single '\u0295')) (.listed Later.cased)

/-- The characters that do not interrupt a word where case is concerned, the latest among them. -/
def latestCaseIgnorable : CharSet := .union caseIgnorable (.listed Later.caseIgnorable)

/-- The characters that extend the one before them, the latest among them. -/
def latestGraphemeExtend : CharSet := .union graphemeExtend (.listed Later.graphemeExtend)

/-- Control, format, private use and unassigned characters, without the latest characters. -/
def latestOther : CharSet := diff other (.listed Later.assigned)

end CharSet

end Offside.Unicode
