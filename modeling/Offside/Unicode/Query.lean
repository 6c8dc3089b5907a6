/-
**Sets of characters by name.**

A pattern asks for the characters with a property by name: a binary property, a general category or
a script alone, and other properties together with a value. Names are compared without case, blanks,
hyphens and low lines. `CharSet.ofName?` answers the first kind of question and
`CharSet.ofPropertyValue?` the second.
-/

import Offside.Unicode.Age
import Offside.Unicode.Breaks
import Offside.Unicode.ScriptExtension

namespace Offside.Unicode.CharSet

open Category

/-- Names without case, spaces, low lines, hyphens and characters outside ASCII; a leading `is` is
left out too, except in `isc`. -/
def looseName (name : List Char) : String :=
  let lower := name.map Char.toLower
  let hasIs := lower.take 2 == ['i', 's']
  let kept := (if hasIs then lower.drop 2 else lower).filter fun c =>
    c ≠ ' ' && c ≠ '_' && c ≠ '-' && c.toNat < 128
  if hasIs && kept == ['c'] then "isc" else String.ofList kept

/-- Sets of characters, each with its loose names. -/
abbrev Named := List (List String × CharSet)

/-- The general categories. -/
def categories : Named :=
  [(["lu", "uppercaseletter"], .listed uppercaseLetter),
   (["ll", "lowercaseletter"], .listed lowercaseLetter),
   (["lt", "titlecaseletter"], .listed titlecaseLetter),
   (["lm", "modifierletter"], .listed modifierLetter),
   (["lo", "otherletter"], .listed otherLetter),
   (["lc", "casedletter"], casedLetter),
   (["l", "letter"], letter),
   (["mn", "nonspacingmark"], .listed nonspacingMark),
   (["mc", "spacingmark"], .listed spacingMark),
   (["me", "enclosingmark"], .listed enclosingMark),
   (["m", "mark", "combiningmark"], mark),
   (["nd", "decimalnumber", "digit"], .listed decimalNumber),
   (["nl", "letternumber"], .listed letterNumber),
   (["no", "othernumber"], .listed otherNumber),
   (["n", "number"], number),
   (["pc", "connectorpunctuation"], .listed connectorPunctuation),
   (["pd", "dashpunctuation"], .listed dashPunctuation),
   (["ps", "openpunctuation"], .listed openPunctuation),
   (["pe", "closepunctuation"], .listed closePunctuation),
   (["pi", "initialpunctuation"], .listed initialPunctuation),
   (["pf", "finalpunctuation"], .listed finalPunctuation),
   (["po", "otherpunctuation"], .listed otherPunctuation),
   (["p", "punctuation", "punct"], punctuation),
   (["sm", "mathsymbol"], .listed mathSymbol),
   (["sc", "currencysymbol"], .listed currencySymbol),
   (["sk", "modifiersymbol"], .listed modifierSymbol),
   (["so", "othersymbol"], .listed otherSymbol),
   (["s", "symbol"], symbol),
   (["zs", "spaceseparator"], .listed spaceSeparator),
   (["zl", "lineseparator"], .listed lineSeparator),
   (["zp", "paragraphseparator"], .listed paragraphSeparator),
   (["z", "separator"], separator),
   (["cc", "control", "cntrl"], .listed control),
   (["cf", "format"], .listed format),
   (["co", "privateuse"], .listed privateUse),
   (["cn", "unassigned"], unassigned),
   (["c", "other"], other),
   (["any"], any),
   (["assigned"], assigned),
   (["ascii"], .range '\x00' '\x7F')]

/-- The binary properties. -/
def properties : Named :=
  [(["alpha", "alphabetic"], alphabetic),
   (["lower", "lowercase"], lowercase),
   (["upper", "uppercase"], uppercase),
   (["cased"], cased),
   (["ci", "caseignorable"], caseIgnorable),
   (["cwl", "changeswhenlowercased"], changesInLowerCase),
   (["cwu", "changeswhenuppercased"], changesInUpperCase),
   (["cwt", "changeswhentitlecased"], changesInTitleCase),
   (["cwcf", "changeswhencasefolded"], changesInCaseFolding),
   (["cwcm", "changeswhencasemapped"], changesInCase),
   (["sd", "softdotted"], .listed Listed.softDotted),
   (["oalpha", "otheralphabetic"], .listed Listed.otherAlphabetic),
   (["olower", "otherlowercase"], .listed Listed.otherLowercase),
   (["oupper", "otheruppercase"], .listed Listed.otherUppercase),
   (["space", "wspace", "whitespace"], blank),
   (["joinc", "joincontrol"], joinControl),
   (["ids", "idstart"], idStart),
   (["idc", "idcontinue"], idContinue),
   (["xids", "xidstart"], diff idStart (.listed Listed.unstableIdStart)),
   (["xidc", "xidcontinue"], diff idContinue (.listed Listed.unstableIdContinue)),
   (["oids", "otheridstart"], .listed Listed.otherIdStart),
   (["oidc", "otheridcontinue"], .listed Listed.otherIdContinue),
   (["idcompatmathstart"], .listed Listed.idCompatMathStart),
   (["idcompatmathcontinue"], .listed Listed.idCompatMathContinue),
   (["math"], tables [mathSymbol, Listed.otherMath]),
   (["omath", "othermath"], .listed Listed.otherMath),
   (["hex", "hexdigit"], hexDigit),
   (["ahex", "asciihexdigit"], asciiHexDigit),
   (["grext", "graphemeextend"], graphemeExtend),
   (["grbase", "graphemebase"], graphemeBase),
   (["grlink", "graphemelink"], .listed Listed.graphemeLink),
   (["ogrext", "othergraphemeextend"], .listed Listed.otherGraphemeExtend),
   (["mcm", "modifiercombiningmark"], .listed Listed.modifierCombiningMark),
   (["pcm", "prependedconcatenationmark"], .listed Listed.prependedConcatenationMark),
   (["dash"], .listed Listed.dash),
   (["hyphen"], .listed Listed.hyphen),
   (["dia", "diacritic"], .listed Listed.diacritic),
   (["ext", "extender"], .listed Listed.extender),
   (["ideo", "ideographic"], .listed Listed.ideographic),
   (["uideo", "unifiedideograph"], .listed Listed.unifiedIdeograph),
   (["radical"], .listed Listed.radical),
   (["idsu", "idsunaryoperator"], .listed Listed.idsUnaryOperator),
   (["idsb", "idsbinaryoperator"], .listed Listed.idsBinaryOperator),
   (["idst", "idstrinaryoperator"], .listed Listed.idsTrinaryOperator),
   (["qmark", "quotationmark"], .listed Listed.quotationMark),
   (["patsyn", "patternsyntax"], .listed Listed.patternSyntax),
   (["patws", "patternwhitespace"], .listed Listed.patternWhiteSpace),
   (["term", "terminalpunctuation"], .listed Listed.terminalPunctuation),
   (["sterm", "sentenceterminal"], .listed Listed.sentenceTerminal),
   (["emoji"], .listed Listed.emoji),
   (["epres", "emojipresentation"], .listed Listed.emojiPresentation),
   (["emod", "emojimodifier"], .listed Listed.emojiModifier),
   (["ebase", "emojimodifierbase"], .listed Listed.emojiModifierBase),
   (["ecomp", "emojicomponent"], .listed Listed.emojiComponent),
   (["extpict", "extendedpictographic"], .listed Listed.extendedPictographic),
   (["vs", "variationselector"], .listed Listed.variationSelector),
   (["ri", "regionalindicator"], .listed Listed.regionalIndicator),
   (["nchar", "noncharactercodepoint"], .listed Listed.noncharacter),
   (["di", "defaultignorablecodepoint"], .listed Listed.defaultIgnorable),
   (["odi", "otherdefaultignorablecodepoint"], .listed Listed.otherDefaultIgnorable),
   (["dep", "deprecated"], .listed Listed.deprecated),
   (["loe", "logicalorderexception"], .listed Listed.logicalOrderException),
   (["bidic", "bidicontrol"], .listed Listed.bidiControl),
   (["bidim", "bidimirrored"], .listed Listed.bidiMirrored)]

/-- The classes of characters that decide what a reader sees as one character. -/
def graphemeBreaks : Named :=
  [(["cr"], single '\r'),
   (["lf"], single '\n'),
   (["cn", "control"], GraphemeBreak.control),
   (["ex", "extend"], GraphemeBreak.extend),
   (["zwj"], GraphemeBreak.joiner),
   (["ri", "regionalindicator"], .listed Listed.regionalIndicator),
   (["pp", "prepend"], GraphemeBreak.prepend),
   (["sm", "spacingmark"], GraphemeBreak.spacingMark),
   (["l"], GraphemeBreak.leading),
   (["v"], GraphemeBreak.vowel),
   (["t"], GraphemeBreak.trailing),
   (["lv"], GraphemeBreak.openSyllable),
   (["lvt"], GraphemeBreak.closedSyllable)]

/-- The classes of characters that decide where words begin and end. -/
def wordBreaks : Named :=
  [(["cr"], single '\r'),
   (["lf"], single '\n'),
   (["nl", "newline"], WordBreak.newline),
   (["extend"], WordBreak.extend),
   (["zwj"], GraphemeBreak.joiner),
   (["ri", "regionalindicator"], .listed Listed.regionalIndicator),
   (["fo", "format"], WordBreak.format),
   (["ka", "katakana"], WordBreak.katakana),
   (["hl", "hebrewletter"], WordBreak.hebrewLetter),
   (["le", "aletter"], WordBreak.letter),
   (["sq", "singlequote"], single '\''),
   (["dq", "doublequote"], single '"'),
   (["mb", "midnumlet"], WordBreak.midBoth),
   (["ml", "midletter"], WordBreak.midLetter),
   (["mn", "midnum"], WordBreak.midNumber),
   (["nu", "numeric"], WordBreak.numeric),
   (["ex", "extendnumlet"], WordBreak.connector),
   (["wsegspace"], WordBreak.blank)]

/-- The classes of characters that decide where sentences begin and end. -/
def sentenceBreaks : Named :=
  [(["cr"], single '\r'),
   (["lf"], single '\n'),
   (["se", "sep"], SentenceBreak.separator),
   (["ex", "extend"], SentenceBreak.extend),
   (["fo", "format"], SentenceBreak.format),
   (["sp"], SentenceBreak.blank),
   (["lo", "lower"], SentenceBreak.lower),
   (["up", "upper"], SentenceBreak.upper),
   (["le", "oletter"], SentenceBreak.letter),
   (["nu", "numeric"], SentenceBreak.numeric),
   (["at", "aterm"], SentenceBreak.fullStop),
   (["st", "sterm"], SentenceBreak.terminal),
   (["sc", "scontinue"], SentenceBreak.goesOn),
   (["cl", "close"], SentenceBreak.close)]

/-- The set of a list that goes by a loose name. -/
def find? (name : String) (entries : Named) : Option CharSet :=
  (entries.find? fun entry => entry.1.contains name).map (·.2)

/-- The general category of a loose name. -/
def category? (name : String) : Option CharSet := find? name categories

/-! ### Scripts -/

/-- The script of a loose name. -/
def scriptOf? (name : String) : Option Script :=
  Script.all.find? fun script => script.names.contains name

/-- The characters that belong to the script of a loose name. -/
def script? (name : String) : Option CharSet :=
  (scriptOf? name).map fun script => .listed script.members

/-- The characters that are listed with several scripts. -/
def shared : CharSet := tables (SharedCharacters.all.map (·.members))

/-- The characters that are listed with a script among several. -/
def sharedBy (script : Script) : CharSet :=
  tables ((SharedCharacters.all.filter fun entry =>
    script.names.any entry.scripts.contains).map (·.members))

/-- The characters that a script uses: those listed with it, and those that belong to it and are not
listed with several scripts. -/
def scriptExtension (script : Script) : CharSet :=
  .union (diff (.listed script.members) shared) (sharedBy script)

/-- The characters that the script of a loose name uses. -/
def scriptExtension? (name : String) : Option CharSet := (scriptOf? name).map scriptExtension

/-! ### Ages -/

/-- The characters of the version of a loose name: those that it added, and those of all versions
before it. -/
def age? (name : String) : Option CharSet :=
  let isLater (age : Age) : Bool := !age.names.contains name
  match Age.all.dropWhile isLater with
  | [] => none
  | age :: _ => some (tables ((Age.all.takeWhile isLater ++ [age]).map (·.added)))

/-! ### Questions -/

/-- The set that a name stands for: a binary property, else a general category, else a script. -/
def ofName? (name : List Char) : Option CharSet :=
  let loose := looseName name
  find? loose properties <|> category? loose <|> script? loose

/-- The set of the characters whose property has the given value. -/
def ofPropertyValue? (property value : List Char) : Option CharSet :=
  let property := looseName property
  let value := looseName value
  if ["gc", "generalcategory"].contains property then category? value
  else if ["sc", "script"].contains property then script? value
  else if ["scx", "scriptextensions"].contains property then scriptExtension? value
  else if ["age"].contains property then age? value
  else if ["gcb", "graphemeclusterbreak"].contains property then find? value graphemeBreaks
  else if ["wb", "wordbreak"].contains property then find? value wordBreaks
  else if ["sb", "sentencebreak"].contains property then find? value sentenceBreaks
  else none

end Offside.Unicode.CharSet
