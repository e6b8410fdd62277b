import RdfReasoner.Text.Age
import RdfReasoner.Text.Break
import RdfReasoner.Text.Script.Extension

/-!
# Named sets of characters

The sets that a pattern can name: the general categories and the scripts of Unicode by their short
and long names, the properties of characters, the values of the properties that have more than two,
and the classes of ASCII that stand between `[:` and `:]`.  Letter case, blanks, hyphens,
underscores and all that is not ASCII in a property's name are ignored, as is a leading `is`.
-/

namespace RdfReasoner.Regex

open Text Text.Category Text.Property

/-- A table of sets, each under all its names. -/
abbrev NamedSets := List (List String × CharSet)

/-- The general categories and their groups. -/
def categories : NamedSets :=
  [(["l", "letter"], letter), (["lc", "casedletter"], casedLetter),
    (["lu", "uppercaseletter"], uppercaseLetter), (["ll", "lowercaseletter"], lowercaseLetter),
    (["lt", "titlecaseletter"], titlecaseLetter), (["lm", "modifierletter"], modifierLetter),
    (["lo", "otherletter"], otherLetter), (["m", "mark", "combiningmark"], mark),
    (["mn", "nonspacingmark"], nonspacingMark), (["mc", "spacingmark"], spacingMark),
    (["me", "enclosingmark"], enclosingMark), (["n", "number"], number),
    (["nd", "decimalnumber", "digit"], decimalNumber), (["nl", "letternumber"], letterNumber),
    (["no", "othernumber"], otherNumber), (["p", "punctuation", "punct"], punctuation),
    (["pc", "connectorpunctuation"], connectorPunctuation),
    (["pd", "dashpunctuation"], dashPunctuation), (["ps", "openpunctuation"], openPunctuation),
    (["pe", "closepunctuation"], closePunctuation),
    (["pi", "initialpunctuation"], initialPunctuation),
    (["pf", "finalpunctuation"], finalPunctuation),
    (["po", "otherpunctuation"], otherPunctuation), (["s", "symbol"], symbol),
    (["sm", "mathsymbol"], mathSymbol), (["sc", "currencysymbol"], currencySymbol),
    (["sk", "modifiersymbol"], modifierSymbol), (["so", "othersymbol"], otherSymbol),
    (["z", "separator"], separator), (["zs", "spaceseparator"], spaceSeparator),
    (["zl", "lineseparator"], lineSeparator), (["zp", "paragraphseparator"], paragraphSeparator),
    (["c", "other"], other), (["cc", "control", "cntrl"], control), (["cf", "format"], format),
    (["co", "privateuse"], privateUse), (["cn", "unassigned"], unassigned),
    (["any"], .all), (["assigned"], assigned), (["ascii"], ⟨[(0, 0x7F)]⟩)]

/-- The properties that a character has or has not. -/
def properties : NamedSets :=
  [(["asciihexdigit", "ahex"], asciiHexDigit), (["alphabetic", "alpha"], alphabetic),
    (["bidicontrol", "bidic"], bidiControl), (["bidimirrored", "bidim"], bidiMirrored),
    (["caseignorable", "ci"], caseIgnorable), (["cased"], cased),
    (["changeswhencasefolded", "cwcf"], changesWhenCasefolded),
    (["changeswhencasemapped", "cwcm"], changesWhenCasemapped),
    (["changeswhenlowercased", "cwl"], changesWhenLowercased),
    (["changeswhentitlecased", "cwt"], changesWhenTitlecased),
    (["changeswhenuppercased", "cwu"], changesWhenUppercased), (["dash"], dash),
    (["defaultignorablecodepoint", "di"], defaultIgnorableCodePoint),
    (["deprecated", "dep"], deprecated), (["diacritic", "dia"], diacritic), (["emoji"], emoji),
    (["emojicomponent", "ecomp"], emojiComponent), (["emojimodifier", "emod"], emojiModifier),
    (["emojimodifierbase", "ebase"], emojiModifierBase),
    (["emojipresentation", "epres"], emojiPresentation),
    (["extendedpictographic", "extpict"], extendedPictographic), (["extender", "ext"], extender),
    (["graphemebase", "grbase"], graphemeBase), (["graphemeextend", "grext"], graphemeExtend),
    (["graphemelink", "grlink"], graphemeLink), (["hexdigit", "hex"], hexDigit),
    (["hyphen"], hyphen), (["idsbinaryoperator", "idsb"], idsBinaryOperator),
    (["idstrinaryoperator", "idst"], idsTrinaryOperator),
    (["idsunaryoperator", "idsu"], idsUnaryOperator),
    (["idcompatmathcontinue"], idCompatMathContinue), (["idcompatmathstart"], idCompatMathStart),
    (["idcontinue", "idc"], idContinue), (["idstart", "ids"], idStart),
    (["ideographic", "ideo"], ideographic), (["joincontrol", "joinc"], joinControl),
    (["logicalorderexception", "loe"], logicalOrderException), (["lowercase", "lower"], lowercase),
    (["math"], math), (["modifiercombiningmark", "mcm"], modifierCombiningMark),
    (["noncharactercodepoint", "nchar"], noncharacterCodePoint),
    (["otheralphabetic", "oalpha"], otherAlphabetic),
    (["otherdefaultignorablecodepoint", "odi"], otherDefaultIgnorableCodePoint),
    (["othergraphemeextend", "ogrext"], otherGraphemeExtend),
    (["otheridcontinue", "oidc"], otherIdContinue), (["otheridstart", "oids"], otherIdStart),
    (["otherlowercase", "olower"], otherLowercase), (["othermath", "omath"], otherMath),
    (["otheruppercase", "oupper"], otherUppercase), (["patternsyntax", "patsyn"], patternSyntax),
    (["patternwhitespace", "patws"], patternWhiteSpace),
    (["prependedconcatenationmark", "pcm"], prependedConcatenationMark),
    (["quotationmark", "qmark"], quotationMark), (["radical"], radical),
    (["regionalindicator", "ri"], regionalIndicator),
    (["sentenceterminal", "sterm"], sentenceTerminal), (["softdotted", "sd"], softDotted),
    (["terminalpunctuation", "term"], terminalPunctuation),
    (["unifiedideograph", "uideo"], unifiedIdeograph), (["uppercase", "upper"], uppercase),
    (["variationselector", "vs"], variationSelector), (["whitespace", "space", "wspace"], blanks),
    (["xidcontinue", "xidc"], xidContinue), (["xidstart", "xids"], xidStart)]

/-- The classes of the breaks between units of one character. -/
def characterBreaks : NamedSets :=
  [(["cr"], .singleton '\r'), (["lf"], .singleton '\n'),
    (["control", "cn"], CharacterBreak.control), (["extend", "ex"], CharacterBreak.extend),
    (["l"], CharacterBreak.leading), (["v"], CharacterBreak.vowel),
    (["t"], CharacterBreak.trailing), (["lv"], CharacterBreak.openSyllable),
    (["lvt"], CharacterBreak.closedSyllable), (["prepend", "pp"], CharacterBreak.prepend),
    (["regionalindicator", "ri"], regionalIndicator),
    (["spacingmark", "sm"], CharacterBreak.spacingMark), (["zwj"], ⟨[(0x200D, 0x200D)]⟩)]

/-- The classes of the breaks between words. -/
def wordBreaks : NamedSets :=
  [(["aletter", "le"], WordBreak.letter), (["cr"], .singleton '\r'), (["lf"], .singleton '\n'),
    (["newline", "nl"], ⟨[(0xB, 0xC), (0x85, 0x85), (0x2028, 0x2029)]⟩),
    (["doublequote", "dq"], .singleton '"'), (["singlequote", "sq"], ⟨[(0x27, 0x27)]⟩),
    (["extend"], WordBreak.extend), (["extendnumlet", "ex"], WordBreak.connector),
    (["format", "fo"], WordBreak.format), (["hebrewletter", "hl"], WordBreak.hebrewLetter),
    (["katakana", "ka"], WordBreak.katakana), (["midletter", "ml"], WordBreak.midLetter),
    (["midnum", "mn"], WordBreak.midNumber), (["midnumlet", "mb"], WordBreak.midNumberLetter),
    (["numeric", "nu"], WordBreak.numeric), (["regionalindicator", "ri"], regionalIndicator),
    (["wsegspace"], WordBreak.space), (["zwj"], ⟨[(0x200D, 0x200D)]⟩)]

/-- The classes of the breaks between sentences. -/
def sentenceBreaks : NamedSets :=
  [(["aterm", "at"], SentenceBreak.fullStop), (["close", "cl"], SentenceBreak.closing),
    (["cr"], .singleton '\r'), (["lf"], .singleton '\n'), (["extend", "ex"], SentenceBreak.extend),
    (["format", "fo"], SentenceBreak.format), (["lower", "lo"], SentenceBreak.lower),
    (["numeric", "nu"], SentenceBreak.numeric), (["oletter", "le"], SentenceBreak.letter),
    (["scontinue", "sc"], SentenceBreak.continuation),
    (["sep", "se"], ⟨[(0x85, 0x85), (0x2028, 0x2029)]⟩), (["sp"], SentenceBreak.space),
    (["sterm", "st"], SentenceBreak.terminal), (["upper", "up"], SentenceBreak.upper)]

/-! ## Looking a name up -/

/-- A name without letter case, separators, characters beyond ASCII and a leading `is`.  Only `isc`
keeps its `is`, because it is the name of a property. -/
def normalizeName (name : List Char) : String :=
  let plain (cs : List Char) :=
    (cs.filter fun c => c.toNat < 128 && c != ' ' && c != '_' && c != '-').map Char.toLower
  match name with
  | i :: s :: rest =>
    if i.toLower = 'i' ∧ s.toLower = 's' then
      if plain rest = ['c'] then "isc" else String.ofList (plain rest)
    else String.ofList (plain name)
  | _ => String.ofList (plain name)

/-- The set under a name. -/
def NamedSets.find? (table : NamedSets) (name : String) : Option CharSet :=
  (List.find? (fun entry => entry.1.contains name) table).map (·.2)

/-- The characters that have a value of a property. -/
def propertyValue? (property value : String) : Option CharSet :=
  if ["gc", "generalcategory"].contains property then categories.find? value
  else if ["sc", "script"].contains property then NamedSets.find? scripts value
  else if ["scx", "scriptextensions"].contains property then extendedScript? value
  else if property = "age" then age? value
  else if ["gcb", "graphemeclusterbreak"].contains property then characterBreaks.find? value
  else if ["wb", "wordbreak"].contains property then wordBreaks.find? value
  else if ["sb", "sentencebreak"].contains property then sentenceBreaks.find? value
  else none

/-- A text before and after the first place where a mark of one or two characters stands. -/
def splitAt? (mark : List Char) : List Char → Option (List Char × List Char)
  | [] => none
  | c :: cs =>
    if mark.isPrefixOf (c :: cs) then some ([], (c :: cs).drop mark.length)
    else (splitAt? mark cs).map fun (left, right) => (c :: left, right)

/-- The set that a name in `\p` denotes, and whether its complement is meant.  The name stands
alone, or it is that of a property and a value with `!=`, `:` or `=` between them. -/
def property? (name : List Char) : Option (CharSet × Bool) :=
  let valued (parts : List Char × List Char) :=
    propertyValue? (normalizeName parts.1) (normalizeName parts.2)
  match splitAt? ['!', '='] name with
  | some parts => (valued parts).map (·, true)
  | none =>
    match (splitAt? [':'] name).or (splitAt? ['='] name) with
    | some parts => (valued parts).map (·, false)
    | none =>
      (NamedSets.find? (properties ++ categories ++ scripts) (normalizeName name)).map (·, false)

/-- The classes of ASCII that can be named inside brackets. -/
def asciiClass? : List Char → Option CharSet
  | ['a', 'l', 'n', 'u', 'm'] => some ⟨[(0x30, 0x39), (0x41, 0x5A), (0x61, 0x7A)]⟩
  | ['a', 'l', 'p', 'h', 'a'] => some ⟨[(0x41, 0x5A), (0x61, 0x7A)]⟩
  | ['a', 's', 'c', 'i', 'i'] => some ⟨[(0, 0x7F)]⟩
  | ['b', 'l', 'a', 'n', 'k'] => some ⟨[(0x9, 0x9), (0x20, 0x20)]⟩
  | ['c', 'n', 't', 'r', 'l'] => some ⟨[(0, 0x1F), (0x7F, 0x7F)]⟩
  | ['d', 'i', 'g', 'i', 't'] => some ⟨[(0x30, 0x39)]⟩
  | ['g', 'r', 'a', 'p', 'h'] => some ⟨[(0x21, 0x7E)]⟩
  | ['l', 'o', 'w', 'e', 'r'] => some ⟨[(0x61, 0x7A)]⟩
  | ['p', 'r', 'i', 'n', 't'] => some ⟨[(0x20, 0x7E)]⟩
  | ['p', 'u', 'n', 'c', 't'] => some ⟨[(0x21, 0x2F), (0x3A, 0x40), (0x5B, 0x60), (0x7B, 0x7E)]⟩
  | ['s', 'p', 'a', 'c', 'e'] => some ⟨[(0x9, 0xD), (0x20, 0x20)]⟩
  | ['u', 'p', 'p', 'e', 'r'] => some ⟨[(0x41, 0x5A)]⟩
  | ['w', 'o', 'r', 'd'] => some ⟨[(0x30, 0x39), (0x41, 0x5A), (0x5F, 0x5F), (0x61, 0x7A)]⟩
  | ['x', 'd', 'i', 'g', 'i', 't'] => some ⟨[(0x30, 0x39), (0x41, 0x46), (0x61, 0x66)]⟩
  | _ => none

end RdfReasoner.Regex
