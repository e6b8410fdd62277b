import RdfReasoner.Text.Blank
import RdfReasoner.Text.Category.Group
import RdfReasoner.Text.Property

/-!
# Derived properties of characters

The properties of Unicode that follow from the general categories and the listed properties by a
rule, for some of them up to a list of exceptions.
-/

namespace RdfReasoner.Text.Property

open Category

/-! ## Letter case -/

/-- Uppercase letters, and what else looks like one. -/
def uppercase : CharSet := uppercaseLetter.union otherUppercase

/-- Lowercase letters, and what else looks like one. -/
def lowercase : CharSet := lowercaseLetter.union otherLowercase

/-- The characters of any of the three cases. -/
def cased : CharSet := .unions [uppercase, lowercase, titlecaseLetter]

/-- The characters that are passed over in looking for a cased neighbour. -/
def caseIgnorable : CharSet :=
  .unions [nonspacingMark, enclosingMark, format, modifierLetter, modifierSymbol,
    ⟨[(39, 39), (46, 46), (58, 58), (183, 183), (903, 903), (1375, 1375), (1524, 1524),
      (8216, 8217), (8228, 8228), (8231, 8231), (65043, 65043), (65106, 65106), (65109, 65109),
      (65287, 65287), (65294, 65294), (65306, 65306)]⟩]

/-- Uppercase characters without a lowercase form. -/
def uppercaseAlone : CharSet := ⟨[
    (978, 980), (8450, 8450), (8455, 8455), (8459, 8461), (8464, 8466), (8469, 8469), (8473, 8477),
    (8484, 8484), (8488, 8488), (8492, 8493), (8496, 8497), (8499, 8499), (8510, 8511),
    (8517, 8517), (119808, 119833), (119860, 119885), (119912, 119937), (119964, 119964),
    (119966, 119967), (119970, 119970), (119973, 119974), (119977, 119980), (119982, 119989),
    (120016, 120041), (120068, 120069), (120071, 120074), (120077, 120084), (120086, 120092),
    (120120, 120121), (120123, 120126), (120128, 120132), (120134, 120134), (120138, 120144),
    (120172, 120197), (120224, 120249), (120276, 120301), (120328, 120353), (120380, 120405),
    (120432, 120457), (120488, 120512), (120546, 120570), (120604, 120628), (120662, 120686),
    (120720, 120744), (120778, 120778), (127280, 127305), (127312, 127337), (127344, 127369)]⟩

/-- The characters whose lowercase form is another text. -/
def changesWhenLowercased : CharSet := (uppercase.union titlecaseLetter).diff uppercaseAlone

/-- Lowercase characters without an uppercase form. -/
def lowercaseAlone : CharSet := ⟨[
    (170, 170), (186, 186), (312, 312), (397, 397), (426, 427), (442, 442), (446, 446), (545, 545),
    (564, 569), (597, 597), (600, 600), (602, 602), (605, 607), (610, 610), (615, 615), (621, 622),
    (624, 624), (627, 628), (630, 636), (638, 639), (641, 641), (644, 646), (653, 657), (659, 659),
    (661, 668), (671, 696), (704, 705), (736, 740), (890, 890), (1020, 1020), (1376, 1376),
    (1416, 1416), (4348, 4348), (7424, 7544), (7546, 7548), (7550, 7565), (7567, 7615),
    (7836, 7837), (7839, 7839), (8305, 8305), (8319, 8319), (8336, 8348), (8458, 8458),
    (8462, 8463), (8467, 8467), (8495, 8495), (8500, 8500), (8505, 8505), (8508, 8509),
    (8518, 8521), (11377, 11377), (11380, 11380), (11383, 11389), (11492, 11492), (42652, 42653),
    (42800, 42801), (42864, 42872), (42894, 42894), (42901, 42901), (42927, 42927), (42963, 42963),
    (42965, 42965), (42994, 42996), (43000, 43002), (43824, 43858), (43860, 43866), (43868, 43881),
    (67456, 67456), (67459, 67461), (67463, 67504), (67506, 67514), (119834, 119859),
    (119886, 119892), (119894, 119911), (119938, 119963), (119990, 119993), (119995, 119995),
    (119997, 120003), (120005, 120015), (120042, 120067), (120094, 120119), (120146, 120171),
    (120198, 120223), (120250, 120275), (120302, 120327), (120354, 120379), (120406, 120431),
    (120458, 120485), (120514, 120538), (120540, 120545), (120572, 120596), (120598, 120603),
    (120630, 120654), (120656, 120661), (120688, 120712), (120714, 120719), (120746, 120770),
    (120772, 120777), (120779, 120779), (122624, 122633), (122635, 122654), (122661, 122666),
    (122928, 122989)]⟩

/-- The characters whose uppercase form is another text. -/
def changesWhenUppercased : CharSet := (lowercase.union titlecaseLetter).diff lowercaseAlone

/-- The characters whose titlecase form is another text: a digraph in capitals has a form of its
own, and a letter of the Georgian script with a capital form has none. -/
def changesWhenTitlecased : CharSet :=
  (CharSet.union (changesWhenUppercased.diff titlecaseLetter)
    ⟨[(452, 452), (455, 455), (458, 458), (497, 497)]⟩).diff
    ⟨[(4304, 4346), (4349, 4351)]⟩

/-- Small letters that folding turns into other letters. -/
def foldedSmallForms : CharSet := ⟨[
    (181, 181), (223, 223), (329, 329), (383, 383), (837, 837), (962, 962), (976, 977), (981, 982),
    (1008, 1009), (1013, 1013), (1415, 1415), (5112, 5117), (7296, 7304), (7834, 7835),
    (8064, 8071), (8080, 8087), (8096, 8103), (8114, 8116), (8119, 8119), (8130, 8132),
    (8135, 8135), (8178, 8180), (8183, 8183), (43888, 43967), (64256, 64262), (64275, 64279)]⟩

/-- The characters that are another text once their case is folded.  Letters of the Cherokee script
are folded to capitals. -/
def changesWhenCasefolded : CharSet :=
  (changesWhenLowercased.union foldedSmallForms).diff ⟨[(5024, 5109)]⟩

/-- The characters that some change of case alters. -/
def changesWhenCasemapped : CharSet :=
  .unions [changesWhenLowercased, changesWhenUppercased, changesWhenTitlecased]

/-! ## Letters and identifiers -/

/-- Letters, and what else is read like one. -/
def alphabetic : CharSet :=
  .unions [uppercase, lowercase, titlecaseLetter, modifierLetter, otherLetter, letterNumber,
    otherAlphabetic]

/-- Symbols of mathematics. -/
def math : CharSet := mathSymbol.union otherMath

/-- Characters that patterns reserve. -/
def patternReserved : CharSet := patternSyntax.union patternWhiteSpace

/-- Characters that may begin an identifier. -/
def idStart : CharSet := (CharSet.unions [letter, letterNumber, otherIdStart]).diff patternReserved

/-- Characters that may stand further on in an identifier. -/
def idContinue : CharSet :=
  idStart.union ((CharSet.unions [nonspacingMark, spacingMark, decimalNumber, connectorPunctuation,
    otherIdContinue]).diff patternReserved)

/-- Characters that may begin an identifier, but not in every normalization form. -/
def notXidStart : CharSet := ⟨[
    (890, 890), (3635, 3635), (3763, 3763), (12443, 12444), (64606, 64611), (65018, 65019),
    (65136, 65136), (65138, 65138), (65140, 65140), (65142, 65142), (65144, 65144), (65146, 65146),
    (65148, 65148), (65150, 65150), (65438, 65439)]⟩

/-- Characters that may begin an identifier, in any normalization form. -/
def xidStart : CharSet := idStart.diff notXidStart

/-- Characters that may continue an identifier, but not in every normalization form. -/
def notXidContinue : CharSet := ⟨[
    (890, 890), (12443, 12444), (64606, 64611), (65018, 65019), (65136, 65136), (65138, 65138),
    (65140, 65140), (65142, 65142), (65144, 65144), (65146, 65146), (65148, 65148), (65150, 65150)]⟩

/-- Characters that may stand further on in an identifier, in any normalization form. -/
def xidContinue : CharSet := idContinue.diff notXidContinue

/-! ## Rendering -/

/-- Characters that are not shown where they are not supported. -/
def defaultIgnorableCodePoint : CharSet :=
  (CharSet.unions [otherDefaultIgnorableCodePoint, format, variationSelector]).diff
    (.unions [blanks, prependedConcatenationMark, ⟨[(65529, 65531), (78896, 78911)]⟩])

/-- Marks that extend the character before them. -/
def graphemeExtend : CharSet := .unions [enclosingMark, nonspacingMark, otherGraphemeExtend]

/-- Characters that stand on their own. -/
def graphemeBase : CharSet :=
  (CharSet.unions [other, lineSeparator, paragraphSeparator, graphemeExtend]).compl

end RdfReasoner.Text.Property
