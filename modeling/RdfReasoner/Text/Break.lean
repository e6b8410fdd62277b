import RdfReasoner.Text.Property.Derived
import RdfReasoner.Text.Script

/-!
# Breaks in a text

The classes of characters that decide where a text may be split into the units that readers take
for one character, into words and into sentences.
-/

namespace RdfReasoner.Text

open Category Property

/-- The characters of a script under one of its names; none of an unknown script. -/
def ofScript (name : String) : CharSet :=
  ((scripts.find? fun script => script.1.contains name).map (·.2)).getD .empty

/-- Invisible characters that change a flag or an emoji before them. -/
def tags : CharSet := ⟨[(917536, 917631)]⟩

/-! ## Units of one character -/

namespace CharacterBreak

/-- The leading consonants of Hangul. -/
def leading : CharSet := ⟨[(4352, 4447), (43360, 43388)]⟩

/-- The vowels of Hangul. -/
def vowel : CharSet := ⟨[(4448, 4519), (55216, 55238), (93539, 93539), (93543, 93546)]⟩

/-- The trailing consonants of Hangul. -/
def trailing : CharSet := ⟨[(4520, 4607), (55243, 55291)]⟩

/-- The syllables of Hangul without a trailing consonant: every 28th. -/
def openSyllable : CharSet :=
  ⟨(List.range 399).map fun i => (44032 + 28 * i, 44032 + 28 * i)⟩

/-- The syllables of Hangul with a trailing consonant. -/
def closedSyllable : CharSet := CharSet.diff ⟨[(44032, 55203)]⟩ openSyllable

/-- Marks that extend the character before them, and changes of an emoji's colour. -/
def extend : CharSet := graphemeExtend.union emojiModifier

/-- Controls and separators that no character joins. -/
def control : CharSet :=
  (CharSet.unions [lineSeparator, paragraphSeparator, Category.control, format,
    unassigned.inter defaultIgnorableCodePoint]).diff
    (.unions [⟨[(10, 10), (13, 13), (8204, 8205)]⟩, prependedConcatenationMark, graphemeExtend])

/-- Characters that the next one joins. -/
def prepend : CharSet :=
  prependedConcatenationMark.union
    ⟨[(3406, 3406), (70082, 70083), (70609, 70609), (71999, 71999), (72001, 72001), (72250, 72250),
      (72324, 72329), (73030, 73030), (73474, 73474)]⟩

/-- Marks with a width of their own that join the character before them. -/
def spacingMark : CharSet :=
  ((Category.spacingMark.diff graphemeExtend).union ⟨[(3635, 3635), (3763, 3763)]⟩).diff
    ⟨[(4139, 4140), (4152, 4152), (4194, 4196), (4199, 4205), (4227, 4227), (4231, 4236),
      (4239, 4239), (4250, 4252), (6753, 6753), (6755, 6756), (43643, 43643), (43645, 43645),
      (71456, 71457)]⟩

end CharacterBreak

/-! ## Words -/

namespace WordBreak

/-- Marks that extend the character before them. -/
def extend : CharSet :=
  (CharSet.unions [graphemeExtend, Category.spacingMark, emojiModifier]).diff ⟨[(8205, 8205)]⟩

/-- Invisible characters inside a word. -/
def format : CharSet :=
  Category.format.diff (.unions [prependedConcatenationMark, ⟨[(8203, 8205)]⟩, tags])

/-- Characters of Katakana. -/
def katakana : CharSet :=
  (ofScript "katakana").union
    ⟨[(12337, 12341), (12443, 12444), (12448, 12448), (12540, 12540), (65392, 65392)]⟩

/-- Letters of Hebrew. -/
def hebrewLetter : CharSet := (ofScript "hebrew").inter otherLetter

/-- Letters of scripts that are written without spaces between words. -/
def unspacedLetters : CharSet := ⟨[
    (3585, 3632), (3634, 3635), (3648, 3654), (3713, 3714), (3716, 3716), (3718, 3722),
    (3724, 3747), (3749, 3749), (3751, 3760), (3762, 3763), (3773, 3773), (3776, 3780),
    (3782, 3782), (3804, 3807), (4096, 4138), (4159, 4159), (4176, 4181), (4186, 4189),
    (4193, 4193), (4197, 4198), (4206, 4208), (4213, 4225), (4238, 4238), (6016, 6067),
    (6103, 6103), (6108, 6108), (6480, 6509), (6512, 6516), (6528, 6571), (6576, 6601),
    (6688, 6740), (6823, 6823), (43488, 43492), (43494, 43503), (43514, 43518), (43616, 43638),
    (43642, 43642), (43646, 43695), (43697, 43697), (43701, 43702), (43705, 43709), (43712, 43712),
    (43714, 43714), (43739, 43741), (71424, 71450), (71488, 71494)]⟩

/-- Characters other than letters that behave like letters. -/
def otherLetters : CharSet := ⟨[
    (706, 709), (722, 727), (734, 735), (741, 747), (749, 749), (751, 767), (1370, 1372),
    (1374, 1374), (1418, 1418), (1523, 1523), (1807, 1807), (42760, 42774), (42784, 42785),
    (42889, 42890), (43867, 43867)]⟩

/-- Letters of alphabets whose words are written apart. -/
def letter : CharSet :=
  (alphabetic.diff (.unions [ideographic, katakana, ofScript "hiragana", extend, hebrewLetter,
    unspacedLetters])).union otherLetters

/-- Punctuation inside a word of letters. -/
def midLetter : CharSet :=
  ⟨[(58, 58), (183, 183), (903, 903), (1375, 1375), (1524, 1524), (8231, 8231), (65043, 65043),
      (65109, 65109), (65306, 65306)]⟩

/-- Punctuation inside a number. -/
def midNumber : CharSet :=
  ⟨[(44, 44), (59, 59), (894, 894), (1417, 1417), (1548, 1549), (1644, 1644), (2040, 2040),
      (8260, 8260), (65104, 65104), (65108, 65108), (65292, 65292), (65307, 65307)]⟩

/-- Punctuation inside a word or a number. -/
def midNumberLetter : CharSet :=
  ⟨[(46, 46), (8216, 8217), (8228, 8228), (65106, 65106), (65287, 65287), (65294, 65294)]⟩

/-- Marks of numbers that are not digits themselves. -/
def numberSigns : CharSet :=
  ⟨[(1536, 1541), (1643, 1643), (1757, 1757), (2192, 2193), (2274, 2274), (6618, 6618),
      (69821, 69821), (69837, 69837)]⟩

/-- Digits. -/
def numeric : CharSet := decimalNumber.union numberSigns

/-- Characters that connect words. -/
def connector : CharSet := connectorPunctuation.union ⟨[(8239, 8239)]⟩

/-- Spaces at which a text breaks. -/
def space : CharSet := spaceSeparator.diff ⟨[(160, 160), (8199, 8199), (8239, 8239)]⟩

end WordBreak

/-! ## Sentences -/

namespace SentenceBreak

/-- Marks that extend the character before them. -/
def extend : CharSet :=
  .unions [graphemeExtend, Category.spacingMark, ⟨[(8205, 8205)]⟩]

/-- Invisible characters inside a sentence. -/
def format : CharSet :=
  Category.format.diff
    (.unions [prependedConcatenationMark.diff ⟨[(1807, 1807)]⟩, ⟨[(8204, 8205)]⟩, tags])

/-- Spaces that do not end a line. -/
def space : CharSet := blanks.diff ⟨[(10, 10), (13, 13), (133, 133), (8232, 8233)]⟩

/-- Letters of the Georgian script with a capital form, which begin no sentence. -/
def georgianSmall : CharSet := ⟨[(4304, 4346), (4349, 4351)]⟩

/-- The capital forms of Georgian letters. -/
def georgianCapital : CharSet := ⟨[(7312, 7354), (7357, 7359)]⟩

/-- Small letters. -/
def lower : CharSet := lowercase.diff (graphemeExtend.union georgianSmall)

/-- Capital letters. -/
def upper : CharSet := (uppercase.union titlecaseLetter).diff georgianCapital

/-- Letters without a case. -/
def letter : CharSet :=
  (alphabetic.union ⟨[(1523, 1523)]⟩).diff (.unions [lower, upper, extend])

/-- Digits. -/
def numeric : CharSet := .unions [decimalNumber, WordBreak.numberSigns, ⟨[(1644, 1644)]⟩]

/-- Full stops, which may also end an abbreviation. -/
def fullStop : CharSet := ⟨[(46, 46), (8228, 8228), (65106, 65106), (65294, 65294)]⟩

/-- Punctuation that ends a sentence. -/
def terminal : CharSet := sentenceTerminal.diff fullStop

/-- Punctuation that goes on with a sentence. -/
def continuation : CharSet :=
  ⟨[(44, 45), (58, 59), (894, 894), (1373, 1373), (1548, 1549), (2040, 2040), (6146, 6146),
      (6152, 6152), (8211, 8212), (12289, 12289), (65040, 65041), (65043, 65044), (65073, 65074),
      (65104, 65105), (65108, 65109), (65112, 65112), (65123, 65123), (65292, 65293),
      (65306, 65307), (65380, 65380)]⟩

/-- Ornaments and editorial marks that are used like quotation marks. -/
def ornaments : CharSet :=
  ⟨[(10075, 10080), (11776, 11777), (11782, 11784), (11787, 11787), (128630, 128632)]⟩

/-- Brackets and quotation marks. -/
def closing : CharSet :=
  (CharSet.unions [openPunctuation, closePunctuation, quotationMark, initialPunctuation,
    finalPunctuation, ornaments]).diff ⟨[(65282, 65282), (65287, 65287)]⟩

end SentenceBreak

end RdfReasoner.Text
