import RdfReasoner.Text.Category

/-!
# Groups of general categories

The unions of general categories that have a name of their own.
-/

namespace RdfReasoner.Text.Category

/-- Letters with a case: Lu, Ll and Lt. -/
def casedLetter : CharSet := .unions [uppercaseLetter, lowercaseLetter, titlecaseLetter]

/-- All letters: L. -/
def letter : CharSet := .unions [casedLetter, modifierLetter, otherLetter]

/-- All marks: M. -/
def mark : CharSet := .unions [nonspacingMark, spacingMark, enclosingMark]

/-- All numbers: N. -/
def number : CharSet := .unions [decimalNumber, letterNumber, otherNumber]

/-- All punctuation: P. -/
def punctuation : CharSet :=
  .unions [connectorPunctuation, dashPunctuation, openPunctuation, closePunctuation,
    initialPunctuation, finalPunctuation, otherPunctuation]

/-- All symbols: S. -/
def symbol : CharSet := .unions [mathSymbol, currencySymbol, modifierSymbol, otherSymbol]

/-- All separators: Z. -/
def separator : CharSet := .unions [spaceSeparator, lineSeparator, paragraphSeparator]

/-- Controls, formats, private use and unassigned code points: C, which is all but the groups
above. -/
def other : CharSet := (CharSet.unions [letter, mark, number, punctuation, symbol, separator]).compl

/-- Code points without a category of their own: Cn. -/
def unassigned : CharSet := other.diff (.unions [control, format, privateUse])

/-- Code points with a category of their own. -/
def assigned : CharSet := unassigned.compl

end RdfReasoner.Text.Category
