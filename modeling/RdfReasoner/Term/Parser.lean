import RdfReasoner.Term
import RdfReasoner.Text.Blank

/-!
# Reading terms

`Term.parse?` reads the text form of a term, blanks at its two ends aside:

* `<` … `>` around characters other than angle brackets, double quotes and blanks is an IRI;
* `_:` before an ASCII letter, digit or underscore, followed by letters, digits, underscores,
  dots and hyphens, is a blank node;
* a text between double quotes, in which a double quote stands only behind a backslash, is a
  literal; a language tag or a datatype may follow at once.

Anything else is no term.
-/

namespace RdfReasoner.Term

/-- May stand inside the angle brackets of an IRI. -/
def isIriChar (c : Char) : Bool := c != '<' && c != '>' && c != '"' && !Text.isBlank c

/-- May open the label of a blank node. -/
def isLabelStart (c : Char) : Bool := c.isAlphanum || c == '_'

/-- May stand further on in the label of a blank node. -/
def isLabelChar (c : Char) : Bool := isLabelStart c || c == '.' || c == '-'

/-- The text inside angle brackets, if nothing follows the closing one. -/
def bracketed? : List Char → Option String
  | '<' :: cs =>
    if cs.dropWhile isIriChar = ['>'] then some (String.ofList (cs.takeWhile isIriChar)) else none
  | _ => none

/-- The label behind `_:`. -/
def label? : List Char → Option String
  | '_' :: ':' :: c :: cs =>
    if isLabelStart c && cs.all isLabelChar then some (String.ofList (c :: cs)) else none
  | _ => none

/-- Splits the text behind an opening quote at the closing quote.  A backslash takes the next
character with it, which may not be a line feed. -/
def splitQuoted? : List Char → Option (List Char × List Char)
  | [] => none
  | '"' :: rest => some ([], rest)
  | ['\\'] => none
  | '\\' :: c :: rest =>
    if c = '\n' then none else (splitQuoted? rest).map fun (body, tail) => ('\\' :: c :: body, tail)
  | c :: rest => (splitQuoted? rest).map fun (body, tail) => (c :: body, tail)

/-- Writes `out` for every `first` directly followed by `second`, from left to right. -/
def replacePair (first second out : Char) : List Char → List Char
  | a :: b :: rest =>
    if a = first ∧ b = second then out :: replacePair first second out rest
    else a :: replacePair first second out (b :: rest)
  | cs => cs

/-- Undoes the escapes of a quoted text: first those of quotes, then those of backslashes. -/
def unescape (cs : List Char) : List Char :=
  replacePair '\\' '\\' '\\' (replacePair '\\' '"' '"' cs)

/-- Goes on with a language tag after a letter or digit.  Digits are allowed once a hyphen was
seen, and a hyphen does not end a tag. -/
def continuesTag (digits : Bool) : List Char → Bool
  | [] => true
  | '-' :: c :: rest => c.isAlphanum && continuesTag true rest
  | c :: rest => (c.isAlpha || digits && c.isDigit) && continuesTag digits rest

/-- ASCII letters, then groups of ASCII letters and digits, each behind a hyphen. -/
def isLanguageTag : List Char → Bool
  | [] => false
  | c :: rest => c.isAlpha && continuesTag false rest

/-- The literal whose quoted text is `body` and whose decoration is the last argument. -/
def literal? (body : List Char) : List Char → Option Term
  | [] => some (literal (String.ofList (unescape body)) none none)
  | '@' :: tag =>
    if isLanguageTag tag then
      some (literal (String.ofList (unescape body)) none (some (String.ofList tag)))
    else none
  | '^' :: '^' :: datatype =>
    (bracketed? datatype).map fun type =>
      literal (String.ofList (unescape body)) (some type) none
  | _ => none

/-- The term that a text without blanks at its ends is the text form of. -/
def ofChars? : List Char → Option Term
  | '"' :: cs => (splitQuoted? cs).bind fun (body, tail) => literal? body tail
  | cs => ((bracketed? cs).map iri).or ((label? cs).map blank)

/-- Reads a term, blanks at the two ends aside. -/
def parse? (text : String) : Option Term := ofChars? (Text.trim text.toList)

end RdfReasoner.Term
