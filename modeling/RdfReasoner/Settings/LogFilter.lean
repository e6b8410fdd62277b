import RdfReasoner.Number.Double
import RdfReasoner.Regex

/-!
# Filters of log messages

A filter is a list of directives with commas between them; the empty text is a filter too, and so is
one of nothing but commas.  A directive is a level, or a target, or a span in brackets, perhaps with
a field in braces, or a target and a span; the last three may be followed by an equals sign and a
level.  A level is a name or a number up to 5, or nothing.

A directive is read without the blanks around it, but its field and its level are cut out of the
text with the blanks, at the places counted without them: blanks in front shift both.

Only the form matters here: `LogFilter.isValid` says whether a text has it.
-/

namespace RdfReasoner.LogFilter

/-- Whether a text is a level. -/
def isLevel (cs : List Char) : Bool :=
  let digits := match cs with
    | '+' :: ds => ds
    | _ => cs
  ["", "error", "warn", "info", "debug", "trace", "off"].contains
      (String.ofList (cs.map Char.toLower)) ||
    (!digits.isEmpty && digits.all Char.isDigit && Decimal.natOfDigits digits ≤ 5)

/-- Whether a text can be the value that a field is compared with: a truth value, a number, or a
pattern of any size that asks for no boundaries of words in other scripts. -/
def isFieldValue (cs : List Char) : Bool :=
  (Double.parse? cs).isSome ||
    (Regex.read? (String.ofList cs)).any fun e => !e.places.any Regex.Place.needsUnicode

/-- Whether a text can be the test of a field: a name, and perhaps a value behind an equals sign. -/
def isField (cs : List Char) : Bool :=
  !cs.isEmpty &&
    match cs.dropWhile (· != '=') with
    | [] => true
    | _ :: value => isFieldValue (value.takeWhile (· != '='))

/-- Splits a text behind a number of bytes, if that is not inside of a character. -/
def splitAtByte? : Nat → List Char → Option (List Char × List Char)
  | 0, cs => some ([], cs)
  | _ + 1, [] => none
  | n + 1, c :: cs =>
    if c.utf8Size ≤ n + 1 then
      (splitAtByte? (n + 1 - c.utf8Size) cs).map fun (left, right) => (c :: left, right)
    else none

/-- The part of a text between two places that are counted in bytes. -/
def slice? (start stop : Nat) (cs : List Char) : Option (List Char) := do
  let (left, _) ← splitAtByte? stop cs
  let (_, part) ← splitAtByte? start left
  some part

/-- How far a directive is read; the numbers are the places where a part begins. -/
inductive State
  | start
  | levelOrTarget
  | span
  | field (start : Nat)
  | fields
  | target
  | level (start : Nat)

/-- Whether a character may begin a target. -/
def isTargetStart (c : Char) : Bool :=
  c == '-' || c == ':' || c == '_' || Text.Property.alphabetic.contains c ||
    Text.Category.number.contains c

/-- Reads the character at a place of a directive.  Parts are cut out of `whole`. -/
def State.next? (whole : List Char) (place : Nat) (c : Char) : State → Option State
  | start =>
    if c = '[' then some span else if isTargetStart c then some levelOrTarget else none
  | levelOrTarget =>
    if c = '=' then some (level (place + 1)) else if c = '[' then some span else some levelOrTarget
  | span =>
    if c = ']' then some target
    else if c = '\x7b' then some (field (place + 1))
    else some span
  | field begun =>
    if c = '\x7d' then
      if (slice? begun place whole).any isField then some fields else none
    else some (field begun)
  | fields => if c = ']' then some target else none
  | target => if c = '=' then some (level (place + 1)) else none
  | level begun => some (level begun)

/-- Whether a directive may end here. -/
def State.mayEnd (whole : List Char) : State → Bool
  | levelOrTarget | target => true
  | level begun => (splitAtByte? begun whole).any fun parts => isLevel parts.2
  | _ => false

/-- Goes on with a directive from a place and a state. -/
def readFrom (whole : List Char) (place : Nat) (state : State) : List Char → Bool
  | [] => state.mayEnd whole
  | c :: cs => (state.next? whole place c).any fun state =>
    readFrom whole (place + c.utf8Size) state cs

/-- Whether a text is a directive. -/
def isDirective (cs : List Char) : Bool := readFrom cs 0 .start (Text.trim cs)

/-- The parts of a text between commas. -/
def splitAtCommas (cs : List Char) : List (List Char) :=
  cs.foldr (fun c parts =>
    match c, parts with
    | ',', parts => [] :: parts
    | c, [] => [[c]]
    | c, part :: parts => (c :: part) :: parts) [[]]

/-- Whether a text is a filter.  Nothing between two commas is no directive at all. -/
def isValid (text : String) : Bool :=
  (splitAtCommas text.toList).all fun part => part.isEmpty || isDirective part

end RdfReasoner.LogFilter
