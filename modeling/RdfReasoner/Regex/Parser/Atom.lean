import RdfReasoner.Regex.Parser.Flags
import RdfReasoner.Regex.Property
import RdfReasoner.Regex.Syntax
import RdfReasoner.Text.Hexadecimal

/-!
# Escapes

What stands behind a backslash in a pattern, inside brackets and outside of them: a character, a set
of characters, or an assertion about a place.
-/

namespace RdfReasoner.Regex

/-- What an escape or a plain character stands for. -/
inductive Atom
  | char (c : Char)
  | set (s : CharSet)
  | place (p : Place)

/-- Characters with a meaning of their own, which a backslash takes away. -/
def isMeta (c : Char) : Bool := "\\.+*?()|[]\x7b\x7d^$#&-~".toList.contains c

/-- Whether a backslash before the character leaves it as it is. -/
def isEscapable (c : Char) : Bool :=
  isMeta c || (c.toNat < 128 && !c.isAlphanum && c != '<' && c != '>')

/-- The text up to a closing brace, and what follows. -/
def inBraces? (f : Flags) (cs : List Char) : Option (List Char × List Char) :=
  match f.collect (· != '\x7d') (f.skip cs) with
  | (inner, _ :: rest) => some (inner, rest)
  | (_, []) => none

/-- Reads the code point behind `\x`, `\u` or `\U`: in braces, or with a fixed number of digits. -/
def codePoint? (f : Flags) (width : Nat) (cs : List Char) : Option (Atom × List Char) :=
  match f.skip cs with
  | '\x7b' :: cs => do
    let (digits, rest) ← inBraces? f cs
    some (.char (← Text.charOfHex? digits), rest)
  | cs => do
    let (digits, rest) ← f.take? width cs
    let c ← Text.charOfHex? digits
    -- without Unicode, two digits stand for a byte, and a lone byte beyond ASCII is no text
    if width = 2 ∧ !f.unicode ∧ c.toNat > 127 then none else some (.char c, rest)

/-- Reads the name behind `\p` or `\P`. -/
def propertyAtom? (f : Flags) (negated : Bool) (cs : List Char) : Option (Atom × List Char) := do
  let (name, rest) ← match f.skip cs with
    | '\x7b' :: cs => inBraces? f cs
    | '\\' :: _ => none
    | c :: cs => some ([c], cs)
    | [] => none
  if !f.unicode then none
  else
    let (set, differs) ← property? name
    some (.set (← f.close? (negated != differs) set), rest)

/-- A set for a class of characters that takes letter case as it is. -/
def classAtom? (f : Flags) (negated : Bool) (unicode ascii : CharSet) : Option Atom :=
  ({ f with ignoreCase := false }.close? negated (if f.unicode then unicode else ascii)).map .set

/-- Reads the name of a place in braces behind `\b`.  Braces around anything but letters and hyphens
are left to be a repetition. -/
def boundary? (f : Flags) (cs : List Char) : Option (Atom × List Char) :=
  match cs with
  | '\x7b' :: inner =>
    let isNameChar (c : Char) := c.isAlpha || c == '-'
    match f.skip inner with
    | [] => none
    | c :: _ =>
      if !isNameChar c then some (.place (.wordBoundary !f.unicode), cs)
      else
        match f.collect isNameChar (f.skip inner) with
        | (name, '\x7d' :: rest) => do
          let place ← [("start", Place.wordStart), ("end", .wordEnd),
            ("start-half", .wordStartHalf), ("end-half", .wordEndHalf)].lookup (String.ofList name)
          some (.place (place !f.unicode), rest)
        | _ => none
  | _ => some (.place (.wordBoundary !f.unicode), cs)

/-- Reads what stands behind a backslash. -/
def escape? (f : Flags) : List Char → Option (Atom × List Char)
  | [] => none
  | 'x' :: cs => codePoint? f 2 cs
  | 'u' :: cs => codePoint? f 4 cs
  | 'U' :: cs => codePoint? f 8 cs
  | 'p' :: cs => propertyAtom? f false cs
  | 'P' :: cs => propertyAtom? f true cs
  | 'd' :: cs => (classAtom? f false digits ⟨[(0x30, 0x39)]⟩).map (·, cs)
  | 'D' :: cs => (classAtom? f true digits .empty).map (·, cs)
  | 's' :: cs => (classAtom? f false Text.blanks ⟨[(0x9, 0xD), (0x20, 0x20)]⟩).map (·, cs)
  | 'S' :: cs => (classAtom? f true Text.blanks .empty).map (·, cs)
  | 'w' :: cs => (classAtom? f false wordChars asciiWordChars).map (·, cs)
  | 'W' :: cs => (classAtom? f true wordChars .empty).map (·, cs)
  | 'a' :: cs => some (.char '\x07', cs)
  | 'f' :: cs => some (.char '\x0c', cs)
  | 't' :: cs => some (.char '\t', cs)
  | 'n' :: cs => some (.char '\n', cs)
  | 'r' :: cs => some (.char '\r', cs)
  | 'v' :: cs => some (.char '\x0b', cs)
  | 'A' :: cs => some (.place .textStart, cs)
  | 'z' :: cs => some (.place .textEnd, cs)
  | 'b' :: cs => boundary? f cs
  | 'B' :: cs => some (.place (.noWordBoundary !f.unicode), cs)
  | '<' :: cs => some (.place (.wordStart !f.unicode), cs)
  | '>' :: cs => some (.place (.wordEnd !f.unicode), cs)
  | c :: cs => if isEscapable c then some (.char c, cs) else none

end RdfReasoner.Regex
