import RdfReasoner.Text.Property.Derived

/-!
# Regular expressions

The expressions that a pattern denotes, once flags, classes and escapes are resolved: a text, a set
of characters, an assertion about a place, and the ways to combine them.  A group leaves a trace
only because two groups are never the same; the question that a search answers is whether a text has
a match, and not where.
-/

namespace RdfReasoner.Regex

open Text.Category Text.Property

/-- Digits of any script. -/
def digits : CharSet := decimalNumber

/-- Letters, marks, digits, connecting punctuation, and the two joiners. -/
def wordChars : CharSet :=
  (CharSet.unions [alphabetic, mark, decimalNumber, connectorPunctuation, joinControl]).normalize

/-- ASCII letters, digits and the underscore. -/
def asciiWordChars : CharSet := ⟨[(0x30, 0x39), (0x41, 0x5A), (0x5F, 0x5F), (0x61, 0x7A)]⟩

/-- What a place between two characters of a text may be required to be. -/
inductive Place
  | textStart
  | textEnd
  /-- After a line feed; with `crlf` also after a carriage return that no line feed follows. -/
  | lineStart (crlf : Bool)
  /-- Before a line feed; with `crlf` also before a carriage return, and not between the two. -/
  | lineEnd (crlf : Bool)
  /-- A word character on exactly one side. -/
  | wordBoundary (ascii : Bool)
  | noWordBoundary (ascii : Bool)
  | wordStart (ascii : Bool)
  | wordEnd (ascii : Bool)
  /-- No word character before. -/
  | wordStartHalf (ascii : Bool)
  /-- No word character after. -/
  | wordEndHalf (ascii : Bool)
deriving DecidableEq, Hashable

namespace Place

/-- Whether the place is told by word characters of any script. -/
def needsUnicode : Place → Bool
  | textStart | textEnd | lineStart _ | lineEnd _ => false
  | wordBoundary ascii | noWordBoundary ascii | wordStart ascii | wordEnd ascii
  | wordStartHalf ascii | wordEndHalf ascii => !ascii

/-- Whether there is a character and it is a word character. -/
def isWord (ascii : Bool) (c : Option Char) : Bool :=
  c.any fun c => (if ascii then asciiWordChars else wordChars).contains c

/-- Whether the place between two neighbours, of which an end of the text has only one, is as
required. -/
def holds (before after : Option Char) : Place → Bool
  | textStart => before.isNone
  | textEnd => after.isNone
  | lineStart false => before.all (· == '\n')
  | lineStart true => before.all fun c => c == '\n' || c == '\r' && after != some '\n'
  | lineEnd false => after.all (· == '\n')
  | lineEnd true => after.all fun c => c == '\r' || c == '\n' && before != some '\r'
  | wordBoundary ascii => isWord ascii before != isWord ascii after
  | noWordBoundary ascii => isWord ascii before == isWord ascii after
  | wordStart ascii => !isWord ascii before && isWord ascii after
  | wordEnd ascii => isWord ascii before && !isWord ascii after
  | wordStartHalf ascii => !isWord ascii before
  | wordEndHalf ascii => !isWord ascii after

end Place

/-- A regular expression. -/
inductive Expr
  /-- The empty text, anywhere. -/
  | empty
  /-- Some characters, one after the other. -/
  | text (cs : List Char)
  /-- One character of a set. -/
  | chars (set : CharSet)
  /-- The empty text, at certain places. -/
  | place (p : Place)
  /-- A group that counts, with its number. -/
  | group (index : Nat) (e : Expr)
  | seq (first second : Expr)
  | alt (left right : Expr)
  /-- At least `least` and, if there is a bound, at most `most` times. -/
  | rep (least : Nat) (most : Option Nat) (isLazy : Bool) (e : Expr)
deriving DecidableEq, Hashable

namespace Expr

/-- The number of characters of the shortest match, places aside; none where a set is empty. -/
def minLength : Expr → Option Nat
  | empty | place _ => some 0
  | text cs => some cs.length
  | chars set => if set.isEmpty then none else some 1
  | group _ e => e.minLength
  | seq a b => do return (← a.minLength) + (← b.minLength)
  | alt a b => do return min (← a.minLength) (← b.minLength)
  | rep least _ _ e => do return least * (← e.minLength)

/-- The number of characters of the longest match, places aside; none where a set is empty or a
repetition has no bound. -/
def maxLength : Expr → Option Nat
  | empty | place _ => some 0
  | text cs => some cs.length
  | chars set => if set.isEmpty then none else some 1
  | group _ e => e.maxLength
  | seq a b => do return (← a.maxLength) + (← b.maxLength)
  | alt a b => do return max (← a.maxLength) (← b.maxLength)
  | rep _ most _ e => do return (← most) * (← e.maxLength)

/-- The assertions about places. -/
def places : Expr → List Place
  | empty | text _ | chars _ => []
  | place p => [p]
  | group _ e | rep _ _ _ e => e.places
  | seq a b | alt a b => a.places ++ b.places

/-- Whether every match begins at the start of the text. -/
def opensAtStart : Expr → Bool
  | empty | text _ | chars _ => false
  | place p => p == .textStart
  | group _ e => e.opensAtStart
  | seq a b => a.opensAtStart || a.maxLength == some 0 && b.opensAtStart
  | alt a b => a.opensAtStart && b.opensAtStart
  | rep least _ _ e => least != 0 && e.opensAtStart

/-- Whether every match ends at the end of the text. -/
def closesAtEnd : Expr → Bool
  | empty | text _ | chars _ => false
  | place p => p == .textEnd
  | group _ e => e.closesAtEnd
  | seq a b => b.closesAtEnd || a.closesAtEnd && b.maxLength == some 0
  | alt a b => a.closesAtEnd && b.closesAtEnd
  | rep least _ _ e => least != 0 && e.closesAtEnd

end Expr

end RdfReasoner.Regex
