/-!
# Decimal numbers

The numbers that a text with digits, a fraction and an exponent denotes, and the grammar of such
texts that readers of numbers share.
-/

namespace RdfReasoner

/-- The number `digits · 10 ^ exponent`, with a sign of its own so that zero can carry one. -/
structure Decimal where
  negative : Bool
  digits : Nat
  exponent : Int
deriving DecidableEq

namespace Decimal

/-- The number that a list of decimal digits denotes. -/
def natOfDigits (ds : List Char) : Nat := ds.foldl (fun n d => 10 * n + (d.toNat - 48)) 0

/-- A sign in front of a text, where there is one. -/
def splitSign : List Char → Bool × List Char
  | '-' :: cs => (true, cs)
  | '+' :: cs => (false, cs)
  | cs => (false, cs)

/-- Reads an integer: a sign that may be missing, and digits. -/
def int? (cs : List Char) : Option Int :=
  let (negative, ds) := splitSign cs
  if ds.isEmpty || !ds.all Char.isDigit then none
  else some (if negative then -(natOfDigits ds : Int) else natOfDigits ds)

/-- Reads an exponent behind its mark. -/
def exponent? : List Char → Option Int
  | [] => some 0
  | c :: cs => if c = 'e' ∨ c = 'E' then int? cs else none

/-- Reads a number: a sign that may be missing, digits with a point among or beside them, and an
exponent that may be missing. -/
def parse? (cs : List Char) : Option Decimal :=
  let (negative, rest) := splitSign cs
  let whole := rest.takeWhile Char.isDigit
  let rest := rest.dropWhile Char.isDigit
  let (fraction, rest) := match rest with
    | '.' :: rest => (rest.takeWhile Char.isDigit, rest.dropWhile Char.isDigit)
    | _ => ([], rest)
  if whole.isEmpty && fraction.isEmpty then none
  else
    (exponent? rest).map fun e =>
      ⟨negative, natOfDigits (whole ++ fraction), e - fraction.length⟩

end Decimal

end RdfReasoner
