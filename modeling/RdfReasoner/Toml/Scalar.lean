import RdfReasoner.Number.Word
import RdfReasoner.Text.Hexadecimal
import RdfReasoner.Toml
import RdfReasoner.Toml.Time

/-!
# Scalars of TOML documents

Integers of 64 bits, numbers with a fraction or an exponent, truth values, dates and times.
`Toml.scalar?` reads the text of one.  An underscore may stand between two digits, and no decimal
number starts with a zero that could be left out.
-/

namespace RdfReasoner.Toml

/-- The digits of a text, without the underscores between them. -/
def plainDigits? (isDigit : Char → Bool) : List Char → Option (List Char)
  | [] => none
  | [c] => if isDigit c then some [c] else none
  | c :: '_' :: rest =>
    if isDigit c then (plainDigits? isDigit rest).map (c :: ·) else none
  | c :: rest => if isDigit c then (plainDigits? isDigit rest).map (c :: ·) else none

/-- Reads digits of a base up to 16. -/
def ofBase? (base : Nat) (cs : List Char) : Option Nat := do
  let ds ← plainDigits? (fun c => (Text.hexDigit? c).any (· < base)) cs
  let values ← ds.mapM Text.hexDigit?
  some (values.foldl (fun n d => base * n + d) 0)

/-- Reads decimal digits that start with a zero only if that is all. -/
def wholeDigits? (cs : List Char) : Option (List Char) := do
  let ds ← plainDigits? Char.isDigit cs
  if ds.length > 1 ∧ ds.head? = some '0' then none else some ds

/-- Reads an integer of any size: decimal with a sign that may be missing, or without a sign in
base 16, 8 or 2. -/
def unboundedInt? : List Char → Option Int
  | '0' :: 'x' :: ds => (ofBase? 16 ds).map Int.ofNat
  | '0' :: 'o' :: ds => (ofBase? 8 ds).map Int.ofNat
  | '0' :: 'b' :: ds => (ofBase? 2 ds).map Int.ofNat
  | cs => do
    let (negative, cs) := Decimal.splitSign cs
    let n : Int := Decimal.natOfDigits (← wholeDigits? cs)
    some (if negative then -n else n)

/-- Reads an integer of 64 bits. -/
def int? (cs : List Char) : Option Int := do
  let n ← unboundedInt? cs
  if Word.Fits n then some n else none

example : int? "1_000".toList = some 1000 := by decide +kernel
example : int? "01".toList = none := by decide +kernel

/-- Whether a character can stand among digits. -/
def isDigitOrUnderscore (c : Char) : Bool := c.isDigit || c == '_'

/-- Reads the exponent of a number, which may be missing. -/
def exponent? : List Char → Option Int
  | [] => some 0
  | c :: cs =>
    if c = 'e' ∨ c = 'E' then do
      let (negative, cs) := Decimal.splitSign cs
      let n : Int := Decimal.natOfDigits (← plainDigits? Char.isDigit cs)
      some (if negative then -n else n)
    else none

/-- Reads a finite number with a fraction, an exponent or both. -/
def finite? (negative : Bool) (cs : List Char) : Option Double := do
  let (whole, rest) := cs.span isDigitOrUnderscore
  let whole ← wholeDigits? whole
  let (fraction, rest) ← match rest with
    | [] => none
    | '.' :: rest => do
      let (ds, rest) := rest.span isDigitOrUnderscore
      some (← plainDigits? Char.isDigit ds, rest)
    | rest => some ([], rest)
  let e ← exponent? rest
  match Double.ofDecimal
      ⟨negative, Decimal.natOfDigits (whole ++ fraction), e - fraction.length⟩ with
  | .infinite _ => none
  | x => some x

/-- Reads a number that is no integer. -/
def real? (cs : List Char) : Option Double :=
  let (negative, cs) := Decimal.splitSign cs
  match cs with
  | ['i', 'n', 'f'] => some (.infinite negative)
  | ['n', 'a', 'n'] => some .nan
  | cs => finite? negative cs

/-- Reads a scalar. -/
def scalar? (cs : List Char) : Option Toml :=
  match cs with
  | ['t', 'r', 'u', 'e'] => some (.bool true)
  | ['f', 'a', 'l', 's', 'e'] => some (.bool false)
  | cs => ((int? cs).map .int <|> (real? cs).map .real) <|> (time? cs).map .time

end RdfReasoner.Toml
