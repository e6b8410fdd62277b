import RdfReasoner.Number.Decimal
import RdfReasoner.Number.Word

/-!
# Numbers with 53 binary digits

A finite `Double` is `mantissa · 2 ^ exponent`.  `Double.ofDecimal` rounds a decimal number to the
nearest one, a tie to the even mantissa.  `Double.render` writes the fewest decimal digits that are
rounded to the number again, of two such digit sequences the nearer one, in positional notation.

All arithmetic is exact, on natural numbers.
-/

namespace RdfReasoner

/-- A binary floating-point number of 64 bits. -/
inductive Double
  | nan
  | infinite (negative : Bool)
  | finite (negative : Bool) (mantissa : Nat) (exponent : Int)
deriving DecidableEq

namespace Double

/-- The least exponent of a finite number. -/
def minExponent : Int := -1074

/-- The greatest exponent of a finite number. -/
def maxExponent : Int := 971

/-- `n · 2 ^ e` or `n · 10 ^ e` as a quotient of natural numbers. -/
def scaled (base n : Nat) (e : Int) : Nat × Nat :=
  if 0 ≤ e then (n * base.pow e.toNat, 1) else (n, base.pow (-e).toNat)

/-- A quotient rounded to the nearest natural number, a tie to the even one. -/
def roundEven (num den : Nat) : Nat :=
  let q := num / den
  let twice := 2 * (num % den)
  if twice < den ∨ twice = den ∧ q % 2 = 0 then q else q + 1

/-- The number nearest to a positive quotient. -/
def ofQuotient (negative : Bool) (num den : Nat) : Double :=
  let size : Int := (num.log2 : Int) - den.log2
  -- with this exponent the mantissa has 53 or 54 digits
  let guess := max minExponent (size - 53)
  let mantissaAt (e : Int) : Nat :=
    let (n, d) := scaled 2 1 (-e)
    roundEven (num * n) (den * d)
  let wide (e : Int) : Bool :=
    let (n, d) := scaled 2 1 (-e)
    0x20000000000000 ≤ num * n / (den * d)
  let exponent := if wide guess then guess + 1 else guess
  let mantissa := mantissaAt exponent
  let (mantissa, exponent) :=
    if mantissa = 0x20000000000000 then (0x10000000000000, exponent + 1) else (mantissa, exponent)
  if exponent > maxExponent then infinite negative else finite negative mantissa exponent

/-- The number nearest to a natural number. -/
def ofNat (negative : Bool) (n : Nat) : Double :=
  if n = 0 then finite negative 0 minExponent else ofQuotient negative n 1

/-- The product of two numbers that are not negative, rounded. -/
def times : Double → Double → Double
  | finite _ m d, finite _ n e =>
    let (num, den) := scaled 2 (m * n) (d + e)
    if num = 0 then finite false 0 minExponent else ofQuotient false num den
  | _, _ => infinite false

/-- The quotient of two numbers that are not negative, rounded. -/
def dividedBy : Double → Double → Double
  | finite _ m d, finite _ (n + 1) e =>
    let (num, den) := scaled 2 m (d - e)
    if num = 0 then finite false 0 minExponent else ofQuotient false num (den * (n + 1))
  | _, _ => infinite false

/-- The number nearest to a decimal number. -/
def ofDecimal (d : Decimal) : Double :=
  let places : Int := d.exponent + (Nat.toDigits 10 d.digits).length
  if d.digits = 0 ∨ places < -330 then finite d.negative 0 minExponent
  else if places > 310 then infinite d.negative
  else
    let (num, den) := scaled 10 d.digits d.exponent
    ofQuotient d.negative num den

/-- The number nearest to a power of ten. -/
def powerOfTen (e : Nat) : Double := ofDecimal ⟨false, 1, e⟩

/-- The greatest exponent of a finite power of ten. -/
def maxPower : Nat := 308

/-- The number with the opposite sign. -/
def negate : Double → Double
  | nan => nan
  | infinite s => infinite !s
  | finite s m e => finite (!s) m e

/-- Divides a number by a power of ten, in steps of at most `maxPower` that are rounded one by
one. -/
def overPower (x : Double) : (fuel e : Nat) → Double
  | 0, _ => x
  | fuel + 1, e =>
    if e ≤ maxPower then x.dividedBy (powerOfTen e)
    else (x.dividedBy (powerOfTen maxPower)).overPower fuel (e - maxPower)

/-- The number near `n · 10 ^ e`, in two roundings or a few more: of `n`, and of its product with or
quotient by the power of ten.  There is none beyond the finite numbers. -/
def ofScaled? (negative : Bool) (n : Nat) (e : Int) : Option Double := do
  let x := ofNat false n
  let y ← if n = 0 then some x
    else if 0 ≤ e then
      if e ≤ maxPower then some (x.times (powerOfTen e.toNat)) else none
    -- three steps take any number of 64 bits to zero
    else some (x.overPower 3 (-e).toNat)
  if y = infinite false then none else some (if negative then y.negate else y)

/-- Reads a number, an infinity or the number that is none. -/
def parse? (cs : List Char) : Option Double :=
  let (negative, rest) := Decimal.splitSign cs
  match String.ofList (rest.map Char.toLower) with
  | "inf" | "infinity" => some (infinite negative)
  | "nan" => some nan
  | _ => (Decimal.parse? cs).map ofDecimal

/-- Whether the number is zero, of either sign. -/
def isZero : Double → Bool
  | finite _ 0 _ => true
  | _ => false

/-- The nearest natural number, a tie away from zero, within the bounds of 64 bits. -/
def toNatClamped : Double → Nat
  | nan | infinite true | finite true .. => 0
  | infinite false => Word.maxSize
  | finite false m e =>
    let (num, den) := scaled 2 m e
    min ((2 * num + den) / (2 * den)) Word.maxSize

/-! ## The fewest digits -/

/-- Whether `a / b ≤ c / d`, or `<` where the bound is not included. -/
def below (included : Bool) (a b c d : Nat) : Bool :=
  if included then a * d ≤ c * b else a * d < c * b

/-- Of the numbers `q · 10 ^ p` and `(q + 1) · 10 ^ p` around the value, the nearer one that is
rounded to the value again. -/
def nearestOnGrid (m : Nat) (e : Int) (p : Int) : Option Nat :=
  let (num, den) := scaled 2 m e
  let (up, down) := scaled 10 1 p
  let q := num * down / (den * up)
  -- the bounds of what is rounded to the value, in quarters of the last binary digit
  let (unit, unitDen) := scaled 2 1 (e - 2)
  let gap := if m = 0x10000000000000 ∧ minExponent < e then 1 else 2
  let low := (4 * m - gap) * unit
  let high := (4 * m + 2) * unit
  let even := m % 2 = 0
  let fits (d : Nat) : Bool :=
    below even low unitDen (d * up) down && below even (d * up) down high unitDen
  let lowFits := fits q && q != 0
  let highFits := fits (q + 1)
  if lowFits && highFits then
    -- compare the distances of the two to the value
    if 2 * (num * down) < (2 * q + 1) * up * den then some q
    else if 2 * (num * down) = (2 * q + 1) * up * den ∧ q % 2 = 0 then some q
    else some (q + 1)
  else if lowFits then some q
  else if highFits then some (q + 1)
  else none

/-- The power of ten of the first digit of a positive number. -/
def leadingPlace (m : Nat) (e : Int) : Int :=
  let (num, den) := scaled 2 m e
  if den ≤ num then (Nat.toDigits 10 (num / den)).length - 1
  else -(Nat.toDigits 10 ((den - 1) / num)).length

/-- The fewest digits that are rounded to the value, and the power of ten of the last of them: tried
with ever more digits, of which 17 are always enough. -/
def shortest (m : Nat) (e : Int) : Nat × Int :=
  let place := leadingPlace m e
  let grids := (List.range 18).map fun (n : Nat) => place - n
  (grids.findSome? fun p => (nearestOnGrid m e p).map (·, p)).getD (m, 0)

/-- The number `digits · 10 ^ p` in positional notation, without zeros behind the last digit of a
fraction. -/
def positional (digits : Nat) (p : Int) : String :=
  let all := (Nat.toDigits 10 digits).reverse
  let ds := (all.dropWhile (· == '0')).reverse
  let p := p + (all.length - ds.length : Nat)
  if 0 ≤ p then String.ofList (ds ++ List.replicate p.toNat '0')
  else
    let places := (-p).toNat
    let ds := List.replicate (places + 1 - ds.length) '0' ++ ds
    String.ofList (ds.take (ds.length - places) ++ '.' :: ds.drop (ds.length - places))

/-- The text form. -/
def render : Double → String
  | nan => "NaN"
  | infinite negative => if negative then "-inf" else "inf"
  | finite negative m e =>
    (if negative then "-" else "") ++
      if m = 0 then "0"
      else
        let (digits, p) := shortest m e
        positional digits p

end Double

end RdfReasoner
