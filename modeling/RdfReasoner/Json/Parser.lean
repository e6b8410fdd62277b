import RdfReasoner.Fields
import RdfReasoner.Json
import RdfReasoner.Number.Double
import RdfReasoner.Number.Word
import RdfReasoner.Text.Hexadecimal

/-!
# Reading JSON texts

`Json.parse?` reads the grammar of JSON strictly: nothing may follow the value but blanks, strings
hold no control characters, and the two halves of a character beyond the first plane stand next to
each other.  The last field of a name counts.  Lists and objects are nested in each other at most
`Json.maxDepth` times, and numbers beyond all finite ones are refused.
-/

namespace RdfReasoner.Json

/-- Lists and objects may be nested in each other this often. -/
def maxDepth : Nat := 127

/-- Drops blanks. -/
def skipBlanks (cs : List Char) : List Char := cs.dropWhile [' ', '\n', '\r', '\t'].contains

/-- The characters behind a backslash, and what they stand for. -/
def escapes : List (Char × Char) :=
  [('"', '"'), ('\\', '\\'), ('/', '/'), ('b', '\x08'), ('f', '\x0c'), ('n', '\n'), ('r', '\r'),
    ('t', '\t')]

/-- Whether a number is the first half of a character. -/
def isHighHalf (code : Nat) : Bool := 0xD800 ≤ code && code < 0xDC00

/-- Whether a number is the second half of a character. -/
def isLowHalf (code : Nat) : Bool := 0xDC00 ≤ code && code < 0xE000

/-- The character of two halves. -/
def joinHalves? (high low : Nat) : Option Char :=
  if isLowHalf low then Text.charOfCode? (0x10000 + (high - 0xD800) * 0x400 + (low - 0xDC00))
  else none

/-- Reads a string to its closing quote.  `high` is a first half that waits for the second one,
`taken` what is read so far, last character first. -/
def string? (high : Option Nat) (taken : List Char) : List Char → Option (String × List Char)
  | [] => none
  | '\\' :: 'u' :: a :: b :: c :: d :: rest => do
    let code ← Text.hexNumber? [a, b, c, d]
    match high with
    | some h => string? none ((← joinHalves? h code) :: taken) rest
    | none =>
      if isHighHalf code then string? (some code) taken rest
      else string? none ((← Text.charOfCode? code) :: taken) rest
  | '\\' :: c :: rest => do
    let c ← escapes.lookup c
    if high.isSome then none else string? none (c :: taken) rest
  | c :: rest =>
    if high.isSome || c == '\\' || c.toNat < 0x20 then none
    else if c = '"' then some (String.ofList taken.reverse, rest)
    else string? none (c :: taken) rest

/-- Reads digits, of which there must be one. -/
def digits? (cs : List Char) : Option (List Char × List Char) :=
  let (ds, rest) := cs.span Char.isDigit
  if ds.isEmpty then none else some (ds, rest)

/-- Reads a fraction, if there is one. -/
def fraction? : List Char → Option (Option (List Char) × List Char)
  | '.' :: cs => (digits? cs).map fun (ds, rest) => (some ds, rest)
  | cs => some (none, cs)

/-- Reads an exponent, if there is one. -/
def exponent? : List Char → Option (Option Int × List Char)
  | [] => some (none, [])
  | c :: cs =>
    if c = 'e' ∨ c = 'E' then do
      let (negative, cs) := Decimal.splitSign cs
      let (ds, rest) ← digits? cs
      let n : Int := Decimal.natOfDigits ds
      some (some (if negative then -n else n), rest)
    else some (none, c :: cs)

/-- Appends digits to a number while it fits into 64 bits, and gives the digits that are left. -/
def appendDigits (n : Nat) : List Char → Nat × List Char
  | [] => (n, [])
  | d :: ds =>
    let longer := 10 * n + (d.toNat - 48)
    if longer ≤ Word.maxSize then appendDigits longer ds else (n, d :: ds)

/-- The number of the digits before the point, behind the point, and an exponent.  Digits that no
longer fit into 64 bits are left out; those before the point only count for its place. -/
def ofDigits? (negative : Bool) (whole fraction : List Char) (exponent : Int) : Option Double :=
  let (n, left) := appendDigits 0 whole
  let (m, unused) := appendDigits n fraction
  Double.ofScaled? negative m (left.length - (fraction.length - unused.length : Nat) + exponent)

example : ofDigits? false "3".toList "0".toList 1 = Double.ofScaled? false 30 0 := by
  decide +kernel

/-- Whether an integer fits into 64 bits, with a sign if it is negative. -/
def isWord (n : Int) : Bool := Word.least ≤ n && n ≤ Word.maxSize

/-- Reads a number.  A zero with a sign is no integer, and neither is what does not fit. -/
def number? (cs : List Char) : Option (Json × List Char) := do
  let (negative, cs) := match cs with
    | '-' :: cs => (true, cs)
    | cs => (false, cs)
  let (whole, cs) ← digits? cs
  let (fraction, cs) ← fraction? cs
  let (exponent, rest) ← exponent? cs
  let n : Int := Decimal.natOfDigits whole
  let n := if negative then -n else n
  if whole.length > 1 ∧ whole.head? = some '0' then none
  else if fraction.isNone ∧ exponent.isNone ∧ isWord n ∧ ¬(negative ∧ n = 0) then
    some (.int n, rest)
  else
    (ofDigits? negative whole (fraction.getD []) (exponent.getD 0)).map fun x => (.real x, rest)

mutual

/-- Reads a value. -/
def value? : (fuel depth : Nat) → List Char → Option (Json × List Char)
  | 0, _, _ => none
  | fuel + 1, depth, cs =>
    match skipBlanks cs with
    | 'n' :: 'u' :: 'l' :: 'l' :: rest => some (.null, rest)
    | 't' :: 'r' :: 'u' :: 'e' :: rest => some (.bool true, rest)
    | 'f' :: 'a' :: 'l' :: 's' :: 'e' :: rest => some (.bool false, rest)
    | '"' :: rest => (string? none [] rest).map fun (s, rest) => (.str s, rest)
    | '[' :: rest =>
      match depth, skipBlanks rest with
      | 0, _ => none
      | _, ']' :: rest => some (.arr [], rest)
      | depth + 1, rest => (items? fuel depth rest).map fun (items, rest) => (.arr items, rest)
    | '\x7b' :: rest =>
      match depth, skipBlanks rest with
      | 0, _ => none
      | _, '\x7d' :: rest => some (.obj [], rest)
      | depth + 1, rest =>
        (fields? fuel depth rest).map fun (fields, rest) => (.obj (Fields.ofList fields), rest)
    | rest => number? rest

/-- Reads the items of a list to its closing bracket. -/
def items? : (fuel depth : Nat) → List Char → Option (List Json × List Char)
  | 0, _, _ => none
  | fuel + 1, depth, cs => do
    let (item, rest) ← value? fuel depth cs
    match skipBlanks rest with
    | ',' :: rest => (items? fuel depth rest).map fun (items, rest) => (item :: items, rest)
    | ']' :: rest => some ([item], rest)
    | _ => none

/-- Reads the fields of an object to its closing brace. -/
def fields? : (fuel depth : Nat) → List Char → Option (List (String × Json) × List Char)
  | 0, _, _ => none
  | fuel + 1, depth, cs =>
    match skipBlanks cs with
    | '"' :: rest => do
      let (name, rest) ← string? none [] rest
      match skipBlanks rest with
      | ':' :: rest =>
        let (v, rest) ← value? fuel depth rest
        match skipBlanks rest with
        | ',' :: rest =>
          (fields? fuel depth rest).map fun (fields, rest) => ((name, v) :: fields, rest)
        | '\x7d' :: rest => some ([(name, v)], rest)
        | _ => none
      | _ => none
    | _ => none

end

/-- Reads a text that is one value.  Every value and every part takes a character of its own or
leads to one that does, so twice the length is enough fuel. -/
def parse? (text : String) : Option Json :=
  let cs := text.toList
  match value? (2 * cs.length + 1) maxDepth cs with
  | some (v, rest) => if (skipBlanks rest).isEmpty then some v else none
  | none => none

end RdfReasoner.Json
