/-!
# Hexadecimal digits

Numbers and characters whose code points are written in hexadecimal digits.
-/

namespace RdfReasoner.Text

/-- The value of a hexadecimal digit. -/
def hexDigit? (c : Char) : Option Nat :=
  if c.isDigit then some (c.toNat - 48)
  else if 'a' ≤ c ∧ c ≤ 'f' then some (c.toNat - 87)
  else if 'A' ≤ c ∧ c ≤ 'F' then some (c.toNat - 55)
  else none

/-- The number that hexadecimal digits denote. -/
def hexNumber? (digits : List Char) : Option Nat :=
  if digits.isEmpty then none
  else (digits.mapM hexDigit?).map fun values => values.foldl (fun n d => 16 * n + d) 0

/-- The character with a code point. -/
def charOfCode? (code : Nat) : Option Char :=
  if h : code.isValidChar then some (Char.ofNatAux code h) else none

/-- The character whose code point hexadecimal digits denote. -/
def charOfHex? (digits : List Char) : Option Char := (hexNumber? digits).bind charOfCode?

/-- The character with the code point of a character is that character. -/
theorem charOfCode?_toNat (c : Char) : charOfCode? c.toNat = some c := by
  exact dif_pos c.valid

end RdfReasoner.Text
