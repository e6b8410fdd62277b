import RdfReasoner.Text.CharSet

/-!
# Blank characters

The characters with the Unicode property `White_Space`, and removal of blanks at the two ends of
a text.
-/

namespace RdfReasoner.Text

/-- The 25 code points with the Unicode property `White_Space`. -/
def blanks : CharSet :=
  ⟨[(0x9, 0xD), (0x20, 0x20), (0x85, 0x85), (0xA0, 0xA0), (0x1680, 0x1680), (0x2000, 0x200A),
    (0x2028, 0x2029), (0x202F, 0x202F), (0x205F, 0x205F), (0x3000, 0x3000)]⟩

/-- Whether a character is white space. -/
def isBlank (c : Char) : Bool := blanks.contains c

/-- A text without the blanks at its two ends. -/
def trim (cs : List Char) : List Char :=
  (((cs.dropWhile isBlank).reverse).dropWhile isBlank).reverse

/-- The table has 25 members. -/
example : (blanks.ranges.map fun r => r.2 + 1 - r.1).sum = 25 := by decide

end RdfReasoner.Text
