import RdfReasoner.Text.CharSet

/-!
# Sets of characters as sequences of bytes

The UTF-8 form of a range of characters.  A range is cut into parts whose forms are all of one
length and differ, byte by byte, in whole ranges of bytes; such a part is the list of these ranges.
-/

namespace RdfReasoner.Text

/-- A closed range of bytes. -/
abbrev ByteRange := Nat × Nat

/-- The bytes of the character with a code point. -/
def utf8Bytes (code : Nat) : List Nat :=
  if code < 0x80 then [code]
  else if code < 0x800 then [0xC0 + code / 0x40, 0x80 + code % 0x40]
  else if code < 0x10000 then
    [0xE0 + code / 0x1000, 0x80 + code / 0x40 % 0x40, 0x80 + code % 0x40]
  else
    [0xF0 + code / 0x40000, 0x80 + code / 0x1000 % 0x40, 0x80 + code / 0x40 % 0x40,
      0x80 + code % 0x40]

/-- Where a range has to be cut, if it is no list of ranges of bytes: where the number of bytes
changes, and else so that the last bytes run through all their values if those before them do not
stay the same. -/
def cutPoint? (lo hi : Nat) : Option Nat :=
  match [0x80, 0x800, 0x10000].find? fun p => lo < p && p ≤ hi with
  | some p => some p
  | none =>
    if hi < 0x80 then none
    else [0x40, 0x1000, 0x40000].findSome? fun block =>
      if lo / block = hi / block then none
      else if lo % block ≠ 0 then some ((lo / block + 1) * block)
      else if (hi + 1) % block ≠ 0 then some (hi / block * block)
      else none

/-- The parts of a range of characters that has no surrogates, in ascending order. -/
def byteRanges (lo hi : Nat) : List (List ByteRange) :=
  match cutPoint? lo hi with
  | none => [(utf8Bytes lo).zip (utf8Bytes hi)]
  | some p => if lo < p ∧ p ≤ hi then byteRanges lo (p - 1) ++ byteRanges p hi else []
termination_by hi - lo

/-- The parts of all ranges of a set, surrogates left out. -/
def encodedRanges (s : CharSet) : List (List ByteRange) :=
  s.ranges.flatMap fun (lo, hi) =>
    if lo < 0xD800 ∧ 0xDFFF < hi then byteRanges lo 0xD7FF ++ byteRanges 0xE000 hi
    else byteRanges lo hi

/-- A line feed apart, all characters take ten parts. -/
example : (encodedRanges (CharSet.singleton '\n').compl).length = 10 := by decide +kernel

end RdfReasoner.Text
