/-!
# Sets of characters

A `CharSet` lists closed ranges of code points, as the tables of a character property do.
Membership asks whether some range holds the code point; the operations below build the sets that
a character class of a regular expression denotes.  No order or disjointness is required of the
ranges: `normalize` gives the one list in ascending order whose ranges neither overlap nor touch,
and every operation that needs it starts from there.

Surrogates are code points but no characters.  A range may run across them, but no range of a table
begins or ends among them, and the operations keep it so.
-/

namespace RdfReasoner

/-- Closed ranges of code points. -/
structure CharSet where
  ranges : List (Nat × Nat)
deriving DecidableEq

namespace CharSet

/-- Sets are told apart by their first range well enough. -/
instance : Hashable CharSet := ⟨fun s => hash s.ranges.head?⟩

/-- The largest code point. -/
def maxCode : Nat := 0x10FFFF

/-- Whether a code point lies in one of the ranges. -/
def holdsCode (s : CharSet) (code : Nat) : Bool :=
  s.ranges.any fun r => r.1 ≤ code && code ≤ r.2

/-- Whether a character is in the set. -/
def contains (s : CharSet) (c : Char) : Bool := s.holdsCode c.toNat

/-- The set without members. -/
def empty : CharSet := ⟨[]⟩

/-- Every code point. -/
def all : CharSet := ⟨[(0, maxCode)]⟩

/-- The characters from `lo` to `hi`. -/
def range (lo hi : Char) : CharSet := ⟨[(lo.toNat, hi.toNat)]⟩

/-- One character alone. -/
def singleton (c : Char) : CharSet := range c c

/-- The members of a list of characters. -/
def ofChars (cs : List Char) : CharSet := ⟨cs.map fun c => (c.toNat, c.toNat)⟩

/-- Members of either set. -/
def union (s t : CharSet) : CharSet := ⟨s.ranges ++ t.ranges⟩

/-- Members of any of the given sets. -/
def unions (sets : List CharSet) : CharSet := ⟨sets.flatMap (·.ranges)⟩

/-- Ranges in ascending order, with those that overlap or touch made one. -/
def coalesce : List (Nat × Nat) → List (Nat × Nat)
  | (a, b) :: (c, d) :: rest =>
    if c ≤ b + 1 then coalesce ((a, max b d) :: rest) else (a, b) :: coalesce ((c, d) :: rest)
  | ranges => ranges
termination_by ranges => ranges.length

/-- The same set with its ranges in ascending order, apart from each other. -/
def normalize (s : CharSet) : CharSet :=
  ⟨coalesce (s.ranges.mergeSort fun a b => a.1 ≤ b.1)⟩

/-- The code points from `start` on that no range of a list in ascending order holds. -/
def gapsFrom (start : Nat) : List (Nat × Nat) → List (Nat × Nat)
  | [] => if start ≤ maxCode then [(start, maxCode)] else []
  | (lo, hi) :: rest =>
    let later := gapsFrom (max start (hi + 1)) rest
    if start < lo then (start, lo - 1) :: later else later

/-- All code points outside the set, surrogates among them. -/
def outside (s : CharSet) : CharSet := ⟨gapsFrom 0 s.normalize.ranges⟩

/-- Whether a code point is one half of a surrogate pair. -/
def isSurrogate (code : Nat) : Bool := 0xD800 ≤ code && code ≤ 0xDFFF

/-- A range with ends that are characters: from a surrogate the lower end moves up and the upper
end moves down. -/
def inward (r : Nat × Nat) : Nat × Nat :=
  (if isSurrogate r.1 then 0xE000 else r.1, if isSurrogate r.2 then 0xD7FF else r.2)

/-- The characters outside the set.  Between two ranges that only the surrogates keep apart it has
the two characters at the sides of the surrogates. -/
def compl (s : CharSet) : CharSet :=
  ⟨s.outside.ranges.map fun r => (min (inward r).1 (inward r).2, max (inward r).1 (inward r).2)⟩

/-- What two lists of ranges in ascending order have in common. -/
def common : List (Nat × Nat) → List (Nat × Nat) → List (Nat × Nat)
  | [], _ | _, [] => []
  | (a, b) :: s, (c, d) :: t =>
    let later := if b < d then common s ((c, d) :: t) else common ((a, b) :: s) t
    if max a c ≤ min b d then (max a c, min b d) :: later else later
termination_by s t => s.length + t.length

/-- Members of both sets. -/
def inter (s t : CharSet) : CharSet := ⟨common s.normalize.ranges t.normalize.ranges⟩

/-- Members of the first set that are not in the second. -/
def diff (s t : CharSet) : CharSet :=
  ⟨((common s.normalize.ranges t.outside.ranges).map inward).filter fun r => r.1 ≤ r.2⟩

/-- Members of exactly one of the sets. -/
def symmDiff (s t : CharSet) : CharSet := (s.union t).diff (s.inter t)

/-- Whether the set has no members. -/
def isEmpty (s : CharSet) : Bool := s.ranges.all fun r => r.2 < r.1

/-- Whether all members are ASCII. -/
def isAscii (s : CharSet) : Bool := s.ranges.all fun r => r.2 < 0x80

end CharSet

end RdfReasoner
