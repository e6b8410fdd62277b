/-!
# Words

The bounds of the integers that are kept in 64 bits.  The bounds are written as literals, so
that `omega` sees through `Word.Fits`.
-/

namespace RdfReasoner.Word

/-- Whether an integer fits into 64 bits, its sign included. -/
abbrev Fits (n : Int) : Prop := -0x8000000000000000 ≤ n ∧ n < 0x8000000000000000

/-- The least integer that fits. -/
def least : Int := -0x8000000000000000

/-- The largest number that fits into 64 bits without a sign. -/
def maxSize : Nat := 0xffffffffffffffff

/-- The bound itself fits. -/
theorem fits_least : Fits least := by decide

/-- No smaller integer fits. -/
theorem least_le {n : Int} (h : Fits n) : least ≤ n := h.1

end RdfReasoner.Word
