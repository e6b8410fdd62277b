import RdfReasoner.Timestamp
import Std.Data.TreeMap

/-!
# Watermarks

For every rule that ran with success, the latest time that such a run was given.  A watermark never
goes back.
-/

namespace RdfReasoner

/-- The latest successful run of every rule. -/
structure Watermarks where
  times : Std.TreeMap String Timestamp := ∅

namespace Watermarks

/-- No rule ran yet. -/
def empty : Watermarks := {}

/-- The watermark of a rule. -/
def get? (w : Watermarks) (rule : String) : Option Timestamp := w.times[rule]?

/-- Moves the watermark of a rule forward; an earlier time leaves it where it is. -/
def advance (w : Watermarks) (rule : String) (t : Timestamp) : Watermarks :=
  ⟨w.times.insert rule (((w.get? rule).map (max · t)).getD t)⟩

/-- The number of rules that have a watermark. -/
def size (w : Watermarks) : Nat := w.times.size

/-- Whether no rule has a watermark. -/
def isEmpty (w : Watermarks) : Bool := w.times.isEmpty

@[simp] theorem get?_empty (rule : String) : empty.get? rule = none := by simp [get?, empty]

theorem get?_advance (w : Watermarks) (rule other : String) (t : Timestamp) :
    (w.advance rule t).get? other =
      if rule = other then some (((w.get? rule).map (max · t)).getD t) else w.get? other := by
  simp [get?, advance, Std.TreeMap.getElem?_insert]

end Watermarks

end RdfReasoner
