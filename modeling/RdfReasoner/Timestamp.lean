import RdfReasoner.Calendar
import RdfReasoner.Number.Word

/-!
# Timestamps

A timestamp counts milliseconds since the start of 1970 in 64 bits, sign included.  `Timestamp.min`
stands for "no time given".  The text form is a date and a time of day in universal time, as long
as the calendar reaches that far.
-/

namespace RdfReasoner

/-- Milliseconds since the start of 1970. -/
structure Timestamp where
  millis : Int
  fits : Word.Fits millis
deriving DecidableEq

namespace Timestamp

/-- The timestamp with the given count, if it has 64 bits. -/
def ofMillis? (millis : Int) : Option Timestamp :=
  if h : Word.Fits millis then some ⟨millis, h⟩ else none

/-- The least timestamp, which marks a fact that was given no time. -/
def min : Timestamp := ⟨Word.least, Word.fits_least⟩

instance : LE Timestamp := ⟨fun a b => a.millis ≤ b.millis⟩
instance : LT Timestamp := ⟨fun a b => a.millis < b.millis⟩
instance (a b : Timestamp) : Decidable (a ≤ b) := inferInstanceAs (Decidable (a.millis ≤ b.millis))
instance (a b : Timestamp) : Decidable (a < b) := inferInstanceAs (Decidable (a.millis < b.millis))
instance : Max Timestamp := ⟨fun a b => if a ≤ b then b else a⟩

theorem le_refl (a : Timestamp) : a ≤ a := Int.le_refl a.millis

theorem le_trans {a b c : Timestamp} (hab : a ≤ b) (hbc : b ≤ c) : a ≤ c := Int.le_trans hab hbc

theorem max_def (a b : Timestamp) : max a b = if a ≤ b then b else a := rfl

theorem max_eq_right {a b : Timestamp} (h : a ≤ b) : max a b = b := if_pos h

theorem le_max_left (a b : Timestamp) : a ≤ max a b := by
  rw [max_def]
  split
  · assumption
  · exact le_refl a

theorem le_max_right (a b : Timestamp) : b ≤ max a b := by
  rw [max_def]
  split
  · exact le_refl b
  · next h => exact Int.le_of_lt (Int.not_le.mp h)

theorem le_max_iff {a b c : Timestamp} : a ≤ max b c ↔ a ≤ b ∨ a ≤ c := by
  constructor
  · rw [max_def]
    split
    · exact .inr
    · exact .inl
  · rintro (h | h)
    · exact le_trans h (le_max_left b c)
    · exact le_trans h (le_max_right b c)

/-- The least timestamp is before every other. -/
theorem min_le (t : Timestamp) : min ≤ t := Word.least_le t.fits

/-- Whether the first timestamp is before, at or after the second. -/
def order (a b : Timestamp) : Ordering := compare a.millis b.millis

/-- The following millisecond; the last timestamp is its own successor. -/
def next (t : Timestamp) : Timestamp :=
  if h : Word.Fits (t.millis + 1) then ⟨t.millis + 1, h⟩ else t

/-! ## The text form -/

/-- The digits of `n`, filled up with zeros on the left to `width`. -/
def padded (width n : Nat) : String :=
  let digits := Nat.toDigits 10 n
  String.ofList (List.replicate (width - digits.length) '0' ++ digits)

/-- A year has at least four digits.  Years with more digits and years before year 0 carry a
sign. -/
def renderYear (year : Int) : String :=
  if 0 ≤ year ∧ year ≤ 9999 then padded 4 year.toNat
  else (if year < 0 then "-" else "+") ++ padded 4 year.natAbs

/-- Milliseconds in a day. -/
def millisPerDay : Int := 86400000

/-- The first and the last year of the calendar. -/
def firstYear : Int := -262143

@[inherit_doc firstYear]
def lastYear : Int := 262142

/-- Date and time to the millisecond, or the bare count outside the calendar. -/
def render (t : Timestamp) : String :=
  let date := Date.ofDays (t.millis.fdiv millisPerDay)
  let rest := (t.millis.fmod millisPerDay).toNat
  if firstYear ≤ date.year ∧ date.year ≤ lastYear then
    renderYear date.year ++ "-" ++ padded 2 date.month ++ "-" ++ padded 2 date.day ++ "T" ++
      padded 2 (rest / 3600000) ++ ":" ++ padded 2 (rest / 60000 % 60) ++ ":" ++
      padded 2 (rest / 1000 % 60) ++ "." ++ padded 3 (rest % 1000) ++ "Z"
  else toString t.millis ++ "ms"

end Timestamp

end RdfReasoner
