/-!
# Dates of the proleptic Gregorian calendar

`Date.ofDays` turns a count of days since 1 January 1970 into year, month and day.  The count is
first split into eras of 400 years, which all have the same number of days; years are counted from
March inside an era, so that a leap day is the last day of its year.
-/

namespace RdfReasoner

/-- A day of the calendar. -/
structure Date where
  year : Int
  month : Nat
  day : Nat
deriving DecidableEq

namespace Date

/-- Days from 1 March of year 0 to 1 January 1970. -/
def daysBeforeEpoch : Int := 719468

/-- Days in 400 years. -/
def daysPerEra : Int := 146097

/-- The date `days` days after 1 January 1970. -/
def ofDays (days : Int) : Date :=
  let shifted := days + daysBeforeEpoch
  let era := shifted.fdiv daysPerEra
  let dayOfEra := (shifted.fmod daysPerEra).toNat
  let yearOfEra := (dayOfEra - dayOfEra / 1460 + dayOfEra / 36524 - dayOfEra / 146096) / 365
  let dayOfYear := dayOfEra - (365 * yearOfEra + yearOfEra / 4 - yearOfEra / 100)
  let monthFromMarch := (5 * dayOfYear + 2) / 153
  let day := dayOfYear - (153 * monthFromMarch + 2) / 5 + 1
  let month := if monthFromMarch < 10 then monthFromMarch + 3 else monthFromMarch - 9
  let year := era * 400 + yearOfEra
  ⟨if month ≤ 2 then year + 1 else year, month, day⟩

/-- Whether a year has a leap day. -/
def isLeap (year : Int) : Bool := year % 4 = 0 && (year % 100 != 0 || year % 400 = 0)

/-- The number of days in a month, counted from 1. -/
def daysInMonth (year : Int) (month : Nat) : Nat :=
  if month = 2 then if isLeap year then 29 else 28
  else if [4, 6, 9, 11].contains month then 30
  else 31

example : ofDays 0 = ⟨1970, 1, 1⟩ := by decide
example : ofDays 11016 = ⟨2000, 2, 29⟩ := by decide
example : ofDays (-719529) = ⟨-1, 12, 31⟩ := by decide

end Date

end RdfReasoner
