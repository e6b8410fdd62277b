import RdfReasoner.Calendar
import RdfReasoner.Number.Decimal

/-!
# Dates and times in TOML documents

A date, a time of day, or a date and a time of day with or without an offset.  `Toml.time?` reads
one and gives its normal form: a `T` before the time, seconds even if they are not given, a fraction
of at most nine digits without zeros at its end, and a `Z` for no offset at all.
-/

namespace RdfReasoner.Toml

/-- Reads `n` digits as a number. -/
def fixed? (n : Nat) (cs : List Char) : Option (Nat × List Char) :=
  let ds := cs.take n
  if ds.length = n ∧ ds.all Char.isDigit then some (Decimal.natOfDigits ds, cs.drop n) else none

/-- Drops a character that has to be there. -/
def drop? (c : Char) : List Char → Option (List Char)
  | d :: cs => if c = d then some cs else none
  | [] => none

/-- Reads a date, and gives its text. -/
def date? (cs : List Char) : Option (List Char × List Char) := do
  let (year, rest) ← fixed? 4 cs
  let (month, rest) ← fixed? 2 (← drop? '-' rest)
  let (day, rest) ← fixed? 2 (← drop? '-' rest)
  if 1 ≤ month ∧ month ≤ 12 ∧ 1 ≤ day ∧ day ≤ Date.daysInMonth year month then
    some (cs.take 10, rest)
  else none

/-- The fraction of a second in its normal form. -/
def fraction (ds : List Char) : List Char :=
  match ((ds.take 9).reverse.dropWhile (· == '0')).reverse with
  | [] => []
  | ds => '.' :: ds

/-- Reads a time of day, and gives its normal form.  Seconds may be missing. -/
def clock? (cs : List Char) : Option (List Char × List Char) := do
  let (hour, rest) ← fixed? 2 cs
  let (minute, rest) ← fixed? 2 (← drop? ':' rest)
  if hour > 23 ∨ minute > 59 then none
  else
    match rest with
    | ':' :: rest =>
      let (second, rest) ← fixed? 2 rest
      if second > 60 then none
      else
        match rest with
        | '.' :: rest =>
          let (ds, rest) := rest.span Char.isDigit
          if ds.isEmpty then none else some (cs.take 8 ++ fraction ds, rest)
        | rest => some (cs.take 8, rest)
    | rest => some (cs.take 5 ++ [':', '0', '0'], rest)

/-- Reads an offset, and gives its normal form. -/
def offset? : List Char → Option (List Char)
  | ['Z'] | ['z'] => some ['Z']
  | sign :: rest => do
    let (hours, after) ← fixed? 2 rest
    let (minutes, after) ← fixed? 2 (← drop? ':' after)
    if (sign = '+' ∨ sign = '-') ∧ hours ≤ 23 ∧ minutes ≤ 59 ∧ after = [] then
      some ((if hours = 0 ∧ minutes = 0 then '+' else sign) :: rest)
    else none
  | [] => none

/-- Reads a date, a time of day or both, and gives the normal form. -/
def time? (cs : List Char) : Option String :=
  match date? cs with
  | some (date, []) => some (String.ofList date)
  | some (date, mark :: rest) => do
    let (clock, rest) ← clock? rest
    let together := date ++ 'T' :: clock
    if !(mark == 'T' || mark == 't' || mark == ' ') then none
    else if rest.isEmpty then some (String.ofList together)
    else (offset? rest).map fun offset => String.ofList (together ++ offset)
  | none =>
    match clock? cs with
    | some (clock, []) => some (String.ofList clock)
    | _ => none

example : time? "2024-02-29 10:00:00.120z".toList = some "2024-02-29T10:00:00.12Z" := by
  decide +kernel
example : time? "07:32".toList = some "07:32:00" := by decide +kernel
example : time? "2023-02-29".toList = none := by decide +kernel

end RdfReasoner.Toml
