import RdfReasoner.Text.Blank
import RdfReasoner.Text.LetterCase

/-!
# Flags of a pattern

The flags that say how a pattern is read from some place on, and the reading of flags.  Where the
`x` flag is set, blanks and comments between the parts of a pattern have no meaning: `Flags.skip`
drops them, and most readers skip them behind every character they take.
-/

namespace RdfReasoner.Regex

/-- What the flags of a pattern say at some place. -/
structure Flags where
  ignoreCase : Bool := false
  multiLine : Bool := false
  dotAll : Bool := false
  /-- Repetitions are lazy unless they are marked, and not the other way round. -/
  swapGreed : Bool := false
  unicode : Bool := true
  crlf : Bool := false
  /-- Blanks and comments in the pattern are skipped. -/
  extended : Bool := false

/-- Drops blanks, and comments from `#` to the end of the line. -/
def skipComments (inComment : Bool) : List Char → List Char
  | [] => []
  | c :: rest =>
    if inComment then skipComments (c != '\n') rest
    else if Text.isBlank c then skipComments false rest
    else if c = '#' then skipComments true rest
    else c :: rest

theorem length_skipComments_le (inComment : Bool) (cs : List Char) :
    (skipComments inComment cs).length ≤ cs.length := by
  induction cs generalizing inComment with
  | nil => simp [skipComments]
  | cons c rest ih =>
    simp only [skipComments, List.length_cons]
    split
    · exact Nat.le_succ_of_le (ih _)
    · split
      · exact Nat.le_succ_of_le (ih _)
      · split
        · exact Nat.le_succ_of_le (ih _)
        · simp

namespace Flags

/-- What follows once insignificant blanks are skipped. -/
def skip (f : Flags) (cs : List Char) : List Char :=
  if f.extended then skipComments false cs else cs

theorem length_skip_le (f : Flags) (cs : List Char) : (f.skip cs).length ≤ cs.length := by
  unfold skip
  split
  · exact length_skipComments_le false cs
  · exact Nat.le_refl _

/-- Takes the characters that pass a test, skipping insignificant blanks behind each. -/
def collect (f : Flags) (test : Char → Bool) : List Char → List Char × List Char
  | [] => ([], [])
  | c :: rest =>
    if test c then
      let (taken, rest) := f.collect test (f.skip rest)
      (c :: taken, rest)
    else ([], c :: rest)
termination_by cs => cs.length
decreasing_by exact Nat.lt_succ_of_le (f.length_skip_le rest)

/-- Takes `n` characters, skipping insignificant blanks behind each. -/
def take? (f : Flags) : Nat → List Char → Option (List Char × List Char)
  | 0, cs => some ([], cs)
  | _ + 1, [] => none
  | n + 1, c :: cs => (f.take? n (f.skip cs)).map fun (taken, rest) => (c :: taken, rest)

/-- What comes behind the next character, with blanks and the sign of one comment passed over, but
not the comment itself; where nothing else comes, the very next character does. -/
def second? (f : Flags) (cs : List Char) : Option Char :=
  if !f.extended then cs.tail.head?
  else (pass false cs.tail).or cs.tail.head?
where
  /-- The first character that is neither a blank nor the first `#`. -/
  pass (hashSeen : Bool) : List Char → Option Char
    | [] => none
    | c :: rest =>
      if Text.isBlank c then pass hashSeen rest
      else if c = '#' ∧ !hashSeen then pass true rest
      else some c

/-- A set with all that its members stand for when letter case is ignored. -/
def fold (f : Flags) (s : CharSet) : CharSet :=
  if !f.ignoreCase then s
  else if f.unicode then s.closeUnderCase
  else s.closeUnderAsciiCase

/-- A set or its complement, letter case taken into account first.  Without Unicode it has to stay
within ASCII. -/
def close? (f : Flags) (negated : Bool) (s : CharSet) : Option CharSet :=
  let s := f.fold s
  if f.unicode then some (if negated then s.compl else s)
  else if negated || !s.isAscii then none
  else some s

/-- Reads flags up to a colon or a closing parenthesis.  `seen` holds the flags named so far,
`dangling` says that a minus sign still waits for one.  The answer tells the flags, what stopped the
reading, what follows, and whether no flag was named. -/
def read? (f : Flags) (seen : List Char) (off dangling : Bool) :
    List Char → Option (Flags × Char × List Char × Bool)
  | [] => none
  | c :: cs =>
    if c = ':' ∨ c = ')' then
      if dangling then none else some (f, c, cs, seen.isEmpty)
    else if c = '-' then if off then none else f.read? seen true true cs
    else if seen.contains c then none
    else
      match c with
      | 'i' => read? { f with ignoreCase := !off } (c :: seen) off false cs
      | 'm' => read? { f with multiLine := !off } (c :: seen) off false cs
      | 's' => read? { f with dotAll := !off } (c :: seen) off false cs
      | 'U' => read? { f with swapGreed := !off } (c :: seen) off false cs
      | 'u' => read? { f with unicode := !off } (c :: seen) off false cs
      | 'R' => read? { f with crlf := !off } (c :: seen) off false cs
      | 'x' => read? { f with extended := !off } (c :: seen) off false cs
      | _ => none

end Flags

end RdfReasoner.Regex
