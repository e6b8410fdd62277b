import RdfReasoner.Regex.Syntax
import RdfReasoner.Text.Encoding
import Std.Data.HashMap

/-!
# The size of a pattern

A pattern is searched for by two machines with states over the bytes of a text, one that reads the
text forward and one that reads it backward.  A pattern is refused if either of them would take more
than 10 MiB.  A state takes 32 bytes; besides, a fork takes 4 bytes for each of its branches, and a
state that reads one byte out of several ranges takes 8 bytes for each of them.

A machine is only counted here, not built: `Footprint` holds the numbers, and the states that the
parts of one set share are found by a table in which a newer state may push an older one out.
States are numbered in the order in which they would be made.
-/

namespace RdfReasoner.Regex

open Text (ByteRange utf8Bytes encodedRanges)

/-- The way in which a machine reads a text. -/
inductive Direction
  | forward | backward
deriving DecidableEq

/-- The number of states of a machine, and the bytes that they take beyond their own size. -/
structure Footprint where
  states : Nat
  extra : Nat

namespace Footprint

/-- The bytes that a machine takes. -/
def bytes (m : Footprint) : Nat := 32 * m.states + m.extra

/-- The most bytes that a machine may take. -/
def maxBytes : Nat := 10 * 1024 * 1024

/-- A larger machine, unless it is too large. -/
def add (m : Footprint) (states extra : Nat) : Option Footprint :=
  let m : Footprint := ⟨m.states + states, m.extra + extra⟩
  if m.bytes ≤ maxBytes then some m else none

/-! ## Sets of characters -/

/-- A number for a list of numbers that spreads well. -/
def spread (numbers : List Nat) : Nat :=
  (numbers.foldl (fun h n => (h ^^^ UInt64.ofNat n) * 1099511628211)
    (14695981039346656037 : UInt64)).toNat

/-- The states of one set while they are counted.  `known` tells for each place of the table what
state was put there last, by what it reads and by its number. -/
structure Shared (κ : Type) where
  count : Footprint
  known : Std.HashMap Nat (κ × Nat) := ∅

/-- The number of the state that reads `key`, which is made unless the table has it. -/
def Shared.state {κ : Type} [DecidableEq κ] (key : κ) (numbers : List Nat) (places extra : Nat) :
    StateM (Shared κ) Nat := fun s =>
  let place := spread numbers % places
  let new : Nat × Shared κ :=
    (s.count.states,
      { count := ⟨s.count.states + 1, s.count.extra + extra⟩
        known := s.known.insert place (key, s.count.states) })
  match s.known[place]? with
  | some (key', number) => if key' = key then (number, s) else new
  | none => new

/-- A range of bytes, and the state that follows. -/
abbrev Arc := ByteRange × Nat

/-- The first state for some lists of byte ranges.  Lists that begin with the same range share the
arc, and states with the same arcs are one. -/
def forwardState (target : Nat) : Nat → List (List ByteRange) → StateM (Shared (List Arc)) Nat
  | 0, _ => pure target
  | depth + 1, parts => do
    let arcs ← (parts.splitBy (·.head? == ·.head?)).mapM fun group => do
      match group with
      | (range :: _ :: _) :: _ => pure (range, ← forwardState target depth (group.map List.tail))
      | (range :: []) :: _ => pure (range, target)
      | _ => pure ((0, 0), target)
    Shared.state arcs (arcs.flatMap fun arc => [arc.1.1, arc.1.2, arc.2]) 10000 (8 * arcs.length)

/-- The first state for the reading of some byte ranges from the last one on. -/
def backwardState (target : Nat) : List ByteRange → StateM (Shared (Nat × ByteRange)) Nat
  | [] => pure target
  | (lo, hi) :: rest => do
    backwardState (← Shared.state (target, lo, hi) [target, lo, hi] 1000 0) rest

/-- A machine with the states for one character of a set. -/
def addSet (dir : Direction) (set : CharSet) (m : Footprint) : Option Footprint :=
  if set.isAscii then m.add 2 (8 * set.ranges.length)
  else
    let parts := encodedRanges set
    match dir with
    | .forward => do
      let m ← m.add 1 0
      let (_, s) := (forwardState (m.states - 1) 4 parts).run { count := m }
      s.count.add 0 0
    | .backward => do
      let m ← m.add 2 (4 * parts.length)
      let (_, s) := (parts.forM fun part => do
        let _ ← backwardState (m.states - 1) part).run { count := m }
      s.count.add 0 0

/-! ## Alternations of texts -/

/-- Splits a list of texts at the empty ones. -/
def cutAtEmpty (texts : List (List Nat)) : List (List (List Nat)) :=
  texts.foldr (fun text parts =>
    match text, parts with
    | [], parts => [] :: parts
    | text, part :: parts => (text :: part) :: parts
    | text, [] => [[text]]) [[]]

/-- The states and the extra bytes below a fork of texts.  A text that ends at the fork keeps those
before it and those after it apart. -/
def forkOfTexts : Nat → List (List Nat) → Nat × Nat
  | 0, _ => (0, 0)
  | depth + 1, texts =>
    if texts.all (·.isEmpty) then (0, 0)
    else
      let ended := if texts.head? = some [] then 1 else 0
      let parts := cutAtEmpty (texts.dropWhile (·.isEmpty))
      let full := parts.filter (!·.isEmpty)
      full.foldl (fun total part =>
        let heads := (part.filterMap List.head?).eraseDups
        heads.foldl (fun total head =>
          let below := forkOfTexts depth
            ((part.filter fun text => text.head? = some head).map List.tail)
          (total.1 + below.1, total.2 + below.2))
          (total.1 + 1, total.2 + if heads.length = 1 then 0 else 8 * heads.length))
        (1, 4 * (ended + (parts.length - 1) + full.length))

/-- The bytes of a text in the order in which they are read. -/
def bytesOf (dir : Direction) (cs : List Char) : List Nat :=
  let bytes := cs.flatMap fun c => utf8Bytes c.toNat
  match dir with
  | .forward => bytes
  | .backward => bytes.reverse

/-- The branches of an alternation of nothing but texts. -/
def texts? : Expr → Option (List (List Char))
  | .text cs => some [cs]
  | .alt a b => do return (← texts? a) ++ (← texts? b)
  | _ => none

/-! ## Expressions -/

/-- A step done several times. -/
def iterate? (step : Footprint → Option Footprint) : Nat → Footprint → Option Footprint
  | 0, m => some m
  | n + 1, m =>
    match step m with
    | some m => iterate? step n m
    | none => none

/-- Which branch of an alternation comes next. -/
inductive Turn
  | first | second | later

/-- A machine after a branch of an alternation: the fork is made once there are two branches. -/
def endBranch (turn : Turn) (m : Footprint) : Option Footprint :=
  match turn with
  | .first => some m
  | .second => m.add 2 8
  | .later => m.add 0 4

/-- A machine with the states of an expression, which is a branch of an alternation or, at the first
turn, also stands anywhere else. -/
def addExpr (dir : Direction) (e : Expr) (turn : Turn) (m : Footprint) : Option Footprint := do
  match e with
  | .empty | .place _ => endBranch turn (← m.add 1 0)
  | .text cs => endBranch turn (← m.add (bytesOf dir cs).length 0)
  | .chars set => endBranch turn (← addSet dir set m)
  | .group _ e =>
    match dir with
    | .forward => endBranch turn (← (← addExpr dir e .first (← m.add 1 0)).add 1 0)
    | .backward => endBranch turn (← addExpr dir e .first m)
  | .seq a b =>
    match dir with
    | .forward => endBranch turn (← addExpr dir b .first (← addExpr dir a .first m))
    | .backward => endBranch turn (← addExpr dir a .first (← addExpr dir b .first m))
  | .alt a b =>
    match turn, texts? (.alt a b) with
    | .first, some texts =>
      let texts := texts.map (bytesOf dir)
      let (states, extra) := forkOfTexts ((texts.map List.length).foldl max 0 + 1) texts
      m.add (1 + states) extra
    | _, _ =>
      let m ← endBranch turn (← addExpr dir a .first m)
      addExpr dir b (match turn with | .first => .second | _ => .later) m
  | .rep least most _ e =>
    let one := addExpr dir e .first
    match least, most with
    | 0, some 1 => endBranch turn (← (← one (← m.add 1 8)).add 1 0)
    | 0, none =>
      if 0 < e.minLength.getD 0 then endBranch turn (← one (← m.add 1 8))
      else endBranch turn (← (← one m).add 3 16)
    | least, none => endBranch turn (← (← iterate? one least m).add 1 8)
    | least, some most =>
      if least = most then endBranch turn (← iterate? one least m)
      else
        let m ← if least = 0 then m.add 1 0 else iterate? one least m
        endBranch turn
          (← iterate? (fun m => do one (← m.add 1 8)) (most - least) (← m.add 1 0))

/-- The machine of an expression.  A search that may begin anywhere has a loop in front. -/
def ofExpr? (dir : Direction) (e : Expr) : Option Footprint := do
  let bound := match dir with
    | .forward => e.opensAtStart
    | .backward => e.closesAtEnd
  let m : Footprint := if bound then ⟨1, 0⟩ else ⟨3, 16⟩
  match dir with
  | .forward => (← addExpr dir e .first (← m.add 1 0)).add 2 0
  | .backward => (← addExpr dir e .first m).add 1 0

end Footprint

/-- Whether a pattern may be used: neither machine is too large, or it is a choice among thousands
of texts, for which no machine is needed. -/
def Expr.fits (e : Expr) : Bool :=
  (Footprint.texts? e).any (3000 ≤ ·.length) ||
    (Footprint.ofExpr? .forward e).isSome && (Footprint.ofExpr? .backward e).isSome

end RdfReasoner.Regex
