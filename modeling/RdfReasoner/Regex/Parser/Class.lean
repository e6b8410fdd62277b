import RdfReasoner.Regex.Parser.Atom

/-!
# Classes in brackets

A class lists characters, ranges, named sets and further classes; `&&`, `--` and `~~` between its
parts stand for what both sides share, for what only the left one has, and for what exactly one has.
The classes that are still open are kept in a stack of `ClassFrame`s.  Each of them counts how
deeply its parts are nested, because a pattern may nest parts only so far.
-/

namespace RdfReasoner.Regex

/-- The set operations between the parts of a class. -/
inductive SetOp
  | inter | diff | symmDiff

/-- The set that an operation makes of two sets. -/
def SetOp.apply : SetOp → CharSet → CharSet → CharSet
  | inter => .inter
  | diff => .diff
  | symmDiff => .symmDiff

/-- A set with the depth to which the parts that it is made of are nested. -/
structure NestedSet where
  set : CharSet
  depth : Nat := 0

/-- A class that is still open: its members since the last operation, their number and the depth of
the deepest, and an operation waiting for its right side. -/
structure ClassFrame where
  negated : Bool
  members : CharSet := .empty
  count : Nat := 0
  depth : Nat := 0
  waiting : Option (SetOp × NestedSet) := none

namespace ClassFrame

/-- The frame with one more member. -/
def add (c : ClassFrame) (s : NestedSet) : ClassFrame :=
  { c with members := c.members.union s.set, count := c.count + 1, depth := max c.depth s.depth }

/-- The members once the waiting operation is done.  Several members nest one deeper than each of
them, and so do the two sides of an operation. -/
def combined (f : Flags) (c : ClassFrame) : NestedSet :=
  let depth := if c.count ≤ 1 then c.depth else c.depth + 1
  match c.waiting with
  | none => ⟨c.members, depth⟩
  | some (op, left) =>
    ⟨op.apply (f.fold left.set) (f.fold c.members), max left.depth depth + 1⟩

/-- The frame after an operator. -/
def await (f : Flags) (c : ClassFrame) (op : SetOp) : ClassFrame :=
  { negated := c.negated, waiting := some (op, c.combined f) }

/-- The set of a closed class. -/
def close? (f : Flags) (c : ClassFrame) : Option NestedSet := do
  let inner := c.combined f
  some ⟨← f.close? c.negated inner.set, inner.depth + 1⟩

/-- The frame behind hyphens, which stand for themselves at the head of a class, and the rest. -/
def withHyphens (f : Flags) (c : ClassFrame) (cs : List Char) : ClassFrame × List Char :=
  let (hyphens, rest) := f.collect (· == '-') cs
  (hyphens.foldl (fun c _ => c.add ⟨.singleton '-', 0⟩) c, rest)

/-- The class that an opening bracket begins: a sign of negation, and hyphens or else a closing
bracket. -/
def ofHead (f : Flags) (cs : List Char) : ClassFrame × List Char :=
  let (negated, cs) := match f.skip cs with
    | '^' :: cs => (true, f.skip cs)
    | cs => (false, cs)
  let empty : ClassFrame := { negated }
  match cs with
  | ']' :: cs => (empty.add ⟨.singleton ']', 0⟩, f.skip cs)
  | cs => empty.withHyphens f cs

end ClassFrame

/-- Reads one member of a class: a character or an escape. -/
def classMember? (f : Flags) : List Char → Option (Atom × List Char)
  | [] => none
  | '\\' :: cs => escape? f cs
  | c :: cs => some (.char c, cs)

/-- The characters from one to another.  Without Unicode both have to be ASCII. -/
def classRange? (f : Flags) (lo hi : Char) : Option CharSet :=
  if lo ≤ hi ∧ (f.unicode ∨ hi.toNat < 128) then some (.range lo hi) else none

/-- The set of one member of a class. -/
def Atom.toSet? (f : Flags) : Atom → Option CharSet
  | .char c => classRange? f c c
  | .set s => some s
  | .place _ => none

/-- Reads a member of a class, or a range between two characters.  A hyphen before a closing bracket
or another hyphen makes no range. -/
def classItem? (f : Flags) (cs : List Char) : Option (CharSet × List Char) := do
  let (first, rest) ← classMember? f cs
  match f.skip rest with
  | [] => none
  | '-' :: tail =>
    if f.second? ('-' :: tail) = some ']' ∨ f.second? ('-' :: tail) = some '-' then
      some (← first.toSet? f, '-' :: tail)
    else
      let (last, rest) ← classMember? f (f.skip tail)
      match first, last with
      | .char lo, .char hi => some (← classRange? f lo hi, rest)
      | _, _ => none
  | rest => some (← first.toSet? f, rest)

/-- Reads a class of ASCII between `[:` and `:]`, and whether its complement is meant. -/
def namedClass? : List Char → Option (Bool × CharSet × List Char)
  | '[' :: ':' :: cs =>
    let (negated, cs) := match cs with
      | '^' :: cs => (true, cs)
      | _ => (false, cs)
    match cs.span (· != ':') with
    | (name, ':' :: ']' :: rest) => (asciiClass? name).map (negated, ·, rest)
    | _ => none
  | _ => none

/-- Reads a class to its closing bracket.  `outer` holds the classes around the open one. -/
def classRest? (f : Flags) : Nat → ClassFrame → List ClassFrame → List Char →
    Option (NestedSet × List Char)
  | 0, _, _, _ => none
  | fuel + 1, frame, outer, cs =>
    match f.skip cs with
    | [] => none
    | '[' :: cs =>
      match namedClass? ('[' :: cs) with
      | some (negated, set, rest) => do
        classRest? f fuel (frame.add ⟨← f.close? negated set, 0⟩) outer rest
      | none =>
        let (inner, rest) := ClassFrame.ofHead f cs
        classRest? f fuel inner (frame :: outer) rest
    | ']' :: cs => do
      let set ← frame.close? f
      match outer with
      | [] => some (set, cs)
      | enclosing :: outer => classRest? f fuel (enclosing.add set) outer cs
    | '&' :: '&' :: cs => classRest? f fuel (frame.await f .inter) outer cs
    | '-' :: '-' :: cs => classRest? f fuel (frame.await f .diff) outer cs
    | '~' :: '~' :: cs => classRest? f fuel (frame.await f .symmDiff) outer cs
    | cs => do
      let (set, rest) ← classItem? f cs
      classRest? f fuel (frame.add ⟨set, 0⟩) outer rest

/-- Reads a class behind its opening bracket. -/
def class? (f : Flags) (cs : List Char) : Option (NestedSet × List Char) :=
  let (frame, rest) := ClassFrame.ofHead f cs
  classRest? f (rest.length + 1) frame [] rest

end RdfReasoner.Regex
