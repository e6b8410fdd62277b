import RdfReasoner.Regex.Syntax

/-!
# Simplified expressions

Ways to build an expression that keep it in a simple form: a sequence has no empty parts, no
sequence inside and no two texts side by side, a set of one character is a text, an alternation of
characters or of sets is a set, and what all branches of an alternation begin with is taken out.
-/

namespace RdfReasoner.Regex.Expr

/-- One character of a set. -/
def ofSet (set : CharSet) : Expr :=
  match set.normalize.ranges with
  | [(lo, hi)] => if lo = hi then text [Char.ofNat lo] else chars ⟨[(lo, hi)]⟩
  | ranges => chars ⟨ranges⟩

/-! ## Sequences -/

/-- The parts of a sequence. -/
def factors : Expr → List Expr
  | empty => []
  | seq a b => a.factors ++ b.factors
  | e => [e]

/-- One more part in front of the parts of a sequence; texts side by side become one. -/
def consFactor : Expr → List Expr → List Expr
  | text cs, text ds :: rest => text (cs ++ ds) :: rest
  | e, rest => e :: rest

/-- The sequence with the given parts. -/
def ofFactors : List Expr → Expr
  | [] => empty
  | [e] => e
  | e :: rest => seq e (ofFactors rest)

/-- One expression after the other. -/
def concat (es : List Expr) : Expr := ofFactors ((es.flatMap factors).foldr consFactor [])

/-! ## Alternations -/

/-- The branches of an alternation. -/
def branches : Expr → List Expr
  | alt a b => a.branches ++ b.branches
  | e => [e]

/-- The alternation with the given branches. -/
def ofBranches : List Expr → Expr
  | [] => chars .empty
  | [e] => e
  | e :: rest => alt e (ofBranches rest)

/-- The only character of a text. -/
def char? : Expr → Option Char
  | text [c] => some c
  | _ => none

/-- The set that an expression is. -/
def set? : Expr → Option CharSet
  | chars set => some set
  | _ => none

/-- The text that an expression is. -/
def text? : Expr → Option (List Char)
  | text cs => some cs
  | _ => none

/-- The alternation with the given branches, which is a set if all of them are characters, or all
are sets. -/
def mergeBranches (es : List Expr) : Expr :=
  match es.mapM char?, es.mapM set? with
  | some cs, _ => ofSet (.ofChars cs)
  | none, some sets => ofSet (.unions sets)
  | none, none => ofBranches es

/-- What two lists begin with. -/
def commonHead : List Expr → List Expr → List Expr
  | a :: as, b :: bs => if a = b then a :: commonHead as bs else []
  | _, _ => []

/-- What all lists begin with. -/
def sharedHead : List (List Expr) → List Expr
  | [] => []
  | fs :: rest => rest.foldl commonHead fs

/-- Any of the given expressions.  Parts that all branches begin with are taken out if every branch
is a sequence. -/
def oneOf (es : List Expr) : Expr :=
  match mergeBranches (es.flatMap branches) with
  | alt a b =>
    let parts := (alt a b).branches.map factors
    let shared := sharedHead parts
    if shared.isEmpty || parts.any (·.length < 2) then alt a b
    else
      let rests := parts.map fun fs => concat (fs.drop shared.length)
      concat (shared ++ [mergeBranches (rests.flatMap branches)])
  | e => e

/-! ## Repetitions -/

/-- A repetition.  One round of an expression that matches only the empty text is as good as many,
no rounds are the empty text, and exactly one round is the expression itself. -/
def times (least : Nat) (most : Option Nat) (isLazy : Bool) (e : Expr) : Expr :=
  let once := e.maxLength = some 0
  let least := if once then min least 1 else least
  let most := if once then some (min (most.getD 1) 1) else most
  if most = some 0 then empty
  else if least = 1 ∧ most = some 1 then e
  else rep least most isLazy e

end RdfReasoner.Regex.Expr
