import RdfReasoner.Regex.Syntax
import Std.Data.HashSet

/-!
# Searching a text

A search walks through the text once and carries the list of all expressions that the rest of a
match, begun at any earlier place, may still have to match.  `Expr.steps` lists the remainders of an
expression after one character; there are at most as many different remainders as there are
characters in the pattern with its repetitions written out, so no text makes a search slow.
-/

namespace RdfReasoner.Regex

namespace Expr

/-- One after the other, where an empty expression adds nothing. -/
def andThen : Expr → Expr → Expr
  | empty, b => b
  | a, empty => a
  | a, b => seq a b

/-- Whether the empty text matches between two neighbours. -/
def matchesAt (before after : Option Char) : Expr → Bool
  | empty => true
  | text cs => cs.isEmpty
  | chars _ => false
  | place p => p.holds before after
  | group _ e => e.matchesAt before after
  | seq a b => a.matchesAt before after && b.matchesAt before after
  | alt a b => a.matchesAt before after || b.matchesAt before after
  | rep least _ _ e => least == 0 || e.matchesAt before after

/-- What is left of a text once its first character is read. -/
def ofRest : List Char → Expr
  | [] => empty
  | cs => text cs

/-- The rounds of a repetition that are left. -/
def again (least : Nat) (most : Option Nat) (isLazy : Bool) (e : Expr) : Expr :=
  if most = some 0 then empty else rep least most isLazy e

/-- What may be left of an expression once the character `c`, which follows `before`, is read. -/
def steps (before : Option Char) (c : Char) : Expr → List Expr
  | empty | place _ | text [] => []
  | text (d :: ds) => if c = d then [ofRest ds] else []
  | chars set => if set.contains c then [empty] else []
  | group _ e => e.steps before c
  | alt a b => a.steps before c ++ b.steps before c
  | seq a b =>
    (a.steps before c).map (·.andThen b) ++
      if a.matchesAt before (some c) then b.steps before c else []
  | rep least most isLazy e =>
    if most = some 0 then []
    else
      -- rounds that match the empty text at this very place may stand for all that are required
      let least := if e.matchesAt before (some c) then 0 else least - 1
      (e.steps before c).map (·.andThen (again least (most.map (· - 1)) isLazy e))

end Expr

/-- The members of a list, each once. -/
def distinct (es : List Expr) : List Expr := (Std.HashSet.ofList es).toList

/-- Goes on with a search: `open_` lists what begun matches still need. -/
def searchFrom (start : Expr) (before : Option Char) (open_ : List Expr) : List Char → Bool
  | [] => (start :: open_).any (·.matchesAt before none)
  | c :: rest =>
    let all := start :: open_
    all.any (·.matchesAt before (some c)) ||
      searchFrom start (some c) (distinct (all.flatMap (·.steps before c))) rest

/-- Whether an expression matches somewhere in a text. -/
def Expr.search (e : Expr) (text : List Char) : Bool := searchFrom e none [] text

end RdfReasoner.Regex
