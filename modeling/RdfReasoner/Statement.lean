import RdfReasoner.Term
import RdfReasoner.Timestamp

/-!
# Statements and facts

A statement says that a subject has an object for a predicate, possibly within a context.  A fact
is a statement together with its provenance: how many rule applications it is away from what was
asserted, when it was derived, and an access label that is carried along and never interpreted.
Only the statement decides whether two facts are the same.
-/

namespace RdfReasoner

/-- The four places of a statement. -/
inductive Position
  | subject | predicate | object | context
deriving DecidableEq

/-- All places, in the order in which they are written. -/
def Position.all : List Position := [.subject, .predicate, .object, .context]

@[simp] theorem Position.mem_all (place : Position) : place ∈ all := by
  cases place <;> simp [all]

/-- What a fact says. -/
structure Statement where
  subject : Term
  predicate : Term
  object : Term
  context : Option Term := none
deriving DecidableEq

namespace Statement

/-- The term in a place; only the context may be missing. -/
def termAt (s : Statement) : Position → Option Term
  | .subject => some s.subject
  | .predicate => some s.predicate
  | .object => some s.object
  | .context => s.context

/-- A resource has an object for an IRI, and the context, if any, is a resource. -/
def isWellFormed (s : Statement) : Bool :=
  s.subject.isResource && s.predicate.isIri && s.context.all Term.isResource

/-- The text form: the terms in order, then a full stop. -/
def render (s : Statement) : String :=
  let terms := [s.subject, s.predicate, s.object] ++ s.context.toList
  " ".intercalate (terms.map Term.render) ++ " ."

/-! ## The order of statements -/

/-- Statements are compared place by place. -/
instance : Ord Statement where
  compare := compareLex (compareOn subject) <| compareLex (compareOn predicate) <|
    compareLex (compareOn object) (compareOn context)

instance : Std.TransOrd Statement :=
  inferInstanceAs <| Std.TransCmp <| compareLex (compareOn subject) <|
    compareLex (compareOn predicate) <| compareLex (compareOn object) (compareOn context)

instance : Std.LawfulEqOrd Statement where
  compare_self := Std.ReflCmp.compare_self
  eq_of_compare {a b} h := by
    obtain ⟨subject, rest⟩ := compareLex_eq_eq.mp h
    obtain ⟨predicate, rest⟩ := compareLex_eq_eq.mp rest
    obtain ⟨object, context⟩ := compareLex_eq_eq.mp rest
    have hs := Std.LawfulEqOrd.eq_of_compare subject
    have hp := Std.LawfulEqOrd.eq_of_compare predicate
    have ho := Std.LawfulEqOrd.eq_of_compare object
    have hc := Std.LawfulEqOrd.eq_of_compare context
    cases a; cases b; simp_all

end Statement

/-- Where a fact comes from. -/
structure Provenance where
  /-- 0 for what was asserted, else one more than the highest level it was derived from. -/
  level : Nat := 0
  timestamp : Timestamp := .min
  visibility : String := ""
deriving DecidableEq

/-- A statement and its provenance. -/
structure Fact where
  statement : Statement
  provenance : Provenance := {}
deriving DecidableEq

namespace Fact

/-- The derivation level. -/
def level (f : Fact) : Nat := f.provenance.level

/-- The time of derivation. -/
def timestamp (f : Fact) : Timestamp := f.provenance.timestamp

/-- The fact with the time `now`, unless it has a time already. -/
def stamped (now : Timestamp) (f : Fact) : Fact :=
  if f.timestamp = .min then { f with provenance := { f.provenance with timestamp := now } } else f

@[simp] theorem statement_stamped (now : Timestamp) (f : Fact) :
    (f.stamped now).statement = f.statement := by
  unfold stamped; split <;> rfl

@[simp] theorem level_stamped (now : Timestamp) (f : Fact) : (f.stamped now).level = f.level := by
  unfold stamped; split <;> rfl

/-- A stamp takes no time back. -/
theorem timestamp_le_stamped (now : Timestamp) (f : Fact) :
    f.timestamp ≤ (f.stamped now).timestamp := by
  unfold stamped
  split
  · next h => rw [h]; exact Timestamp.min_le _
  · exact Timestamp.le_refl _

end Fact

/-- One end of a path along a predicate: where it starts, or where it arrives. -/
inductive Endpoint
  | subject (start : Term)
  | object (goal : Term)
deriving DecidableEq

end RdfReasoner
