import RdfReasoner.Statement

/-!
# Lookups

A lookup fixes some places of a statement and leaves the others open.  An open context admits
statements of every context and of none.
-/

namespace RdfReasoner

/-- The fixed places of the statements that are asked for. -/
structure Lookup where
  subject : Option Term := none
  predicate : Option Term := none
  object : Option Term := none
  context : Option Term := none
deriving DecidableEq

namespace Lookup

/-- The term that a place is fixed to. -/
def termAt (l : Lookup) : Position → Option Term
  | .subject => l.subject
  | .predicate => l.predicate
  | .object => l.object
  | .context => l.context

/-- Whether a statement has the given term in every fixed place. -/
def accepts (l : Lookup) (s : Statement) : Bool :=
  Position.all.all fun p => (l.termAt p).all fun t => s.termAt p = some t

/-- The text form: the terms in order, with an asterisk for an open place. -/
def render (l : Lookup) : String :=
  " ".intercalate (Position.all.map fun p => ((l.termAt p).map Term.render).getD "*")

/-- The statement of the same three terms in any context. -/
def ofStatement (s : Statement) : Lookup := ⟨s.subject, s.predicate, s.object, none⟩

/-- A lookup accepts the statements that agree with it on every fixed place. -/
theorem accepts_iff {l : Lookup} {s : Statement} :
    l.accepts s = true ↔ ∀ p t, l.termAt p = some t → s.termAt p = some t := by
  constructor
  · intro h p t ht
    have := List.all_eq_true.mp h p p.mem_all
    rw [ht] at this
    simpa using this
  · intro h
    refine List.all_eq_true.mpr fun p _ => ?_
    cases hp : l.termAt p with
    | none => rfl
    | some t => simpa using h p t hp

end Lookup

end RdfReasoner
