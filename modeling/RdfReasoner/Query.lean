import RdfReasoner.Filter

/-!
# Queries and rules

A query is a tree of patterns, joins, filters and slices.  A rule has a query as its body and
templates as its head: every solution of the body makes a statement of every template whose slots
it fills, provided that the statement is well formed.
-/

namespace RdfReasoner

/-- A tree of operators over patterns. -/
inductive Query
  | pattern (p : Pattern)
  | join (left right : Query)
  | filter (f : Filter) (child : Query)
  /-- Leaves out the first `offset` solutions, and all behind the next `limit` ones. -/
  | slice (offset limit : Option Nat) (child : Query)
deriving DecidableEq

namespace Query

/-- A numeric parameter of an operator, if it is given. -/
def renderParameter (name : String) (value : Option Nat) : String :=
  (value.map fun n => " " ++ name ++ "=" ++ toString n).getD ""

/-- The lines of the text form, indented by three blanks for each level. -/
def lines (indent : String) : Query → List String
  | pattern p => [indent ++ "StatementPattern " ++ p.render]
  | join left right =>
    (indent ++ "Join") :: (left.lines (indent ++ "   ") ++ right.lines (indent ++ "   "))
  | filter f child => (indent ++ "Filter " ++ f.render) :: child.lines (indent ++ "   ")
  | slice offset limit child =>
    (indent ++ "Slice" ++ renderParameter "offset" offset ++ renderParameter "limit" limit) ::
      child.lines (indent ++ "   ")

/-- The text form, in which every operator has a line. -/
def render (q : Query) : String := String.join ((q.lines "").map (· ++ "\n"))

end Query

/-- A slot for every place of a statement to be made. -/
structure Template where
  subject : Slot
  predicate : Slot
  object : Slot
  context : Option Slot := none
deriving DecidableEq

namespace Template

/-- The statement that a template makes of a binding, if the binding fills every slot and the
statement is well formed. -/
def instantiate? (t : Template) (b : Binding) : Option Statement := do
  let context ← match t.context with
    | none => some none
    | some slot => (slot.resolve b).map some
  let s : Statement :=
    ⟨← t.subject.resolve b, ← t.predicate.resolve b, ← t.object.resolve b, context⟩
  if s.isWellFormed then some s else none

/-- The text form. -/
def render (t : Template) : String :=
  renderSlots ([t.subject, t.predicate, t.object] ++ t.context.toList)

end Template

/-- For every solution of the body, what the templates make of it. -/
structure Rule where
  id : String
  body : Query
  head : List Template
deriving DecidableEq

/-- The statements that the templates of a rule make of a binding, in order. -/
def Rule.instances (r : Rule) (b : Binding) : List Statement :=
  r.head.filterMap (·.instantiate? b)

end RdfReasoner
