import RdfReasoner.Binding
import RdfReasoner.Lookup

/-!
# Patterns

A slot holds a variable or a term.  A pattern has a slot for every place of a statement, the context
excepted, which it may leave out; the kind of a pattern says where its matches come from.

Under a binding a pattern turns into a lookup (`Pattern.lookup?`), and a statement that the lookup
accepts extends the binding (`Pattern.bind`).
-/

namespace RdfReasoner

/-- A variable or a term. -/
inductive Slot
  | var (name : String)
  | const (term : Term)
deriving DecidableEq

namespace Slot

/-- The term of a slot: its own, or what the variable holds. -/
def resolve (b : Binding) : Slot → Option Term
  | var name => b.get? name
  | const term => some term

/-- The text form; a variable stands behind a question mark. -/
def render : Slot → String
  | var name => "?" ++ name
  | const term => term.render

end Slot

/-- The text form of the slots of a pattern or a template. -/
def renderSlots (slots : List Slot) : String := " ".intercalate (slots.map Slot.render)

/-- Where the matches of a pattern come from. -/
inductive PatternKind
  /-- From what is stored. -/
  | ordinary
  /-- From a list of candidates made elsewhere. -/
  | fixed (candidates : List Statement)
  /-- From the paths along the predicate through what is stored. -/
  | transitive
deriving DecidableEq

/-- A slot for every place of a statement; without a context slot every context will do. -/
structure Pattern where
  subject : Slot
  predicate : Slot
  object : Slot
  context : Option Slot := none
  kind : PatternKind := .ordinary
deriving DecidableEq

namespace Pattern

/-- The slot of a place. -/
def slotAt (p : Pattern) : Position → Option Slot
  | .subject => some p.subject
  | .predicate => some p.predicate
  | .object => some p.object
  | .context => p.context

/-- Whether the matches come from what is stored. -/
def isOrdinary (p : Pattern) : Bool := p.kind == .ordinary

/-- The lookup that a pattern turns into under a binding.  There is none when the subject resolves
to a literal or the predicate to anything but an IRI: no statement has these. -/
def lookup? (p : Pattern) (b : Binding) : Option Lookup :=
  let subject := p.subject.resolve b
  let predicate := p.predicate.resolve b
  if subject.all Term.isResource && predicate.all Term.isIri then
    some ⟨subject, predicate, p.object.resolve b, p.context.bind (·.resolve b)⟩
  else none

/-- Lets the variable of a place hold the term that a statement has there. -/
def bindAt (p : Pattern) (s : Statement) (b : Binding) (place : Position) :
    Except Conflict Binding :=
  match p.slotAt place, s.termAt place with
  | some (.var name), some term => b.bind name term
  | _, _ => .ok b

/-- Extends a binding by the terms of a statement, place by place.  The variable of the context
stays as it is when the statement has no context. -/
def bind (p : Pattern) (b : Binding) (s : Statement) : Except Conflict Binding :=
  Position.all.foldlM (p.bindAt s) b

/-- The extension of a binding by a statement, if they do not disagree. -/
def bind? (p : Pattern) (b : Binding) (s : Statement) : Option Binding := (p.bind b s).toOption

/-- The text form: the slots, and the kind in brackets unless it is the ordinary one. -/
def render (p : Pattern) : String :=
  renderSlots ([p.subject, p.predicate, p.object] ++ p.context.toList) ++
    match p.kind with
    | .ordinary => ""
    | .fixed candidates => " [fixed: " ++ toString candidates.length ++ "]"
    | .transitive => " [transitive]"

end Pattern

end RdfReasoner
