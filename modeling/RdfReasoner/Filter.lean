import RdfReasoner.Pattern
import RdfReasoner.Regex

/-!
# Filters

A filter tests a binding.  Its logic has three values: a test that asks for the term of an unbound
variable, or matches a blank node against a pattern, has no answer.  A false part makes a
conjunction false and a true part makes a disjunction true whatever the other part is.  A binding
passes a filter only when the answer is yes.
-/

namespace RdfReasoner

/-- A test of a binding. -/
inductive Filter
  | equal (a b : Slot)
  | notEqual (a b : Slot)
  | bound (name : String)
  | isIri (a : Slot)
  | isLiteral (a : Slot)
  | regex (a : Slot) (pattern : Regex)
  | and (a b : Filter)
  | or (a b : Filter)
  | not (a : Filter)
deriving DecidableEq

namespace Filter

/-- Conjunction where `none` is "no answer". -/
def and3 : Option Bool → Option Bool → Option Bool
  | some false, _ | _, some false => some false
  | some true, some true => some true
  | _, _ => none

/-- Disjunction where `none` is "no answer". -/
def or3 : Option Bool → Option Bool → Option Bool
  | some true, _ | _, some true => some true
  | some false, some false => some false
  | _, _ => none

/-- The answer of a filter for a binding, if it has one. -/
def eval (binding : Binding) : Filter → Option Bool
  | equal a b => do return (← a.resolve binding) == (← b.resolve binding)
  | notEqual a b => do return (← a.resolve binding) != (← b.resolve binding)
  | bound name => some (binding.isBound name)
  | isIri a => (a.resolve binding).map Term.isIri
  | isLiteral a => (a.resolve binding).map Term.isLiteral
  | regex a pattern =>
    (a.resolve binding).bind fun t =>
      if t.isBlank then none else some (pattern.isMatch t.lexicalForm)
  | and a b => and3 (a.eval binding) (b.eval binding)
  | or a b => or3 (a.eval binding) (b.eval binding)
  | not a => (a.eval binding).map Bool.not

/-- Whether a binding passes. -/
def accepts (f : Filter) (b : Binding) : Bool := f.eval b == some true

/-- Whether some test matches a pattern. -/
def containsRegex : Filter → Bool
  | regex .. => true
  | and a b | or a b => a.containsRegex || b.containsRegex
  | not a => a.containsRegex
  | _ => false

/-- The text form. -/
def render : Filter → String
  | equal a b => "(" ++ a.render ++ " = " ++ b.render ++ ")"
  | notEqual a b => "(" ++ a.render ++ " != " ++ b.render ++ ")"
  | bound name => "bound(?" ++ name ++ ")"
  | isIri a => "isIRI(" ++ a.render ++ ")"
  | isLiteral a => "isLiteral(" ++ a.render ++ ")"
  | regex a pattern => "regex(" ++ a.render ++ ", \"" ++ pattern.source ++ "\")"
  | and a b => "(" ++ a.render ++ " && " ++ b.render ++ ")"
  | or a b => "(" ++ a.render ++ " || " ++ b.render ++ ")"
  | not a => "!" ++ a.render

end Filter

end RdfReasoner
