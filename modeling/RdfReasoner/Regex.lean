import RdfReasoner.Regex.Matcher
import RdfReasoner.Regex.Parser

/-!
# Compiled patterns

A `Regex` is the source of a pattern with the expression that it denotes.  Two of them are equal
exactly when their sources are.
-/

namespace RdfReasoner

/-- A pattern and what it denotes. -/
structure Regex where
  source : String
  expr : Regex.Expr
  reads : Regex.parse? source = some expr

namespace Regex

/-- Compiles the source of a pattern, unless it breaks a rule. -/
def ofSource? (source : String) : Option Regex :=
  match h : parse? source with
  | some expr => some ⟨source, expr, h⟩
  | none => none

/-- Whether a pattern matches somewhere in a text. -/
def isMatch (r : Regex) (text : String) : Bool := r.expr.search text.toList

theorem ext_source {a b : Regex} (h : a.source = b.source) : a = b := by
  obtain ⟨s, e, hs⟩ := a
  obtain ⟨t, d, ht⟩ := b
  obtain rfl : s = t := h
  rw [hs] at ht
  cases ht
  rfl

instance : DecidableEq Regex := fun a b =>
  if h : a.source = b.source then isTrue (ext_source h) else isFalse fun hab => h (hab ▸ rfl)

end Regex

end RdfReasoner
