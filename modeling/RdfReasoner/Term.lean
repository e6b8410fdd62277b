import Std.Data.TreeMap

/-!
# RDF terms

A term is an IRI, a blank node or a literal.  Two terms are equal exactly when they are the same
term: nothing is normalised.  Terms are ordered so that they can be the keys of an index; the
order has no meaning beyond that.

The text form puts an IRI between angle brackets, a blank node's label after `_:`, and a literal
between double quotes with an optional language tag or datatype behind it.  `Term/Parser.lean`
reads this form back.
-/

namespace RdfReasoner

/-- An RDF term. -/
inductive Term
  | iri (text : String)
  | blank (label : String)
  | literal (lexical : String) (datatype language : Option String)
deriving DecidableEq

namespace Term

/-! ## Kinds of terms -/

/-- May stand in subject or context position. -/
def isResource : Term → Bool
  | iri _ | blank _ => true
  | literal .. => false

/-- May stand in predicate position. -/
def isIri : Term → Bool
  | iri _ => true
  | _ => false

/-- Is a literal of any kind. -/
def isLiteral : Term → Bool
  | literal .. => true
  | _ => false

/-- Is a blank node. -/
def isBlank : Term → Bool
  | blank _ => true
  | _ => false

/-- The text of a term without its decoration: the IRI, the label, or the lexical form. -/
def lexicalForm : Term → String
  | iri text => text
  | blank label => label
  | literal lexical .. => lexical

/-! ## The order of terms -/

/-- The position of a term's kind in the order. -/
def rank : Term → Nat
  | iri _ => 0
  | blank _ => 1
  | literal .. => 2

/-- The datatype of a typed literal. -/
def datatype? : Term → Option String
  | literal _ datatype _ => datatype
  | _ => none

/-- The language of a tagged literal. -/
def language? : Term → Option String
  | literal _ _ language => language
  | _ => none

/-- Terms are compared by kind, then text, then datatype, then language. -/
instance : Ord Term where
  compare := compareLex (compareOn rank) <| compareLex (compareOn lexicalForm) <|
    compareLex (compareOn datatype?) (compareOn language?)

instance : Std.TransOrd Term :=
  inferInstanceAs <| Std.TransCmp <| compareLex (compareOn rank) <|
    compareLex (compareOn lexicalForm) <| compareLex (compareOn datatype?) (compareOn language?)

/-- The four keys of the order determine a term. -/
theorem eq_of_keys {a b : Term} (kind : a.rank = b.rank) (text : a.lexicalForm = b.lexicalForm)
    (datatype : a.datatype? = b.datatype?) (language : a.language? = b.language?) : a = b := by
  cases a <;> cases b <;> simp_all [rank, lexicalForm, datatype?, language?]

instance : Std.LawfulEqOrd Term where
  compare_self := Std.ReflCmp.compare_self
  eq_of_compare {a b} h := by
    obtain ⟨kind, rest⟩ := compareLex_eq_eq.mp h
    obtain ⟨text, rest⟩ := compareLex_eq_eq.mp rest
    obtain ⟨datatype, language⟩ := compareLex_eq_eq.mp rest
    exact eq_of_keys (Std.LawfulEqOrd.eq_of_compare kind) (Std.LawfulEqOrd.eq_of_compare text)
      (Std.LawfulEqOrd.eq_of_compare datatype) (Std.LawfulEqOrd.eq_of_compare language)

/-! ## The text form -/

/-- A backslash and a double quote are each written behind a backslash. -/
def escape (cs : List Char) : List Char :=
  cs.flatMap fun c => if c = '\\' ∨ c = '"' then ['\\', c] else [c]

/-- The text form of a term.  A language tag takes the place of a datatype. -/
def render : Term → String
  | iri text => "<" ++ text ++ ">"
  | blank label => "_:" ++ label
  | literal lexical datatype language =>
    let quoted := "\"" ++ String.ofList (escape lexical.toList) ++ "\""
    match datatype, language with
    | _, some tag => quoted ++ "@" ++ tag
    | some type, none => quoted ++ "^^<" ++ type ++ ">"
    | none, none => quoted

end Term

end RdfReasoner
