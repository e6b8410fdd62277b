import RdfReasoner.Fields
import RdfReasoner.Number.Double

/-!
# TOML documents

A document is written as sections: a header that names a table, and assignments to dotted keys
below it.  `Toml.ofSections?` puts the sections together to the table at the root, or refuses a
document that defines something twice.

What may still be added to a table depends on how it came to be, so every table carries its
`Origin`.
-/

namespace RdfReasoner

/-- How a table came to be. -/
inductive Toml.Origin
  /-- By a header of its own; the root counts as one of these. -/
  | header
  /-- On the way to the table of a longer header. -/
  | implied
  /-- On the way to the end of a dotted key. -/
  | dotted
  /-- In braces; nothing can be added to it. -/
  | inline
deriving DecidableEq

/-- A value of a document. -/
inductive Toml
  | text (s : String)
  | int (n : Int)
  | real (x : Double)
  | bool (b : Bool)
  /-- A date, a time or both, in its normal form. -/
  | time (s : String)
  | list (items : List Toml)
  | table (origin : Toml.Origin) (fields : List (String × Toml))
  /-- The tables of headers in double brackets, of which the last one is added to. -/
  | tables (earlier : List (List (String × Toml))) (last : List (String × Toml))
deriving Inhabited

namespace Toml

/-- The fields of a table. -/
abbrev Fields := List (String × Toml)

/-- Names from a table to one below it, and then a name there. -/
structure Key where
  path : List String
  name : String

/-- A value and the key that it is assigned to. -/
structure Assignment where
  key : Key
  value : Toml

/-- A header and the assignments below it. -/
structure Section where
  /-- The table that the header names; the assignments before all headers go to the root. -/
  key : Option Key
  /-- Whether the header is one in double brackets. -/
  repeats : Bool
  assignments : List Assignment

/-- Changes the table at the end of a path.  Tables that are missing on the way are made, with the
origin `made`; of tables that are repeated, the last one is meant. -/
def change? (made : Origin) (change : Origin → Fields → Option Fields) :
    List String → Origin → Fields → Option Fields
  | [], origin, fields => change origin fields
  | name :: path, _, fields =>
    match fields.lookup name with
    | none => do
      let inner ← change? made change path made []
      some (RdfReasoner.Fields.put name (.table made inner) fields)
    | some (.table origin inner) =>
      if origin = .inline ∨ (made = .dotted ∧ origin = .header) then none
      else do
        let inner ← change? made change path origin inner
        some (RdfReasoner.Fields.put name (.table origin inner) fields)
    | some (.tables earlier last) => do
      let last ← change? made change path .header last
      some (RdfReasoner.Fields.put name (.tables earlier last) fields)
    | some _ => none

/-- Assigns a value below a table.  A key without dots goes to a table that no dotted key made, a
dotted key to one that a dotted key made, and nothing is assigned twice. -/
def assign? (origin : Origin) (fields : Fields) (a : Assignment) : Option Fields :=
  change? .dotted (fun origin fields =>
    if (origin = .dotted ↔ a.key.path = []) ∨ (fields.lookup a.key.name).isSome then none
    else some (fields ++ [(a.key.name, a.value)])) a.key.path origin fields

/-- The fields of a table in braces. -/
def ofAssignments? (assignments : List Assignment) : Option Fields :=
  assignments.foldlM (assign? .header) []

/-- Adds a section to the table at the root.  A header may name a table that only longer headers
have implied, and repeated headers may name one table again and again. -/
def addSection? (root : Fields) (s : Section) : Option Fields :=
  let fill (fields : Fields) := s.assignments.foldlM (assign? .header) fields
  match s.key with
  | none => fill root
  | some key =>
    change? .implied (fun _ fields =>
      match s.repeats, fields.lookup key.name with
      | false, none => do some (RdfReasoner.Fields.put key.name (.table .header (← fill [])) fields)
      | false, some (.table .implied inner) => do
        some (RdfReasoner.Fields.put key.name (.table .header (← fill inner)) fields)
      | true, none => do some (RdfReasoner.Fields.put key.name (.tables [] (← fill [])) fields)
      | true, some (.tables earlier last) => do
        some (RdfReasoner.Fields.put key.name (.tables (earlier ++ [last]) (← fill [])) fields)
      | _, _ => none) key.path .header root

/-- The table at the root of a document. -/
def ofSections? (sections : List Section) : Option Fields := sections.foldlM addSection? []

end Toml

end RdfReasoner
