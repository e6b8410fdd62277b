import RdfReasoner.Number.Double

/-!
# JSON values

Numbers are kept apart by their form: an integer of 64 bits, with or without a sign, or any other
number, as the binary one that it is read as.  The fields of an object are in the order in which
they are written.
-/

namespace RdfReasoner

/-- A JSON value. -/
inductive Json
  | null
  | bool (b : Bool)
  | int (n : Int)
  | real (x : Double)
  | str (s : String)
  | arr (items : List Json)
  | obj (fields : List (String × Json))
deriving Inhabited

namespace Json

/-- The field of an object; `none` also for anything but an object. -/
def field? (j : Json) (name : String) : Option Json :=
  match j with
  | obj fields => fields.lookup name
  | _ => none

/-- The field of an object, where a field that holds `null` counts as missing. -/
def optional? (j : Json) (name : String) : Option Json :=
  match j.field? name with
  | some null => none
  | found => found

/-- The text of a string. -/
def str? : Json → Option String
  | str s => some s
  | _ => none

/-- An integer within bounds. -/
def intIn? (lower upper : Int) : Json → Option Int
  | int n => if lower ≤ n ∧ n ≤ upper then some n else none
  | _ => none

end Json

end RdfReasoner
