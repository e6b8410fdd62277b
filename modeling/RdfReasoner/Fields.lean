/-!
# Named fields

Lists of named fields, in which a later field takes the place of an earlier one of its name.
-/

namespace RdfReasoner.Fields

variable {α : Type}

/-- Puts a field: in the place of the one of its name, or else last. -/
def put (name : String) (v : α) : List (String × α) → List (String × α)
  | [] => [(name, v)]
  | (n, w) :: rest => if n = name then (name, v) :: rest else (n, w) :: put name v rest

/-- The fields when each of a list is put after the ones before it. -/
def ofList (fields : List (String × α)) : List (String × α) :=
  fields.foldl (fun found (name, v) => put name v found) []

/-- What a list with a first field holds under a name. -/
theorem lookup_cons (name other : String) (v : α) (rest : List (String × α)) :
    ((name, v) :: rest).lookup other = if other = name then some v else rest.lookup other := by
  rw [List.lookup_cons]
  by_cases h : other = name
  · rw [beq_iff_eq.2 h, if_pos h]
  · rw [beq_eq_false_iff_ne.2 h, if_neg h]

end RdfReasoner.Fields
