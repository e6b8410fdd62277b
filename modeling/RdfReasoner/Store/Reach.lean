import RdfReasoner.Store
import RdfReasoner.Sequence

/-!
# Reachability

What can be reached from a term along the edges that one predicate makes, in the order of a
breadth-first search.  The term that the search starts from is found only if an edge leads back to
it.  Every round of the search takes up one node, and a node joins the queue only when it is found,
so one round more than there are facts is enough.

`Store.answer` answers every question of `Request` from a store.
-/

namespace RdfReasoner

/-- The members of a list that are not found yet, each once. -/
def fresh {α : Type} [DecidableEq α] (found as : List α) : List α :=
  (as.filter (· ∉ found)).eraseDups

/-- Takes up the nodes of a queue one after the other and lets their new neighbours join. -/
def breadthFirst {α : Type} [DecidableEq α] (neighbours : α → List α) :
    Nat → (found queue : List α) → List α
  | 0, found, _ | _, found, [] => found
  | rounds + 1, found, node :: queue =>
    let new := fresh found (neighbours node)
    breadthFirst neighbours rounds (found ++ new) (queue ++ new)

namespace Store

/-- The terms at the far ends of the edges from a node, in the order in which the facts came. -/
def neighbours (s : Store) (forward : Bool) (predicate : Term) (context : Option Term)
    (node : Term) : List Term :=
  if forward then
    (s.lookup ⟨some node, some predicate, none, context⟩).map (·.statement.object)
  else
    (s.lookup ⟨none, some predicate, some node, context⟩).map (·.statement.subject)

/-- The statements that paths of one or more edges from a subject or to an object make. -/
def reach (s : Store) (e : Endpoint) (predicate : Term) (context : Option Term) :
    List Statement :=
  match e with
  | .subject start =>
    (breadthFirst (s.neighbours true predicate context) (s.size + 1) [] [start]).map
      fun node => ⟨start, predicate, node, context⟩
  | .object goal =>
    (breadthFirst (s.neighbours false predicate context) (s.size + 1) [] [goal]).map
      fun node => ⟨node, predicate, goal, context⟩

/-- What a store answers to a question; a store never fails. -/
def answer (s : Store) : (q : Request) → q.Reply
  | .lookup l => .ok (s.lookup l)
  | .lookupAll ls => .ok (s.lookupAll ls)
  | .deliver => .ok ()
  | .holds st => .ok (s.holds st)
  | .reach e predicate context => .ok (s.reach e predicate context)

/-- Answers questions from a store, which stays as it is. -/
def responder : Responder Store := fun q s => (s.answer q, s)

end Store

end RdfReasoner
