import RdfReasoner.Notice
import RdfReasoner.Sequence

/-!
# Evaluating queries

`Evaluator.evaluate` turns a query and what is known of its variables into a lazy sequence of
bindings.  Patterns are answered by the storage: ordinary ones by batched lookups, transitive ones
by questions about reachability.

A join evaluates its right side for every solution of its left side.  Where the right side is a
pattern, a filter over a pattern, or a filter over a join of two patterns, and the options allow it,
the left side is instead consumed in chunks, each of which is answered by one batched lookup
(`Evaluator.batchedJoin`).

Making a sequence may already ask something: `Evaluator.solutions` is an `Inquiry`, whose questions
come before the first item is pulled, even if none ever is.
-/

namespace RdfReasoner

/-- How queries are evaluated. -/
structure EvaluationOptions where
  /-- Whether joins are batched where they can be. -/
  performant : Bool := true
  /-- Whether a query is announced before it is evaluated. -/
  displayQueryPlan : Bool := false
  /-- The number of left solutions that one batched lookup answers. -/
  joinBatchSize : Nat := 1000
  joinBatchSize_pos : 0 < joinBatchSize := by decide
deriving DecidableEq

/-- How a batched lookup reaches the storage. -/
inductive Batching
  /-- As one question. -/
  | atOnce
  /-- As one question for every lookup, put when its first fact is pulled. -/
  | oneByOne
deriving DecidableEq

/-- A solution, or why there is none in its place. -/
abbrev Solutions := Sequence (Except Error Binding)

/-- The reachability questions of one pattern that were answered, with the answers. -/
abbrev ReachCache := List ((Endpoint × Term × Option Term) × List Statement)

/-- Evaluates queries over a storage. -/
structure Evaluator where
  options : EvaluationOptions := {}
  batching : Batching := .atOnce
  /-- Whether the storage answers questions about reachability. -/
  reaches : Bool := true

namespace Evaluator

/-! ## Patterns -/

/-- The facts that some lookups accept, each with the position of its lookup. -/
def lookupAll (e : Evaluator) (ls : List Lookup) :
    Inquiry (Except Error (Sequence (Except Error (Fact × Nat)))) :=
  match e.batching with
  | .atOnce => .ask (.lookupAll ls) fun r => .done (r.map Sequence.delivered)
  | .oneByOne =>
    .done <| .ok <| (Sequence.ofList ls.zipIdx).flatMap fun (l, tag) =>
      .ask (.lookup l) fun
        | .ok facts => Sequence.delivered (facts.map (·, tag))
        | .error err => .single (.error err)

/-- The bindings that a pattern turns into a lookup, with the lookups. -/
def viable (p : Pattern) (bindings : List Binding) : List (Binding × Lookup) :=
  bindings.filterMap fun b => (p.lookup? b).map (b, ·)

/-- The binding of a found fact, extended by the fact. -/
def extend (p : Pattern) (origins : List Binding) : Except Error (Fact × Nat) → Solutions
  | .error err => .single (.error err)
  | .ok (f, tag) =>
    .ofList ((origins[tag]?.bind fun b => p.bind? b f.statement).toList.map .ok)

/-- Resolves an ordinary pattern for several bindings with one batched lookup; if no binding turns
the pattern into a lookup, nothing is asked. -/
def ordinary (e : Evaluator) (p : Pattern) (bindings : List Binding) : Inquiry Solutions :=
  match viable p bindings with
  | [] => .done .nil
  | pairs =>
    (e.lookupAll (pairs.map (·.2))).map fun
      | .ok found => found.flatMap (extend p (pairs.map (·.1)))
      | .error err => .single (.error err)

/-- The extensions of a binding by those statements that its lookup accepts. -/
def extensions (p : Pattern) (b : Binding) (l : Lookup) (statements : List Statement) :
    List Binding :=
  (statements.filter l.accepts).filterMap (p.bind? b)

/-- Resolves a pattern against its candidates. -/
def fixed (p : Pattern) (candidates : List Statement) (bindings : List Binding) : Solutions :=
  (Sequence.ofList bindings).flatMap fun b =>
    match p.lookup? b with
    | some l => .ofList ((extensions p b l candidates).map .ok)
    | none => .nil

/-- The reachability question that a lookup comes down to: from the subject where there is one, to
the object otherwise. -/
def reachKey? (l : Lookup) : Option (Endpoint × Term × Option Term) :=
  match l.predicate, l.subject, l.object with
  | some predicate, some subject, _ => some (.subject subject, predicate, l.context)
  | some predicate, none, some object => some (.object object, predicate, l.context)
  | _, _, _ => none

/-- Resolves a transitive pattern for several bindings, binding by binding.  No question is put
twice; one that failed is not an answer. -/
def transitive (e : Evaluator) (p : Pattern) (cache : ReachCache) : List Binding → Solutions
  | [] => .nil
  | b :: rest =>
    if !e.reaches then .cons (.error (.unsupported p)) fun _ => e.transitive p cache rest
    else
      match p.lookup? b with
      | none => e.transitive p cache rest
      | some l =>
        match reachKey? l with
        | none => .cons (.error (.unsupported p)) fun _ => e.transitive p cache rest
        | some key =>
          match cache.lookup key with
          | some statements =>
            .prepend ((extensions p b l statements).map .ok) fun _ => e.transitive p cache rest
          | none =>
            .ask (.reach key.1 key.2.1 key.2.2) fun
              | .ok statements =>
                .prepend ((extensions p b l statements).map .ok) fun _ =>
                  e.transitive p ((key, statements) :: cache) rest
              | .error err => .cons (.error err) fun _ => e.transitive p cache rest

/-- Resolves a pattern for several bindings.  A binding whose terms cannot stand where the pattern
puts them is skipped. -/
def matchPattern (e : Evaluator) (p : Pattern) (bindings : List Binding) : Inquiry Solutions :=
  match p.kind with
  | .ordinary => e.ordinary p bindings
  | .fixed candidates => .done (fixed p candidates bindings)
  | .transitive => .done (e.transitive p [] bindings)

/-! ## Trees -/

/-- Keeps the solutions that pass a filter, and all errors. -/
def filtered (f : Filter) (s : Solutions) : Solutions := s.filterOk f.accepts

/-- Resolves a pattern for the solutions of the left side, chunk by chunk. -/
def batchedJoin (e : Evaluator) (p : Pattern) (left : Solutions) : Solutions :=
  (left.chunks e.options.joinBatchSize []).flatMapOk fun chunk =>
    .ofInquiry (e.matchPattern p chunk)

/-- The batched form of a join with the given right side, if it has one. -/
def batched? (e : Evaluator) : Query → Option (Solutions → Solutions)
  | .pattern p => some (e.batchedJoin p)
  | .filter f (.pattern p) => some fun left => filtered f (e.batchedJoin p left)
  | .filter f (.join (.pattern first) (.pattern second)) =>
    some fun left => filtered f (e.batchedJoin second (e.batchedJoin first left))
  | _ => none

/-- The solutions of a query that extend a binding. -/
def solutions (e : Evaluator) : Query → Binding → Inquiry Solutions
  | .pattern p, b => e.matchPattern p [b]
  | .filter f child, b => (e.solutions child b).map (filtered f)
  | .slice offset limit child, b =>
    (e.solutions child b).map fun s => s.slice (offset.getD 0) limit
  | .join left right, b =>
    match if e.options.performant then e.batched? right else none with
    | some joined => (e.solutions left b).map joined
    | none =>
      (e.solutions left b).map fun s =>
        s.flatMapOk fun solution => .ofInquiry (e.solutions right solution)

/-- What is told before a whole query is evaluated. -/
def announcements (e : Evaluator) (q : Query) (b : Binding) : List Notice :=
  if e.options.displayQueryPlan then [.queryPlan q b] else []

/-- Evaluates a whole query.  Variables without a value are free to be bound, and the first error is
the last item. -/
def evaluate (e : Evaluator) (q : Query) (b : Binding) : Inquiry Solutions :=
  (e.solutions q b.sanitized).map Sequence.untilError

end Evaluator

end RdfReasoner
