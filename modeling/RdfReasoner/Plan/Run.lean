import RdfReasoner.Document
import RdfReasoner.Plan
import RdfReasoner.Sequence
import Std.Data.TreeSet

/-!
# Running plans

A plan is run over rows.  A row is a binding with the highest derivation level and the latest
timestamp of the facts that it was joined from; the guards of the plan ask about these two, not
about single facts.  Every row that is left makes statements of the templates, one level above its
own.

Rows are made on demand.  Only the set of the statements put out so far is remembered, and it is
what the limit on intermediate results bounds.  The outputs are made in batches, which shows only in
when the storage is asked.
-/

namespace RdfReasoner

/-- How a plan is run. -/
structure PlanOptions where
  allowLargeResults : Bool := true
  batchSize : Nat := 1000
deriving DecidableEq

/-- A binding, and what is remembered of the facts behind it. -/
structure Row where
  binding : Binding := .empty
  level : Nat := 0
  timestamp : Timestamp := .min

/-- The row after one more fact. -/
def Row.joined (r : Row) (b : Binding) (f : Fact) : Row :=
  ⟨b, max r.level f.level, max r.timestamp f.timestamp⟩

/-- A row, or why there is none in its place. -/
abbrev Rows := Sequence (Except Error Row)

namespace Plan

/-- The rows that a row becomes by joining it with the facts that match a pattern. -/
def expand (p : Pattern) (r : Row) : Rows :=
  match p.lookup? r.binding with
  | none => .nil
  | some l =>
    .ask (.lookup l) fun
      | .error e => .single (.error e)
      | .ok facts =>
        (Sequence.delivered facts).flatMapOk fun f =>
          .ofList (((p.bind? r.binding f.statement).map fun b => r.joined b f).toList.map .ok)

/-- The rows after a step. -/
def apply (rows : Rows) : Step → Rows
  | .seed p | .join p => rows.flatMapOk (expand p)
  | .filter f => rows.filterOk fun r => f.accepts r.binding

/-- Whether a row passes the guards. -/
def admits (plan : Plan) (r : Row) : Bool :=
  plan.minLevel.all (· ≤ r.level) && plan.minTimestamp.all (· ≤ r.timestamp)

/-- The rows after all steps and guards. -/
def rows (plan : Plan) : Rows :=
  (plan.steps.foldl apply (.single (.ok {}))).filterOk plan.admits

/-- What the templates make of the rows. -/
def outputs (plan : Plan) : Sequence (Except Error Document) :=
  plan.rows.flatMapOk fun r =>
    .ofList ((plan.templates.filterMap (·.instantiate? r.binding)).map fun s =>
      .ok ⟨s, r.level + 1, plan.timestamp⟩)

/-- Drops documents of statements that came before.  With more statements than the limit there is
an error in the place of the document. -/
def dropRepeated (limit : Option Nat) (seen : Std.TreeSet Statement) :
    Sequence (Except Error Document) → Sequence (Except Error Document)
  | .nil => .nil
  | .cons (.error e) rest => .cons (.error e) fun _ => dropRepeated limit seen (rest ())
  | .cons (.ok d) rest =>
    if seen.contains d.statement then dropRepeated limit seen (rest ())
    else
      let seen := seen.insert d.statement
      let item := match limit with
        | some n => if n < seen.size then .error (.tooManyResults n) else .ok d
        | none => .ok d
      .cons item fun _ => dropRepeated limit seen (rest ())
  | .ask q next => .ask q fun r => dropRepeated limit seen (next r)

/-- The documents that a plan puts out.  The limit counts only where large results are not
allowed. -/
def run (plan : Plan) (options : PlanOptions) (limit : Nat) : Sequence (Except Error Document) :=
  let all := plan.outputs
  let kept :=
    if plan.distinct then
      dropRepeated (if options.allowLargeResults then none else some limit) ∅ all
    else all
  kept.buffered options.batchSize []

/-- The documents that a plan puts out, in JSON. -/
def records (plan : Plan) (options : PlanOptions) (limit : Nat) : Sequence (Except Error Json) :=
  (plan.run options limit).map (·.map Document.toJson)

end Plan

end RdfReasoner
