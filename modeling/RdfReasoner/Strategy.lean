import RdfReasoner.Backend
import RdfReasoner.Notice
import RdfReasoner.Watermarks

/-!
# Executing rules

A rule is executed in one of two ways.  In bulk, it is compiled into a plan that the storage runs.
Row by row, its body is evaluated here and its templates are filled for every solution.  Both stage
the facts that the storage does not hold yet, flush, and then move the watermark of the rule; an
execution that fails on the way leaves the watermark where it was, and what it staged in the writer.

The bulk strategy hands rules that cannot be compiled to a row-by-row strategy, if it has one.  From
then on derivation levels guard nothing: what was derived row by row carries the level of the
execution, not one above the facts it came from.
-/

namespace RdfReasoner

/-- What strategies work on. -/
structure Workspace (σ : Type) where
  storage : σ
  watermarks : Watermarks := .empty
  notices : Array Notice := #[]

namespace Workspace

variable {σ : Type}

/-- The workspace with one more notice. -/
def note (w : Workspace σ) (n : Notice) : Workspace σ := { w with notices := w.notices.push n }

end Workspace

/-! ## Staging -/

/-- A storage with the writer that an execution stages its facts in. -/
structure Desk (σ : Type) where
  writer : Writer
  storage : σ
  notices : Array Notice

/-- A part of an execution, which may fail and keeps what it changed even then. -/
abbrev Staging (σ : Type) := ExceptT Error (StateM (Desk σ))

namespace Staging

variable {σ α : Type}

/-- Lets the storage change. -/
def onStorage (act : StateM σ α) : Staging σ α :=
  ExceptT.lift <| modifyGet fun d =>
    let (a, storage) := act d.storage
    (a, { d with storage })

/-- Lets the writer and the storage change, and fails if they did not succeed. -/
def onWriter (act : Writer → StateM σ (Writer × Except Error α)) : Staging σ α :=
  ExceptT.mk <| modifyGet fun d =>
    let ((writer, result), storage) := act d.writer d.storage
    (result, { d with writer, storage })

/-- Adds notices. -/
def note (ns : List Notice) : Staging σ Unit :=
  ExceptT.lift <| modify fun d => { d with notices := d.notices ++ ns }

/-- Whether the storage holds a statement. -/
def holds (responder : Responder σ) (s : Statement) : Staging σ Bool :=
  ExceptT.mk <| modifyGet fun d =>
    let (result, storage) := responder (.holds s) d.storage
    (result, { d with storage })

/-- Stages a fact. -/
def stage (sink : Sink σ) (f : Fact) : Staging σ Unit := onWriter fun w => w.stage sink f

/-- Writes everything that is staged. -/
def flush (sink : Sink σ) : Staging σ Nat := onWriter fun w => w.flush sink

end Staging

/-! ## Row by row -/

/-- Evaluates the bodies of rules.  The writer is started for the first execution. -/
structure Rowwise where
  options : EvaluationOptions := {}
  batchSize : Nat
  writer : Option Writer := none

namespace Rowwise

variable {σ : Type}

/-- The evaluator over a storage. -/
def evaluator (r : Rowwise) (b : Backend σ) : Evaluator := ⟨r.options, b.batching, b.reaches⟩

/-- Stages those of some statements that were neither staged before nor are stored, and counts
them. -/
def stageNew (b : Backend σ) (p : Provenance) (seen : Std.TreeSet Statement) :
    List Statement → Staging σ (Std.TreeSet Statement × Nat)
  | [] => pure (seen, 0)
  | s :: rest => do
    if seen.contains s then stageNew b p seen rest
    else if ← Staging.holds b.responder s then stageNew b p seen rest
    else
      Staging.stage b.sink ⟨s, p⟩
      let (seen, n) ← stageNew b p (seen.insert s) rest
      return (seen, n + 1)

/-- Stages what a rule makes of every solution, and counts the facts. -/
def stageSolutions (b : Backend σ) (rule : Rule) (p : Provenance) (seen : Std.TreeSet Statement)
    (derived : Nat) : Solutions → Staging σ Nat
  | .nil => pure derived
  | .cons (.error e) _ => throw e
  | .cons (.ok solution) rest => do
    let (seen, n) ← stageNew b p seen (rule.instances solution)
    stageSolutions b rule p seen (derived + n) (rest ())
  | .ask q next => do
    let reply ← Staging.onStorage (b.responder q)
    stageSolutions b rule p seen derived (next reply)

/-- Evaluates the body of a rule and writes the new facts, which all have the given provenance. -/
def derive (r : Rowwise) (b : Backend σ) (rule : Rule) (p : Provenance) : Staging σ Nat := do
  Staging.note ((r.evaluator b).announcements rule.body .empty)
  let solutions ← Staging.onStorage (((r.evaluator b).evaluate rule.body .empty).run b.responder)
  let derived ← stageSolutions b rule p ∅ 0 solutions
  let _ ← Staging.flush b.sink
  return derived

/-- Executes a rule and counts the new facts. -/
def execute (b : Backend σ) (rule : Rule) (p : Provenance) (r : Rowwise) (w : Workspace σ) :
    Except Error Nat × Rowwise × Workspace σ :=
  let (result, desk) :=
    (r.derive b rule p).run ⟨r.writer.getD (.start r.batchSize), w.storage, w.notices⟩
  let r := { r with writer := some desk.writer }
  let w := { w with storage := desk.storage, notices := desk.notices }
  match result with
  | .ok derived =>
    (.ok derived, r, { w with watermarks := w.watermarks.advance rule.id p.timestamp })
  | .error e => (.error e, r, w)

/-- Writes everything and gives the writer up, if there is one. -/
def shutdown (b : Backend σ) (r : Rowwise) (w : Workspace σ) :
    Except Error Unit × Rowwise × Workspace σ :=
  match r.writer with
  | none => (.ok (), r, w)
  | some writer =>
    let ((_, reply), storage) := writer.shutdown b.sink w.storage
    (reply.map fun _ => (), { r with writer := none }, { w with storage })

end Rowwise

/-! ## In bulk -/

/-- Lets the storage run plans. -/
structure Bulk (σ : Type) where
  executor : Executor σ
  options : PlanOptions := {}
  writer : Writer
  /-- The derivation level that a source of a row has to reach. -/
  requiredLevel : Nat := 0
  /-- Whether a rule was handed over to the other strategy. -/
  usedFallback : Bool := false
  fallback : Option Rowwise := none

namespace Bulk

variable {σ : Type}

/-- Stages the fact of a record, unless the record is unfit or the storage holds its statement; says
whether it did. -/
def stageRecord (b : Backend σ) (p : Provenance) (record : Json) : Staging σ Bool :=
  match Document.ofJson? record with
  | none => do
    Staging.note [.unreadableRecord]
    return false
  | some d => do
    if !d.statement.isWellFormed then
      Staging.note [.illFormedRecord]
      return false
    else if ← Staging.holds b.responder d.statement then return false
    else
      Staging.stage b.sink (d.toFact p.visibility)
      return true

/-- Stages the facts of all records, and counts them. -/
def stageRecords (b : Backend σ) (executor : Executor σ) (p : Provenance) (derived : Nat) :
    Sequence (Except Error Json) → Staging σ Nat
  | .nil => pure derived
  | .cons (.error e) _ => throw e
  | .cons (.ok record) rest => do
    let isNew ← stageRecord b p record
    stageRecords b executor p (if isNew then derived + 1 else derived) (rest ())
  | .ask q next => do
    let reply ← Staging.onStorage (executor.responder q)
    stageRecords b executor p derived (next reply)

/-- Lets the storage run a plan and writes the new facts. -/
def derive (s : Bulk σ) (b : Backend σ) (plan : Plan) (p : Provenance) : Staging σ Nat := do
  let records ← Staging.onStorage (s.executor.start plan s.options)
  let records ← MonadExcept.ofExcept records
  let derived ← stageRecords b s.executor p 0 records
  let _ ← Staging.flush b.sink
  return derived

/-- The level guard of the next plan. -/
def minLevel (s : Bulk σ) : Nat := if s.usedFallback then 0 else s.requiredLevel

/-- Executes a rule and counts the new facts. -/
def execute (b : Backend σ) (rule : Rule) (p : Provenance) (s : Bulk σ) (w : Workspace σ) :
    Except Error Nat × Bulk σ × Workspace σ :=
  match rule.compile s.minLevel p.timestamp (w.watermarks.get? rule.id) with
  | .error obstacle =>
    match s.fallback with
    | none => (.error (.notExpressible obstacle), s, w)
    | some fallback =>
      let (result, fallback, w) := fallback.execute b rule p w
      (result, { s with usedFallback := true, fallback := some fallback }, w)
  | .ok plan =>
    let (result, desk) := (s.derive b plan p).run ⟨s.writer, w.storage, w.notices⟩
    let s := { s with writer := desk.writer }
    let w := { w with storage := desk.storage, notices := desk.notices }
    match result with
    | .ok derived =>
      (.ok derived, s, { w with watermarks := w.watermarks.advance rule.id p.timestamp })
    | .error e => (.error e, s, w)

/-- Shuts the other strategy down, and then the writer if that succeeded. -/
def shutdown (b : Backend σ) (s : Bulk σ) (w : Workspace σ) :
    Except Error Unit × Bulk σ × Workspace σ :=
  let (first, fallback, w) : Except Error Unit × Option Rowwise × Workspace σ :=
    match s.fallback with
    | none => (.ok (), none, w)
    | some fallback =>
      let (result, fallback, w) := fallback.shutdown b w
      (result, some fallback, w)
  let s := { s with fallback }
  match first with
  | .error e => (.error e, s, w)
  | .ok () =>
    let ((writer, reply), storage) := s.writer.shutdown b.sink w.storage
    (reply.map fun _ => (), { s with writer }, { w with storage })

end Bulk

/-! ## Either way -/

/-- How rules are executed. -/
inductive Strategy (σ : Type)
  | bulk (s : Bulk σ)
  | rowwise (s : Rowwise)

namespace Strategy

variable {σ : Type}

/-- Executes a rule and counts the new facts. -/
def execute (b : Backend σ) (rule : Rule) (p : Provenance) (s : Strategy σ) (w : Workspace σ) :
    Except Error Nat × Strategy σ × Workspace σ :=
  match s with
  | bulk s =>
    let (result, s, w) := s.execute b rule p w
    (result, bulk s, w)
  | rowwise s =>
    let (result, s, w) := s.execute b rule p w
    (result, rowwise s, w)

/-- Asks for sources of a derivation level from now on; row by row this makes no difference. -/
def requireLevel (level : Nat) : Strategy σ → Strategy σ
  | bulk s => bulk { s with requiredLevel := level }
  | rowwise s => rowwise s

/-- Whether rules were, or would be, evaluated row by row. -/
def usedFallback : Strategy σ → Bool
  | bulk s => s.usedFallback
  | rowwise _ => true

/-- Writes everything and gives all writers up. -/
def shutdown (b : Backend σ) (s : Strategy σ) (w : Workspace σ) :
    Except Error Unit × Strategy σ × Workspace σ :=
  match s with
  | bulk s =>
    let (result, s, w) := s.shutdown b w
    (result, bulk s, w)
  | rowwise s =>
    let (result, s, w) := s.shutdown b w
    (result, rowwise s, w)

end Strategy

end RdfReasoner
