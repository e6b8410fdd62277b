import RdfReasoner.Notice
import RdfReasoner.Sequence

/-!
# Writing in batches

New facts are staged in a writer, which hands them to the storage in batches.  The work is done by a
`Worker`, a machine that takes one event after the other: a fact to stage, a request to write
everything, the passing of an idle interval, a request to stop, or the loss of whoever staged.  A
batch is handed over when it is full and on every other event.

A batch that the storage refuses is lost; the first refusal is what the next reply to a request
says, in place of the number of new facts.

A `Writer` is what holds on to a worker.  Once it is shut down nothing can be staged any more.
-/

namespace RdfReasoner

/-- Takes a batch of facts, and says how many of them are new. -/
abbrev Sink (σ : Type) := List Fact → StateM σ (Except Error Nat)

/-- The outcome of writing: the number of new facts, or the first refusal. -/
abbrev Reply := Except Error Nat

/-! ## The worker -/

/-- What a worker can be told. -/
inductive Event
  | stage (f : Fact)
  /-- Everything has to be written, and a reply is wanted. -/
  | flush
  /-- Nothing was staged for a while. -/
  | idle
  /-- Everything has to be written, a reply is wanted, and nothing will follow. -/
  | shutdown
  /-- Nothing will follow, and nobody waits for a reply. -/
  | disconnect

/-- The facts that wait to be written, and what was written since the last reply. -/
structure Worker where
  batchSize : Nat
  batchSize_pos : 0 < batchSize
  buffer : Array Fact := #[]
  written : Nat := 0
  failure : Option Error := none

namespace Worker

variable {σ : Type}

/-- A worker with nothing to write.  A batch has at least one fact. -/
def ofBatchSize (n : Nat) : Worker := { batchSize := Nat.max n 1, batchSize_pos := by grind }

/-- Hands the buffer over, unless it is empty. -/
def write (sink : Sink σ) (w : Worker) : StateM σ Worker :=
  if w.buffer.isEmpty then pure w
  else do
    match ← sink w.buffer.toList with
    | .ok new => return { w with buffer := #[], written := w.written + new }
    | .error e => return { w with buffer := #[], failure := w.failure.or (some e) }

/-- What there is to reply. -/
def outcome (w : Worker) : Reply :=
  match w.failure with
  | some e => .error e
  | none => .ok w.written

/-- Hands everything over and replies; the next reply starts anew. -/
def settle (sink : Sink σ) (w : Worker) : StateM σ (Worker × Reply) := do
  let w ← w.write sink
  return ({ w with written := 0, failure := none }, w.outcome)

/-- Puts a fact into the buffer and hands a full batch over. -/
def stage (sink : Sink σ) (w : Worker) (f : Fact) : StateM σ Worker :=
  let w := { w with buffer := w.buffer.push f }
  if w.batchSize ≤ w.buffer.size then w.write sink else pure w

/-- Takes an event, and replies where a reply is wanted. -/
def handle (sink : Sink σ) (w : Worker) : Event → StateM σ (Worker × Option Reply)
  | .stage f => return (← w.stage sink f, none)
  | .idle => return (← w.write sink, none)
  | .flush | .shutdown => do
    let (w, reply) ← w.settle sink
    return (w, some reply)
  | .disconnect => do
    let (w, _) ← w.settle sink
    return (w, none)

end Worker

/-! ## The writer -/

/-- A worker, until it is shut down, and the number of facts that were ever staged. -/
structure Writer where
  worker : Option Worker
  staged : Nat := 0

namespace Writer

variable {σ : Type}

/-- A writer whose worker has nothing to write. -/
def start (batchSize : Nat) : Writer := ⟨some (.ofBatchSize batchSize), 0⟩

/-- Whether the worker can still be told anything. -/
def isRunning (w : Writer) : Bool := w.worker.isSome

/-- Stages a fact. -/
def stage (sink : Sink σ) (w : Writer) (f : Fact) : StateM σ (Writer × Except Error Unit) :=
  match w.worker with
  | none => pure (w, .error .writerStopped)
  | some worker => do
    let worker ← worker.stage sink f
    return (⟨some worker, w.staged + 1⟩, .ok ())

/-- Writes everything staged so far. -/
def flush (sink : Sink σ) (w : Writer) : StateM σ (Writer × Reply) :=
  match w.worker with
  | none => pure (w, .error .writerStopped)
  | some worker => do
    let (worker, reply) ← worker.settle sink
    return ({ w with worker := some worker }, reply)

/-- Lets an idle interval pass. -/
def idle (sink : Sink σ) (w : Writer) : StateM σ Writer :=
  match w.worker with
  | none => pure w
  | some worker => do return { w with worker := some (← worker.write sink) }

/-- Writes everything and gives the worker up.  A second time there is nothing to do. -/
def shutdown (sink : Sink σ) (w : Writer) : StateM σ (Writer × Reply) :=
  match w.worker with
  | none => pure (w, .ok 0)
  | some worker => do
    let (_, reply) ← worker.settle sink
    return ({ w with worker := none }, reply)

/-- Lets go of a writer.  If nobody shut it down, it writes everything now, and a refusal is worth a
notice. -/
def abandon (sink : Sink σ) (w : Writer) : StateM σ (List Notice) := do
  match ← w.shutdown sink with
  | (_, .ok _) => return []
  | (_, .error _) => return [.writerLost]

end Writer

end RdfReasoner
