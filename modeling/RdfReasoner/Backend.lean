import RdfReasoner.Evaluation
import RdfReasoner.Plan.Run
import RdfReasoner.Store.Reach
import RdfReasoner.Writer

/-!
# Backends

What a reasoner needs of a storage: answers to questions, a place to write to, a clock, and, if the
storage can run plans on its own, someone to run them.  `Memory.backend` offers all of this on a
`Store` in memory; its clock is a list of readings to come.
-/

namespace RdfReasoner

/-- Runs plans in bulk. -/
structure Executor (σ : Type) where
  /-- Takes a plan up; its records come in JSON. -/
  start : Plan → PlanOptions → StateM σ (Except Error (Sequence (Except Error Json)))
  /-- Answers what the sequence of records asks. -/
  responder : Responder σ

/-- A storage, with everything that changes in it in one state. -/
structure Backend (σ : Type) where
  responder : Responder σ
  batching : Batching := .atOnce
  /-- Whether questions about reachability are answered. -/
  reaches : Bool := true
  executor : Option (Executor σ) := none
  sink : Sink σ
  now : StateM σ Timestamp

/-- A store, and a clock of which `reads` readings were taken. -/
structure Memory where
  store : Store := .empty
  clock : Nat → Timestamp
  reads : Nat := 0

namespace Memory

/-- Reads the clock. -/
def now : StateM Memory Timestamp := fun m => (m.clock m.reads, { m with reads := m.reads + 1 })

/-- Answers questions from the store. -/
def responder : Responder Memory := fun q m => (m.store.answer q, m)

/-- Keeps a batch of facts. -/
def sink : Sink Memory := fun facts => do
  let time ← now
  modifyGet fun m =>
    let (store, new) := m.store.insertAll time facts
    (.ok new, { m with store })

/-- Runs plans on the store; `limit` bounds the distinct results where large ones are not
allowed. -/
def executor (limit : Nat) : Executor Memory where
  start plan options := pure (.ok (plan.records options limit))
  responder := responder

/-- A storage in memory. -/
def backend (limit : Nat) : Backend Memory where
  responder := responder
  executor := some (executor limit)
  sink := sink
  now := now

end Memory

end RdfReasoner
