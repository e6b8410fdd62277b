import RdfReasoner.Strategy

/-!
# Sessions

A session applies rules in passes until a whole pass derives nothing, or until the passes that it
was allowed are used up.  Passes are counted from 0.  In pass `k` a rule that is executed in bulk
skips rows made only of facts older than its own watermark and, unless some rule was evaluated row
by row before, rows without a source of derivation level `k` or above.  Evaluation row by row skips
nothing.

The times of the executions come from the clock that also stamps what is inserted, and never go
back.  When the clock is set back, the latest time is taken again and again until the clock has
caught up with it, so that such a time is ahead of the clock.
-/

namespace RdfReasoner

/-- Rules applied in passes to a storage. -/
structure Session (σ : Type) where
  strategy : Strategy σ
  work : Workspace σ
  /-- The time of the latest execution. -/
  lastTick : Option Timestamp := none
  /-- The access label of every derived fact. -/
  visibility : String := ""
  maxPasses : Option Nat := none

/-- What a session does; it may fail and keeps what it changed even then. -/
abbrev SessionM (σ : Type) := ExceptT Error (StateM (Session σ))

namespace Session

variable {σ : Type}

/-- Takes the time of an execution: what the clock shows, or the latest time if that is later. -/
def tick (b : Backend σ) : StateM (Session σ) Timestamp := fun s =>
  let (now, storage) := b.now s.work.storage
  let time := (s.lastTick.map (max · now)).getD now
  (time, { s with lastTick := some time, work := { s.work with storage } })

/-- Executes one rule; an error says which. -/
def execute (b : Backend σ) (rule : Rule) (p : Provenance) : SessionM σ Nat := fun s =>
  let (result, strategy, work) := s.strategy.execute b rule p s.work
  (result.mapError (.rule rule.id), { s with strategy, work })

/-- Executes every rule once, at the given pass. -/
def pass (b : Backend σ) (number derived : Nat) : List Rule → SessionM σ Nat
  | [] => pure derived
  | rule :: rest => do
    let time ← tick b
    let visibility := (← get).visibility
    let n ← execute b rule ⟨number + 1, time, visibility⟩
    pass b number (derived + n) rest

/-- Goes on with passes.  There is no result when `rounds` passes were not enough. -/
def passes (b : Backend σ) (rules : List Rule) : (rounds number total : Nat) →
    SessionM σ (Option Nat)
  | 0, _, _ => pure none
  | rounds + 1, number, total => do
    if (← get).maxPasses.any (· ≤ number) then
      modify fun s => { s with work := s.work.note .stoppedEarly }
      return some total
    modify fun s => { s with strategy := s.strategy.requireLevel number }
    let derived ← pass b number 0 rules
    if derived = 0 then return some total
    passes b rules rounds (number + 1) (total + derived)

/-- Applies rules until nothing new is derived, and counts what was. -/
def run (b : Backend σ) (rules : List Rule) (rounds : Nat) : SessionM σ (Option Nat) :=
  passes b rules rounds 0 0

/-- Whether rules were, or would be, evaluated row by row. -/
def usedFallback (s : Session σ) : Bool := s.strategy.usedFallback

/-- Writes everything and gives all writers up. -/
def shutdown (b : Backend σ) : SessionM σ Unit := fun s =>
  let (result, strategy, work) := s.strategy.shutdown b s.work
  (result, { s with strategy, work })

end Session

/-! ## How many passes there can be -/

/-- The terms of a slot. -/
def Slot.terms : Slot → List Term
  | .var _ => []
  | .const t => [t]

/-- The terms of a statement. -/
def Statement.terms (s : Statement) : List Term := Position.all.filterMap s.termAt

/-- The terms of a pattern and of its candidates. -/
def Pattern.terms (p : Pattern) : List Term :=
  Position.all.flatMap (fun place => (p.slotAt place).toList.flatMap Slot.terms) ++
    match p.kind with
    | .fixed candidates => candidates.flatMap Statement.terms
    | _ => []

/-- The terms that the patterns of a query bring in. -/
def Query.terms : Query → List Term
  | .pattern p => p.terms
  | .join left right => left.terms ++ right.terms
  | .filter _ child | .slice _ _ child => child.terms

/-- The terms of a template. -/
def Template.terms (t : Template) : List Term :=
  ([t.subject, t.predicate, t.object] ++ t.context.toList).flatMap Slot.terms

/-- The terms that a rule brings in. -/
def Rule.terms (r : Rule) : List Term := r.body.terms ++ r.head.flatMap Template.terms

/-- All terms that facts and rules bring in. -/
def termsAtHand (facts : List Fact) (rules : List Rule) : List Term :=
  facts.flatMap (·.statement.terms) ++ rules.flatMap Rule.terms

/-- A number of passes that is enough for a session on a store in memory: every pass but the last
adds a statement over the terms at hand. -/
def passBound (facts : List Fact) (rules : List Rule) : Nat :=
  let terms := (termsAtHand facts rules).length
  terms * terms * terms * (terms + 1) + 1

/-- A number of rounds in which a run comes to its end: those for the passes that are allowed, or
for as many passes as there can be.  Records that an executor brings along by itself may take one
pass more. -/
def Session.enoughRounds {σ : Type} (s : Session σ) (facts : List Fact) (rules : List Rule) : Nat :=
  Nat.max (s.maxPasses.getD 0) (passBound facts rules) + 1

end RdfReasoner
