import RdfReasoner.Proofs.Engine

/-!
# Plans on record

What plans an executor was given shows neither in the results of executions nor in what they leave
behind.  Over a `Recorded` storage it does: there the executor puts every plan on record before it
takes it up.  Besides the record nothing is different, whatever the storage does
(`Engine.serveAll_onRecord`).

Everything that strategies do is put together from actions on the storage that take no notice of the
record.  `unnoticed` carries such actions over, and commutes with putting them together.
-/

namespace RdfReasoner

variable {σ α β : Type}

/-! ## Storages with a record -/

/-- A storage, and the plans that its executor was given. -/
structure Recorded (σ : Type) where
  storage : σ
  plans : List Plan

namespace Recorded

/-- Lets the storage change and leaves the record as it is. -/
def unnoticed (act : StateM σ α) : StateM (Recorded σ) α := fun r =>
  ((act r.storage).1, ⟨(act r.storage).2, r.plans⟩)

/-- Puts a plan on record. -/
def put (plan : Plan) : StateM (Recorded σ) Unit :=
  modify fun r => { r with plans := r.plans ++ [plan] }

theorem unnoticed_bind (x : StateM σ α) (f : α → StateM σ β) :
    unnoticed (x >>= f) = unnoticed x >>= fun a => unnoticed (f a) := rfl

end Recorded

section storages

open Recorded

/-- Answers from the storage. -/
def Responder.onRecord (responder : Responder σ) : Responder (Recorded σ) := fun q =>
  unnoticed (responder q)

/-- Writes to the storage. -/
def Sink.onRecord (sink : Sink σ) : Sink (Recorded σ) := fun facts => unnoticed (sink facts)

/-- Runs plans on the storage, once they are on record. -/
def Executor.onRecord (executor : Executor σ) : Executor (Recorded σ) where
  start plan options := do
    put plan
    unnoticed (executor.start plan options)
  responder := Responder.onRecord executor.responder

/-- A backend that keeps a record. -/
def Backend.onRecord (b : Backend σ) : Backend (Recorded σ) where
  responder := Responder.onRecord b.responder
  batching := b.batching
  reaches := b.reaches
  executor := b.executor.map Executor.onRecord
  sink := Sink.onRecord b.sink
  now := unnoticed b.now

/-- A desk with a record. -/
def Desk.onRecord (d : Desk σ) (plans : List Plan) : Desk (Recorded σ) :=
  ⟨d.writer, ⟨d.storage, plans⟩, d.notices⟩

/-- A workspace with a record. -/
def Workspace.onRecord (w : Workspace σ) (plans : List Plan) : Workspace (Recorded σ) :=
  ⟨⟨w.storage, plans⟩, w.watermarks, w.notices⟩

/-- The same strategy with an executor that keeps a record. -/
def Bulk.onRecord (s : Bulk σ) : Bulk (Recorded σ) where
  executor := s.executor.onRecord
  options := s.options
  writer := s.writer
  requiredLevel := s.requiredLevel
  usedFallback := s.usedFallback
  fallback := s.fallback

/-- The same strategy, where an executor keeps a record if there is one. -/
def Strategy.onRecord : Strategy σ → Strategy (Recorded σ)
  | bulk s => bulk s.onRecord
  | rowwise r => rowwise r

/-! ## What takes no notice of the record -/

/-- What is handed over leaves the record as it is. -/
theorem Worker.write_onRecord (sink : Sink σ) (k : Worker) :
    k.write sink.onRecord = unnoticed (k.write sink) := by
  unfold write
  split
  · rfl
  · rw [unnoticed_bind]
    refine bind_congr fun result => ?_
    cases result <;> rfl

theorem Worker.settle_onRecord (sink : Sink σ) (k : Worker) :
    k.settle sink.onRecord = unnoticed (k.settle sink) := by
  rw [settle, write_onRecord]
  rfl

theorem Writer.stage_onRecord (sink : Sink σ) (w : Writer) (f : Fact) :
    w.stage sink.onRecord f = unnoticed (w.stage sink f) := by
  unfold Writer.stage Worker.stage
  split
  · rfl
  · dsimp only
    split
    · rw [Worker.write_onRecord]
      rfl
    · rfl

theorem Writer.flush_onRecord (sink : Sink σ) (w : Writer) :
    w.flush sink.onRecord = unnoticed (w.flush sink) := by
  unfold Writer.flush
  split
  · rfl
  · rw [Worker.settle_onRecord]
    rfl

theorem Writer.shutdown_onRecord (sink : Sink σ) (w : Writer) :
    w.shutdown sink.onRecord = unnoticed (w.shutdown sink) := by
  unfold Writer.shutdown
  split
  · rfl
  · rw [Worker.settle_onRecord]
    rfl

theorem Inquiry.run_onRecord (responder : Responder σ) (i : Inquiry α) :
    i.run responder.onRecord = unnoticed (i.run responder) := by
  induction i with
  | done a => rfl
  | ask q next ih =>
    rw [run, run, unnoticed_bind]
    exact bind_congr fun reply => ih reply

end storages

namespace Staging

/-- A part of an execution over a storage with a record, which stays as it is. -/
def unnoticed (act : Staging σ α) : Staging (Recorded σ) α :=
  ExceptT.mk fun d =>
    let (result, d') := act.run ⟨d.writer, d.storage.storage, d.notices⟩
    (result, d'.onRecord d.storage.plans)

theorem run_unnoticed (act : Staging σ α) (d : Desk σ) (plans : List Plan) :
    (unnoticed act).run (d.onRecord plans) = ((act.run d).1, (act.run d).2.onRecord plans) := rfl

theorem unnoticed_bind (x : Staging σ α) (f : α → Staging σ β) :
    unnoticed (x >>= f) = unnoticed x >>= fun a => unnoticed (f a) := by
  refine ExceptT.ext (funext fun d => ?_)
  let d' : Desk σ := ⟨d.writer, d.storage.storage, d.notices⟩
  show (unnoticed (x >>= f)).run (d'.onRecord d.storage.plans) =
    (unnoticed x >>= fun a => unnoticed (f a)).run (d'.onRecord d.storage.plans)
  rw [run_unnoticed, Fallible.run_bind, Fallible.run_bind, run_unnoticed]
  rcases x.run d' with ⟨_ | a, t⟩ <;> rfl

theorem holds_onRecord (b : Backend σ) (s : Statement) :
    holds b.onRecord.responder s = unnoticed (holds b.responder s) := rfl

theorem stage_onRecord (b : Backend σ) (f : Fact) :
    stage b.onRecord.sink f = unnoticed (stage b.sink f) :=
  congrArg (fun act => onWriter act) (funext fun w => Writer.stage_onRecord b.sink w f)

theorem flush_onRecord (b : Backend σ) :
    flush b.onRecord.sink = unnoticed (flush b.sink) :=
  congrArg (fun act => onWriter act) (funext fun w => Writer.flush_onRecord b.sink w)

end Staging

/-! ## Strategies with a record -/

namespace Rowwise

open Staging

variable (b : Backend σ) (rule : Rule) (p : Provenance)

theorem stageNew_onRecord (seen : Std.TreeSet Statement) (l : List Statement) :
    stageNew b.onRecord p seen l = unnoticed (stageNew b p seen l) := by
  induction l generalizing seen with
  | nil => rfl
  | cons s rest ih =>
    rw [stageNew, stageNew, holds_onRecord, stage_onRecord, ih]
    split
    · rfl
    · rw [unnoticed_bind]
      refine bind_congr fun held => ?_
      split
      · rfl
      · rw [unnoticed_bind, ih]
        refine bind_congr fun _ => ?_
        rw [unnoticed_bind]
        rfl

theorem stageSolutions_onRecord (seen : Std.TreeSet Statement) (derived : Nat) (s : Solutions) :
    stageSolutions b.onRecord rule p seen derived s =
      unnoticed (stageSolutions b rule p seen derived s) := by
  induction s generalizing seen derived with
  | nil => rfl
  | cons item rest ih =>
    cases item with
    | error e => rfl
    | ok solution =>
      rw [stageSolutions, stageSolutions, stageNew_onRecord, unnoticed_bind]
      exact bind_congr fun _ => ih () _ _
  | ask q next ih =>
    rw [stageSolutions, stageSolutions, unnoticed_bind]
    exact bind_congr fun reply => ih reply seen derived

/-- Evaluating a rule row by row leaves the record as it is. -/
theorem derive_onRecord (r : Rowwise) :
    r.derive b.onRecord rule p = unnoticed (r.derive b rule p) := by
  rw [derive, derive, unnoticed_bind]
  refine bind_congr fun _ => ?_
  rw [unnoticed_bind]
  refine congrArg₂ (· >>= ·) (congrArg onStorage (Inquiry.run_onRecord b.responder _)) ?_
  funext solutions
  rw [unnoticed_bind, stageSolutions_onRecord]
  refine bind_congr fun derived => ?_
  rw [unnoticed_bind, flush_onRecord]
  rfl

/-- Executing a rule row by row puts nothing on record. -/
theorem execute_onRecord (r : Rowwise) (w : Workspace σ) (plans : List Plan) :
    r.execute b.onRecord rule p (w.onRecord plans) =
      ((r.execute b rule p w).1, (r.execute b rule p w).2.1,
        (r.execute b rule p w).2.2.onRecord plans) := by
  rcases hrun : (r.derive b rule p).run ⟨r.currentWriter, w.storage, w.notices⟩ with ⟨result, desk⟩
  have hrecorded : (r.derive b.onRecord rule p).run
      ⟨r.currentWriter, (w.onRecord plans).storage, (w.onRecord plans).notices⟩ =
        (result, desk.onRecord plans) := by
    show (r.derive b.onRecord rule p).run
      (Desk.onRecord ⟨r.currentWriter, w.storage, w.notices⟩ plans) = _
    rw [derive_onRecord, run_unnoticed, hrun]
  rw [execute_eq hrun, execute_eq hrecorded]
  rfl

theorem shutdown_onRecord (r : Rowwise) (w : Workspace σ) (plans : List Plan) :
    r.shutdown b.onRecord (w.onRecord plans) =
      ((r.shutdown b w).1, (r.shutdown b w).2.1, (r.shutdown b w).2.2.onRecord plans) := by
  rw [shutdown, shutdown]
  split
  · rfl
  · next writer _ =>
    have hwriter := Writer.shutdown_onRecord b.sink writer
    rw [show b.onRecord.sink = Sink.onRecord b.sink from rfl, hwriter]
    rfl

end Rowwise

namespace Bulk

open Staging

variable (b : Backend σ) (rule : Rule) (p : Provenance)

theorem stageRecord_onRecord (record : Json) :
    stageRecord b.onRecord p record = unnoticed (stageRecord b p record) := by
  unfold stageRecord
  split
  · rfl
  · split
    · rfl
    · rw [unnoticed_bind, holds_onRecord]
      refine bind_congr fun held => ?_
      split
      · rfl
      · rw [unnoticed_bind, stage_onRecord]
        rfl

theorem stageRecords_onRecord (executor : Executor σ) (derived : Nat)
    (s : Sequence (Except Error Json)) :
    stageRecords b.onRecord executor.onRecord p derived s =
      unnoticed (stageRecords b executor p derived s) := by
  induction s generalizing derived with
  | nil => rfl
  | cons item rest ih =>
    cases item with
    | error e => rfl
    | ok record =>
      rw [stageRecords, stageRecords, stageRecord_onRecord, unnoticed_bind]
      exact bind_congr fun isNew => ih () _
  | ask q next ih =>
    rw [stageRecords, stageRecords, unnoticed_bind]
    exact bind_congr fun reply => ih reply derived

/-- What follows once a plan was taken up, or was not. -/
def stageStarted (executor : Executor σ) (records : Except Error (Sequence (Except Error Json))) :
    Staging σ Nat := do
  let records ← MonadExcept.ofExcept records
  let derived ← stageRecords b executor p 0 records
  let _ ← Staging.flush b.sink
  return derived

theorem derive_eq (s : Bulk σ) (plan : Plan) :
    s.derive b plan p =
      onStorage (s.executor.start plan s.options) >>= stageStarted b p s.executor := rfl

theorem stageStarted_onRecord (executor : Executor σ)
    (records : Except Error (Sequence (Except Error Json))) :
    stageStarted b.onRecord p executor.onRecord records =
      unnoticed (stageStarted b p executor records) := by
  rcases records with e | records
  · rfl
  · show (stageRecords b.onRecord executor.onRecord p 0 records >>= fun derived =>
        Staging.flush b.onRecord.sink >>= fun _ => pure derived) =
      unnoticed (stageRecords b executor p 0 records >>= fun derived =>
        Staging.flush b.sink >>= fun _ => pure derived)
    rw [unnoticed_bind, stageRecords_onRecord, flush_onRecord]
    refine bind_congr fun derived => ?_
    rw [unnoticed_bind]
    rfl

/-- Running a plan puts this plan on record, whether it succeeds or not. -/
theorem derive_onRecord (s : Bulk σ) (plan : Plan) (d : Desk σ) (plans : List Plan) :
    (s.onRecord.derive b.onRecord plan p).run (d.onRecord plans) =
      (((s.derive b plan p).run d).1, ((s.derive b plan p).run d).2.onRecord (plans ++ [plan])) := by
  let started : Desk σ := { d with storage := (s.executor.start plan s.options d.storage).2 }
  have hstart : (onStorage (s.onRecord.executor.start plan s.onRecord.options)).run
      (d.onRecord plans) = (.ok (s.executor.start plan s.options d.storage).1,
        started.onRecord (plans ++ [plan])) := rfl
  rw [derive_eq, derive_eq, Fallible.run_bind_ok hstart, Fallible.run_bind_ok (run_onStorage _ d)]
  show (stageStarted b.onRecord p s.executor.onRecord _).run _ = _
  rw [stageStarted_onRecord, run_unnoticed]

/-- Executing a rule puts its plan on record, if it has one. -/
theorem execute_onRecord (s : Bulk σ) (w : Workspace σ) (plans : List Plan) :
    s.onRecord.execute b.onRecord rule p (w.onRecord plans) =
      ((s.execute b rule p w).1, (s.execute b rule p w).2.1.onRecord,
        (s.execute b rule p w).2.2.onRecord (plans ++
          (rule.compile s.minLevel p.timestamp (w.watermarks.get? rule.id)).toOption.toList)) := by
  have hsame : rule.compile s.onRecord.minLevel p.timestamp
      ((w.onRecord plans).watermarks.get? rule.id) =
        rule.compile s.minLevel p.timestamp (w.watermarks.get? rule.id) := rfl
  cases hplan : rule.compile s.minLevel p.timestamp (w.watermarks.get? rule.id) with
  | ok plan =>
    rcases hrun : (s.derive b plan p).run ⟨s.writer, w.storage, w.notices⟩ with ⟨result, desk⟩
    have hrecorded : (s.onRecord.derive b.onRecord plan p).run
        ⟨s.onRecord.writer, (w.onRecord plans).storage, (w.onRecord plans).notices⟩ =
          (result, desk.onRecord (plans ++ [plan])) := by
      have h := derive_onRecord b p s plan ⟨s.writer, w.storage, w.notices⟩ plans
      rw [hrun] at h
      exact h
    rw [execute_plan hplan hrun, execute_plan (hsame.trans hplan) hrecorded]
    rfl
  | error obstacle =>
    rw [Except.toOption, Option.toList_none, List.append_nil]
    cases hr : s.fallback with
    | none =>
      have hr' : s.onRecord.fallback = none := hr
      rw [execute_obstacle hr hplan, execute_obstacle hr' (hsame.trans hplan)]
    | some r =>
      have hr' : s.onRecord.fallback = some r := hr
      rcases hrun : (r.derive b rule p).run ⟨r.currentWriter, w.storage, w.notices⟩ with
        ⟨result, desk⟩
      have hrecorded : (r.derive b.onRecord rule p).run
          ⟨r.currentWriter, (w.onRecord plans).storage, (w.onRecord plans).notices⟩ =
            (result, desk.onRecord plans) := by
        have h := run_unnoticed (r.derive b rule p) ⟨r.currentWriter, w.storage, w.notices⟩ plans
        rw [← Rowwise.derive_onRecord, hrun] at h
        exact h
      rw [execute_handed_over hr hplan hrun,
        execute_handed_over hr' (hsame.trans hplan) hrecorded]
      rfl

theorem shutdown_onRecord (s : Bulk σ) (w : Workspace σ) (plans : List Plan) :
    s.onRecord.shutdown b.onRecord (w.onRecord plans) =
      ((s.shutdown b w).1, (s.shutdown b w).2.1.onRecord,
        (s.shutdown b w).2.2.onRecord plans) := by
  have hwriter : s.writer.shutdown b.onRecord.sink = _ := Writer.shutdown_onRecord b.sink s.writer
  cases hr : s.fallback with
  | none =>
    simp only [shutdown, onRecord, hr, hwriter]
    rfl
  | some r =>
    simp only [shutdown, onRecord, hr, Rowwise.shutdown_onRecord]
    rcases r.shutdown b w with ⟨_ | _, r', w'⟩
    · rfl
    · simp only [hwriter]
      rfl

end Bulk

/-! ## Engines with a record -/

namespace Engine

/-- An engine whose executor keeps a record. -/
def onRecord (m : Engine σ) (plans : List Plan) : Engine (Recorded σ) :=
  ⟨m.strategy.onRecord, m.work.onRecord plans⟩

/-- The same demand; what happens outside takes no notice of the record. -/
def Demand.onRecord : Demand σ → Demand (Recorded σ)
  | .execute rule p => .execute rule p
  | .requireLevel level => .requireLevel level
  | .shutdown => .shutdown
  | .outside change => .outside fun r => { r with storage := change r.storage }

/-- The plan that the executor is given when a demand is served, if it is given one. -/
def newPlans (m : Engine σ) : Demand σ → List Plan
  | .execute rule p =>
    (m.strategy.plan? rule p.timestamp (m.work.watermarks.get? rule.id)).toList
  | _ => []

variable (b : Backend σ)

theorem execute_onRecord (m : Engine σ) (rule : Rule) (p : Provenance) (plans : List Plan) :
    (m.onRecord plans).execute b.onRecord rule p =
      ((m.execute b rule p).1,
        (m.execute b rule p).2.onRecord (plans ++ m.newPlans (.execute rule p))) := by
  obtain ⟨s | r, w⟩ := m
  · have h := Bulk.execute_onRecord b rule p s w plans
    unfold execute onRecord Strategy.onRecord Strategy.execute
    simp only [h]
    rfl
  · have h := Rowwise.execute_onRecord b rule p r w plans
    unfold execute onRecord Strategy.onRecord Strategy.execute
    simp only [h, newPlans, Strategy.plan?, Option.toList_none, List.append_nil]

/-- Serving a demand with a record gives what it gives without, and the new plan on record. -/
theorem serve_onRecord (m : Engine σ) (d : Demand σ) (plans : List Plan) :
    (m.onRecord plans).serve b.onRecord d.onRecord =
      (m.serve b d).onRecord (plans ++ m.newPlans d) := by
  cases d with
  | execute rule p => exact congrArg Prod.snd (execute_onRecord b m rule p plans)
  | requireLevel level =>
    obtain ⟨s | r, w⟩ := m <;> simp only [newPlans, List.append_nil] <;> rfl
  | outside change =>
    simp only [newPlans, List.append_nil]
    rfl
  | shutdown =>
    simp only [newPlans, List.append_nil]
    obtain ⟨s | r, w⟩ := m
    · have h := Bulk.shutdown_onRecord b s w plans
      simp only [serve, onRecord, Demand.onRecord, Strategy.onRecord, Strategy.shutdown, h]
    · have h := Rowwise.shutdown_onRecord b r w plans
      simp only [serve, onRecord, Demand.onRecord, Strategy.onRecord, Strategy.shutdown, h]

/-- The plans that the executor is given while some demands are served: those on its record. -/
def plans (m : Engine σ) (demands : List (Demand σ)) : List Plan :=
  ((m.onRecord []).serveAll b.onRecord (demands.map Demand.onRecord)).work.storage.plans

/-- Keeping a record makes no other difference. -/
theorem serveAll_onRecord (m : Engine σ) (demands : List (Demand σ)) :
    (m.onRecord []).serveAll b.onRecord (demands.map Demand.onRecord) =
      (m.serveAll b demands).onRecord (m.plans b demands) := by
  have hrecord : ∃ plans, (m.onRecord []).serveAll b.onRecord (demands.map Demand.onRecord) =
      (m.serveAll b demands).onRecord plans := by
    induction demands using List.reverseRecOn with
    | nil => exact ⟨[], rfl⟩
    | append_singleton demands d ih =>
      obtain ⟨plans, ih⟩ := ih
      rw [List.map_append, serveAll_append, serveAll_append, ih]
      exact ⟨_, serve_onRecord b (m.serveAll b demands) d plans⟩
  obtain ⟨plans, hplans⟩ := hrecord
  rw [Engine.plans, hplans]
  rfl

/-- One more demand puts its plan on record. -/
theorem plans_concat (m : Engine σ) (demands : List (Demand σ)) (d : Demand σ) :
    m.plans b (demands ++ [d]) = m.plans b demands ++ (m.serveAll b demands).newPlans d := by
  have hserve := serve_onRecord b (m.serveAll b demands) d (m.plans b demands)
  rw [plans, List.map_append, serveAll_append, serveAll_onRecord]
  exact congrArg (·.work.storage.plans) hserve

end Engine

end RdfReasoner
