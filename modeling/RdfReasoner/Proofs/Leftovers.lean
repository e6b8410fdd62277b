import RdfReasoner.Proofs.Currency

/-!
# What failed executions leave behind

The watermark of a rule is the time of its latest execution that succeeded.  What entered the store
since that execution began should not be older, or the guard of the rule would skip rows that it has
never seen.  Facts carry the time of the execution that staged them, or that of their insertion, so
this is so for all facts but one kind: those that were waiting in a writer when that execution
began.  They are written by a later flush, and they are as old as the execution that staged them.

An execution that succeeds leaves nothing in its writer.  So what waits was left there by executions
that failed between staging and flushing.

All this holds over any storage whose facts are those of a store (`InMemory`): its answers, its
checks and its plans may fail at any time, and it may refuse batches.
-/

namespace RdfReasoner

open Fallible

/-! ## Storages that may fail -/

/-- Running a plan leaves the facts alone, and every record that can be read has the time of the
plan.  It may fail at the start, or anywhere between the records. -/
structure Executor.InMemory {σ : Type} (v : StoreView σ) (x : Executor σ) : Prop where
  start : ∀ plan options m, v.store (x.start plan options m).2 = v.store m
  records : ∀ plan options m records, (x.start plan options m).1 = .ok records →
    records.Every fun item => ∀ record, item = .ok record →
      ∀ d, Document.ofJson? record = some d → d.timestamp = plan.timestamp
  responder : ∀ q m, v.store (x.responder q m).2 = v.store m

/-- The facts of a storage are those of a store.  Answers may be anything, errors included, and of a
batch that is handed over any part may be kept. -/
structure Backend.InMemory {σ : Type} (v : StoreView σ) (b : Backend σ) : Prop where
  now : ∀ m, v.store (b.now m).2 = v.store m
  responder : ∀ q m, v.store (b.responder q m).2 = v.store m
  sink : ∀ facts m, ∃ time kept, (∀ f ∈ kept, f ∈ facts) ∧
    v.store (b.sink facts m).2 = ((v.store m).insertAll time kept).1

namespace Plan

open Sequence

/-- Dropping documents brings no new ones in. -/
theorem everyFor_dropRepeated {R : ReplyKind} {P : Document → Prop} {limit : Option Nat}
    {seen : Std.TreeSet Statement} {s : Sequence (Except Error Document)}
    (hs : s.EveryFor R (ErrorOr P)) : (dropRepeated limit seen s).EveryFor R (ErrorOr P) := by
  induction s generalizing seen with
  | nil => trivial
  | cons item rest ih =>
    rcases item with error | d
    · exact ⟨hs.1, ih () hs.2⟩
    · rw [dropRepeated]
      split
      · exact ih () hs.2
      · refine ⟨?_, ih () hs.2⟩
        split
        · split
          · exact errorOr_error _
          · exact hs.1
        · exact hs.1
  | ask q next ih => exact fun reply hreply => ih reply (hs reply hreply)

/-- The plan makes a statement of some binding. -/
def Makes (plan : Plan) (t : Statement) : Prop :=
  ∃ binding, t ∈ plan.templates.filterMap (·.instantiate? binding)

/-- Every output of a plan has its time and a statement that its templates make. -/
theorem every_outputs (plan : Plan) :
    plan.outputs.Every fun item => ∀ d, item = .ok d →
      d.timestamp = plan.timestamp ∧ plan.Makes d.statement := by
  refine Sequence.every_flatMap (fun item => ?_) _
  rcases item with error | row
  · refine ⟨fun d hd => ?_, trivial⟩
    cases hd
  · refine Sequence.every_ofList fun item hitem d hd => ?_
    obtain ⟨t, ht, rfl⟩ := List.mem_map.mp hitem
    obtain rfl := Except.ok.inj hd
    exact ⟨rfl, row.binding, ht⟩

/-- Every record that can be read is one of the outputs. -/
theorem everyFor_records {R : ReplyKind} {P : Document → Prop} {plan : Plan}
    (houtputs : plan.outputs.EveryFor R (ErrorOr P)) (options : PlanOptions) (limit : Nat) :
    (plan.records options limit).EveryFor R fun item => ∀ record, item = .ok record →
      ∀ d, Document.ofJson? record = some d → P d := by
  have hrun : (plan.run options limit).EveryFor R (ErrorOr P) := by
    refine everyFor_buffered (List.forall_mem_nil _) ?_
    split
    · exact everyFor_dropRepeated houtputs
    · exact houtputs
  refine everyFor_map ?_
  refine everyFor_mono hrun ?_
  intro item hitem record hrecord d hd
  rcases item with error | written
  · cases hrecord
  · obtain rfl := Except.ok.inj hrecord
    rw [Document.ofJson?_toJson] at hd
    split at hd
    · obtain rfl := Option.some.inj hd
      exact hitem _ rfl
    · cases hd

theorem every_records {P : Document → Prop} {plan : Plan}
    (houtputs : plan.outputs.Every (ErrorOr P)) (options : PlanOptions) (limit : Nat) :
    (plan.records options limit).Every fun item => ∀ record, item = .ok record →
      ∀ d, Document.ofJson? record = some d → P d :=
  everyFor_any.mp (everyFor_records (everyFor_any.mpr houtputs) options limit)

end Plan

/-- A store in memory never fails. -/
theorem Memory.inMemory_backend (limit : Nat) : (Memory.backend limit).InMemory Memory.view where
  now _ := rfl
  responder _ _ := rfl
  sink facts m := ⟨m.clock m.reads, facts, fun _ hf => hf, rfl⟩

/-- Neither does running plans on it, but for the limit on their results. -/
theorem Memory.inMemory_executor (limit : Nat) : (Memory.executor limit).InMemory Memory.view where
  start _ _ _ := rfl
  records plan options m records h := by
    obtain rfl := Except.ok.inj h
    refine Plan.every_records ?_ options limit
    exact Sequence.every_mono plan.every_outputs fun _ hitem d hd => (hitem d hd).1
  responder _ _ := rfl

/-! ## Where facts come from -/

/-- Every fact from a position on, and every fact that waits, is of some kind, up to the stamp that
a fact without a time gets when it is kept. -/
structure Sourced (A : Fact → Prop) (base : Nat) (store : Store) (pending : List Fact) : Prop where
  base_le : base ≤ store.size
  stored : ∀ f ∈ store.facts.toList.drop base, ∃ g, A g ∧ ∃ now, f = g.stamped now
  waiting : ∀ g ∈ pending, A g

namespace Sourced

variable {A : Fact → Prop} {base : Nat} {store : Store} {pending pending' : List Fact}

theorem weaken (h : Sourced A base store pending) (hsub : ∀ g ∈ pending', A g) :
    Sourced A base store pending' := ⟨h.base_le, h.stored, hsub⟩

/-- Keeping facts of the kind makes no difference. -/
theorem insertAll (h : Sourced A base store pending) {facts : List Fact} {time : Timestamp}
    (hfacts : ∀ f ∈ facts, ∃ g, A g ∧ ∃ now, f.stamped time = g.stamped now) :
    Sourced A base (store.insertAll time facts).1 pending := by
  obtain ⟨added, hadded, hstamped⟩ := Store.facts_insertAll store time facts
  have hlength : store.size ≤ (store.insertAll time facts).1.size := by
    show store.facts.toList.length ≤ (store.insertAll time facts).1.facts.toList.length
    rw [hadded, List.length_append]
    exact Nat.le_add_right _ _
  refine ⟨Nat.le_trans h.base_le hlength, ?_, h.waiting⟩
  rw [hadded, List.drop_append_of_le_length h.base_le]
  intro f hf
  rcases List.mem_append.mp hf with hold | hnew
  · exact h.stored f hold
  · obtain ⟨g, hg, rfl⟩ := hstamped f hnew
    exact hfacts g hg

/-- From the end of a store on there is nothing yet. -/
theorem of_pending {s : Store} (h : ∀ g ∈ pending, A g) : Sourced A s.size s pending := by
  refine ⟨Nat.le_refl _, ?_, h⟩
  have hnil : s.facts.toList.drop s.size = [] := List.drop_of_length_le (Nat.le_refl _)
  rw [hnil]
  exact List.forall_mem_nil _

end Sourced

/-! ## What writers hand over -/

/-- Facts of some kind may enter a store without ending a property of it. -/
def Store.Admits (J : Store → Prop) (A : Fact → Prop) : Prop :=
  ∀ s time facts, J s → (∀ f ∈ facts, A f) → J (s.insertAll time facts).1

/-- A store has a property, and every fact that waits is of some kind. -/
structure Upholds (J : Store → Prop) (A : Fact → Prop) (store : Store) (pending : List Fact) :
    Prop where
  holds : J store
  waiting : ∀ g ∈ pending, A g

/-- As long as a store has a property, all replies about it are of some kind. -/
def RepliesIn {σ : Type} (v : StoreView σ) (J : Store → Prop) (R : ReplyKind)
    (responder : Responder σ) : Prop :=
  ∀ q m, J (v.store m) → R q (responder q m).1

theorem repliesIn_any {σ : Type} (v : StoreView σ) (J : Store → Prop) (responder : Responder σ) :
    RepliesIn v J (fun _ _ => True) responder :=
  fun _ _ _ => trivial

/-- Where facts come from is kept up by facts of the kind. -/
theorem Sourced.admits (A : Fact → Prop) (base : Nat) :
    Store.Admits (fun store => Sourced A base store []) A :=
  fun _ time _ h hfacts => h.insertAll fun f hf => ⟨f, hfacts f hf, time, rfl⟩

theorem sourced_iff_upholds {A : Fact → Prop} {base : Nat} {store : Store} {pending : List Fact} :
    Sourced A base store pending ↔
      Upholds (fun store => Sourced A base store []) A store pending :=
  ⟨fun h => ⟨h.weaken (List.forall_mem_nil _), h.waiting⟩, fun h => h.holds.weaken h.waiting⟩

section writers

variable {σ : Type} {v : StoreView σ} {b : Backend σ} {J : Store → Prop} {A : Fact → Prop}

/-- A worker that hands over facts of the kind keeps up what they may enter. -/
theorem Worker.write_upholds (hb : b.InMemory v) (hJ : Store.Admits J A) {w : Worker} {m : σ}
    (h : J (v.store m)) (hw : ∀ g ∈ w.buffer, A g) : J (v.store (w.write b.sink m).2) := by
  rcases hempty : w.buffer.isEmpty with _ | _
  · obtain ⟨time, kept, hkept, hstore⟩ := hb.sink w.buffer.toList m
    have hwrite : (w.write b.sink m).2 = (b.sink w.buffer.toList m).2 := by
      rcases hsink : b.sink w.buffer.toList m with ⟨error | new, m'⟩
      · rw [write_refused hempty hsink]
      · rw [write_kept hempty hsink]
    rw [hwrite, hstore]
    exact hJ _ time kept h fun f hf => hw f (Array.mem_toList_iff.mp (hkept f hf))
  · rw [write_empty hempty]
    exact h

/-- Nothing waits behind a flush. -/
theorem Writer.pending_flush (sink : Sink σ) (w : Writer) (m : σ) :
    (w.flush sink m).1.1.pending = [] := by
  obtain ⟨_ | k, n⟩ := w
  · rfl
  · rw [Writer.flush_running]
    show (k.write sink m).1.buffer.toList = []
    rw [Worker.buffer_write]

/-- So does a writer that such a fact is staged in. -/
theorem Writer.stage_upholds (hb : b.InMemory v) (hJ : Store.Admits J A) {w : Writer} {f : Fact}
    {m : σ} (h : Upholds J A (v.store m) w.pending) (hf : A f) :
    Upholds J A (v.store (w.stage b.sink f m).2) (w.stage b.sink f m).1.1.pending := by
  obtain ⟨_ | k, n⟩ := w
  · exact h
  · have hall : ∀ g ∈ k.buffer.push f, A g := by
      intro g hg
      rcases Array.mem_push.mp hg with hold | rfl
      · exact h.waiting g (Array.mem_toList_iff.mpr hold)
      · exact hf
    rw [Writer.stage_running]
    show Upholds J A (v.store (k.stage b.sink f m).2) (k.stage b.sink f m).1.buffer.toList
    rw [Worker.stage]
    -- the fact completes a batch, which is handed over with it, or it waits
    split
    · rw [Worker.buffer_write]
      exact ⟨Worker.write_upholds hb hJ h.holds hall, List.forall_mem_nil _⟩
    · exact ⟨h.holds, fun g hg => hall g (Array.mem_toList_iff.mp hg)⟩

/-- So does flushing. -/
theorem Writer.flush_upholds (hb : b.InMemory v) (hJ : Store.Admits J A) {w : Writer} {m : σ}
    (h : Upholds J A (v.store m) w.pending) :
    Upholds J A (v.store (w.flush b.sink m).2) (w.flush b.sink m).1.1.pending := by
  rw [Writer.pending_flush]
  obtain ⟨_ | k, n⟩ := w
  · exact ⟨h.holds, List.forall_mem_nil _⟩
  · rw [Writer.flush_running]
    exact ⟨Worker.write_upholds hb hJ h.holds fun g hg =>
      h.waiting g (Array.mem_toList_iff.mpr hg), List.forall_mem_nil _⟩

open Staging in
/-- Every part of an execution keeps up what facts of the kind may enter, if it stages no others. -/
theorem Backend.InMemory.closed (hb : b.InMemory v) (hJ : Store.Admits J A) :
    Closed b A fun d : Desk σ => Upholds J A (v.store d.storage) d.writer.pending where
  ask q d h := by
    rw [run_onStorage]
    show Upholds J A (v.store (b.responder q d.storage).2) d.writer.pending
    rw [hb.responder]
    exact h
  holds s d h := by
    rw [run_holds]
    show Upholds J A (v.store (b.responder (.holds s) d.storage).2) d.writer.pending
    rw [hb.responder]
    exact h
  note ns d h := h
  stage f hf d h := by
    rw [Staging.stage, run_onWriter]
    exact Writer.stage_upholds hb hJ h hf
  flush d h := by
    rw [Staging.flush, run_onWriter]
    exact Writer.flush_upholds hb hJ h

end writers

/-! ## What an execution leaves waiting -/

namespace Staging

variable {σ : Type} {b : Backend σ} {d d' : Desk σ}

/-- What succeeds with a flush at its end leaves nothing waiting. -/
theorem pending_of_flush {α : Type} {a c : α}
    (h : (flush b.sink >>= fun _ => (pure a : Staging σ α)).run d = (.ok c, d')) :
    d'.writer.pending = [] := by
  obtain ⟨n, t, hflush, hpure⟩ := run_bind_eq_ok h
  rw [run_pure] at hpure
  obtain ⟨-, rfl⟩ := Prod.mk.inj hpure
  rw [flush, run_onWriter] at hflush
  obtain ⟨-, rfl⟩ := Prod.mk.inj hflush
  exact Writer.pending_flush b.sink d.writer d.storage

theorem pending_of_byRow {r : Rowwise} {rule : Rule} {p : Provenance} {n : Nat}
    (h : (r.derive b rule p).run d = (.ok n, d')) : d'.writer.pending = [] := by
  obtain ⟨-, _, -, h⟩ := run_bind_eq_ok h
  obtain ⟨solutions, _, -, h⟩ := run_bind_eq_ok h
  obtain ⟨derived, _, -, h⟩ := run_bind_eq_ok h
  exact pending_of_flush h

theorem pending_of_plan {s : Bulk σ} {plan : Plan} {p : Provenance} {n : Nat}
    (h : (s.derive b plan p).run d = (.ok n, d')) : d'.writer.pending = [] := by
  obtain ⟨reply, _, -, h⟩ := run_bind_eq_ok h
  obtain ⟨records, _, -, h⟩ := run_bind_eq_ok h
  obtain ⟨derived, _, -, h⟩ := run_bind_eq_ok h
  exact pending_of_flush h

end Staging

namespace Strategy

variable {σ : Type}

/-- All facts that wait in a writer. -/
def pending : Strategy σ → List Fact
  | bulk s => s.writer.pending ++ ((s.fallback.map (·.currentWriter.pending)).getD [])
  | rowwise r => r.currentWriter.pending

/-- Plans are run on facts in a store. -/
def InMemory (v : StoreView σ) : Strategy σ → Prop
  | bulk s => s.executor.InMemory v
  | rowwise _ => True

/-- Plans are run, if at all, by someone of some kind. -/
def RunsPlans (X : Executor σ → Prop) : Strategy σ → Prop
  | bulk s => X s.executor
  | rowwise _ => True

theorem inMemory_iff {v : StoreView σ} {s : Strategy σ} :
    s.InMemory v ↔ s.RunsPlans (·.InMemory v) := by
  rcases s with s | r <;> exact Iff.rfl

theorem mem_pending_of_writerFor {s : Strategy σ} {rule : Rule} {g : Fact}
    (h : g ∈ (s.writerFor rule).pending) : g ∈ s.pending := by
  rcases s with s | r
  · rcases hflatten : rule.body.flatten with obstacle | steps
    · simp only [writerFor, hflatten] at h
      rcases hr : s.fallback with _ | r
      · rw [hr] at h
        exact List.mem_append_left _ h
      · rw [hr] at h
        refine List.mem_append_right _ ?_
        rw [hr]
        exact h
    · simp only [writerFor, hflatten] at h
      exact List.mem_append_left _ h
  · exact h

theorem mem_pending_afterByRow {s : Strategy σ} {r : Rowwise} {g : Fact}
    (h : g ∈ (s.afterByRow r).pending) : g ∈ s.pending ∨ g ∈ r.currentWriter.pending := by
  rcases s with s | r'
  · rcases List.mem_append.mp h with hwriter | hfallback
    · exact .inl (List.mem_append_left _ hwriter)
    · exact .inr hfallback
  · exact .inr h

theorem mem_pending_of_byRow {s : Strategy σ} {r : Rowwise} (hr : s.byRow? = some r) {g : Fact}
    (h : g ∈ r.currentWriter.pending) : g ∈ s.pending := by
  rcases s with s | r'
  · have hr : s.fallback = some r := hr
    refine List.mem_append_right _ ?_
    rw [hr]
    exact h
  · obtain rfl := Option.some.inj hr
    exact h

theorem RunsPlans.mono {X Y : Executor σ → Prop} {s : Strategy σ} (h : s.RunsPlans X)
    (hXY : ∀ x, X x → Y x) : s.RunsPlans Y := by
  rcases s with s | r
  · exact hXY _ h
  · trivial

theorem RunsPlans.afterByRow {X : Executor σ → Prop} {s : Strategy σ} (h : s.RunsPlans X)
    (r : Rowwise) : (s.afterByRow r).RunsPlans X := by
  rcases s with s | r'
  · exact h
  · trivial

theorem RunsPlans.requireLevel {X : Executor σ → Prop} {s : Strategy σ} (h : s.RunsPlans X)
    (level : Nat) : (s.requireLevel level).RunsPlans X := by
  rcases s with s | r
  · exact h
  · trivial

@[simp] theorem pending_requireLevel (level : Nat) (s : Strategy σ) :
    (s.requireLevel level).pending = s.pending := by
  rcases s with s | r <;> rfl

/-- Nothing waits in idle writers. -/
theorem Ready.pending {limit : Nat} {s : Strategy Memory} (h : s.Ready limit) : s.pending = [] := by
  rcases s with s | r
  · obtain ⟨-, hwriter, hfallback⟩ := h
    rcases hr : s.fallback with _ | r
    · simp [Strategy.pending, hwriter.pending, hr]
    · simp [Strategy.pending, hwriter.pending, hr, (hfallback r hr).pending]
  · exact Writer.Idle.pending h

theorem Ready.runsPlans {limit : Nat} {s : Strategy Memory} (h : s.Ready limit) :
    s.RunsPlans (· = Memory.executor limit) := by
  rcases s with s | r
  · exact h.1
  · trivial

end Strategy

namespace Execution

variable {σ : Type} {v : StoreView σ} {b : Backend σ} {J : Store → Prop} {A : Fact → Prop}
  {base : Nat} {e : Execution σ}

/-- All that an execution may stage, whatever it is answered, is of some kind. -/
structure StagesOnly (A : Fact → Prop) (e : Execution σ) : Prop where
  ofPlan : ∀ s plan, e.start.strategy = .bulk s →
    e.rule.compile s.minLevel e.time (e.start.watermark e.rule.id) = .ok plan →
    ∀ m records, (s.executor.start plan s.options m).1 = .ok records →
      records.Every (Bulk.RecordOf e.provenance A)
  byRow : ∀ solution, ∀ t ∈ e.rule.instances solution, A ⟨t, e.provenance⟩

/-- What an execution stages has its time. -/
theorem stagesOnly_of_time (hs : e.start.strategy.InMemory v)
    (hA : ∀ f, f.timestamp = e.time → A f) : e.StagesOnly A where
  ofPlan s plan hstrategy hcompile m records hrecords := by
    rw [hstrategy] at hs
    obtain ⟨steps, -, hplan⟩ := Rule.compile_eq_ok hcompile
    have htime : plan.timestamp = e.time := by rw [hplan]
    refine Sequence.every_mono (hs.records plan s.options m records hrecords) ?_
    intro item hitem record hrecord d hd
    exact hA _ ((hitem record hrecord d hd).trans htime)
  byRow _ t _ := hA ⟨t, e.provenance⟩ rfl

/-- No execution changes who runs plans. -/
theorem runsPlans_stop {X : Executor σ → Prop} (h : e.start.strategy.RunsPlans X) :
    (e.stop b).strategy.RunsPlans X := by
  rcases e.way b with ⟨s, plan, result, desk, -, hstrategy, -, -, -, hstop⟩ |
    ⟨r, result, desk, -, -, -, -, hstop⟩ | ⟨-, -, -, -, -, hstop⟩
  · rw [hstrategy] at h
    rw [hstop]
    exact h
  · rw [hstop]
    exact h.afterByRow _
  · rw [hstop]
    exact h

/-- All that an execution may stage is of some kind, as long as the replies are of some kind. -/
structure StagesFor (b : Backend σ) (R : ReplyKind) (A : Fact → Prop) (e : Execution σ) : Prop where
  ofPlan : ∀ s plan, e.start.strategy = .bulk s →
    e.rule.compile s.minLevel e.time (e.start.watermark e.rule.id) = .ok plan →
    ∀ m records, (s.executor.start plan s.options m).1 = .ok records →
      records.EveryFor R (Bulk.RecordOf e.provenance A)
  byRow : ∀ r : Rowwise, ((r.evaluator b).evaluate e.rule.body .empty).EndsIn R fun s =>
    s.EveryFor R (Rowwise.SolutionOf e.rule e.provenance A)

/-- Running a plan keeps up what the facts that it stages may enter. -/
theorem keeps_plan (hb : b.InMemory v) (hJ : Store.Admits J A) {R : ReplyKind} {s : Bulk σ}
    (hs : s.executor.InMemory v) (hanswer : RepliesIn v J R s.executor.responder) {plan : Plan}
    (hrecords : ∀ m records, (s.executor.start plan s.options m).1 = .ok records →
      records.EveryFor R (Bulk.RecordOf e.provenance A)) :
    Staging.Keeps (fun d : Desk σ => Upholds J A (v.store d.storage) d.writer.pending)
      (s.derive b plan e.provenance) := by
  refine Bulk.keeps_derive (hb.closed hJ) (fun q d h => hanswer q d.storage h.holds) ?_ ?_ hrecords
  · intro q d h
    show Upholds J A (v.store (s.executor.responder q d.storage).2) d.writer.pending
    rw [hs.responder]
    exact h
  · intro d h
    show Upholds J A (v.store (s.executor.start plan s.options d.storage).2) d.writer.pending
    rw [hs.start]
    exact h

/-- An execution keeps up what the facts that it stages may enter. -/
theorem upholds_stop (hb : b.InMemory v) (hJ : Store.Admits J A) {R : ReplyKind}
    (hanswer : RepliesIn v J R b.responder)
    (hs : e.start.strategy.RunsPlans fun x => x.InMemory v ∧ RepliesIn v J R x.responder)
    (hA : e.StagesFor b R A)
    (h : Upholds J A (v.store e.start.work.storage) e.start.strategy.pending) :
    Upholds J A (v.store (e.stop b).work.storage) (e.stop b).strategy.pending := by
  rcases e.way b with ⟨s, plan, result, desk, -, hstrategy, hcompile, hrun, -, hstop⟩ |
    ⟨r, result, desk, -, hr, hrun, -, hstop⟩ | ⟨-, -, -, -, -, hstop⟩
  · rw [hstrategy] at hs h
    have hdesk := keeps_plan hb hJ hs.1 hs.2 (hA.ofPlan s plan hstrategy hcompile)
      (e.desk s.writer) ⟨h.holds, fun g hg => h.waiting g (List.mem_append_left _ hg)⟩
    rw [hrun] at hdesk
    rw [hstop]
    refine ⟨hdesk.holds, fun g hg => ?_⟩
    rcases List.mem_append.mp hg with hwriter | hfallback
    · exact hdesk.waiting g hwriter
    · exact h.waiting g (List.mem_append_right _ hfallback)
  · have hanswer' : Staging.Answering b.responder
        (fun d : Desk σ => Upholds J A (v.store d.storage) d.writer.pending) R :=
      fun q d h => hanswer q d.storage h.holds
    have hdesk := Rowwise.keeps_derive (hb.closed hJ) hanswer' (hA.byRow r)
      (e.desk r.currentWriter)
      ⟨h.holds, fun g hg => h.waiting g (Strategy.mem_pending_of_byRow hr hg)⟩
    rw [hrun] at hdesk
    rw [hstop]
    refine ⟨hdesk.holds, fun g hg => ?_⟩
    rcases Strategy.mem_pending_afterByRow hg with hbefore | hwriter
    · exact h.waiting g hbefore
    · exact hdesk.waiting g hwriter
  · rw [hstop]
    exact h

/-- What is staged whatever the replies are is staged for any. -/
theorem StagesOnly.stagesFor (hA : e.StagesOnly A) : e.StagesFor b (fun _ _ => True) A where
  ofPlan s plan hstrategy hcompile m records hrecords :=
    Sequence.everyFor_any.mpr (hA.ofPlan s plan hstrategy hcompile m records hrecords)
  byRow _ := Inquiry.endsIn_of_forall
    (fun s => Sequence.everyFor_of_forall (fun _ solution _ => hA.byRow solution) s) _

/-- An execution that stages facts of the kind keeps where facts come from. -/
theorem sourced_stop (hb : b.InMemory v) (hs : e.start.strategy.InMemory v) (hA : e.StagesOnly A)
    (h : Sourced A base (v.store e.start.work.storage) e.start.strategy.pending) :
    Sourced A base (v.store (e.stop b).work.storage) (e.stop b).strategy.pending := by
  have hplans : e.start.strategy.RunsPlans fun x => x.InMemory v ∧
      RepliesIn v (fun store => Sourced A base store []) (fun _ _ => True) x.responder :=
    (Strategy.inMemory_iff.mp hs).mono fun x hx => ⟨hx, repliesIn_any v _ x.responder⟩
  exact sourced_iff_upholds.mpr (upholds_stop hb (Sourced.admits A base)
    (repliesIn_any v _ b.responder) hplans hA.stagesFor (sourced_iff_upholds.mp h))

/-- What waits behind an execution that succeeds was waiting before it, in the writer that it did
not use. -/
theorem pending_of_succeeds (h : e.Succeeds b) :
    ∀ g ∈ (e.stop b).strategy.pending, g ∈ e.start.strategy.pending := by
  obtain ⟨n, hn⟩ := h
  intro g hg
  rcases e.way b with ⟨s, plan, result, desk, -, hstrategy, -, hrun, houtcome, hstop⟩ |
    ⟨r, result, desk, -, hr, hrun, houtcome, hstop⟩ | ⟨obstacle, -, -, -, houtcome, -⟩
  · rcases result with error | m
    · rw [hn] at houtcome
      cases houtcome
    · rw [hstop] at hg
      rw [hstrategy]
      rcases List.mem_append.mp hg with hwriter | hfallback
      · rw [Staging.pending_of_plan hrun] at hwriter
        cases hwriter
      · exact List.mem_append_right _ hfallback
  · rcases result with error | m
    · rw [hn] at houtcome
      cases houtcome
    · rw [hstop] at hg
      rcases Strategy.mem_pending_afterByRow hg with hbefore | hwriter
      · exact hbefore
      · have hnil : desk.writer.pending = [] := Staging.pending_of_byRow hrun
        have hwriter : g ∈ desk.writer.pending := hwriter
        rw [hnil] at hwriter
        cases hwriter
  · rw [hn] at houtcome
    cases houtcome

/-- What waits behind an execution waited before it, or was staged by it if it failed. -/
theorem waiting_stop (hb : b.InMemory v) (hs : e.start.strategy.InMemory v) (hA : e.StagesOnly A) :
    ∀ g ∈ (e.stop b).strategy.pending,
      g ∈ e.start.strategy.pending ∨ (¬ e.Succeeds b ∧ A g) := by
  intro g hg
  by_cases hsucceeds : e.Succeeds b
  · exact .inl (pending_of_succeeds hsucceeds g hg)
  · have hwider : e.StagesOnly fun f => f ∈ e.start.strategy.pending ∨ A f :=
      { ofPlan := fun s plan hstrategy hcompile m records hrecords =>
          Sequence.every_mono (hA.ofPlan s plan hstrategy hcompile m records hrecords)
            fun _ hitem record hrecord d hd => .inr (hitem record hrecord d hd)
        byRow := fun solution t ht => .inr (hA.byRow solution t ht) }
    have hkind := sourced_stop hb hs hwider (Sourced.of_pending fun _ hf => .inl hf)
    exact (hkind.waiting g hg).imp_right fun hAg => ⟨hsucceeds, hAg⟩

end Execution

/-! ## Every history -/

namespace Session

variable {σ : Type} {v : StoreView σ} {b : Backend σ}

/-- What a history so far says about the session: what waits was left by failed executions; what
entered the store since an execution began is not older than it, unless it waited then; and every
watermark is the time of the latest execution of its rule that succeeded. -/
structure Ledger (v : StoreView σ) (b : Backend σ) (log : List (Execution σ))
    (times : List Timestamp) (s : Session σ) : Prop where
  onTime : s.OnTime times
  ahead : ∀ e ∈ log, ∀ t ∈ times, e.time ≤ t
  inMemory : s.strategy.InMemory v
  leftovers : ∀ g ∈ s.strategy.pending, ∃ e ∈ log, ¬ e.Succeeds b ∧ g.timestamp = e.time
  since : ∀ before e after, log = before ++ e :: after →
    Sourced (fun g => e.time ≤ g.timestamp ∨ g ∈ e.start.strategy.pending)
        (v.store e.start.work.storage).size (v.store s.work.storage) s.strategy.pending ∧
      ∀ g ∈ e.start.strategy.pending, ∃ e' ∈ before, ¬ e'.Succeeds b ∧ g.timestamp = e'.time
  marks : ∀ id w, s.watermark id = some w → ∃ before e after, log = before ++ e :: after ∧
    e.Succeeds b ∧ e.rule.id = id ∧ e.time = w ∧ ∀ e' ∈ after, e'.rule.id = id → ¬ e'.Succeeds b

/-- An execution keeps the ledger. -/
theorem Ledger.execute (hb : b.InMemory v) {log : List (Execution σ)} {times : List Timestamp}
    {e : Execution σ} (h : Ledger v b log (e.time :: times) e.start) :
    Ledger v b (log ++ [e]) times (e.stop b) := by
  obtain ⟨hfirst, -⟩ := List.pairwise_cons.mp h.onTime.sorted
  have hstage : ∀ {A : Fact → Prop} {base : Nat}, (∀ f, f.timestamp = e.time → A f) →
      Sourced A base (v.store e.start.work.storage) e.start.strategy.pending →
      Sourced A base (v.store (e.stop b).work.storage) (e.stop b).strategy.pending :=
    fun hA hsourced =>
      Execution.sourced_stop hb h.inMemory (Execution.stagesOnly_of_time h.inMemory hA) hsourced
  refine ⟨e.onTime_stop h.onTime, ?_, ?_, ?_, ?_, ?_⟩
  · intro e' he' t ht
    rcases List.mem_append.mp he' with hold | hnew
    · exact h.ahead e' hold t (List.mem_cons_of_mem _ ht)
    · obtain rfl := List.mem_singleton.mp hnew
      exact hfirst t ht
  · exact Strategy.inMemory_iff.mpr
      (Execution.runsPlans_stop (Strategy.inMemory_iff.mp h.inMemory))
  · intro g hg
    have htime := Execution.stagesOnly_of_time h.inMemory fun _ hf => hf
    rcases Execution.waiting_stop hb h.inMemory htime g hg with hbefore | ⟨hfailed, hg⟩
    · obtain ⟨e', he', hfailed, htime⟩ := h.leftovers g hbefore
      exact ⟨e', List.mem_append_left _ he', hfailed, htime⟩
    · exact ⟨e, List.mem_append_right _ (List.mem_singleton.mpr rfl), hfailed, hg⟩
  · intro before e' after hsplit
    -- since this execution began only it was at work; since an earlier one, it is one more
    rcases split_append_singleton hsplit with ⟨rfl, rfl⟩ | ⟨rest, rfl, hlog⟩
    · refine ⟨hstage (fun f hf => .inl ?_) (Sourced.of_pending fun g hg => .inr hg), h.leftovers⟩
      rw [hf]
      exact Timestamp.le_refl _
    · obtain ⟨hsourced, hleft⟩ := h.since before e' rest hlog
      refine ⟨hstage (fun f hf => .inl ?_) hsourced, hleft⟩
      have hmem : e' ∈ log := by rw [hlog]; exact List.mem_append_right _ List.mem_cons_self
      rw [hf]
      exact h.ahead e' hmem e.time List.mem_cons_self
  · intro id w hw
    -- a watermark that does not move has its execution further back
    have hearlier : e.start.watermark id = some w →
        (e.rule.id = id → ¬ e.Succeeds b) →
        ∃ before e' after, log ++ [e] = before ++ e' :: after ∧ e'.Succeeds b ∧ e'.rule.id = id ∧
          e'.time = w ∧ ∀ e'' ∈ after, e''.rule.id = id → ¬ e''.Succeeds b := by
      intro hold hthis
      obtain ⟨before, e', after, rfl, hsucceeds, hid, htime, hlatest⟩ := h.marks id w hold
      refine ⟨before, e', after ++ [e], by simp, hsucceeds, hid, htime, ?_⟩
      exact List.forall_mem_append.mpr ⟨hlatest, List.forall_mem_singleton.mpr hthis⟩
    rw [watermark, e.watermarks_stop] at hw
    rcases houtcome : e.outcome b with error | n
    · rw [houtcome] at hw
      refine hearlier hw ?_
      rintro - ⟨n, hn⟩
      rw [houtcome] at hn
      cases hn
    · rw [houtcome, Watermarks.after, Watermarks.get?_advance] at hw
      by_cases hid : e.rule.id = id
      · rw [if_pos hid, h.onTime.advance] at hw
        exact ⟨log, e, [], rfl, ⟨n, houtcome⟩, hid, Option.some.inj hw, List.forall_mem_nil _⟩
      · rw [if_neg hid] at hw
        exact hearlier hw fun h => absurd h hid

end Session

namespace Family

open Session

/-- Two parents, and plans that may put out one result only. -/
def tight : Session Memory :=
  .ofSettings (Memory.backend 1) { pipeline := { allowLargeResults := false } }
    (memory [⟨said "p0" "parent" "p1", { timestamp := second 1 }⟩,
      ⟨said "p1" "parent" "p2", { timestamp := second 1 }⟩])

end Family

end RdfReasoner
