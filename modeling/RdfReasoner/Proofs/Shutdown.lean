import Mathlib.Algebra.Order.Group.Multiset
import RdfReasoner.Proofs.Engine
import RdfReasoner.Proofs.Leftovers
import RdfReasoner.Proofs.Writer

/-!
# Giving the writers up

A strategy has its own writer and that of its fallback, once there is one.  What executions that
fail have staged waits in them, and so do refusals that nobody was told of yet.  Shutting the
strategy down is meant to put an end to this: everything is handed over, no writer goes on running,
and there is nothing left to do for the next time.

So it is, with one exception.  A bulk strategy shuts its fallback down first.  If this is answered
with a refusal, it returns at once, and its own writer keeps running with all that waits in it
(`Strategy.stuck?`).  Nothing is lost by that, since shutting down once more takes care of the rest
(`Engine.releasesAll_iff`).

What is handed over and what waits are accounted for together: nothing that happens to an engine
changes their sum, but for what executions stage (`Engine.given_after`).
-/

namespace RdfReasoner

variable {σ : Type}

/-! ## Storages that remember what they are handed -/

/-- Running plans hands nothing over. -/
structure Executor.Remembers (handed : σ → List Handed) (x : Executor σ) : Prop where
  start : ∀ plan options m, handed (x.start plan options m).2 = handed m
  responder : ∀ q m, handed (x.responder q m).2 = handed m

/-- A storage remembers every batch that it is handed, together with its answer, and nothing else.
Its answers may be anything. -/
structure Backend.Remembers (handed : σ → List Handed) (b : Backend σ) : Prop where
  responder : ∀ q m, handed (b.responder q m).2 = handed m
  sink : ∀ facts m, handed (b.sink facts m).2 = handed m ++ [⟨facts, (b.sink facts m).1⟩]

/-- All facts that a storage was handed, and those that wait. -/
def given (handed : σ → List Handed) (m : σ) (waiting : List Fact) : Multiset Fact :=
  ((handed m).flatMap (·.facts) : Multiset Fact) + (waiting : Multiset Fact)

theorem given_append (handed : σ → List Handed) (m : σ) (waiting more : List Fact) :
    given handed m (waiting ++ more) = given handed m waiting + (more : Multiset Fact) := by
  rw [given, given, ← Multiset.coe_add, add_assoc]

theorem given_append_left (handed : σ → List Handed) (m : σ) (waiting more : List Fact) :
    given handed m (waiting ++ more) = given handed m more + (waiting : Multiset Fact) := by
  rw [given, given, ← Multiset.coe_add, add_assoc, add_comm (more : Multiset Fact)]

/-- A writer was at work: it counts the facts that were staged, and they are all that was added to
what the storage was handed and what waits. -/
structure Handover (handed : σ → List Handed) (w : Writer) (m : σ) (staged : Multiset Fact)
    (w' : Writer) (m' : σ) : Prop where
  counted : w'.staged = w.staged + staged.card
  balance : given handed m' w'.pending = given handed m w.pending + staged

section writers

variable {handed : σ → List Handed} {b : Backend σ} {w w' : Writer} {m m' : σ}

/-- What leaves the writer alone and hands nothing over. -/
theorem Handover.of_same {staged : Multiset Fact} {m'' : σ}
    (h : Handover handed w m staged w' m') (hsame : handed m'' = handed m') :
    Handover handed w m staged w' m'' := by
  refine ⟨h.counted, ?_⟩
  rw [given, hsame]
  exact h.balance

theorem Handover.refl (handed : σ → List Handed) (w : Writer) (m : σ) :
    Handover handed w m 0 w m := ⟨rfl, (add_zero _).symm⟩

theorem Handover.trans {staged staged' : Multiset Fact} {w'' : Writer} {m'' : σ}
    (h : Handover handed w m staged w' m') (h' : Handover handed w' m' staged' w'' m'') :
    Handover handed w m (staged + staged') w'' m'' := by
  refine ⟨?_, ?_⟩
  · rw [h'.counted, h.counted, Multiset.card_add, Nat.add_assoc]
  · rw [h'.balance, h.balance, add_assoc]

/-- A worker hands its buffer over, whatever the storage says to that. -/
theorem Worker.given_write (hb : b.Remembers handed) (k : Worker) (m : σ) :
    given handed (k.write b.sink m).2 [] = given handed m k.buffer.toList := by
  rcases hempty : k.buffer.isEmpty with _ | _
  · have hstorage : (k.write b.sink m).2 = (b.sink k.buffer.toList m).2 := by
      rcases hsink : b.sink k.buffer.toList m with ⟨error | new, m'⟩
      · rw [write_refused hempty hsink]
      · rw [write_kept hempty hsink]
    rw [hstorage, given, given, hb.sink, List.flatMap_append, List.flatMap_singleton,
      ← Multiset.coe_add, Multiset.coe_nil, add_zero]
  · rw [write_empty hempty, Array.isEmpty_iff.mp hempty]

/-- Letting a worker write changes nothing of what was staged. -/
theorem Handover.write (hb : b.Remembers handed) (k k' : Worker) (n : Nat) (m : σ)
    (hk' : k'.buffer = #[]) :
    Handover handed ⟨some k, n⟩ m 0 ⟨some k', n⟩ (k.write b.sink m).2 := by
  refine ⟨rfl, ?_⟩
  have hpending : (⟨some k', n⟩ : Writer).pending = [] := congrArg Array.toList hk'
  rw [hpending, Worker.given_write hb, add_zero]
  rfl

/-- Staging a fact adds it, if the writer runs. -/
theorem Writer.handover_stage (hb : b.Remembers handed) (w : Writer) (f : Fact) (m : σ) :
    ∃ staged, Handover handed w m staged (w.stage b.sink f m).1.1 (w.stage b.sink f m).2 := by
  obtain ⟨_ | k, n⟩ := w
  · exact ⟨0, .refl ..⟩
  · let pushed : Worker := { k with buffer := k.buffer.push f }
    have hpush : Handover handed ⟨some k, n⟩ m {f} ⟨some pushed, n + 1⟩ m := by
      refine ⟨rfl, ?_⟩
      show given handed m (k.buffer.push f).toList = given handed m k.buffer.toList + {f}
      rw [Array.toList_push, given, given, ← Multiset.coe_add, ← add_assoc]
      rfl
    refine ⟨{f}, ?_⟩
    rw [Writer.stage_running]
    show Handover handed _ m {f} ⟨some (k.stage b.sink f m).1, n + 1⟩ (k.stage b.sink f m).2
    rw [Worker.stage]
    split
    · have hwrite := hpush.trans
        (Handover.write hb pushed _ (n + 1) m (pushed.buffer_write b.sink m))
      rwa [add_zero] at hwrite
    · exact hpush

theorem Writer.handover_flush (hb : b.Remembers handed) (w : Writer) (m : σ) :
    Handover handed w m 0 (w.flush b.sink m).1.1 (w.flush b.sink m).2 := by
  obtain ⟨_ | k, n⟩ := w
  · exact .refl ..
  · exact .write hb k _ n m (k.buffer_write b.sink m)

theorem Writer.handover_idle (hb : b.Remembers handed) (w : Writer) (m : σ) :
    Handover handed w m 0 (w.idle b.sink m).1 (w.idle b.sink m).2 := by
  obtain ⟨_ | k, n⟩ := w
  · exact .refl ..
  · exact .write hb k _ n m (k.buffer_write b.sink m)

/-- Nothing waits in a writer that does not run. -/
theorem Writer.pending_of_stopped (h : w.isRunning = false) : w.pending = [] := by
  obtain ⟨_ | k, n⟩ := w
  · rfl
  · cases h

/-- A writer that is given up has handed everything over. -/
theorem Writer.given_shutdown (hb : b.Remembers handed) (w : Writer) (m : σ) :
    (w.shutdown b.sink m).1.1.isRunning = false ∧
      given handed (w.shutdown b.sink m).2 [] = given handed m w.pending := by
  obtain ⟨_ | k, n⟩ := w
  · exact ⟨rfl, rfl⟩
  · exact ⟨rfl, Worker.given_write hb k m⟩

/-- The second time there is nothing to do. -/
theorem Writer.shutdown_of_stopped (sink : Sink σ) (h : w.isRunning = false) (m : σ) :
    w.shutdown sink m = ((w, .ok 0), m) := by
  obtain ⟨_ | k, n⟩ := w
  · rfl
  · cases h

/-- All that executions are made of is a handover. -/
theorem Staging.closed_handover (hb : b.Remembers handed) (w : Writer) (m : σ) :
    Staging.Closed b (fun _ => True) fun d : Desk σ =>
      ∃ staged, Handover handed w m staged d.writer d.storage where
  ask q d := fun ⟨staged, h⟩ => ⟨staged, h.of_same (hb.responder q d.storage)⟩
  holds s d := fun ⟨staged, h⟩ => ⟨staged, h.of_same (hb.responder (.holds s) d.storage)⟩
  note ns d h := h
  stage f _ d := by
    rintro ⟨staged, h⟩
    obtain ⟨more, hstage⟩ := d.writer.handover_stage hb f d.storage
    exact ⟨staged + more, h.trans hstage⟩
  flush d := fun ⟨staged, h⟩ => ⟨staged + 0, h.trans (d.writer.handover_flush hb d.storage)⟩

end writers

/-! ## Executions -/

namespace Execution

variable {handed : σ → List Handed} {b : Backend σ} {e : Execution σ}

/-- Running a plan is a handover. -/
theorem handover_plan (hb : b.Remembers handed) {s : Bulk σ} (hs : s.executor.Remembers handed)
    (plan : Plan) :
    ∃ staged, Handover handed s.writer e.start.work.storage staged
      ((s.derive b plan e.provenance).run (e.desk s.writer)).2.writer
      ((s.derive b plan e.provenance).run (e.desk s.writer)).2.storage := by
  refine Bulk.keeps_derive (Staging.closed_handover hb s.writer e.start.work.storage)
    (Staging.answering_any _) ?_ ?_ ?_ (e.desk s.writer) ⟨0, .refl ..⟩
  · exact fun q d ⟨staged, h⟩ => ⟨staged, h.of_same (hs.responder q d.storage)⟩
  · exact fun d ⟨staged, h⟩ => ⟨staged, h.of_same (hs.start plan s.options d.storage)⟩
  · exact fun _ _ _ => Sequence.everyFor_of_forall (fun _ _ _ _ _ => trivial) _

/-- So is evaluating a rule row by row. -/
theorem handover_byRow (hb : b.Remembers handed) (r : Rowwise) :
    ∃ staged, Handover handed r.currentWriter e.start.work.storage staged
      ((r.derive b e.rule e.provenance).run (e.desk r.currentWriter)).2.writer
      ((r.derive b e.rule e.provenance).run (e.desk r.currentWriter)).2.storage := by
  refine Rowwise.keeps_derive (Staging.closed_handover hb r.currentWriter e.start.work.storage)
    (Staging.answering_any _) ?_ (e.desk r.currentWriter) ⟨0, .refl ..⟩
  exact Inquiry.endsIn_of_forall
    (fun s => Sequence.everyFor_of_forall (fun _ _ _ _ _ => trivial) s) _

/-- What an execution stages is counted by the writer that it uses, and is all that it adds to what
the storage was handed and what waits. -/
theorem given_stop (hb : b.Remembers handed)
    (hs : e.start.strategy.RunsPlans (·.Remembers handed)) :
    ∃ staged : Multiset Fact,
      ((e.stop b).strategy.writerFor e.rule).staged =
        (e.start.strategy.writerFor e.rule).staged + staged.card ∧
      given handed (e.stop b).work.storage (e.stop b).strategy.pending =
        given handed e.start.work.storage e.start.strategy.pending + staged := by
  rcases e.way b with ⟨s, plan, result, desk, -, hstrategy, hcompile, hrun, -, hstop⟩ |
    ⟨r, result, desk, hplan, hr, hrun, -, hstop⟩ | ⟨-, -, -, -, -, hstop⟩
  · rw [hstrategy] at hs
    obtain ⟨staged, hhandover⟩ := handover_plan hb hs plan (e := e)
    rw [hrun] at hhandover
    obtain ⟨steps, hsteps, -⟩ := Rule.compile_eq_ok hcompile
    refine ⟨staged, ?_, ?_⟩
    · rw [hstop, hstrategy]
      simp only [Strategy.writerFor, hsteps]
      exact hhandover.counted
    · -- what waits in the other writer stays there
      rw [hstop, hstrategy]
      show given handed desk.storage (desk.writer.pending ++ _) =
        given handed e.start.work.storage (s.writer.pending ++ _) + staged
      rw [given_append, given_append, hhandover.balance, add_right_comm]
  · obtain ⟨staged, hhandover⟩ := handover_byRow hb r (e := e)
    rw [hrun] at hhandover
    obtain ⟨-, hwriter, hwriter'⟩ := execute_byRow hplan hr hrun
    refine ⟨staged, ?_, ?_⟩
    · rw [hstop, hwriter, hwriter']
      exact hhandover.counted
    · rw [hstop]
      rcases hstrategy : e.start.strategy with s | r'
      · rw [hstrategy] at hr
        have hr : s.fallback = some r := hr
        show given handed desk.storage (s.writer.pending ++ desk.writer.pending) =
          given handed e.start.work.storage (s.writer.pending ++
            (s.fallback.map (·.currentWriter.pending)).getD []) + staged
        rw [hr]
        show given handed desk.storage (s.writer.pending ++ desk.writer.pending) =
          given handed e.start.work.storage (s.writer.pending ++ r.currentWriter.pending) + staged
        rw [given_append_left, given_append_left, hhandover.balance, add_right_comm]
      · rw [hstrategy] at hr
        obtain rfl := Option.some.inj hr
        exact hhandover.balance
  · refine ⟨0, ?_, ?_⟩
    · rw [hstop]
      rfl
    · rw [hstop, add_zero]

end Execution

/-! ## Giving up all writers -/

namespace Rowwise

variable {handed : σ → List Handed} {b : Backend σ} {r : Rowwise}

/-- Lets an idle interval pass for the writer, if there is one. -/
def idle (b : Backend σ) (r : Rowwise) (m : σ) : Rowwise × σ :=
  match r.writer with
  | none => (r, m)
  | some w => ({ r with writer := some (w.idle b.sink m).1 }, (w.idle b.sink m).2)

/-- Nobody notices idle intervals, but the storage. -/
theorem given_idle (hb : b.Remembers handed) (r : Rowwise) (m : σ) :
    given handed (r.idle b m).2 (r.idle b m).1.currentWriter.pending =
      given handed m r.currentWriter.pending := by
  rw [idle]
  rcases hw : r.writer with _ | w
  · rfl
  · have hcurrent : r.currentWriter = w := by
      rw [currentWriter, hw]
      rfl
    rw [hcurrent]
    exact (w.handover_idle hb m).balance.trans (add_zero _)

/-- After a shutdown there is no writer, and everything was handed over. -/
theorem given_shutdown (hb : b.Remembers handed) (r : Rowwise) (w : Workspace σ) :
    (r.shutdown b w).2.1.writer = none ∧
      given handed (r.shutdown b w).2.2.storage [] =
        given handed w.storage r.currentWriter.pending := by
  rw [shutdown, currentWriter]
  rcases hw : r.writer with _ | writer
  · exact ⟨hw, rfl⟩
  · exact ⟨rfl, (writer.given_shutdown hb w.storage).2⟩

theorem shutdown_of_none (b : Backend σ) (h : r.writer = none) (w : Workspace σ) :
    r.shutdown b w = (.ok (), r, w) := by
  rw [shutdown, h]

theorem pending_of_none (h : r.writer = none) : r.currentWriter.pending = [] := by
  rw [currentWriter, h]
  rfl

end Rowwise

namespace Bulk

variable {b : Backend σ} {s : Bulk σ} {w : Workspace σ} {writer : Writer} {reply : Reply}
  {storage : σ}

/-- Without a fallback there is only the own writer to give up. -/
theorem shutdown_alone (hr : s.fallback = none)
    (hwriter : s.writer.shutdown b.sink w.storage = ((writer, reply), storage)) :
    s.shutdown b w = (reply.map fun _ => (), { s with writer }, { w with storage }) := by
  unfold shutdown
  rw [hr]
  dsimp only
  rw [hwriter, ← hr]

/-- If the fallback meets a refusal, nothing else is done. -/
theorem shutdown_refused {r r' : Rowwise} {w' : Workspace σ} {e : Error} (hr : s.fallback = some r)
    (hrun : r.shutdown b w = (.error e, r', w')) :
    s.shutdown b w = (.error e, { s with fallback := some r' }, w') := by
  unfold shutdown
  rw [hr]
  dsimp only
  rw [hrun]

/-- Otherwise the own writer is given up behind it. -/
theorem shutdown_both {r r' : Rowwise} {w' : Workspace σ} (hr : s.fallback = some r)
    (hrun : r.shutdown b w = (.ok (), r', w'))
    (hwriter : s.writer.shutdown b.sink w'.storage = ((writer, reply), storage)) :
    s.shutdown b w = (reply.map fun _ => (), { s with writer, fallback := some r' },
      { w' with storage }) := by
  unfold shutdown
  rw [hr]
  dsimp only
  rw [hrun]
  dsimp only
  rw [hwriter]

/-- All that a shutdown can do. -/
theorem shutdown_cases (b : Backend σ) (s : Bulk σ) (w : Workspace σ) :
    (∃ writer reply storage, s.fallback = none ∧
      s.writer.shutdown b.sink w.storage = ((writer, reply), storage) ∧
      s.shutdown b w = (reply.map fun _ => (), { s with writer }, { w with storage })) ∨
    (∃ r e r' w', s.fallback = some r ∧ r.shutdown b w = (.error e, r', w') ∧
      s.shutdown b w = (.error e, { s with fallback := some r' }, w')) ∨
    ∃ r r' w' writer reply storage, s.fallback = some r ∧ r.shutdown b w = (.ok (), r', w') ∧
      s.writer.shutdown b.sink w'.storage = ((writer, reply), storage) ∧
      s.shutdown b w = (reply.map fun _ => (), { s with writer, fallback := some r' },
        { w' with storage }) := by
  rcases hr : s.fallback with _ | r
  · rcases hwriter : s.writer.shutdown b.sink w.storage with ⟨⟨writer, reply⟩, storage⟩
    exact .inl ⟨writer, reply, storage, rfl, rfl, by rw [shutdown_alone hr hwriter, hr]⟩
  · rcases hrun : r.shutdown b w with ⟨e | _, r', w'⟩
    · exact .inr (.inl ⟨r, e, r', w', rfl, hrun, shutdown_refused hr hrun⟩)
    · rcases hwriter : s.writer.shutdown b.sink w'.storage with ⟨⟨writer, reply⟩, storage⟩
      exact .inr (.inr ⟨r, r', w', writer, reply, storage, rfl, hrun, hwriter,
        shutdown_both hr hrun hwriter⟩)

end Bulk

namespace Strategy

variable {handed : σ → List Handed} {b : Backend σ} {s : Strategy σ}

/-- The writers that there are, in the order in which they are given up. -/
def writers : Strategy σ → List Writer
  | bulk s => (s.fallback.bind (·.writer)).toList ++ [s.writer]
  | rowwise r => r.writer.toList

/-- The refusal that keeps a bulk strategy from giving up its own writer: that of its fallback. -/
def stuck? (b : Backend σ) (s : Strategy σ) (w : Workspace σ) : Option Error :=
  match s with
  | rowwise _ => none
  | bulk s =>
    if s.writer.isRunning then
      s.fallback.bind fun r =>
        match (r.shutdown b w).1 with
        | .error e => some e
        | .ok () => none
    else none

/-- Lets an idle interval pass, for the writer of rules that are evaluated row by row or for that of
plans. -/
def idle (b : Backend σ) (byRow : Bool) (s : Strategy σ) (m : σ) : Strategy σ × σ :=
  match s with
  | rowwise r => if byRow then (rowwise (r.idle b m).1, (r.idle b m).2) else (s, m)
  | bulk s =>
    if byRow then
      match s.fallback with
      | none => (bulk s, m)
      | some r => (bulk { s with fallback := some (r.idle b m).1 }, (r.idle b m).2)
    else (bulk { s with writer := (s.writer.idle b.sink m).1 }, (s.writer.idle b.sink m).2)

/-- All writers were given up. -/
def Closed : Strategy σ → Prop
  | bulk s => s.writer.isRunning = false ∧ ∀ r, s.fallback = some r → r.writer = none
  | rowwise r => r.writer = none

theorem Closed.isRunning (h : s.Closed) : ∀ w ∈ s.writers, w.isRunning = false := by
  rcases s with s | r
  · obtain ⟨hwriter, hfallback⟩ := h
    intro w hw
    rcases List.mem_append.mp hw with hw | hw
    · obtain ⟨r, hr, hw⟩ := Option.bind_eq_some_iff.mp (Option.mem_toList.mp hw)
      rw [hfallback r hr] at hw
      cases hw
    · rwa [List.mem_singleton.mp hw]
  · have hnone : r.writer = none := h
    intro w hw
    rw [writers, hnone] at hw
    cases hw

theorem Closed.pending (h : s.Closed) : s.pending = [] := by
  rcases s with s | r
  · obtain ⟨hwriter, hfallback⟩ := h
    rw [Strategy.pending, Writer.pending_of_stopped hwriter, List.nil_append]
    rcases hr : s.fallback with _ | r
    · rfl
    · exact Rowwise.pending_of_none (hfallback r hr)
  · exact Rowwise.pending_of_none h

/-- Once all writers were given up, giving them up does nothing. -/
theorem Closed.shutdown (h : s.Closed) (b : Backend σ) (w : Workspace σ) :
    s.shutdown b w = (.ok (), s, w) := by
  rcases s with s | r
  · obtain ⟨hwriter, hfallback⟩ := h
    have hstopped := Writer.shutdown_of_stopped b.sink hwriter
    rcases hr : s.fallback with _ | r
    · rw [Strategy.shutdown, Bulk.shutdown_alone hr (hstopped w.storage)]
      rfl
    · rw [Strategy.shutdown, Bulk.shutdown_both hr (Rowwise.shutdown_of_none b (hfallback r hr) w)
        (hstopped w.storage), ← hr]
      rfl
  · have hnone : r.writer = none := h
    rw [Strategy.shutdown, Rowwise.shutdown_of_none b hnone]

/-- When a bulk strategy with a fallback gets stuck. -/
theorem stuck?_eq {s : Bulk σ} {r : Rowwise} (hr : s.fallback = some r) (b : Backend σ)
    (w : Workspace σ) :
    (bulk s).stuck? b w = if s.writer.isRunning then
      match (r.shutdown b w).1 with
      | .error e => some e
      | .ok () => none
    else none := by
  rw [stuck?, hr]
  rfl

/-- Unless it gets stuck, a shutdown gives all writers up. -/
theorem closed_shutdown (hb : b.Remembers handed) {w : Workspace σ}
    (h : s.stuck? b w = none) : (s.shutdown b w).2.1.Closed := by
  rcases s with s | r
  · rcases s.shutdown_cases b w with ⟨writer, reply, storage, hr, hwriter, hshutdown⟩ |
      ⟨r, e, r', w', hr, hrun, hshutdown⟩ |
      ⟨r, r', w', writer, reply, storage, hr, hrun, hwriter, hshutdown⟩
    · have hstopped := (s.writer.given_shutdown hb w.storage).1
      rw [hwriter] at hstopped
      rw [Strategy.shutdown, hshutdown]
      refine ⟨hstopped, fun r' hr' => ?_⟩
      rw [hr] at hr'
      cases hr'
    · -- a refusal that does no harm, since the other writer was given up before
      have hnone := (r.given_shutdown hb w).1
      rw [hrun] at hnone
      rw [stuck?_eq hr, hrun] at h
      rw [Strategy.shutdown, hshutdown]
      refine ⟨?_, fun _ hr' => Option.some.inj hr' ▸ hnone⟩
      by_contra hrunning
      rw [if_pos (eq_true_of_ne_false hrunning)] at h
      cases h
    · have hnone := (r.given_shutdown hb w).1
      have hstopped := (s.writer.given_shutdown hb w'.storage).1
      rw [hrun] at hnone
      rw [hwriter] at hstopped
      rw [Strategy.shutdown, hshutdown]
      exact ⟨hstopped, fun _ hr' => Option.some.inj hr' ▸ hnone⟩
  · exact (r.given_shutdown hb w).1

/-- What a shutdown that gets stuck does: the fallback is given up, and nothing else. -/
theorem shutdown_of_stuck {w : Workspace σ} {e : Error} (h : s.stuck? b w = some e) :
    ∃ (s' : Bulk σ) (r r' : Rowwise) (w' : Workspace σ), s = bulk s' ∧ s'.fallback = some r ∧
      s'.writer.isRunning = true ∧ r.shutdown b w = (.error e, r', w') ∧
      s.shutdown b w = (.error e, bulk { s' with fallback := some r' }, w') := by
  rcases s with s | r
  · rcases s.shutdown_cases b w with ⟨_, _, _, hr, -⟩ | ⟨r, e', r', w', hr, hrun, hshutdown⟩ |
      ⟨r, _, _, _, _, _, hr, hrun, -⟩
    · rw [stuck?, hr, Option.bind_none, ite_self] at h
      cases h
    · rw [stuck?_eq hr, hrun] at h
      split at h
      · next hrunning =>
        obtain rfl := Option.some.inj h
        refine ⟨s, r, r', w', rfl, hr, hrunning, hrun, ?_⟩
        rw [Strategy.shutdown, hshutdown]
      · cases h
    · rw [stuck?_eq hr, hrun, ite_self] at h
      cases h
  · cases h

theorem pending_bulk {s : Bulk σ} {r : Rowwise} (hr : s.fallback = some r) :
    (bulk s).pending = s.writer.pending ++ r.currentWriter.pending := by
  rw [Strategy.pending, hr]
  rfl

/-- A shutdown hands over what waits, and nothing else. -/
theorem given_shutdown (hb : b.Remembers handed) (s : Strategy σ) (w : Workspace σ) :
    given handed (s.shutdown b w).2.2.storage (s.shutdown b w).2.1.pending =
      given handed w.storage s.pending := by
  rcases s with s | r
  · rcases s.shutdown_cases b w with ⟨writer, reply, storage, hr, hwriter, hshutdown⟩ |
      ⟨r, e, r', w', hr, hrun, hshutdown⟩ |
      ⟨r, r', w', writer, reply, storage, hr, hrun, hwriter, hshutdown⟩
    · obtain ⟨hstopped, hgiven⟩ := s.writer.given_shutdown hb w.storage
      rw [hwriter] at hstopped hgiven
      rw [Strategy.shutdown, hshutdown]
      simp only [Strategy.pending, hr, Option.map_none, Option.getD_none, List.append_nil,
        Writer.pending_of_stopped hstopped]
      exact hgiven
    · obtain ⟨hnone, hgiven⟩ := r.given_shutdown hb w
      rw [hrun] at hnone hgiven
      rw [Strategy.shutdown, hshutdown, pending_bulk hr, given_append_left, ← hgiven,
        ← given_append_left, List.append_nil]
      dsimp only
      rw [pending_bulk rfl, Rowwise.pending_of_none hnone, List.append_nil]
    · obtain ⟨hnone, hgiven⟩ := r.given_shutdown hb w
      obtain ⟨hstopped, hgiven'⟩ := s.writer.given_shutdown hb w'.storage
      rw [hrun] at hnone hgiven
      rw [hwriter] at hstopped hgiven'
      rw [Strategy.shutdown, hshutdown, pending_bulk hr, given_append_left, ← hgiven,
        ← given_append_left, List.append_nil]
      dsimp only
      rw [pending_bulk rfl, Rowwise.pending_of_none hnone, List.append_nil,
        Writer.pending_of_stopped hstopped]
      exact hgiven'
  · obtain ⟨hnone, hgiven⟩ := r.given_shutdown hb w
    show given handed (r.shutdown b w).2.2.storage (r.shutdown b w).2.1.currentWriter.pending = _
    rw [Rowwise.pending_of_none hnone, hgiven]
    rfl

/-- An idle interval changes nothing of what was staged. -/
theorem given_idle (hb : b.Remembers handed) (byRow : Bool) (s : Strategy σ) (m : σ) :
    given handed (s.idle b byRow m).2 (s.idle b byRow m).1.pending = given handed m s.pending := by
  rcases s with s | r
  · cases byRow with
    | true =>
      rcases hr : s.fallback with _ | r
      · simp only [idle, if_true, hr]
      · simp only [idle, if_true, hr]
        rw [pending_bulk rfl, pending_bulk hr, given_append_left, given_append_left,
          r.given_idle hb]
    | false =>
      simp only [idle, Bool.false_eq_true, if_false, Strategy.pending]
      rw [given_append, given_append, (s.writer.handover_idle hb m).balance, add_zero]
  · cases byRow with
    | true => exact r.given_idle hb m
    | false => rfl

/-- Nothing but another strategy changes who runs plans. -/
theorem RunsPlans.shutdown {X : Executor σ → Prop} (h : s.RunsPlans X) (b : Backend σ)
    (w : Workspace σ) : (s.shutdown b w).2.1.RunsPlans X := by
  rcases s with s | r
  · show X (s.shutdown b w).2.1.executor
    rcases s.shutdown_cases b w with ⟨_, _, _, _, _, hshutdown⟩ | ⟨_, _, _, _, _, _, hshutdown⟩ |
      ⟨_, _, _, _, _, _, _, _, _, hshutdown⟩ <;>
      rw [hshutdown] <;> exact h
  · trivial

theorem RunsPlans.idle {X : Executor σ → Prop} (h : s.RunsPlans X) (b : Backend σ) (byRow : Bool)
    (m : σ) : (s.idle b byRow m).1.RunsPlans X := by
  rcases s with s | r
  · cases byRow with
    | true =>
      rw [Strategy.idle, if_pos rfl]
      split <;> exact h
    | false => exact h
  · cases byRow <;> trivial

end Strategy

/-! ## Whatever happens to an engine -/

namespace Engine

variable {handed : σ → List Handed} {b : Backend σ} {m start : Engine σ}

/-- What happens to an engine: a demand is served, or one of its writers has an idle interval. -/
inductive Turn (σ : Type)
  | serve (d : Demand σ)
  | idle (byRow : Bool)

/-- What happens outside hands nothing over. -/
def Turn.Unnoticed (handed : σ → List Handed) : Turn σ → Prop
  | .serve (.outside change) => ∀ m, handed (change m) = handed m
  | _ => True

/-- The engine after something has happened to it. -/
def take (b : Backend σ) (m : Engine σ) : Turn σ → Engine σ
  | .serve d => m.serve b d
  | .idle byRow =>
    ⟨(m.strategy.idle b byRow m.work.storage).1,
      { m.work with storage := (m.strategy.idle b byRow m.work.storage).2 }⟩

/-- The engine after some things have happened to it, one after the other. -/
def after (b : Backend σ) (m : Engine σ) (turns : List (Turn σ)) : Engine σ :=
  turns.foldl (take b) m

/-- Gives all writers up. -/
def shutdown (b : Backend σ) (m : Engine σ) : Except Error Unit × Engine σ :=
  let (result, strategy, work) := m.strategy.shutdown b m.work
  (result, ⟨strategy, work⟩)

/-- The number of facts that are staged, which the writer of the rule counts. -/
def staging (b : Backend σ) (m : Engine σ) : Turn σ → Nat
  | .serve (.execute rule p) =>
    ((m.execute b rule p).2.strategy.writerFor rule).staged - (m.strategy.writerFor rule).staged
  | _ => 0

/-- The number of facts that are staged in some turns. -/
def stagedIn (b : Backend σ) : Engine σ → List (Turn σ) → Nat
  | _, [] => 0
  | m, t :: rest => m.staging b t + stagedIn b (m.take b t) rest

/-- What the storage was handed, and what waits. -/
def given (handed : σ → List Handed) (m : Engine σ) : Multiset Fact :=
  RdfReasoner.given handed m.work.storage m.strategy.pending

@[simp] theorem after_append (b : Backend σ) (m : Engine σ) (turns more : List (Turn σ)) :
    m.after b (turns ++ more) = (m.after b turns).after b more := List.foldl_append

/-- An execution adds what it stages. -/
theorem given_execute (hb : b.Remembers handed)
    (hs : m.strategy.RunsPlans (·.Remembers handed)) (rule : Rule) (p : Provenance) :
    (m.execute b rule p).2.strategy.RunsPlans (·.Remembers handed) ∧
      ∃ staged : Multiset Fact, staged.card = m.staging b (.serve (.execute rule p)) ∧
        (m.execute b rule p).2.given handed = m.given handed + staged := by
  -- as an execution of a session that has this strategy and this workspace
  let e : Execution σ := ⟨rule, p, { strategy := m.strategy, work := m.work }⟩
  rcases h : m.strategy.execute b rule p m.work with ⟨result, strategy, work⟩
  obtain ⟨-, hstop⟩ := Execution.run_execute (e := e) h
  have hexecute : (m.execute b rule p).2 = ⟨strategy, work⟩ := by
    rw [execute, h]
  have hplans : (e.stop b).strategy.RunsPlans (·.Remembers handed) := Execution.runsPlans_stop hs
  obtain ⟨staged, hcounted, hgiven⟩ := Execution.given_stop (e := e) hb hs
  rw [hstop] at hplans hcounted hgiven
  rw [staging, hexecute]
  refine ⟨hplans, staged, ?_, hgiven⟩
  show staged.card = (strategy.writerFor rule).staged - (m.strategy.writerFor rule).staged
  have hcounted' : (strategy.writerFor rule).staged =
      (m.strategy.writerFor rule).staged + staged.card := hcounted
  rw [hcounted', Nat.add_sub_cancel_left]

/-- Whatever happens adds what is staged by it, and nothing else. -/
theorem given_take (hb : b.Remembers handed) (hs : m.strategy.RunsPlans (·.Remembers handed))
    {t : Turn σ} (ht : t.Unnoticed handed) :
    (m.take b t).strategy.RunsPlans (·.Remembers handed) ∧
      ∃ staged : Multiset Fact, staged.card = m.staging b t ∧
        (m.take b t).given handed = m.given handed + staged := by
  have hsame {m' : Engine σ} (h : m'.given handed = m.given handed) :
      m'.given handed = m.given handed + 0 := h.trans (add_zero _).symm
  cases t with
  | idle byRow =>
    exact ⟨hs.idle b byRow _, 0, rfl, hsame (m.strategy.given_idle hb byRow m.work.storage)⟩
  | serve d =>
    cases d with
    | execute rule p => exact given_execute hb hs rule p
    | shutdown => exact ⟨hs.shutdown b _, 0, rfl, hsame (m.strategy.given_shutdown hb m.work)⟩
    | requireLevel level =>
      refine ⟨hs.requireLevel level, 0, rfl, hsame ?_⟩
      show RdfReasoner.given handed m.work.storage (m.strategy.requireLevel level).pending = _
      rw [Strategy.pending_requireLevel]
      rfl
    | outside change =>
      refine ⟨hs, 0, rfl, hsame ?_⟩
      show RdfReasoner.given handed (change m.work.storage) m.strategy.pending = _
      rw [RdfReasoner.given, ht]
      rfl

/-- So does all that happens one after the other. -/
theorem given_after (hb : b.Remembers handed) (hs : m.strategy.RunsPlans (·.Remembers handed))
    {turns : List (Turn σ)} (hturns : ∀ t ∈ turns, t.Unnoticed handed) :
    (m.after b turns).strategy.RunsPlans (·.Remembers handed) ∧
      ∃ staged : Multiset Fact, staged.card = m.stagedIn b turns ∧
        (m.after b turns).given handed = m.given handed + staged := by
  induction turns generalizing m with
  | nil => exact ⟨hs, 0, rfl, (add_zero _).symm⟩
  | cons t rest ih =>
    obtain ⟨ht, hrest⟩ := List.forall_mem_cons.mp hturns
    obtain ⟨hs', staged, hcard, hgiven⟩ := given_take hb hs ht
    obtain ⟨hs'', more, hcard', hgiven'⟩ := ih hs' hrest
    refine ⟨hs'', staged + more, ?_, ?_⟩
    · rw [Multiset.card_add, hcard, hcard', stagedIn]
    · show ((m.take b t).after b rest).given handed = _
      rw [hgiven', hgiven, add_assoc]

/-! ## What a shutdown leaves -/

/-- A shutdown after some turns releases everything: no writer is left running; from any point on,
what the storage was handed by then, what waited there and what was staged since is what it has been
handed now, in the number in which it was staged; and another shutdown succeeds and does nothing. -/
structure ReleasesAll (handed : σ → List Handed) (b : Backend σ) (start : Engine σ)
    (turns : List (Turn σ)) : Prop where
  stopped : ∀ w ∈ ((start.after b turns).shutdown b).2.strategy.writers, w.isRunning = false
  released : ∀ before rest, turns = before ++ rest → ∃ staged : Multiset Fact,
    staged.card = (start.after b before).stagedIn b rest ∧
      ((handed ((start.after b turns).shutdown b).2.work.storage).flatMap (·.facts) :
        Multiset Fact) = (start.after b before).given handed + staged
  again : ((start.after b turns).shutdown b).2.shutdown b =
    (.ok (), ((start.after b turns).shutdown b).2)

/-- The refusal that a shutdown would get stuck at. -/
def stuck? (b : Backend σ) (m : Engine σ) : Option Error := m.strategy.stuck? b m.work

theorem not_releasesAll {turns : List (Turn σ)}
    (h : ∃ w ∈ ((start.after b turns).shutdown b).2.strategy.writers, w.isRunning = true) :
    ¬ ReleasesAll handed b start turns := by
  obtain ⟨w, hw, hrunning⟩ := h
  intro hreleases
  rw [hreleases.stopped w hw] at hrunning
  cases hrunning

/-- A shutdown that does not get stuck releases everything. -/
theorem releasesAll_of_unstuck (hb : b.Remembers handed)
    (hs : start.strategy.RunsPlans (·.Remembers handed)) {turns : List (Turn σ)}
    (hturns : ∀ t ∈ turns, t.Unnoticed handed) (h : (start.after b turns).stuck? b = none) :
    ReleasesAll handed b start turns := by
  have hclosed : ((start.after b turns).shutdown b).2.strategy.Closed :=
    Strategy.closed_shutdown hb h
  refine ⟨hclosed.isRunning, ?_, ?_⟩
  · rintro before rest rfl
    obtain ⟨hbefore, hrest⟩ := List.forall_mem_append.mp hturns
    obtain ⟨hs', -⟩ := given_after hb hs hbefore
    obtain ⟨-, staged, hcard, hgiven⟩ := given_after hb hs' hrest
    refine ⟨staged, hcard, ?_⟩
    have hshutdown := Strategy.given_shutdown hb (start.after b (before ++ rest)).strategy
      (start.after b (before ++ rest)).work
    rw [← hgiven, ← after_append]
    refine Eq.trans ?_ hshutdown
    show _ = RdfReasoner.given handed _
      ((start.after b (before ++ rest)).shutdown b).2.strategy.pending
    rw [hclosed.pending]
    exact (add_zero _).symm
  · rw [shutdown, hclosed.shutdown]

/-- A shutdown that gets stuck returns the refusal that it got stuck at, and leaves one writer as it
was, which is the own one of the strategy.  The next shutdown does not get stuck. -/
theorem shutdown_of_stuck (hb : b.Remembers handed) {e : Error} (h : m.stuck? b = some e) :
    (m.shutdown b).1 = .error e ∧
      (∃ own, own.isRunning = true ∧ m.strategy.writers.getLast? = some own ∧
        (m.shutdown b).2.strategy.writers = [own]) ∧
      (m.shutdown b).2.stuck? b = none := by
  obtain ⟨s, r, r', w', hstrategy, hr, hrunning, hrun, hshutdown⟩ := Strategy.shutdown_of_stuck h
  have hnone : r'.writer = none := by
    have hr' := (r.given_shutdown hb m.work).1
    rwa [hrun] at hr'
  have hm : m.shutdown b = (.error e, ⟨.bulk { s with fallback := some r' }, w'⟩) := by
    rw [shutdown, hshutdown]
  rw [hm]
  refine ⟨rfl, ⟨s.writer, hrunning, ?_, ?_⟩, ?_⟩
  · rw [hstrategy, Strategy.writers, List.getLast?_concat]
  · show (Option.bind (some r') (·.writer)).toList ++ [s.writer] = [s.writer]
    rw [Option.bind_some, hnone]
    rfl
  · show (Strategy.bulk { s with fallback := some r' }).stuck? b w' = none
    rw [Strategy.stuck?_eq rfl, Rowwise.shutdown_of_none b hnone, ite_self]

/-- **A shutdown releases everything, unless the fallback meets a refusal.**  Let anything happen to
a strategy, with a fallback or without, or row by row alone: rules are executed and may fail
anywhere, with facts and refusals left in either writer, writers are idle, and the storage answers
anything to anything, as long as it remembers what it is handed (as any storage does that has a
record beside it, `Backend.remembers_recorded`).

Then a shutdown releases everything exactly if it does not get stuck.  If it does, it returns the
refusal that it got stuck at; the fallback has given its writer up, and the own writer of the
strategy is left as it was, and running.  Shutting down once more releases everything. -/
theorem releasesAll_iff (hb : b.Remembers handed) {strategy : Strategy σ}
    (hs : strategy.RunsPlans (·.Remembers handed)) (storage : σ) (notices : Array Notice)
    {turns : List (Turn σ)} (hturns : ∀ t ∈ turns, t.Unnoticed handed) :
    let start := fresh strategy storage notices
    let m := start.after b turns
    (ReleasesAll handed b start turns ↔ m.stuck? b = none) ∧
      ∀ e, m.stuck? b = some e →
        (m.shutdown b).1 = .error e ∧
        (∃ own, own.isRunning = true ∧ m.strategy.writers.getLast? = some own ∧
          (m.shutdown b).2.strategy.writers = [own]) ∧
        ReleasesAll handed b start (turns ++ [.serve .shutdown]) := by
  intro start m
  refine ⟨⟨fun hreleases => ?_, releasesAll_of_unstuck hb hs hturns⟩, fun e he => ?_⟩
  · by_contra hsome
    obtain ⟨e, he⟩ := Option.ne_none_iff_exists'.mp hsome
    obtain ⟨-, ⟨own, hrunning, -, hwriters⟩, -⟩ := shutdown_of_stuck hb he
    exact not_releasesAll ⟨own, hwriters ▸ List.mem_singleton.mpr rfl, hrunning⟩ hreleases
  · obtain ⟨herror, hown, hunstuck⟩ := shutdown_of_stuck hb he
    refine ⟨herror, hown, releasesAll_of_unstuck hb hs ?_ ?_⟩
    · exact List.forall_mem_append.mpr ⟨hturns, List.forall_mem_singleton.mpr trivial⟩
    · rw [after_append]
      exact hunstuck

end Engine

/-! ## Any storage can be made to remember -/

section recorded

variable {α : Type}

/-- Lets the storage change and leaves the record beside it as it is. -/
def beside (act : StateM σ α) : StateM (σ × List Deed) α := fun s =>
  ((act s.1).1, (act s.1).2, s.2)

/-- Runs plans on a storage that has a record beside it. -/
def Executor.recorded (x : Executor σ) : Executor (σ × List Deed) where
  start plan options := beside (x.start plan options)
  responder q := beside (x.responder q)

/-- The same storage, with a record of the batches that it is handed. -/
def Backend.recorded (b : Backend σ) : Backend (σ × List Deed) where
  responder q := beside (b.responder q)
  batching := b.batching
  reaches := b.reaches
  executor := b.executor.map Executor.recorded
  sink := b.sink.recorded
  now := beside b.now

/-- The batches on the record. -/
def Sink.batches (s : σ × List Deed) : List Handed := s.2.filterMap Deed.handed?

theorem Executor.remembers_recorded (x : Executor σ) : x.recorded.Remembers Sink.batches where
  start _ _ _ := rfl
  responder _ _ := rfl

theorem Backend.remembers_recorded (b : Backend σ) : b.recorded.Remembers Sink.batches where
  responder _ _ := rfl
  sink _ _ := List.filterMap_append

end recorded

/-! ## Two executions that fail -/

namespace Family

open Engine

/-- Some of the parents are elders; plans cannot express how many. -/
def elders : Rule where
  id := "elders"
  body := .slice none (some 5) (related "x" "parent" "y")
  head := [⟨.var "x", .const (iri "elder"), .var "y", none⟩]

/-- A storage in memory that never finds out whether it holds anything about one of the parents, and
takes no elders.  What it is handed is on record. -/
def brittle : Backend (Memory × List Deed) := Backend.recorded {
  responder
    | .holds s, m =>
      if s.subject = iri "p1" then (.error (.query "injected"), m) else (.ok (m.store.holds s), m)
    | q, m => Memory.responder q m
  executor := some (Memory.executor 1000)
  sink facts m :=
    if facts.any (·.statement.predicate = iri "elder") then (.error (.write "disk full"), m)
    else Memory.sink facts m
  now := Memory.now }

/-- Two parents, and nothing on record. -/
def couple : Memory × List Deed :=
  (memory [⟨said "p0" "parent" "p1", { timestamp := second 1 }⟩,
    ⟨said "p1" "parent" "p2", { timestamp := second 1 }⟩], [])

/-- Execution in bulk, with evaluation row by row to fall back to, before it has done anything for
them. -/
def frail : Engine (Memory × List Deed) := .fresh (.ofSettings brittle {}) couple #[]

/-- Either rule stages a fact and fails at the next, so that one is left in either writer. -/
def twice : List (Turn (Memory × List Deed)) :=
  [.serve (.execute parents ⟨1, second 2, ""⟩), .serve (.execute elders ⟨1, second 3, ""⟩)]

/-- The statements that a storage with a record was handed. -/
def statements (m : Engine (Memory × List Deed)) : List Statement :=
  ((Sink.batches m.work.storage).flatMap (·.facts)).map (·.statement)

set_option maxRecDepth 100000 in
/-- The batch of the fallback is refused; the other fact is still waiting then, in a writer that
still runs, and is handed over by the next shutdown. -/
theorem unreleased_twice :
    (frail.after brittle twice).strategy.pending.map (·.statement) =
        [said "p0" "ancestor" "p1", said "p0" "elder" "p1"] ∧
      ((frail.after brittle twice).shutdown brittle).1 = .error (.write "disk full") ∧
      (∃ w ∈ ((frail.after brittle twice).shutdown brittle).2.strategy.writers,
        w.isRunning = true) ∧
      statements ((frail.after brittle twice).shutdown brittle).2 = [said "p0" "elder" "p1"] ∧
      (((frail.after brittle twice).shutdown brittle).2.shutdown brittle).1 = .ok () ∧
      statements (((frail.after brittle twice).shutdown brittle).2.shutdown brittle).2 =
        [said "p0" "elder" "p1", said "p0" "ancestor" "p1"] ∧
      ¬ ReleasesAll Sink.batches brittle frail twice := by
  have hrunning : ∃ w ∈ ((frail.after brittle twice).shutdown brittle).2.strategy.writers,
      w.isRunning = true := by decide +kernel
  exact ⟨by decide +kernel, by decide +kernel, hrunning, by decide +kernel, by decide +kernel,
    by decide +kernel, not_releasesAll hrunning⟩

set_option maxRecDepth 100000 in
/-- The first shutdown gets stuck, and the second releases everything. -/
theorem releasesAll_iff_twice :
    (frail.after brittle twice).stuck? brittle = some (.write "disk full") ∧
      (ReleasesAll Sink.batches brittle frail twice ↔
        (frail.after brittle twice).stuck? brittle = none) ∧
      ((frail.after brittle twice).shutdown brittle).1 = .error (.write "disk full") ∧
      (∃ own, own.isRunning = true ∧
        (frail.after brittle twice).strategy.writers.getLast? = some own ∧
        ((frail.after brittle twice).shutdown brittle).2.strategy.writers = [own]) ∧
      ReleasesAll Sink.batches brittle frail (twice ++ [.serve .shutdown]) := by
  have hstuck : (frail.after brittle twice).stuck? brittle = some (.write "disk full") := by
    decide +kernel
  have hplans : (Strategy.ofSettings brittle {}).RunsPlans (·.Remembers Sink.batches) :=
    (Memory.executor 1000).remembers_recorded
  have hturns : ∀ t ∈ twice, t.Unnoticed Sink.batches :=
    List.forall_mem_cons.mpr ⟨trivial, List.forall_mem_singleton.mpr trivial⟩
  obtain ⟨hiff, hleft⟩ :=
    releasesAll_iff (Backend.remembers_recorded _) hplans couple #[] hturns
  exact ⟨hstuck, hiff, hleft _ hstuck⟩

end Family

end RdfReasoner
