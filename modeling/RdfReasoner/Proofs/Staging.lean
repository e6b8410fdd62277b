import RdfReasoner.Proofs.Document
import RdfReasoner.Proofs.Rows
import RdfReasoner.Strategy

/-!
# What an execution stages

A part of an execution is a computation in `Staging`, over a desk with a writer and a storage.
`Staging.Keeps` says of such a part that it keeps a property of the desk, also when it fails.

Over a store in memory the facts that are staged wait in the writer until it is flushed, unless a
batch fills up before.  `Staging.Fits` says that none does.  Since no part of a computation takes
back what was staged, what fits in the whole fits in its parts (`Staging.fits_of_bind`,
`Staging.fits_rest`), and staging only loads the writer (`Staging.run_stage_of_fits`).
-/

namespace RdfReasoner

/-! ## Computations that keep their state when they fail -/

namespace Fallible

variable {τ α β : Type}

theorem run_pure (a : α) (s : τ) : (pure a : ExceptT Error (StateM τ) α).run s = (.ok a, s) := rfl

theorem run_throw (e : Error) (s : τ) :
    (throw e : ExceptT Error (StateM τ) α).run s = (.error e, s) := rfl

theorem run_bind (x : ExceptT Error (StateM τ) α) (f : α → ExceptT Error (StateM τ) β) (s : τ) :
    (x >>= f).run s = match x.run s with
      | (.ok a, s') => (f a).run s'
      | (.error e, s') => (.error e, s') := by
  show (x.run >>= ExceptT.bindCont f) s = _
  show (ExceptT.bindCont f (x.run s).1) (x.run s).2 = _
  obtain ⟨_ | a, s'⟩ := x.run s <;> rfl

variable {x : ExceptT Error (StateM τ) α} {f : α → ExceptT Error (StateM τ) β} {s s' : τ}

/-- After a part that succeeds the rest goes on from where it ended. -/
theorem run_bind_ok {a : α} (h : x.run s = (.ok a, s')) : (x >>= f).run s = (f a).run s' := by
  rw [run_bind, h]

/-- After a part that fails nothing more is done. -/
theorem run_bind_error {e : Error} (h : x.run s = (.error e, s')) :
    (x >>= f).run s = (.error e, s') := by
  rw [run_bind, h]

/-- A sequence that succeeds succeeds in both parts. -/
theorem run_bind_eq_ok {c : β} (h : (x >>= f).run s = (.ok c, s')) :
    ∃ a t, x.run s = (.ok a, t) ∧ (f a).run t = (.ok c, s') := by
  rw [run_bind] at h
  rcases hx : x.run s with ⟨error | a, t⟩
  · rw [hx] at h
    cases h
  · rw [hx] at h
    exact ⟨a, t, rfl, h⟩

end Fallible

open Fallible

/-! ## Running parts of an execution -/

namespace Staging

variable {σ α β : Type}

theorem run_onStorage (act : StateM σ α) (d : Desk σ) :
    (onStorage act).run d = (.ok (act d.storage).1, { d with storage := (act d.storage).2 }) := rfl

theorem run_onWriter (act : Writer → StateM σ (Writer × Except Error α)) (d : Desk σ) :
    (onWriter act).run d = ((act d.writer d.storage).1.2,
      { d with writer := (act d.writer d.storage).1.1, storage := (act d.writer d.storage).2 }) :=
  rfl

theorem run_note (ns : List Notice) (d : Desk σ) :
    (note ns).run d = (.ok (), { d with notices := d.notices ++ ns }) := rfl

theorem run_holds (responder : Responder σ) (s : Statement) (d : Desk σ) :
    (holds responder s).run d =
      ((responder (.holds s) d.storage).1,
        { d with storage := (responder (.holds s) d.storage).2 }) := rfl

/-! ## What parts of an execution keep -/

/-- A part of an execution keeps a property of the desk, also when it fails. -/
def Keeps (P : Desk σ → Prop) (act : Staging σ α) : Prop := ∀ d, P d → P (act.run d).2

variable {P : Desk σ → Prop}

theorem keeps_pure (a : α) : Keeps P (pure a : Staging σ α) := fun _ h => h

theorem keeps_throw (e : Error) : Keeps P (throw e : Staging σ α) := fun _ h => h

/-- What comes behind a part has to do with the results that the part can have. -/
theorem keeps_bind_of_result {x : Staging σ α} {f : α → Staging σ β} (hx : Keeps P x)
    (hf : ∀ d a, P d → (x.run d).1 = .ok a → Keeps P (f a)) : Keeps P (x >>= f) := by
  intro d hd
  have hd' := hx d hd
  rw [run_bind]
  split
  · next a d' heq =>
    rw [heq] at hd'
    exact hf d a hd (congrArg Prod.fst heq) d' hd'
  · next heq => rw [heq] at hd'; exact hd'

theorem keeps_bind {x : Staging σ α} {f : α → Staging σ β} (hx : Keeps P x)
    (hf : ∀ a, Keeps P (f a)) : Keeps P (x >>= f) :=
  keeps_bind_of_result hx fun _ a _ _ => hf a

/-- What the parts of an execution are made of keeps a property of the desk, as long as only facts
of some kind are staged. -/
structure Closed (b : Backend σ) (Staged : Fact → Prop) (P : Desk σ → Prop) : Prop where
  ask : ∀ q, Keeps P (onStorage (b.responder q))
  holds : ∀ s, Keeps P (Staging.holds b.responder s)
  note : ∀ ns, Keeps P (Staging.note ns)
  stage : ∀ f, Staged f → Keeps P (Staging.stage b.sink f)
  flush : Keeps P (Staging.flush b.sink)

/-- As long as the desk has a property, all replies are of some kind. -/
def Answering (responder : Responder σ) (P : Desk σ → Prop) (R : ReplyKind) : Prop :=
  ∀ q d, P d → R q (responder q d.storage).1

theorem answering_any (responder : Responder σ) : Answering responder P fun _ _ => True :=
  fun _ _ _ => trivial

end Staging

namespace Rowwise

open Staging

variable {σ : Type} {b : Backend σ} {Staged : Fact → Prop} {P : Desk σ → Prop} {p : Provenance}

theorem keeps_stageNew (h : Closed b Staged P) (seen : Std.TreeSet Statement) {l : List Statement}
    (hp : ∀ s ∈ l, Staged ⟨s, p⟩) : Keeps P (stageNew b p seen l) := by
  induction l generalizing seen with
  | nil => exact keeps_pure _
  | cons s rest ih =>
    obtain ⟨hs, hrest⟩ := List.forall_mem_cons.mp hp
    rw [stageNew]
    split
    · exact ih seen hrest
    · refine keeps_bind (h.holds s) fun held => ?_
      split
      · exact ih seen hrest
      · exact keeps_bind (h.stage _ hs) fun _ => keeps_bind (ih _ hrest) fun _ => keeps_pure _

/-- A solution of which a rule makes facts of some kind. -/
def SolutionOf (rule : Rule) (p : Provenance) (Staged : Fact → Prop) :
    Except Error Binding → Prop :=
  Sequence.ErrorOr fun solution => ∀ s ∈ rule.instances solution, Staged ⟨s, p⟩

theorem keeps_stageSolutions (h : Closed b Staged P) {R : ReplyKind}
    (hanswer : Answering b.responder P R) {rule : Rule} {s : Solutions}
    (hs : s.EveryFor R (SolutionOf rule p Staged)) (seen : Std.TreeSet Statement) (derived : Nat) :
    Keeps P (stageSolutions b rule p seen derived s) := by
  induction s generalizing seen derived with
  | nil => exact keeps_pure _
  | cons item rest ih =>
    cases item with
    | error e => exact keeps_throw e
    | ok solution =>
      exact keeps_bind (keeps_stageNew h seen (hs.1 solution rfl)) fun _ => ih () hs.2 _ _
  | ask q next ih =>
    refine keeps_bind_of_result (h.ask q) fun d reply hd hreply => ?_
    obtain rfl := Except.ok.inj hreply
    exact ih _ (hs _ (hanswer q d hd)) seen derived

/-- The questions before the first solution can be pulled. -/
theorem keeps_inquiry (h : Closed b Staged P) {α : Type} (i : Inquiry α) :
    Keeps P (onStorage (i.run b.responder)) := by
  induction i with
  | done a => exact keeps_pure a
  | ask q next ih => exact keeps_bind (h.ask q) ih

/-- They lead to what their replies lead to. -/
theorem result_inquiry (h : Closed b Staged P) {R : ReplyKind}
    (hanswer : Answering b.responder P R) {α : Type} {Q : α → Prop} {i : Inquiry α}
    (hi : i.EndsIn R Q) {d : Desk σ} (hd : P d) : Q (i.run b.responder d.storage).1 := by
  induction i generalizing d with
  | done a => exact hi
  | ask q next ih =>
    exact ih _ (hi _ (hanswer q d hd)) (d := { d with storage := (b.responder q d.storage).2 })
      (h.ask q d hd)

theorem keeps_derive (h : Closed b Staged P) {R : ReplyKind}
    (hanswer : Answering b.responder P R) {rule : Rule} {r : Rowwise}
    (hr : ((r.evaluator b).evaluate rule.body .empty).EndsIn R fun s =>
      s.EveryFor R (SolutionOf rule p Staged)) : Keeps P (r.derive b rule p) := by
  refine keeps_bind (h.note _) fun _ => keeps_bind_of_result (keeps_inquiry h _) ?_
  intro d solutions hd hsolutions
  obtain rfl := Except.ok.inj hsolutions
  exact keeps_bind (keeps_stageSolutions h hanswer (result_inquiry h hanswer hr hd) _ _) fun _ =>
    keeps_bind h.flush fun _ => keeps_pure _

end Rowwise

namespace Bulk

open Staging

variable {σ : Type} {b : Backend σ} {Staged : Fact → Prop} {P : Desk σ → Prop} {p : Provenance}

theorem keeps_stageRecord (h : Closed b Staged P) {record : Json}
    (hp : ∀ d, Document.ofJson? record = some d → Staged (d.toFact p.visibility)) :
    Keeps P (stageRecord b p record) := by
  rw [stageRecord]
  split
  · exact keeps_bind (h.note _) fun _ => keeps_pure _
  · next d hd =>
    split
    · exact keeps_bind (h.note _) fun _ => keeps_pure _
    · refine keeps_bind (h.holds _) fun held => ?_
      split
      · exact keeps_pure _
      · exact keeps_bind (h.stage _ (hp d hd)) fun _ => keeps_pure _

/-- Whether a record that can be read tells of a fact of some kind. -/
def RecordOf (p : Provenance) (Staged : Fact → Prop) (item : Except Error Json) : Prop :=
  ∀ record, item = .ok record → ∀ d, Document.ofJson? record = some d →
    Staged (d.toFact p.visibility)

theorem keeps_stageRecords (h : Closed b Staged P) {executor : Executor σ} {R : ReplyKind}
    (hanswer : Answering executor.responder P R)
    (hask : ∀ q, Keeps P (onStorage (executor.responder q))) {s : Sequence (Except Error Json)}
    (hs : s.EveryFor R (RecordOf p Staged)) (derived : Nat) :
    Keeps P (stageRecords b executor p derived s) := by
  induction s generalizing derived with
  | nil => exact keeps_pure _
  | cons item rest ih =>
    cases item with
    | error e => exact keeps_throw e
    | ok record =>
      exact keeps_bind (keeps_stageRecord h (hs.1 record rfl)) fun _ => ih () hs.2 _
  | ask q next ih =>
    refine keeps_bind_of_result (hask q) fun d reply hd hreply => ?_
    obtain rfl := Except.ok.inj hreply
    exact ih _ (hs _ (hanswer q d hd)) derived

theorem keeps_derive (h : Closed b Staged P) {s : Bulk σ} {plan : Plan} {R : ReplyKind}
    (hanswer : Answering s.executor.responder P R)
    (hask : ∀ q, Keeps P (onStorage (s.executor.responder q)))
    (hstart : Keeps P (onStorage (s.executor.start plan s.options)))
    (hrecords : ∀ m records, (s.executor.start plan s.options m).1 = .ok records →
      records.EveryFor R (RecordOf p Staged)) :
    Keeps P (s.derive b plan p) := by
  intro d hd
  have hd' := hstart d hd
  rw [run_onStorage] at hd'
  rw [derive, run_bind_ok (run_onStorage _ d)]
  cases hrun : (s.executor.start plan s.options d.storage).1 with
  | error e => exact hd'
  | ok records =>
    exact keeps_bind (keeps_stageRecords h hanswer hask (hrecords _ _ hrun) 0)
      (fun _ => keeps_bind h.flush fun _ => keeps_pure _) _ hd'

end Bulk

/-! ## Writers that wait -/

namespace Writer

/-- The facts that wait to be written. -/
def pending (w : Writer) : List Fact := ((w.worker.map (·.buffer))).getD #[] |>.toList

/-- The number of facts that a batch takes. -/
def batchSize (w : Writer) : Nat := (w.worker.map (·.batchSize)).getD 0

/-- The writer runs and has nothing to write and nothing to reply. -/
def Idle (w : Writer) : Prop :=
  ∃ k, w.worker = some k ∧ k.buffer = #[] ∧ k.written = 0 ∧ k.failure = none

/-- The writer with more facts that wait. -/
def loaded (w : Writer) (fs : List Fact) : Writer where
  worker := w.worker.map fun k => { k with buffer := k.buffer ++ fs.toArray }
  staged := w.staged + fs.length

theorem idle_start (n : Nat) : (start n).Idle := ⟨_, rfl, rfl, rfl, rfl⟩

theorem Idle.isRunning {w : Writer} (h : w.Idle) : w.isRunning = true := by
  obtain ⟨k, hk, -⟩ := h
  rw [Writer.isRunning, hk]
  rfl

theorem Idle.pending {w : Writer} (h : w.Idle) : w.pending = [] := by
  obtain ⟨k, hk, hbuffer, -⟩ := h
  simp [Writer.pending, hk, hbuffer]

@[simp] theorem loaded_nil (w : Writer) : w.loaded [] = w := by
  obtain ⟨_ | k, n⟩ := w <;> simp [loaded]

@[simp] theorem loaded_loaded (w : Writer) (fs gs : List Fact) :
    (w.loaded fs).loaded gs = w.loaded (fs ++ gs) := by
  obtain ⟨_ | k, n⟩ := w <;> simp [loaded, Nat.add_assoc]

@[simp] theorem staged_loaded (w : Writer) (fs : List Fact) :
    (w.loaded fs).staged = w.staged + fs.length := rfl

@[simp] theorem batchSize_loaded (w : Writer) (fs : List Fact) :
    (w.loaded fs).batchSize = w.batchSize := by
  obtain ⟨_ | k, n⟩ := w <;> rfl

@[simp] theorem isRunning_loaded (w : Writer) (fs : List Fact) :
    (w.loaded fs).isRunning = w.isRunning := by
  obtain ⟨_ | k, n⟩ := w <;> rfl

theorem pending_loaded {w : Writer} (h : w.isRunning = true) (fs : List Fact) :
    (w.loaded fs).pending = w.pending ++ fs := by
  obtain ⟨_ | k, n⟩ := w
  · cases h
  · simp [loaded, pending]

end Writer

/-! ## Staging without writing -/

namespace Staging

variable {α β : Type} {d : Desk Memory}

/-- A part of an execution stages so little that no batch fills up. -/
def Fits (act : Staging Memory α) (d : Desk Memory) : Prop :=
  (act.run d).2.writer.staged + d.writer.pending.length < d.writer.staged + d.writer.batchSize

/-- A part of an execution takes back nothing that was staged. -/
def Grows (act : Staging Memory α) : Prop := ∀ n, Keeps (fun d => n ≤ d.writer.staged) act

/-- Nothing that parts of executions are made of takes back what was staged. -/
theorem closed_staged {σ : Type} (b : Backend σ) (n : Nat) :
    Closed b (fun _ => True) fun d => n ≤ d.writer.staged where
  ask _ _ h := h
  holds _ _ h := h
  note _ _ h := h
  stage f _ d h := by
    rw [stage, run_onWriter, Writer.stage]
    cases d.writer.worker with
    | none => exact h
    | some k => exact Nat.le_succ_of_le h
  flush d h := by
    rw [flush, run_onWriter, Writer.flush]
    cases d.writer.worker with
    | none => exact h
    | some k => exact h

/-- The first part of what fits. -/
theorem fits_of_bind {x : Staging Memory α} {f : α → Staging Memory β} (hf : ∀ a, Grows (f a))
    (h : Fits (x >>= f) d) : Fits x d := by
  have hle : (x.run d).2.writer.staged ≤ ((x >>= f).run d).2.writer.staged := by
    rw [run_bind]
    split
    · next a d' heq => rw [heq]; exact hf a _ d' (Nat.le_refl _)
    · next e d' heq => rw [heq]
  unfold Fits at *
  omega

/-- The rest of what fits, after some facts were staged. -/
theorem fits_rest {x : Staging Memory α} {f : α → Staging Memory β} {a : α} {fs : List Fact}
    {notices : Array Notice} (hd : d.writer.isRunning = true)
    (hx : x.run d = (.ok a, ⟨d.writer.loaded fs, d.storage, notices⟩)) (h : Fits (x >>= f) d) :
    Fits (f a) ⟨d.writer.loaded fs, d.storage, notices⟩ := by
  unfold Fits at *
  rw [run_bind_ok hx] at h
  simp only [Writer.pending_loaded hd, List.length_append, Writer.staged_loaded,
    Writer.batchSize_loaded]
  omega

/-- The rest of what fits, after a part that left the writer as it was. -/
theorem fits_rest_same {x : Staging Memory α} {f : α → Staging Memory β} {a : α} {d' : Desk Memory}
    (hx : x.run d = (.ok a, d')) (hwriter : d'.writer = d.writer) (h : Fits (x >>= f) d) :
    Fits (f a) d' := by
  unfold Fits at *
  rwa [run_bind_ok hx, ← hwriter] at h

/-- Where another fact fits into the batch, staging it writes nothing. -/
theorem run_stage {sink : Sink Memory} {f : Fact} (hd : d.writer.isRunning = true)
    (hroom : d.writer.pending.length + 1 < d.writer.batchSize) :
    (stage sink f).run d = (.ok (), ⟨d.writer.loaded [f], d.storage, d.notices⟩) := by
  obtain ⟨⟨_ | k, n⟩, m, notices⟩ := d
  · cases hd
  · have hsize : ¬ k.batchSize ≤ (k.buffer.push f).size := by
      simp only [Writer.pending, Writer.batchSize, Option.map_some, Option.getD_some,
        Array.length_toList] at hroom
      simp only [Array.size_push]
      omega
    rw [stage, run_onWriter]
    simp only [Writer.stage, Worker.stage, if_neg hsize]
    simp [Writer.loaded]
    rfl

/-- Staging a fact as the first part of what fits. -/
theorem run_stage_of_fits {sink : Sink Memory} {f : Fact} {rest : Unit → Staging Memory β}
    (hd : d.writer.isRunning = true) (hrest : Grows (rest ()))
    (h : Fits (stage sink f >>= rest) d) :
    (stage sink f).run d = (.ok (), ⟨d.writer.loaded [f], d.storage, d.notices⟩) := by
  refine run_stage hd ?_
  -- whatever the writer does with the fact, it counts it
  have hcounted : ∃ d', (stage sink f).run d = (.ok (), d') ∧
      d'.writer.staged = d.writer.staged + 1 := by
    obtain ⟨⟨_ | k, n⟩, m, notices⟩ := d
    · cases hd
    · exact ⟨_, rfl, rfl⟩
  obtain ⟨d', hrun, hstaged⟩ := hcounted
  have hle := hrest (d.writer.staged + 1) d' (Nat.le_of_eq hstaged.symm)
  unfold Fits at h
  rw [run_bind_ok hrun] at h
  omega

end Staging

/-! ## Flushing -/

section writers

variable {σ : Type} {sink : Sink σ} {k : Worker} {m m' : σ}

/-- A worker with nothing in its buffer hands nothing over. -/
theorem Worker.write_empty (h : k.buffer.isEmpty = true) : k.write sink m = (k, m) := by
  rw [write, if_pos h]
  rfl

/-- A batch that is kept counts as written. -/
theorem Worker.write_kept (h : k.buffer.isEmpty = false) {new : Nat}
    (hsink : sink k.buffer.toList m = (.ok new, m')) :
    k.write sink m = ({ k with buffer := #[], written := k.written + new }, m') := by
  rw [write, if_neg (by simp [h])]
  simp only [bind, StateT.bind, hsink]
  rfl

/-- A batch that is refused is lost; the first refusal is remembered. -/
theorem Worker.write_refused (h : k.buffer.isEmpty = false) {error : Error}
    (hsink : sink k.buffer.toList m = (.error error, m')) :
    k.write sink m = ({ k with buffer := #[], failure := k.failure.or (some error) }, m') := by
  rw [write, if_neg (by simp [h])]
  simp only [bind, StateT.bind, hsink]
  rfl

/-- Nothing waits once it was handed over. -/
theorem Worker.buffer_write (sink : Sink σ) (w : Worker) (m : σ) :
    (w.write sink m).1.buffer = #[] := by
  rcases hempty : w.buffer.isEmpty with _ | _
  · rcases hsink : sink w.buffer.toList m with ⟨error | new, m'⟩
    · rw [write_refused hempty hsink]
    · rw [write_kept hempty hsink]
  · rw [write_empty hempty]
    exact Array.isEmpty_iff.mp hempty

/-- Staging a fact leaves it to the worker and counts it. -/
theorem Writer.stage_running (sink : Sink σ) (k : Worker) (n : Nat) (f : Fact) (m : σ) :
    (⟨some k, n⟩ : Writer).stage sink f m =
      ((⟨some (k.stage sink f m).1, n + 1⟩, .ok ()), (k.stage sink f m).2) := rfl

theorem Writer.flush_running (sink : Sink σ) (k : Worker) (n : Nat) (m : σ) :
    (⟨some k, n⟩ : Writer).flush sink m =
      ((⟨some { (k.write sink m).1 with written := 0, failure := none }, n⟩,
        (k.write sink m).1.outcome), (k.write sink m).2) := rfl

end writers

/-- The worker hands its buffer over to the store in memory, which takes everything. -/
theorem Worker.write_memory {k : Worker} (h : k.buffer.isEmpty = false) (m : Memory) :
    k.write Memory.sink m =
      ({ k with
          buffer := #[]
          written := k.written + (m.store.insertAll (m.clock m.reads) k.buffer.toList).2 },
        { m with
          store := (m.store.insertAll (m.clock m.reads) k.buffer.toList).1
          reads := m.reads + 1 }) :=
  write_kept h rfl

/-- The desk after some facts were staged and written, from an idle writer on. -/
structure Desk.Wrote (d : Desk Memory) (fs : List Fact) (d' : Desk Memory) : Prop where
  idle : d'.writer.Idle
  stored : ∃ time, d'.storage.store = (d.storage.store.insertAll time fs).1
  unchanged : fs = [] → d'.storage = d.storage

/-- Flushing writes all that was staged. -/
theorem Staging.run_flush {d : Desk Memory} (hd : d.writer.Idle) (fs : List Fact)
    (notices : Array Notice) :
    ∃ n d', (Staging.flush Memory.sink).run ⟨d.writer.loaded fs, d.storage, notices⟩ =
      (.ok n, d') ∧ d.Wrote fs d' := by
  obtain ⟨⟨w, n⟩, m, ns⟩ := d
  obtain ⟨k, hk, hbuffer, hwritten, hfailure⟩ := hd
  obtain rfl : w = some k := hk
  cases fs with
  | nil =>
    have hwrite : k.write Memory.sink m = (k, m) := Worker.write_empty (by rw [hbuffer]; rfl)
    have houtcome : k.outcome = .ok k.written := by rw [Worker.outcome, hfailure]
    simp only [Writer.loaded_nil, flush, run_onWriter, Writer.flush_running, hwrite, houtcome]
    exact ⟨_, _, rfl, ⟨_, rfl, hbuffer, rfl, rfl⟩, ⟨.min, rfl⟩, fun _ => rfl⟩
  | cons f fs =>
    have hnonempty : (k.buffer ++ (f :: fs).toArray).isEmpty = false := by simp
    have hwrite := Worker.write_memory (k := { k with buffer := k.buffer ++ (f :: fs).toArray })
      hnonempty m
    have hloaded : (⟨some k, n⟩ : Writer).loaded (f :: fs) =
        ⟨some { k with buffer := k.buffer ++ (f :: fs).toArray }, n + (f :: fs).length⟩ := rfl
    rw [flush, run_onWriter]
    dsimp only
    rw [hloaded, Writer.flush_running, hwrite]
    simp only [Worker.outcome, hfailure]
    refine ⟨_, _, rfl, ⟨_, rfl, rfl, rfl, rfl⟩, ⟨m.clock m.reads, ?_⟩, fun h => ?_⟩
    · simp [hbuffer]
    · cases h

namespace Staging

variable {d : Desk Memory}

/-- An execution ends with a flush, which takes back nothing that was staged. -/
theorem grows_end (b : Backend Memory) (n : Nat) :
    Grows (flush b.sink >>= fun _ => (pure n : Staging Memory Nat)) := fun m =>
  keeps_bind (closed_staged b m).flush fun _ => keeps_pure _

/-- At the end of an execution all that was staged is written. -/
theorem run_end (hd : d.writer.Idle) (fs : List Fact) (notices : Array Notice) (n : Nat) :
    ∃ d', (flush Memory.sink >>= fun _ => (pure n : Staging Memory Nat)).run
      ⟨d.writer.loaded fs, d.storage, notices⟩ = (.ok n, d') ∧ d.Wrote fs d' := by
  obtain ⟨written, d', hflush, hwrote⟩ := run_flush hd fs notices
  refine ⟨d', ?_, hwrote⟩
  rw [run_bind_ok hflush, run_pure]

/-- A store in memory says whether it holds a statement, and stays as it is. -/
theorem run_holds_memory (limit : Nat) (t : Statement) (d : Desk Memory) :
    (holds (Memory.backend limit).responder t).run d = (.ok (d.storage.store.holds t), d) := rfl

end Staging

end RdfReasoner
