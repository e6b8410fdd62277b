import Mathlib.Algebra.GroupWithZero.Nat
import RdfReasoner.Proofs.Staging

/-!
# What a worker hands over and what it replies

A worker takes one event after the other, until it is told to stop or whoever staged is lost.
`Watched` is a worker together with the storage behind it and a record of all that could be seen
from outside: every batch with the answer of the storage, and every reply, in the order in which
they happened.  Watching changes nothing (`Watched.next_eq_handle`).

Nothing is assumed of the storage.  It may accept a batch with any number or refuse it.  Whatever it
does, the batches and the buffer are what was staged (`Watched.handed_append_buffer`), and every
reply is the verdict on the batches since the reply before it (`Watched.reply_eq_verdict`).  A batch
that is refused is not handed over again; it shows in one reply and in no other.
-/

namespace RdfReasoner

variable {σ : Type}

/-! ## Events -/

namespace Event

/-- The fact that is staged. -/
def fact? : Event → Option Fact
  | stage f => some f
  | _ => none

/-- Whether somebody waits for a reply. -/
def wantsReply : Event → Bool
  | flush | shutdown => true
  | _ => false

/-- Whether nothing follows. -/
def isLast : Event → Bool
  | shutdown | disconnect => true
  | _ => false

/-- The events that a worker takes: those up to the first that nothing follows. -/
def taken : List Event → List Event
  | [] => []
  | e :: rest => e :: if e.isLast then [] else taken rest

end Event

/-! ## The worker at each event -/

namespace Worker

variable (sink : Sink σ) (w : Worker) (m : σ)

theorem settle_eq : w.settle sink m =
    (({ (w.write sink m).1 with written := 0, failure := none }, (w.write sink m).1.outcome),
      (w.write sink m).2) := rfl

theorem handle_stage (f : Fact) : w.handle sink (.stage f) m =
    (((w.stage sink f m).1, none), (w.stage sink f m).2) := rfl

theorem handle_idle : w.handle sink .idle m =
    (((w.write sink m).1, none), (w.write sink m).2) := rfl

theorem handle_disconnect : w.handle sink .disconnect m =
    (((w.settle sink m).1.1, none), (w.settle sink m).2) := rfl

theorem handle_flush : w.handle sink .flush m =
    (((w.settle sink m).1.1, some (w.settle sink m).1.2), (w.settle sink m).2) := rfl

theorem handle_shutdown : w.handle sink .shutdown m =
    (((w.settle sink m).1.1, some (w.settle sink m).1.2), (w.settle sink m).2) := rfl

end Worker

/-! ## Watching a worker -/

/-- A batch that was handed over, and what the storage said. -/
structure Handed where
  facts : List Fact
  answer : Reply

/-- What can be seen of a worker. -/
inductive Deed
  | handed (h : Handed)
  | replied (r : Reply)

namespace Deed

/-- The batch that was handed over. -/
def handed? : Deed → Option Handed
  | handed h => some h
  | replied _ => none

/-- The reply that was given. -/
def reply? : Deed → Option Reply
  | handed _ => none
  | replied r => some r

end Deed

/-- A sink that writes down what it is handed and what it answers. -/
def Sink.recorded (sink : Sink σ) : Sink (σ × List Deed) := fun facts s =>
  ((sink facts s.1).1, (sink facts s.1).2, s.2 ++ [.handed ⟨facts, (sink facts s.1).1⟩])

/-- A worker, the storage behind it, and all that could be seen of it. -/
structure Watched (σ : Type) where
  worker : Worker
  storage : σ
  deeds : List Deed := []

namespace Watched

/-- A worker that has nothing to write and has done nothing. -/
def start (batchSize : Nat) (storage : σ) : Watched σ := ⟨.ofBatchSize batchSize, storage, []⟩

/-- The worker takes an event. -/
def next (sink : Sink σ) (s : Watched σ) (e : Event) : Watched σ :=
  let ((worker, reply), storage, deeds) := s.worker.handle sink.recorded e (s.storage, s.deeds)
  ⟨worker, storage, deeds ++ reply.toList.map .replied⟩

/-- The worker takes events until one that nothing follows. -/
def run (sink : Sink σ) (s : Watched σ) : List Event → Watched σ
  | [] => s
  | e :: rest => if e.isLast then s.next sink e else (s.next sink e).run sink rest

/-- The batches that were handed over. -/
def handed (s : Watched σ) : List Handed := s.deeds.filterMap Deed.handed?

/-- The replies that were given. -/
def replies (s : Watched σ) : List Reply := s.deeds.filterMap Deed.reply?

variable {sink : Sink σ} {s : Watched σ}

/-- What every event keeps is kept to the end. -/
theorem run_of_next {P : Watched σ → Prop} (hnext : ∀ s e, P s → P (s.next sink e)) (hs : P s)
    (events : List Event) : P (s.run sink events) := by
  induction events generalizing s with
  | nil => exact hs
  | cons e rest ih =>
    rw [run]
    split
    · exact hnext s e hs
    · exact ih (hnext s e hs)

/-! ## One event -/

/-- The worker hands its buffer over. -/
def write (sink : Sink σ) (s : Watched σ) : Watched σ :=
  let (worker, storage, deeds) := s.worker.write sink.recorded (s.storage, s.deeds)
  ⟨worker, storage, deeds⟩

/-- The worker takes a fact into its buffer. -/
def push (s : Watched σ) (f : Fact) : Watched σ :=
  { s with worker := { s.worker with buffer := s.worker.buffer.push f } }

/-- The worker begins to count anew. -/
def reset (s : Watched σ) : Watched σ :=
  { s with worker := { s.worker with written := 0, failure := none } }

/-- The worker replies, and begins to count anew. -/
def reply (s : Watched σ) : Watched σ :=
  { s.reset with deeds := s.deeds ++ [.replied s.worker.outcome] }

/-- What an event makes a worker do. -/
theorem next_eq (sink : Sink σ) (s : Watched σ) (e : Event) :
    s.next sink e = match e with
      | .stage f =>
        if s.worker.batchSize ≤ s.worker.buffer.size + 1 then (s.push f).write sink else s.push f
      | .idle => s.write sink
      | .flush | .shutdown => (s.write sink).reply
      | .disconnect => (s.write sink).reset := by
  cases e with
  | stage f =>
    simp only [next, Worker.handle, Worker.stage, Array.size_push]
    by_cases hfull : s.worker.batchSize ≤ s.worker.buffer.size + 1
    · rw [if_pos hfull, if_pos hfull]
      exact congrArg (Watched.mk _ _) (List.append_nil _)
    · rw [if_neg hfull, if_neg hfull]
      exact congrArg (Watched.mk _ _) (List.append_nil _)
  | idle => exact congrArg (Watched.mk _ _) (List.append_nil _)
  | disconnect => exact congrArg (Watched.mk _ _) (List.append_nil _)
  | flush => rfl
  | shutdown => rfl

/-- A buffer with something in it is one more batch. -/
theorem write_of_nonempty (sink : Sink σ) (h : s.worker.buffer.isEmpty = false) :
    ∃ answer storage, sink s.worker.buffer.toList s.storage = (answer, storage) ∧
      s.write sink = ⟨(match answer with
        | .ok new => { s.worker with buffer := #[], written := s.worker.written + new }
        | .error e =>
          { s.worker with buffer := #[], failure := s.worker.failure.or (some e) }),
        storage, s.deeds ++ [.handed ⟨s.worker.buffer.toList, answer⟩]⟩ := by
  rcases hsink : sink s.worker.buffer.toList s.storage with ⟨answer, storage⟩
  have hrecorded : sink.recorded s.worker.buffer.toList (s.storage, s.deeds) =
      (answer, storage, s.deeds ++ [.handed ⟨s.worker.buffer.toList, answer⟩]) := by
    rw [Sink.recorded]
    simp only [hsink]
  refine ⟨answer, storage, rfl, ?_⟩
  cases answer with
  | ok new => rw [write, Worker.write_kept h hrecorded]
  | error e => rw [write, Worker.write_refused h hrecorded]

/-- An empty buffer is no batch. -/
theorem write_of_empty (h : s.worker.buffer.isEmpty = true) : s.write sink = s := by
  rw [write, Worker.write_empty h]

theorem handed_reply (s : Watched σ) : s.reply.handed = s.handed := by
  rw [handed, reply, List.filterMap_append]
  exact List.append_nil _

/-- Handing the buffer over is the same unwatched, and all that is seen is a batch, if any. -/
theorem write_eq (sink : Sink σ) (s : Watched σ) :
    s.worker.write sink s.storage = ((s.write sink).worker, (s.write sink).storage) ∧
      ∃ batches : List Handed, (s.write sink).deeds = s.deeds ++ batches.map .handed := by
  rcases hempty : s.worker.buffer.isEmpty with _ | _
  · obtain ⟨answer, storage, hsink, hwrite⟩ := write_of_nonempty sink hempty
    rw [hwrite]
    refine ⟨?_, [⟨s.worker.buffer.toList, answer⟩], rfl⟩
    cases answer with
    | ok new => exact Worker.write_kept hempty hsink
    | error e => exact Worker.write_refused hempty hsink
  · rw [write_of_empty hempty]
    exact ⟨Worker.write_empty hempty, [], (List.append_nil _).symm⟩

theorem buffer_write (sink : Sink σ) (s : Watched σ) : (s.write sink).worker.buffer = #[] := by
  have hwrite := s.worker.buffer_write sink s.storage
  rwa [(write_eq sink s).1] at hwrite

/-- Watching changes nothing: the worker, the storage and the reply after an event are the same as
for a worker that nobody watches.  What is seen are the batches, and then the reply if there is
one. -/
theorem next_eq_handle (sink : Sink σ) (s : Watched σ) (e : Event) :
    ∃ (batches : List Handed) (reply : Option Reply),
      s.worker.handle sink e s.storage =
        (((s.next sink e).worker, reply), (s.next sink e).storage) ∧
      (s.next sink e).deeds =
        s.deeds ++ batches.map .handed ++ reply.toList.map .replied := by
  obtain ⟨hwrite, batches, hdeeds⟩ := write_eq sink s
  rw [next_eq]
  cases e with
  | stage f =>
    obtain ⟨hpush, pushed, hpushed⟩ := write_eq sink (s.push f)
    have hstage : s.worker.stage sink f s.storage =
        if s.worker.batchSize ≤ s.worker.buffer.size + 1 then
          (s.push f).worker.write sink (s.push f).storage
        else ((s.push f).worker, s.storage) := by
      rw [Worker.stage, Array.size_push]
      split <;> rfl
    rw [Worker.handle_stage, hstage]
    dsimp only
    split
    · exact ⟨pushed, none, by rw [hpush], hpushed.trans (List.append_nil _).symm⟩
    · exact ⟨[], none, rfl, by simp [push]⟩
  | idle =>
    rw [Worker.handle_idle, hwrite]
    exact ⟨batches, none, rfl, hdeeds.trans (List.append_nil _).symm⟩
  | flush =>
    rw [Worker.handle_flush, Worker.settle_eq, hwrite]
    exact ⟨batches, some (s.write sink).worker.outcome, rfl, congrArg (· ++ _) hdeeds⟩
  | shutdown =>
    rw [Worker.handle_shutdown, Worker.settle_eq, hwrite]
    exact ⟨batches, some (s.write sink).worker.outcome, rfl, congrArg (· ++ _) hdeeds⟩
  | disconnect =>
    rw [Worker.handle_disconnect, Worker.settle_eq, hwrite]
    exact ⟨batches, none, rfl, hdeeds.trans (List.append_nil _).symm⟩

/-! ## Nothing is lost, and nothing comes twice -/

/-- What was handed over and what is in the buffer is what was staged; no batch is empty or too
long. -/
structure Orderly (batchSize : Nat) (staged : List Fact) (s : Watched σ) : Prop where
  batchSize_eq : s.worker.batchSize = batchSize
  staged_eq : s.handed.flatMap (·.facts) ++ s.worker.buffer.toList = staged
  batches : ∀ h ∈ s.handed, h.facts ≠ [] ∧ h.facts.length ≤ batchSize

variable {batchSize : Nat} {staged : List Fact}

/-- Handing the buffer over keeps the order. -/
theorem Orderly.write (h : s.Orderly batchSize staged) (hroom : s.worker.buffer.size ≤ batchSize)
    (sink : Sink σ) : (s.write sink).Orderly batchSize staged := by
  rcases hempty : s.worker.buffer.isEmpty with _ | _
  · obtain ⟨answer, storage, -, hwrite⟩ := write_of_nonempty sink hempty
    have hhanded : (s.write sink).handed =
        s.handed ++ [⟨s.worker.buffer.toList, answer⟩] := by
      rw [hwrite]
      exact List.filterMap_append
    have hbatch : s.worker.buffer.toList ≠ [] ∧ s.worker.buffer.toList.length ≤ batchSize :=
      ⟨by simpa using hempty, by simpa using hroom⟩
    refine ⟨?_, ?_, ?_⟩
    · rw [hwrite]
      cases answer <;> exact h.batchSize_eq
    · rw [hhanded, buffer_write, ← h.staged_eq]
      simp
    · rw [hhanded]
      intro b hb
      rcases List.mem_append.mp hb with hold | hnew
      · exact h.batches b hold
      · exact List.mem_singleton.mp hnew ▸ hbatch
  · rwa [write_of_empty hempty]

/-- Replying and counting anew change neither the batches nor the buffer. -/
theorem Orderly.reply (h : s.Orderly batchSize staged) : s.reply.Orderly batchSize staged :=
  ⟨h.batchSize_eq, by rw [handed_reply]; exact h.staged_eq, by rw [handed_reply]; exact h.batches⟩

theorem Orderly.reset (h : s.Orderly batchSize staged) : s.reset.Orderly batchSize staged :=
  ⟨h.batchSize_eq, h.staged_eq, h.batches⟩

theorem Orderly.push (h : s.Orderly batchSize staged) (f : Fact) :
    (s.push f).Orderly batchSize (staged ++ [f]) := by
  refine ⟨h.batchSize_eq, ?_, h.batches⟩
  rw [← h.staged_eq, List.append_assoc]
  exact congrArg _ Array.toList_push

/-- Every event keeps the order, and leaves room in the buffer. -/
theorem Orderly.next (h : s.Orderly batchSize staged) (hroom : s.worker.buffer.size < batchSize)
    (sink : Sink σ) (e : Event) :
    (s.next sink e).Orderly batchSize (staged ++ e.fact?.toList) ∧
      (s.next sink e).worker.buffer.size < batchSize := by
  have hwrite : (s.write sink).Orderly batchSize (staged ++ []) := by
    rw [List.append_nil]
    exact h.write (Nat.le_of_lt hroom) sink
  have hempty (t : Watched σ) (ht : t.worker.buffer = #[]) : t.worker.buffer.size < batchSize := by
    rw [ht]
    exact Nat.zero_lt_of_lt hroom
  rw [next_eq]
  cases e with
  | stage f =>
    have hpush := h.push f
    have hsize : (s.push f).worker.buffer.size = s.worker.buffer.size + 1 := Array.size_push _
    dsimp only
    split
    · exact ⟨hpush.write (by omega) sink, hempty _ (buffer_write _ _)⟩
    · next hsmall =>
      rw [h.batchSize_eq] at hsmall
      exact ⟨hpush, by omega⟩
  | idle => exact ⟨hwrite, hempty _ (buffer_write _ _)⟩
  | flush => exact ⟨hwrite.reply, hempty _ (buffer_write _ _)⟩
  | shutdown => exact ⟨hwrite.reply, hempty _ (buffer_write _ _)⟩
  | disconnect => exact ⟨hwrite.reset, hempty _ (buffer_write _ _)⟩

theorem Orderly.run (h : s.Orderly batchSize staged) (hroom : s.worker.buffer.size < batchSize)
    (sink : Sink σ) (events : List Event) :
    (s.run sink events).Orderly batchSize
        (staged ++ (Event.taken events).filterMap Event.fact?) ∧
      (s.run sink events).worker.buffer.size < batchSize := by
  induction events generalizing s staged with
  | nil =>
    rw [Event.taken, List.filterMap_nil, List.append_nil]
    exact ⟨h, hroom⟩
  | cons e rest ih =>
    obtain ⟨hnext, hroom⟩ := h.next hroom sink e
    have hstaged (es : List Event) : (e :: es).filterMap Event.fact? =
        e.fact?.toList ++ es.filterMap Event.fact? := by
      cases e <;> rfl
    rw [Watched.run, Event.taken, hstaged, ← List.append_assoc]
    split
    · rw [List.filterMap_nil, List.append_nil]
      exact ⟨hnext, hroom⟩
    · exact ih hnext hroom

/-- Whatever is not staging leaves nothing in the buffer. -/
theorem buffer_next {e : Event} (h : e.fact? = none) : (s.next sink e).worker.buffer = #[] := by
  rw [next_eq]
  cases e with
  | stage f => cases h
  | idle => exact buffer_write sink s
  | flush => exact buffer_write sink s
  | shutdown => exact buffer_write sink s
  | disconnect => exact buffer_write sink s

/-- So nothing is left in the buffer behind such an event, nor once the worker has stopped. -/
theorem buffer_run_concat {e : Event} (h : e.fact? = none) (events : List Event) :
    (s.run sink (events ++ [e])).worker.buffer = #[] := by
  induction events generalizing s with
  | nil =>
    rw [List.nil_append, run, run, ite_self]
    exact buffer_next h
  | cons e' rest ih =>
    rw [List.cons_append, run]
    split
    · next hlast =>
      have hfact : e'.fact? = none := by
        cases e' with
        | stage => cases hlast
        | flush | idle | shutdown | disconnect => rfl
      exact buffer_next hfact
    · exact ih

/-- A worker hands over what was staged, in its order and everything once.  After any events the
batches that were handed over and then the buffer are the facts that were staged; no batch is empty
or larger than the batch size; the buffer has room for another fact; and it is empty behind every
event that is not staging. -/
theorem handed_append_buffer (sink : Sink σ) (storage : σ) (batchSize : Nat)
    (events : List Event) :
    let s := (start batchSize storage).run sink events
    s.handed.flatMap (·.facts) ++ s.worker.buffer.toList =
        (Event.taken events).filterMap Event.fact? ∧
      (∀ h ∈ s.handed, h.facts ≠ [] ∧ h.facts.length ≤ max batchSize 1) ∧
      s.worker.buffer.size < max batchSize 1 ∧
      ∀ e, Event.fact? e = none →
        ((start batchSize storage).run sink (events ++ [e])).worker.buffer = #[] := by
  have hstart : (start batchSize storage).Orderly (max batchSize 1) [] :=
    ⟨rfl, rfl, List.forall_mem_nil _⟩
  have hroom : (start batchSize storage).worker.buffer.size < max batchSize 1 :=
    Nat.lt_of_lt_of_le Nat.one_pos (Nat.le_max_right _ _)
  obtain ⟨horderly, hroom⟩ := hstart.run hroom sink events
  exact ⟨horderly.staged_eq, horderly.batches, hroom, fun e he => buffer_run_concat he events⟩

end Watched

/-! ## Accounts

Replies divide what a worker did into intervals.  An interval has the batches since the reply
before it, and the reply that ends it. -/

/-- The number of facts that are new according to an answer. -/
def newFacts (answer : Reply) : Nat := answer.toOption.getD 0

/-- What there is to say of some answers: the first refusal, or else how many facts are new. -/
def verdict (answers : List Reply) : Reply :=
  match firstError? answers with
  | some e => .error e
  | none => .ok (answers.map newFacts).sum

/-- Batches, and the reply that came behind them. -/
structure Interval where
  handed : List Handed
  reply : Reply

namespace Interval

/-- The reply is the verdict on the batches. -/
def Truthful (i : Interval) : Prop := i.reply = verdict (i.handed.map (·.answer))

/-- Without refusals the number in a truthful reply is that of the new facts. -/
theorem Truthful.newFacts_reply {i : Interval} (h : i.Truthful)
    (hkept : ∀ b ∈ i.handed, ∃ new, b.answer = .ok new) :
    newFacts i.reply = (i.handed.map fun b => newFacts b.answer).sum := by
  have hnone : firstError? (i.handed.map (·.answer)) = none :=
    firstError?_eq_none.mpr (List.forall_mem_map.mpr hkept)
  rw [h, verdict, hnone, List.map_map]
  rfl

/-- A truthful reply is a refusal exactly if one of the batches was refused. -/
theorem Truthful.refused_iff {i : Interval} (h : i.Truthful) :
    (∃ e, i.reply = .error e) ↔ ∃ b ∈ i.handed, ∃ e, b.answer = .error e := by
  have hkept (answer : Reply) : (∃ e, answer = .error e) ↔ ¬ ∃ new, answer = .ok new := by
    cases answer <;> simp
  have hverdict (answers : List Reply) :
      (∃ new, verdict answers = .ok new) ↔ firstError? answers = none := by
    rw [verdict]
    cases firstError? answers <;> simp
  rw [h, hkept, hverdict, firstError?_eq_none]
  simp only [hkept, List.forall_mem_map, not_forall, exists_prop]

end Interval

/-- The intervals that ended with a reply, and the batches since the last of them. -/
structure Account where
  closed : List Interval := []
  current : List Handed := []

namespace Account

/-- The account after one more deed. -/
def add (a : Account) : Deed → Account
  | .handed b => { a with current := a.current ++ [b] }
  | .replied r => ⟨a.closed ++ [⟨a.current, r⟩], []⟩

/-- The account of some deeds. -/
def ofDeeds (deeds : List Deed) : Account := deeds.foldl add {}

/-- All batches, those of the intervals first. -/
def handed (a : Account) : List Handed := a.closed.flatMap (·.handed) ++ a.current

theorem ofDeeds_concat (deeds : List Deed) (d : Deed) :
    ofDeeds (deeds ++ [d]) = (ofDeeds deeds).add d := List.foldl_concat ..

/-- Every batch is in one interval or comes behind the last of them. -/
theorem handed_ofDeeds (deeds : List Deed) :
    (ofDeeds deeds).handed = deeds.filterMap Deed.handed? := by
  induction deeds using List.reverseRecOn with
  | nil => rfl
  | append_singleton deeds d ih =>
    rw [ofDeeds_concat, List.filterMap_append, ← ih, handed, handed]
    cases d with
    | handed b => exact (List.append_assoc ..).symm
    | replied r => simp [add, Deed.handed?]

/-- Every reply ends one interval. -/
theorem map_reply_ofDeeds (deeds : List Deed) :
    (ofDeeds deeds).closed.map (·.reply) = deeds.filterMap Deed.reply? := by
  induction deeds using List.reverseRecOn with
  | nil => rfl
  | append_singleton deeds d ih =>
    rw [ofDeeds_concat, List.filterMap_append, ← ih]
    cases d with
    | handed b => exact (List.append_nil _).symm
    | replied r => exact List.map_append

/-- What is new according to all batches is what is new according to the replies, and to the batches
behind the last of them. -/
theorem sum_newFacts {a : Account} (hclosed : ∀ i ∈ a.closed, i.Truthful)
    (hkept : ∀ b ∈ a.handed, ∃ new, b.answer = .ok new) :
    (a.handed.map fun b => newFacts b.answer).sum =
      ((a.closed.map (·.reply)).map newFacts).sum +
        (a.current.map fun b => newFacts b.answer).sum := by
  have hbatches : ((a.closed.flatMap (·.handed)).map fun b => newFacts b.answer).sum =
      (a.closed.map fun i => (i.handed.map fun b => newFacts b.answer).sum).sum := by
    rw [List.map_flatMap, List.flatMap_def, List.sum_flatten, List.map_map]
    rfl
  have hinterval : ∀ i ∈ a.closed, (i.handed.map fun b => newFacts b.answer).sum =
      newFacts i.reply := fun i hi =>
    ((hclosed i hi).newFacts_reply fun b hb =>
      hkept b (List.mem_append_left _ (List.mem_flatMap.mpr ⟨i, hi, hb⟩))).symm
  rw [handed, List.map_append, List.sum_append, hbatches, List.map_congr_left hinterval,
    List.map_map]
  rfl

end Account

namespace Watched

variable {sink : Sink σ} {s : Watched σ}

/-- The account of what a worker did. -/
def account (s : Watched σ) : Account := .ofDeeds s.deeds

/-- Every batch is in one interval, or behind the last reply. -/
theorem handed_account (s : Watched σ) : s.account.handed = s.handed :=
  Account.handed_ofDeeds s.deeds

/-- Every reply ends one interval. -/
theorem map_reply_account (s : Watched σ) : s.account.closed.map (·.reply) = s.replies :=
  Account.map_reply_ofDeeds s.deeds

/-- What the worker counts and remembers is what the batches since the last reply come to. -/
structure Tallied (s : Watched σ) : Prop where
  written : s.worker.written = (s.account.current.map fun b => newFacts b.answer).sum
  failure : s.worker.failure = firstError? (s.account.current.map (·.answer))

theorem account_handed (s : Watched σ) (worker : Worker) (storage : σ) (b : Handed) :
    (⟨worker, storage, s.deeds ++ [.handed b]⟩ : Watched σ).account =
      { s.account with current := s.account.current ++ [b] } :=
  Account.ofDeeds_concat s.deeds (.handed b)

theorem account_reply (s : Watched σ) :
    s.reply.account = ⟨s.account.closed ++ [⟨s.account.current, s.worker.outcome⟩], []⟩ :=
  Account.ofDeeds_concat s.deeds (.replied s.worker.outcome)

/-- Handing the buffer over ends no interval, and is counted. -/
theorem Tallied.write (h : s.Tallied) (sink : Sink σ) :
    (s.write sink).Tallied ∧ (s.write sink).account.closed = s.account.closed := by
  rcases hempty : s.worker.buffer.isEmpty with _ | _
  · obtain ⟨answer, storage, -, hwrite⟩ := write_of_nonempty sink hempty
    rw [hwrite]
    refine ⟨⟨?_, ?_⟩, ?_⟩
    · rw [account_handed, List.map_append, List.sum_append, ← h.written]
      cases answer <;> simp [newFacts, Except.toOption]
    · rw [account_handed, List.map_append, firstError?_append, ← h.failure]
      cases answer <;> simp [firstError?]
    · rw [account_handed]
  · rw [write_of_empty hempty]
    exact ⟨h, rfl⟩

/-- What the worker has to say is the verdict on the batches since the last reply. -/
theorem Tallied.outcome (h : s.Tallied) :
    s.worker.outcome = verdict (s.account.current.map (·.answer)) := by
  rw [Worker.outcome, verdict, h.failure, h.written, List.map_map]
  rfl

/-- A reply is truthful, and begins a new interval. -/
theorem Tallied.reply (h : s.Tallied) :
    s.reply.Tallied ∧ ∃ i : Interval, i.Truthful ∧
      s.reply.account.closed = s.account.closed ++ [i] := by
  refine ⟨⟨?_, ?_⟩, ⟨_, _⟩, h.outcome, ?_⟩
  · rw [account_reply]
    rfl
  · rw [account_reply]
    rfl
  · rw [account_reply]
    rfl

/-- An event that a reply is wanted for gets one, a truthful one; no other event gets any. -/
theorem Tallied.next (h : s.Tallied) (hclosed : ∀ i ∈ s.account.closed, i.Truthful) (sink : Sink σ)
    (e : Event) :
    (∀ i ∈ (s.next sink e).account.closed, i.Truthful) ∧
      (e ≠ .disconnect → (s.next sink e).Tallied) := by
  obtain ⟨hwrite, hwritten⟩ := h.write sink
  rw [← hwritten] at hclosed
  have hreply : ∀ i ∈ (s.write sink).reply.account.closed, i.Truthful := by
    obtain ⟨-, i, hi, heq⟩ := hwrite.reply
    rw [heq, List.forall_mem_append, List.forall_mem_singleton]
    exact ⟨hclosed, hi⟩
  have hpush (f : Fact) : (s.push f).Tallied := ⟨h.written, h.failure⟩
  rw [next_eq]
  cases e with
  | stage f =>
    dsimp only
    split
    · obtain ⟨htallied, heq⟩ := (hpush f).write sink
      rw [heq]
      exact ⟨hwritten ▸ hclosed, fun _ => htallied⟩
    · exact ⟨hwritten ▸ hclosed, fun _ => hpush f⟩
  | idle => exact ⟨hclosed, fun _ => hwrite⟩
  | flush => exact ⟨hreply, fun _ => hwrite.reply.1⟩
  | shutdown => exact ⟨hreply, fun _ => hwrite.reply.1⟩
  | disconnect => exact ⟨hclosed, fun h => absurd rfl h⟩

theorem Tallied.run (h : s.Tallied) (hclosed : ∀ i ∈ s.account.closed, i.Truthful)
    (sink : Sink σ) (events : List Event) :
    ∀ i ∈ (s.run sink events).account.closed, i.Truthful := by
  induction events generalizing s with
  | nil => exact hclosed
  | cons e rest ih =>
    obtain ⟨hclosed, htallied⟩ := h.next hclosed sink e
    rw [Watched.run]
    split
    · exact hclosed
    · next hlast => exact ih (htallied (by rintro rfl; exact hlast rfl)) hclosed

/-- Handing the buffer over is no reply. -/
theorem replies_write (sink : Sink σ) (s : Watched σ) : (s.write sink).replies = s.replies := by
  rcases hempty : s.worker.buffer.isEmpty with _ | _
  · obtain ⟨answer, storage, -, hwrite⟩ := write_of_nonempty sink hempty
    rw [hwrite, replies, List.filterMap_append]
    exact List.append_nil _
  · rw [write_of_empty hempty]

/-- Events get the replies that are wanted. -/
theorem length_replies_next (sink : Sink σ) (s : Watched σ) (e : Event) :
    (s.next sink e).replies.length = s.replies.length + if e.wantsReply then 1 else 0 := by
  have hreply : (s.write sink).reply.replies.length = s.replies.length + 1 := by
    rw [replies, reply, List.filterMap_append, List.length_append, ← replies_write sink s]
    rfl
  rw [next_eq]
  cases e with
  | stage f =>
    dsimp only
    split
    · rw [replies_write]
      rfl
    · rfl
  | idle => exact congrArg List.length (replies_write sink s)
  | flush => exact hreply
  | shutdown => exact hreply
  | disconnect => exact congrArg List.length (replies_write sink s)

theorem length_replies_run (sink : Sink σ) (s : Watched σ) (events : List Event) :
    (s.run sink events).replies.length =
      s.replies.length + (Event.taken events).countP Event.wantsReply := by
  induction events generalizing s with
  | nil => rfl
  | cons e rest ih =>
    have hnext := length_replies_next sink s e
    rw [run, Event.taken, List.countP_cons]
    split
    · rw [hnext, List.countP_nil, Nat.zero_add]
    · rw [ih, hnext]
      omega

/-- Behind a reply there is no batch yet. -/
theorem current_next {e : Event} (h : e.wantsReply = true) :
    (s.next sink e).account.current = [] := by
  have hreply : (s.write sink).reply.account.current = [] := by rw [account_reply]
  rw [next_eq]
  cases e with
  | stage f => cases h
  | idle => cases h
  | flush => exact hreply
  | shutdown => exact hreply
  | disconnect => cases h

theorem current_run_concat {e : Event} (h : e.wantsReply = true) {events : List Event}
    (hkept : Event.disconnect ∉ events) :
    (s.run sink (events ++ [e])).account.current = [] := by
  induction events generalizing s with
  | nil =>
    rw [List.nil_append, run, run, ite_self]
    exact current_next h
  | cons e' rest ih =>
    obtain ⟨he', hrest⟩ := not_or.mp (mt List.mem_cons.mpr hkept)
    rw [List.cons_append, run]
    split
    · next hlast =>
      have hshutdown : e' = .shutdown := by
        cases e' with
        | shutdown => rfl
        | disconnect => exact absurd rfl he'
        | stage | flush | idle => cases hlast
      rw [hshutdown]
      exact current_next rfl
    · exact ih hrest

/-! ## Storages that never fail -/

/-- A store in memory accepts every batch, and grows by what it says is new. -/
structure Grown (size : Nat) (s : Watched Memory) : Prop where
  size_eq : s.storage.store.size = size + (s.handed.map fun b => newFacts b.answer).sum
  kept : ∀ b ∈ s.handed, ∃ new, b.answer = .ok new

theorem Grown.write {size : Nat} {s : Watched Memory} (h : s.Grown size) :
    (s.write Memory.sink).Grown size := by
  rcases hempty : s.worker.buffer.isEmpty with _ | _
  · obtain ⟨answer, storage, hsink, hwrite⟩ := write_of_nonempty Memory.sink hempty
    obtain ⟨rfl, rfl⟩ := Prod.mk.inj hsink
    have hhanded : (s.write Memory.sink).handed = s.handed ++
        [⟨s.worker.buffer.toList, .ok (s.storage.store.insertAll
          (s.storage.clock s.storage.reads) s.worker.buffer.toList).2⟩] := by
      rw [hwrite]
      exact List.filterMap_append
    refine ⟨?_, ?_⟩
    · rw [hhanded, hwrite, List.map_append, List.sum_append, ← Nat.add_assoc, ← h.size_eq]
      exact Store.size_insertAll _ _ _
    · rw [hhanded, List.forall_mem_append, List.forall_mem_singleton]
      exact ⟨h.kept, _, rfl⟩
  · rw [write_of_empty hempty]
    exact h

theorem Grown.reply {size : Nat} {s : Watched Memory} (h : s.Grown size) :
    s.reply.Grown size := by
  exact ⟨by rw [handed_reply]; exact h.size_eq, by rw [handed_reply]; exact h.kept⟩

theorem Grown.next {size : Nat} {s : Watched Memory} (h : s.Grown size) (e : Event) :
    (s.next Memory.sink e).Grown size := by
  rw [next_eq]
  cases e with
  | stage f =>
    have hpush : (s.push f).Grown size := ⟨h.size_eq, h.kept⟩
    dsimp only
    split
    · exact hpush.write
    · exact hpush
  | idle => exact h.write
  | flush => exact h.write.reply
  | shutdown => exact h.write.reply
  | disconnect => exact ⟨h.write.size_eq, h.write.kept⟩

/-- Replies tell the truth. -/
theorem reply_eq_verdict (batchSize : Nat) (events : List Event) :
    (∀ {σ : Type} (sink : Sink σ) (storage : σ),
      let s := (start batchSize storage).run sink events
      s.replies.length = (Event.taken events).countP Event.wantsReply ∧
        s.account.closed.map (·.reply) = s.replies ∧
        s.account.closed.flatMap (·.handed) ++ s.account.current = s.handed ∧
        (∀ i ∈ s.account.closed, i.reply = verdict (i.handed.map (·.answer)) ∧
          ((∃ e, i.reply = .error e) ↔ ∃ b ∈ i.handed, ∃ e, b.answer = .error e)) ∧
        ∀ e, Event.wantsReply e = true → Event.disconnect ∉ events →
          ((start batchSize storage).run sink (events ++ [e])).account.current = []) ∧
    ∀ m : Memory,
      let s := (start batchSize m).run Memory.sink events
      (∀ r ∈ s.replies, ∃ new, r = .ok new) ∧
        s.storage.store.size = m.store.size + (s.replies.map newFacts).sum +
          (s.account.current.map fun b => newFacts b.answer).sum := by
  refine ⟨fun sink storage => ?_, fun m => ?_⟩
  · have hstart : (start batchSize storage).Tallied := ⟨rfl, rfl⟩
    have hclosed := hstart.run (List.forall_mem_nil _) sink events
    have hcount := length_replies_run sink (start batchSize storage) events
    rw [show (start batchSize storage).replies.length = 0 from rfl, Nat.zero_add] at hcount
    exact ⟨hcount, map_reply_account _, handed_account _,
      fun i hi => ⟨hclosed i hi, (hclosed i hi).refused_iff⟩,
      fun e he hkept => current_run_concat he hkept⟩
  · have hstart : (start batchSize m).Tallied := ⟨rfl, rfl⟩
    have hclosed := hstart.run (List.forall_mem_nil _) Memory.sink events
    have hgrown : ((start batchSize m).run Memory.sink events).Grown m.store.size :=
      run_of_next (fun _ e h => h.next e) ⟨rfl, List.forall_mem_nil _⟩ events
    generalize (start batchSize m).run Memory.sink events = s at hclosed hgrown
    have hkept : ∀ b ∈ s.account.handed, ∃ new, b.answer = .ok new := by
      rw [handed_account]
      exact hgrown.kept
    have hsum := Account.sum_newFacts hclosed hkept
    rw [handed_account, map_reply_account] at hsum
    refine ⟨fun r hr => ?_, ?_⟩
    · rw [← map_reply_account] at hr
      obtain ⟨i, hi, rfl⟩ := List.mem_map.mp hr
      rcases hreply : i.reply with e | new
      · obtain ⟨b, hb, e, he⟩ := (hclosed i hi).refused_iff.mp ⟨e, hreply⟩
        obtain ⟨new, hnew⟩ :=
          hkept b (List.mem_append_left _ (List.mem_flatMap.mpr ⟨i, hi, hb⟩))
        rw [hnew] at he
        cases he
      · exact ⟨new, rfl⟩
    · rw [hgrown.size_eq, hsum, Nat.add_assoc]

/-- The first batch is refused while nobody waits: the next reply says so, and only that one. -/
example (f g : Fact) :
    ((start 2 0).run (fun _ n => (if n = 0 then .error .writerStopped else .ok 1, n + 1))
      [.stage f, .idle, .stage g, .flush, .flush]).replies = [.error .writerStopped, .ok 0] := by
  cbv

end Watched

end RdfReasoner
