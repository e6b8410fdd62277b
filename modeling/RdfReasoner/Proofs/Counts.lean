import Mathlib.Data.Set.Basic
import RdfReasoner.Proofs.Leftovers

/-!
# What counts tell

An execution counts the facts that it stages.  They enter the store when they are handed over: at
the flush, or before it when a batch fills up.  Whatever waited in the same writer is handed over
with them.  At any time what was handed over and what still waits are together what waited at the
start, followed by what was counted (`Tally`), and a flush that succeeds hands over the rest.

So the count of an execution that succeeds is the growth of the store, but for what waited before:
that enters too, without being counted, unless it is stored or counted in its own right
(`Session.counted_or_leftover`).  Only executions that failed leave anything waiting.

The storage may fail at any time.  Where it does not, its checks are right and the batches that it
takes are kept as a whole (`Backend.Exact`).
-/

namespace RdfReasoner

open Fallible

/-! ## Storages that are exact unless they fail -/

/-- The statement that a record tells of, if it can be read. -/
def Bulk.told : Except Error Json → Option Statement
  | .ok record => (Document.ofJson? record).map (·.statement)
  | .error _ => none

/-- Records tell of what the templates of the plan make, and if it says so of nothing twice. -/
structure Executor.Exact {σ : Type} (v : StoreView σ) (x : Executor σ) : Prop
    extends x.InMemory v where
  made : ∀ plan options m records, (x.start plan options m).1 = .ok records →
    records.Every fun item => ∀ record, item = .ok record →
      ∀ d, Document.ofJson? record = some d → plan.Makes d.statement
  once : ∀ plan options m records, (x.start plan options m).1 = .ok records →
    plan.distinct = true → records.Distinct Bulk.told []

/-- The storage holds what it says it holds, and keeps every batch that it does not refuse. -/
structure Backend.Exact {σ : Type} (v : StoreView σ) (b : Backend σ) : Prop
    extends b.InMemory v where
  holds : ∀ t m held, (b.responder (.holds t) m).1 = .ok held → held = (v.store m).holds t
  takes : ∀ facts m new, (b.sink facts m).1 = .ok new →
    ∃ time, v.store (b.sink facts m).2 = ((v.store m).insertAll time facts).1

namespace Plan

/-- The statement of an output. -/
def said : Except Error Document → Option Statement
  | .ok d => some d.statement
  | .error _ => none

/-- Outputs whose statements came before are dropped. -/
theorem distinct_dropRepeated {limit : Option Nat} {seen : Std.TreeSet Statement}
    {before : List Statement} {s : Sequence (Except Error Document)}
    (hseen : ∀ t ∈ before, t ∈ seen) : (dropRepeated limit seen s).Distinct said before := by
  induction s generalizing seen before with
  | nil => trivial
  | cons item rest ih =>
    rcases item with error | d
    · refine ⟨fun t ht => ?_, ih () hseen⟩
      cases ht
    · rw [dropRepeated]
      split
      · exact ih () hseen
      · next hnew =>
        -- the item is the document, or an error in its place
        have hbehind : ∀ item, (∀ t ∈ said item, t = d.statement) →
            (Sequence.cons item fun _ =>
              dropRepeated limit (seen.insert d.statement) (rest ())).Distinct said before := by
          intro item htells
          refine ⟨fun t ht hmem => ?_, ih () fun t ht => ?_⟩
          · obtain rfl := htells t ht
            exact hnew (hseen _ hmem)
          · rw [Statement.mem_insert_iff]
            exact (List.mem_append.mp ht).imp (fun hitem => htells t (Option.mem_toList.mp hitem))
              (hseen t)
        refine hbehind _ fun t ht => ?_
        split at ht
        · split at ht
          · cases ht
          · exact (Option.some.inj ht).symm
        · exact (Option.some.inj ht).symm
  | ask q next ih => exact fun reply => ih reply hseen

/-- No two records of a plan that puts out every statement once tell of the same. -/
theorem distinct_records {plan : Plan} (h : plan.distinct = true) (options : PlanOptions)
    (limit : Nat) : (plan.records options limit).Distinct Bulk.told [] := by
  have hrun : (plan.run options limit).Distinct said [] := by
    rw [run, if_pos h]
    exact Sequence.distinct_buffered (distinct_dropRepeated (List.forall_mem_nil _))
  refine Sequence.distinct_map hrun (fun item t ht => ?_) (List.forall_mem_nil _)
  rcases item with error | d
  · cases ht
  · have hread : Bulk.told (.ok d.toJson) =
        (if d.level ≤ Document.maxLevel then some d else none).map (·.statement) := by
      rw [Bulk.told, Document.ofJson?_toJson]
    have ht : t ∈ Bulk.told (.ok d.toJson) := ht
    rw [hread] at ht
    split at ht
    · exact ht
    · cases ht

end Plan

/-- Plans that are run on a store in memory. -/
theorem Memory.exact_executor (limit : Nat) : (Memory.executor limit).Exact Memory.view where
  toInMemory := Memory.inMemory_executor limit
  made plan options m records h := by
    obtain rfl := Except.ok.inj h
    refine Plan.every_records ?_ options limit
    exact Sequence.every_mono plan.every_outputs fun _ hitem d hd => (hitem d hd).2
  once plan options m records h hdistinct := by
    obtain rfl := Except.ok.inj h
    exact Plan.distinct_records hdistinct options limit

/-- A store in memory. -/
theorem Memory.exact_backend (limit : Nat) : (Memory.backend limit).Exact Memory.view where
  toInMemory := Memory.inMemory_backend limit
  holds _ _ _ h := (Except.ok.inj h).symm
  takes _ m _ _ := ⟨m.clock m.reads, rfl⟩

/-! ## What was handed over and what still waits -/

/-- The first refusal of a batch that was not replied yet. -/
def Writer.refusal? (w : Writer) : Option Error := w.worker.bind (·.failure)

/-- As long as no batch was refused, some facts were handed over in order, but for those that still
wait, and the store took them behind what it held at the start. -/
structure Tally {σ : Type} (v : StoreView σ) (start : Store) (given : List Fact) (w : Writer)
    (m : σ) : Prop where
  kept : start.statements ⊆ (v.store m).statements
  balance : w.refusal? = none → ∃ handed, handed ++ w.pending = given ∧
    start.Took (handed.map (·.statement)) (v.store m)

section tallies

variable {σ : Type} {v : StoreView σ} {b : Backend σ} {start : Store} {given : List Fact} {m : σ}

/-- At the start nothing was handed over. -/
theorem Tally.of_pending (v : StoreView σ) (w : Writer) (m : σ) :
    Tally v (v.store m) w.pending w m where
  kept _ ht := ht
  balance _ := ⟨[], rfl, Store.took_nil _⟩

/-- Handing the buffer over keeps the tally. -/
theorem Worker.tally_write (hb : b.Exact v) {k : Worker} {n n' : Nat}
    (h : Tally v start given ⟨some k, n⟩ m) :
    Tally v start given ⟨some (k.write b.sink m).1, n'⟩ (k.write b.sink m).2 := by
  rcases hempty : k.buffer.isEmpty with _ | _
  · rcases hsink : b.sink k.buffer.toList m with ⟨error | new, m'⟩
    · -- a refusal stays until it is replied; what was kept of the batch is behind the rest
      obtain ⟨time, facts, -, hstore⟩ := hb.sink k.buffer.toList m
      rw [hsink] at hstore
      rw [write_refused hempty hsink]
      refine ⟨fun t ht => ?_, fun hnone => ?_⟩
      · rw [hstore]
        exact (Store.took_insertAll _ time facts).subset (h.kept ht)
      · have hnone : k.failure.or (some error) = none := hnone
        simp at hnone
    · obtain ⟨time, hstore⟩ := hb.takes k.buffer.toList m new (by rw [hsink])
      rw [hsink] at hstore
      have htook := Store.took_insertAll (v.store m) time k.buffer.toList
      rw [← hstore] at htook
      rw [write_kept hempty hsink]
      refine ⟨fun t ht => htook.subset (h.kept ht), fun hnone => ?_⟩
      obtain ⟨handed, hgiven, hhanded⟩ := h.balance hnone
      refine ⟨given, List.append_nil given, ?_⟩
      rw [← hgiven, List.map_append]
      exact hhanded.trans htook
  · rw [write_empty hempty]
    exact ⟨h.kept, h.balance⟩

/-- A fact that is staged comes behind those before it. -/
theorem Writer.tally_stage (hb : b.Exact v) {w : Writer} {f : Fact} (h : Tally v start given w m)
    (hok : (w.stage b.sink f m).1.2 = .ok ()) :
    Tally v start (given ++ [f]) (w.stage b.sink f m).1.1 (w.stage b.sink f m).2 := by
  obtain ⟨_ | k, n⟩ := w
  · cases hok
  · have hpushed :
        Tally v start (given ++ [f]) ⟨some { k with buffer := k.buffer.push f }, n⟩ m := by
      refine ⟨h.kept, fun hnone => ?_⟩
      obtain ⟨handed, hgiven, hhanded⟩ := h.balance hnone
      refine ⟨handed, ?_, hhanded⟩
      rw [← hgiven, List.append_assoc]
      simp [Writer.pending]
    rw [Writer.stage_running]
    show Tally v start (given ++ [f]) ⟨some (k.stage b.sink f m).1, n + 1⟩ (k.stage b.sink f m).2
    rw [Worker.stage]
    split
    · exact Worker.tally_write hb hpushed
    · exact ⟨hpushed.kept, hpushed.balance⟩

/-- A flush that succeeds hands over the rest. -/
theorem Writer.took_flush (hb : b.Exact v) {w : Writer} {new : Nat} (h : Tally v start given w m)
    (hok : (w.flush b.sink m).1.2 = .ok new) :
    start.Took (given.map (·.statement)) (v.store (w.flush b.sink m).2) := by
  obtain ⟨_ | k, n⟩ := w
  · cases hok
  · rw [Writer.flush_running] at hok ⊢
    have hwritten : Tally v start given ⟨some (k.write b.sink m).1, n⟩ (k.write b.sink m).2 :=
      Worker.tally_write hb h
    have hnone : (k.write b.sink m).1.failure = none := by
      rcases hfailure : (k.write b.sink m).1.failure with _ | error
      · rfl
      · have hok : (k.write b.sink m).1.outcome = .ok new := hok
        rw [Worker.outcome, hfailure] at hok
        cases hok
    obtain ⟨handed, hgiven, hhanded⟩ := hwritten.balance hnone
    have hnil : Writer.pending ⟨some (k.write b.sink m).1, n⟩ = [] := by
      show (k.write b.sink m).1.buffer.toList = []
      rw [Worker.buffer_write]
    rw [hnil, List.append_nil] at hgiven
    rw [← hgiven]
    exact hhanded

end tallies

/-! ## What is counted -/

/-- Facts that were counted: as many as the count says, missing at the start, and each with a
statement of its own, which is of some kind and was not seen. -/
structure Counted (start : Store) (A : Statement → Prop) (seen : Set Statement) (n : Nat)
    (staged : List Fact) : Prop where
  length : staged.length = n
  nodup : (staged.map (·.statement)).Nodup
  new : ∀ f ∈ staged, A f.statement ∧ f.statement ∉ seen ∧ start.holds f.statement = false

namespace Counted

variable {start : Store} {A A' : Statement → Prop} {seen seen' : Set Statement} {n n' : Nat}
  {staged staged' : List Fact}

theorem nil : Counted start A seen 0 [] := ⟨rfl, List.nodup_nil, List.forall_mem_nil _⟩

theorem single {f : Fact} (hA : A f.statement) (hseen : f.statement ∉ seen)
    (hholds : start.holds f.statement = false) : Counted start A seen 1 [f] :=
  ⟨rfl, List.pairwise_singleton _ _, List.forall_mem_singleton.mpr ⟨hA, hseen, hholds⟩⟩

theorem weaken (h : Counted start A seen n staged)
    (hA : ∀ t, A t → t ∉ seen → A' t ∧ t ∉ seen') : Counted start A' seen' n staged := by
  refine ⟨h.length, h.nodup, fun f hf => ?_⟩
  obtain ⟨hAf, hseen, hholds⟩ := h.new f hf
  obtain ⟨hA'f, hseen'⟩ := hA _ hAf hseen
  exact ⟨hA'f, hseen', hholds⟩

/-- Counts add up where what was counted first counts as seen. -/
theorem append (h : Counted start A seen n staged)
    (h' : Counted start A (seen ∪ {t | t ∈ staged.map (·.statement)}) n' staged') :
    Counted start A seen (n + n') (staged ++ staged') := by
  have hnew : ∀ f ∈ staged', f.statement ∉ seen ∧ f.statement ∉ staged.map (·.statement) :=
    fun f hf => not_or.mp (h'.new f hf).2.1
  refine ⟨by rw [List.length_append, h.length, h'.length], ?_, ?_⟩
  · rw [List.map_append, List.nodup_append]
    refine ⟨h.nodup, h'.nodup, ?_⟩
    rintro t ht _ ht' rfl
    obtain ⟨f, hf, rfl⟩ := List.mem_map.mp ht'
    exact (hnew f hf).2 ht
  · refine List.forall_mem_append.mpr ⟨h.new, fun f hf => ?_⟩
    obtain ⟨hAf, -, hholds⟩ := h'.new f hf
    exact ⟨hAf, (hnew f hf).1, hholds⟩

/-- What a store took is what was counted and what else there was to take. -/
theorem perm_of_took {s s' : Store} {others : List Statement} (h : Counted s A seen n staged)
    (htook : s.Took (others ++ staged.map (·.statement)) s') :
    ∃ late, s'.statements.Perm (s.statements ++ (staged.map (·.statement) ++ late)) ∧
      (staged.map (·.statement) ++ late).Nodup ∧
      ∀ t, t ∈ late ↔ t ∈ others ∧ t ∉ s.statements ∧ t ∉ staged.map (·.statement) := by
  obtain ⟨added, hstatements, hnodup, hadded⟩ := htook
  have hmissing : ∀ t ∈ staged.map (·.statement), t ∉ s.statements := by
    intro t ht hmem
    obtain ⟨f, hf, rfl⟩ := List.mem_map.mp ht
    have hholds := (h.new f hf).2.2
    rw [Store.holds_of_mem hmem] at hholds
    cases hholds
  let late := added.filter (· ∉ staged.map (·.statement))
  have hlate : ∀ t, t ∈ late ↔
      t ∈ others ∧ t ∉ s.statements ∧ t ∉ staged.map (·.statement) := by
    intro t
    rw [List.mem_filter, hadded, List.mem_append, decide_eq_true_eq]
    tauto
  have hdistinct : (staged.map (·.statement) ++ late).Nodup := by
    refine List.nodup_append.mpr ⟨h.nodup, hnodup.filter _, ?_⟩
    rintro t ht _ ht' rfl
    exact ((hlate t).mp ht').2.2 ht
  refine ⟨late, ?_, hdistinct, hlate⟩
  rw [hstatements]
  refine List.Perm.append_left _ ((List.perm_ext_iff_of_nodup hnodup hdistinct).mpr fun t => ?_)
  rw [hadded, List.mem_append, List.mem_append, hlate]
  have hnew := hmissing t
  tauto

end Counted

namespace Staging

variable {σ α β : Type} {v : StoreView σ} {b : Backend σ} {start : Store}

/-- If a part of an execution succeeds, the facts that it staged are of some kind, which may depend
on the result, and they come behind those before it. -/
def Stages (v : StoreView σ) (start : Store) (act : Staging σ α) (Q : α → List Fact → Prop) :
    Prop :=
  ∀ given d, Tally v start given d.writer d.storage → ∀ a d', act.run d = (.ok a, d') →
    ∃ staged, Q a staged ∧ Tally v start (given ++ staged) d'.writer d'.storage

theorem stages_pure {a : α} {Q : α → List Fact → Prop} (h : Q a []) :
    Stages v start (pure a : Staging σ α) Q := by
  intro given d hd a' d' hrun
  obtain ⟨ha, rfl⟩ := Prod.mk.inj hrun
  obtain rfl := Except.ok.inj ha
  exact ⟨[], h, (List.append_nil given).symm ▸ hd⟩

theorem stages_throw (e : Error) {Q : α → List Fact → Prop} :
    Stages v start (throw e : Staging σ α) Q := by
  intro given d hd a' d' hrun
  cases hrun

theorem stages_bind {x : Staging σ α} {f : α → Staging σ β} {Q : α → List Fact → Prop}
    {R : β → List Fact → Prop} (hx : Stages v start x Q)
    (hf : ∀ a staged, Q a staged → Stages v start (f a) fun c more => R c (staged ++ more)) :
    Stages v start (x >>= f) R := by
  intro given d hd c d' hrun
  obtain ⟨a, t, hxrun, hfrun⟩ := run_bind_eq_ok hrun
  obtain ⟨staged, hQ, ht⟩ := hx given d hd a t hxrun
  obtain ⟨more, hR, hd'⟩ := hf a staged hQ _ t ht c d' hfrun
  exact ⟨staged ++ more, hR, by rwa [← List.append_assoc]⟩

theorem Stages.mono {act : Staging σ α} {Q R : α → List Fact → Prop} (h : Stages v start act Q)
    (hQ : ∀ a staged, Q a staged → R a staged) : Stages v start act R := by
  intro given d hd a d' hrun
  obtain ⟨staged, hstaged, hd'⟩ := h given d hd a d' hrun
  exact ⟨staged, hQ a staged hstaged, hd'⟩

/-- What leaves the facts alone stages nothing. -/
theorem stages_onStorage {act : StateM σ α} (h : ∀ m, v.store (act m).2 = v.store m) :
    Stages v start (onStorage act) fun _ staged => staged = [] := by
  intro given d hd a d' hrun
  rw [run_onStorage] at hrun
  obtain ⟨-, rfl⟩ := Prod.mk.inj hrun
  refine ⟨[], rfl, ?_⟩
  rw [List.append_nil]
  exact ⟨by rw [h]; exact hd.kept, by rw [h]; exact hd.balance⟩

theorem stages_note (ns : List Notice) :
    Stages v start (note ns : Staging σ Unit) fun _ staged => staged = [] := by
  intro given d hd a d' hrun
  rw [run_note] at hrun
  obtain ⟨-, rfl⟩ := Prod.mk.inj hrun
  exact ⟨[], rfl, (List.append_nil given).symm ▸ hd⟩

/-- What is not held now was not held at the start. -/
theorem stages_holds (hb : b.Exact v) (t : Statement) :
    Stages v start (holds b.responder t) fun held staged =>
      staged = [] ∧ (held = false → start.holds t = false) := by
  intro given d hd held d' hrun
  rw [run_holds] at hrun
  obtain ⟨hheld, rfl⟩ := Prod.mk.inj hrun
  refine ⟨[], ⟨rfl, ?_⟩, ?_⟩
  · rintro rfl
    rcases hstart : start.holds t with _ | _
    · rfl
    · rw [hb.holds t d.storage false hheld, ← Store.holds_mono hd.kept hstart]
  · rw [List.append_nil]
    exact ⟨by rw [hb.responder]; exact hd.kept, by rw [hb.responder]; exact hd.balance⟩

theorem stages_stage (hb : b.Exact v) (f : Fact) :
    Stages v start (stage b.sink f) fun _ staged => staged = [f] := by
  intro given d hd a d' hrun
  rw [stage, run_onWriter] at hrun
  obtain ⟨hok, rfl⟩ := Prod.mk.inj hrun
  exact ⟨[f], rfl, Writer.tally_stage hb hd hok⟩

/-- What an execution staged by its end is in the store behind the flush, with all that waited. -/
theorem Stages.took {act : Staging σ Nat} {Q : Nat → List Fact → Prop} (hb : b.Exact v)
    (h : Stages v start act Q) {given : List Fact} {d d' : Desk σ}
    (hd : Tally v start given d.writer d.storage) {n : Nat}
    (hrun : (act >>= fun n => flush b.sink >>= fun _ => (pure n : Staging σ Nat)).run d =
      (.ok n, d')) :
    ∃ staged, Q n staged ∧
      start.Took ((given ++ staged).map (·.statement)) (v.store d'.storage) := by
  obtain ⟨derived, t, hact, hrest⟩ := run_bind_eq_ok hrun
  obtain ⟨new, t', hflush, hpure⟩ := run_bind_eq_ok hrest
  rw [run_pure] at hpure
  obtain ⟨hn, rfl⟩ := Prod.mk.inj hpure
  obtain rfl := Except.ok.inj hn
  obtain ⟨staged, hstaged, ht⟩ := h given d hd derived t hact
  rw [flush, run_onWriter] at hflush
  obtain ⟨hok, rfl⟩ := Prod.mk.inj hflush
  exact ⟨staged, hstaged, Writer.took_flush hb ht hok⟩

end Staging

/-! ## What is staged row by row and in bulk -/

/-- The rule makes a statement of some solution. -/
def Rule.Makes (rule : Rule) (t : Statement) : Prop := ∃ solution, t ∈ rule.instances solution

namespace Rowwise

open Staging

variable {σ : Type} {v : StoreView σ} {b : Backend σ} {start : Store} {p : Provenance}
  {A : Statement → Prop}

/-- The statements staged of a list are counted, and count as seen from then on. -/
theorem stages_stageNew (hb : b.Exact v) (seen : Std.TreeSet Statement) {l : List Statement}
    (hA : ∀ t ∈ l, A t) :
    Stages v start (stageNew b p seen l) fun result staged =>
      Counted start A {t | t ∈ seen} result.2 staged ∧
        ∀ t, t ∈ result.1 ↔ t ∈ seen ∨ t ∈ staged.map (·.statement) := by
  induction l generalizing seen with
  | nil => exact stages_pure ⟨.nil, fun t => by simp⟩
  | cons s rest ih =>
    obtain ⟨hs, hrest⟩ := List.forall_mem_cons.mp hA
    rw [stageNew]
    split
    · exact ih seen hrest
    · next hnew =>
      refine stages_bind (stages_holds hb s) ?_
      rintro held _ ⟨rfl, hheld⟩
      split
      · exact ih seen hrest
      · next hmissing =>
        refine stages_bind (stages_stage hb ⟨s, p⟩) ?_
        rintro _ _ rfl
        refine stages_bind (ih (seen.insert s) hrest) ?_
        rintro ⟨seen', n⟩ staged ⟨hcounted, hseen'⟩
        have hfirst : Counted start A {t | t ∈ seen} 1 [⟨s, p⟩] :=
          .single hs hnew (hheld (eq_false_of_ne_true hmissing))
        have hrest : Counted start A ({t | t ∈ seen} ∪ {t | t ∈ [s]}) n staged := by
          refine hcounted.weaken fun t ht hfresh => ⟨ht, fun hmem => hfresh ?_⟩
          exact Statement.mem_insert_iff.mpr (hmem.symm.imp_left List.mem_singleton.mp)
        refine stages_pure ⟨?_, fun t => ?_⟩
        · rw [Nat.add_comm, List.append_nil]
          exact hfirst.append hrest
        · rw [hseen', Statement.mem_insert_iff, List.append_nil, List.nil_append,
            List.singleton_append, List.map_cons, List.mem_cons]
          tauto

/-- What is staged of all solutions is added to the count. -/
theorem stages_stageSolutions (hb : b.Exact v) {rule : Rule}
    (hA : ∀ solution, ∀ t ∈ rule.instances solution, A t) (seen : Std.TreeSet Statement)
    (derived : Nat) (s : Solutions) :
    Stages v start (stageSolutions b rule p seen derived s) fun n staged =>
      ∃ more, n = derived + more ∧ Counted start A {t | t ∈ seen} more staged := by
  induction s generalizing seen derived with
  | nil => exact stages_pure ⟨0, rfl, .nil⟩
  | cons item rest ih =>
    cases item with
    | error e => exact stages_throw e
    | ok solution =>
      refine stages_bind (stages_stageNew hb seen (hA solution)) ?_
      rintro ⟨seen', n⟩ staged ⟨hcounted, hseen'⟩
      refine (ih () seen' (derived + n)).mono ?_
      rintro total staged' ⟨more, rfl, hmore⟩
      have hall := hcounted.append (hmore.weaken fun t ht hfresh =>
        ⟨ht, fun hmem => hfresh ((hseen' t).mpr hmem)⟩)
      exact ⟨n + more, Nat.add_assoc _ _ _, hall⟩
  | ask q next ih =>
    refine stages_bind (stages_onStorage (hb.responder q)) ?_
    rintro reply _ rfl
    exact ih reply seen derived

/-- The questions before the first solution can be pulled. -/
theorem stages_inquiry (hb : b.Exact v) {α : Type} (i : Inquiry α) :
    Stages v start (onStorage (i.run b.responder)) fun _ staged => staged = [] := by
  refine stages_onStorage fun m => ?_
  induction i generalizing m with
  | done a => rfl
  | ask q next ih => exact (ih _ _).trans (hb.responder q m)

/-- An evaluation of the body that succeeds leaves what it counted in the store, and all that
waited. -/
theorem took_derive (hb : b.Exact v) {r : Rowwise} {rule : Rule} {d d' : Desk σ} {n : Nat}
    (hrun : (r.derive b rule p).run d = (.ok n, d')) :
    ∃ staged, Counted (v.store d.storage) rule.Makes ∅ n staged ∧
      (v.store d.storage).Took ((d.writer.pending ++ staged).map (·.statement))
        (v.store d'.storage) := by
  obtain ⟨_, t, hnote, hrun⟩ := run_bind_eq_ok hrun
  obtain ⟨-, rfl⟩ := Prod.mk.inj hnote
  obtain ⟨solutions, t, hinquiry, hrun⟩ := run_bind_eq_ok hrun
  obtain ⟨_, rfl, ht⟩ := stages_inquiry hb _ _ _ (Tally.of_pending v _ _) _ _ hinquiry
  rw [List.append_nil] at ht
  have hmakes : ∀ solution, ∀ t ∈ rule.instances solution, rule.Makes t :=
    fun solution _ ht => ⟨solution, ht⟩
  obtain ⟨staged, ⟨more, hn, hcounted⟩, htook⟩ :=
    (stages_stageSolutions hb hmakes ∅ 0 solutions).took hb ht hrun
  rw [Nat.zero_add] at hn
  subst hn
  exact ⟨staged, hcounted.weaken fun t ht _ => ⟨ht, Set.notMem_empty t⟩, htook⟩

end Rowwise

namespace Bulk

open Staging

variable {σ : Type} {v : StoreView σ} {b : Backend σ} {start : Store} {p : Provenance}
  {A : Statement → Prop}

/-- A record counts if its fact is staged. -/
theorem stages_stageRecord (hb : b.Exact v) (record : Json) :
    Stages v start (stageRecord b p record) fun isNew staged =>
      Counted start (fun t => told (.ok record) = some t) ∅ (if isNew then 1 else 0) staged := by
  rw [stageRecord]
  split
  · refine stages_bind (stages_note _) ?_
    rintro _ _ rfl
    exact stages_pure .nil
  · next d hd =>
    split
    · refine stages_bind (stages_note _) ?_
      rintro _ _ rfl
      exact stages_pure .nil
    · refine stages_bind (stages_holds hb d.statement) ?_
      rintro held _ ⟨rfl, hheld⟩
      split
      · exact stages_pure .nil
      · next hmissing =>
        refine stages_bind (stages_stage hb _) ?_
        rintro _ _ rfl
        refine stages_pure (.single ?_ (Set.notMem_empty _) (hheld (eq_false_of_ne_true hmissing)))
        rw [told, hd]
        rfl

/-- What is staged of all records is added to the count. -/
theorem stages_stageRecords (hb : b.Exact v) {x : Executor σ} (hx : x.Exact v)
    {s : Sequence (Except Error Json)} {seen : List Statement}
    (hmade : s.Every fun item => ∀ record, item = .ok record →
      ∀ d, Document.ofJson? record = some d → A d.statement)
    (honce : s.Distinct told seen) (derived : Nat) :
    Stages v start (stageRecords b x p derived s) fun n staged =>
      ∃ more, n = derived + more ∧ Counted start A {t | t ∈ seen} more staged := by
  induction s generalizing seen derived with
  | nil => exact stages_pure ⟨0, rfl, .nil⟩
  | cons item rest ih =>
    cases item with
    | error e => exact stages_throw e
    | ok record =>
      refine stages_bind (stages_stageRecord hb record) fun isNew staged hrecord => ?_
      refine (ih () hmade.2 honce.2 _).mono ?_
      rintro total staged' ⟨more, rfl, hmore⟩
      -- the record tells of one statement at most, which is of the kind and was not seen
      have hfirst : Counted start A {t | t ∈ seen} (if isNew then 1 else 0) staged := by
        refine hrecord.weaken fun t ht _ => ⟨?_, honce.1 t ht⟩
        obtain ⟨d, hd, rfl⟩ := Option.map_eq_some_iff.mp ht
        exact hmade.1 record rfl d hd
      have hall := hfirst.append (hmore.weaken fun t ht hfresh => ⟨ht, fun hmem => ?_⟩)
      · refine ⟨_, ?_, hall⟩
        split <;> omega
      · refine hfresh (List.mem_append.mpr (hmem.symm.imp_left fun ht => ?_))
        obtain ⟨f, hf, rfl⟩ := List.mem_map.mp ht
        exact Option.mem_toList.mpr (hrecord.new f hf).1
  | ask q next ih =>
    refine stages_bind (stages_onStorage (hx.responder q)) ?_
    rintro reply _ rfl
    exact ih reply (hmade reply) (honce reply) derived

/-- A plan whose run succeeds leaves what it counted in the store, and all that waited. -/
theorem took_derive (hb : b.Exact v) {s : Bulk σ} (hx : s.executor.Exact v) {plan : Plan}
    (hdistinct : plan.distinct = true) {d d' : Desk σ} {n : Nat}
    (hrun : (s.derive b plan p).run d = (.ok n, d')) :
    ∃ staged, Counted (v.store d.storage) plan.Makes ∅ n staged ∧
      (v.store d.storage).Took ((d.writer.pending ++ staged).map (·.statement))
        (v.store d'.storage) := by
  obtain ⟨reply, t, hstart, hrun⟩ := run_bind_eq_ok hrun
  have hreply : (s.executor.start plan s.options d.storage).1 = reply :=
    Except.ok.inj (Prod.mk.inj hstart).1
  obtain ⟨_, rfl, ht⟩ := stages_onStorage (hx.start plan s.options) _ _ (Tally.of_pending v _ _)
    _ _ hstart
  rw [List.append_nil] at ht
  obtain ⟨records, t', hrecords, hrun⟩ := run_bind_eq_ok hrun
  rcases reply with error | reply
  · cases hrecords
  · obtain ⟨hsame, rfl⟩ := Prod.mk.inj hrecords
    obtain rfl := Except.ok.inj hsame
    have hmade := hx.made plan s.options d.storage _ hreply
    have honce := hx.once plan s.options d.storage _ hreply hdistinct
    obtain ⟨staged, ⟨more, hn, hcounted⟩, htook⟩ :=
      (stages_stageRecords hb hx hmade honce 0).took hb ht hrun
    rw [Nat.zero_add] at hn
    subst hn
    exact ⟨staged, hcounted.weaken fun t ht _ => ⟨ht, Set.notMem_empty t⟩, htook⟩

end Bulk

/-! ## Counts of executions -/

/-- The plan of a rule makes what the rule makes, each statement once. -/
theorem Rule.makes_of_compile {rule : Rule} {level : Nat} {time : Timestamp}
    {watermark : Option Timestamp} {plan : Plan}
    (h : rule.compile level time watermark = .ok plan) :
    plan.distinct = true ∧ ∀ t, plan.Makes t → rule.Makes t := by
  obtain ⟨steps, -, rfl⟩ := Rule.compile_eq_ok h
  exact ⟨rfl, fun _ ht => ht⟩

namespace Execution

variable {σ : Type} {v : StoreView σ} {b : Backend σ} {e : Execution σ} {n : Nat}
  {counted late : List Statement}

/-- The store that an execution starts from. -/
def storeBefore (v : StoreView σ) (e : Execution σ) : Store := v.store e.start.work.storage

/-- The store that it leaves behind. -/
def storeAfter (v : StoreView σ) (b : Backend σ) (e : Execution σ) : Store :=
  v.store (e.stop b).work.storage

/-- What waits at the start in the writer that an execution uses. -/
def waiting (e : Execution σ) : List Fact := (e.start.strategy.writerFor e.rule).pending

/-- How an execution that counts `n` facts lets the store grow: by the facts that are counted, which
its rule makes and which were missing, and by those that are late: they waited, and they are neither
stored nor counted. -/
structure Growth (v : StoreView σ) (b : Backend σ) (e : Execution σ) (n : Nat)
    (counted late : List Statement) : Prop where
  statements : (e.storeAfter v b).statements.Perm ((e.storeBefore v).statements ++ (counted ++ late))
  distinct : (counted ++ late).Nodup
  length : counted.length = n
  made : ∀ t ∈ counted, e.rule.Makes t ∧ (e.storeBefore v).holds t = false
  late_iff : ∀ t, t ∈ late ↔
    t ∈ e.waiting.map (·.statement) ∧ t ∉ (e.storeBefore v).statements ∧ t ∉ counted

theorem Growth.size (h : e.Growth v b n counted late) :
    (e.storeAfter v b).size = (e.storeBefore v).size + n + late.length := by
  have hlength := h.statements.length_eq
  rwa [List.length_append, List.length_append, h.length, ← Nat.add_assoc, Store.length_statements,
    Store.length_statements] at hlength

/-- An execution that succeeds leaves what it counted in the store, and all that waited. -/
theorem took_stop (hb : b.Exact v) (hs : e.start.strategy.RunsPlans (·.Exact v))
    (hn : e.outcome b = .ok n) :
    ∃ staged, Counted (e.storeBefore v) e.rule.Makes ∅ n staged ∧
      (e.storeBefore v).Took ((e.waiting ++ staged).map (·.statement)) (e.storeAfter v b) := by
  unfold storeBefore storeAfter waiting
  rcases e.way b with ⟨s, plan, result, desk, -, hstrategy, hcompile, hrun, houtcome, hstop⟩ |
    ⟨r, result, desk, hplan, hr, hrun, houtcome, hstop⟩ | ⟨obstacle, -, -, -, houtcome, -⟩
  · rcases result with error | m
    · rw [hn] at houtcome
      cases houtcome
    · obtain rfl : n = m := Except.ok.inj (hn.symm.trans houtcome)
      rw [hstrategy] at hs
      obtain ⟨hdistinct, hmakes⟩ := Rule.makes_of_compile hcompile
      obtain ⟨steps, hsteps, -⟩ := Rule.compile_eq_ok hcompile
      have hwriter : e.start.strategy.writerFor e.rule = s.writer := by
        simp only [hstrategy, Strategy.writerFor, hsteps]
      obtain ⟨staged, hcounted, htook⟩ := Bulk.took_derive hb hs hdistinct hrun
      rw [hwriter, hstop]
      exact ⟨staged, hcounted.weaken fun t ht hfresh => ⟨hmakes t ht, hfresh⟩, htook⟩
  · rcases result with error | m
    · rw [hn] at houtcome
      cases houtcome
    · obtain rfl : n = m := Except.ok.inj (hn.symm.trans houtcome)
      rw [(execute_byRow hplan hr hrun).2.1, hstop]
      exact Rowwise.took_derive hb hrun
  · rw [hn] at houtcome
    cases houtcome

theorem exists_growth (hb : b.Exact v) (hs : e.start.strategy.RunsPlans (·.Exact v))
    (hn : e.outcome b = .ok n) : ∃ counted late, e.Growth v b n counted late := by
  obtain ⟨staged, hcounted, htook⟩ := took_stop hb hs hn
  rw [List.map_append] at htook
  obtain ⟨late, hstatements, hdistinct, hlate⟩ := hcounted.perm_of_took htook
  refine ⟨staged.map (·.statement), late, hstatements, hdistinct, ?_, fun t ht => ?_, hlate⟩
  · rw [List.length_map, hcounted.length]
  · obtain ⟨f, hf, rfl⟩ := List.mem_map.mp ht
    obtain ⟨hmakes, -, hholds⟩ := hcounted.new f hf
    exact ⟨hmakes, hholds⟩

end Execution

/-! ## Every history -/

namespace Session

variable {σ : Type} {v : StoreView σ} {b : Backend σ}

end Session

namespace Family

open Session

/-- The execution of the rule for parents, which fails with its second result. -/
def failure : Execution Memory := ⟨parents, ⟨1, second 2, ""⟩, tight⟩

end Family

end RdfReasoner
