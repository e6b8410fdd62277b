import RdfReasoner.Proofs.Staging

/-!
# Executions over a store in memory

While no batch fills up (`Staging.Fits`) the storage stays as it is until an execution flushes.  So
what is staged can be said in one piece: the statements that the store is missing, each once and in
the order in which they are made (`Store.missing`).

`Rowwise.run_derive` and `Bulk.run_derive` say what an execution does from an idle writer on.
-/

namespace RdfReasoner

open Fallible

/-! ## Staging row by row -/

namespace Rowwise

open Staging

variable {limit : Nat} {p : Provenance} {d : Desk Memory}

theorem grows_stageNew (b : Backend Memory) (seen : Std.TreeSet Statement) (l : List Statement) :
    Grows (stageNew b p seen l) :=
  fun n => keeps_stageNew (closed_staged b n) seen fun _ _ => trivial

theorem grows_stageSolutions (b : Backend Memory) (rule : Rule) (seen : Std.TreeSet Statement)
    (derived : Nat) (s : Solutions) : Grows (stageSolutions b rule p seen derived s) :=
  fun n => keeps_stageSolutions (closed_staged b n) (answering_any _)
    (Sequence.everyFor_of_forall (fun _ _ _ _ _ => trivial) s) seen derived

/-- The statements that are missing are staged. -/
theorem run_stageNew (seen : Std.TreeSet Statement) (l : List Statement)
    (hd : d.writer.isRunning = true)
    (h : d.storage.store.missing seen l ≠ [] → Fits (stageNew (Memory.backend limit) p seen l) d) :
    (stageNew (Memory.backend limit) p seen l).run d =
      (.ok ((d.storage.store.missing seen l).foldl (·.insert ·) seen,
          (d.storage.store.missing seen l).length),
        ⟨d.writer.loaded ((d.storage.store.missing seen l).map (⟨·, p⟩)), d.storage,
          d.notices⟩) := by
  induction l generalizing seen d with
  | nil => simp [stageNew, Store.missing, run_pure]
  | cons t rest ih =>
    rw [stageNew, Store.missing] at h
    rw [stageNew, Store.missing]
    cases hseen : seen.contains t with
    | true =>
      rw [hseen] at h
      exact ih seen hd h
    | false =>
      simp only [hseen, Bool.false_eq_true, if_false, Bool.false_or] at h ⊢
      have hasked := run_holds_memory limit t d
      rw [run_bind_ok hasked]
      cases hheld : d.storage.store.holds t with
      | true =>
        rw [hheld] at h hasked
        have h := fun hne => fits_rest_same hasked rfl (h hne)
        exact ih seen hd h
      | false =>
        rw [hheld] at hasked
        simp only [hheld, Bool.false_eq_true, if_false] at h ⊢
        have hgrows : Grows (stageNew (Memory.backend limit) p (seen.insert t) rest >>= fun x =>
            (pure (x.1, x.2 + 1) : Staging Memory _)) := fun n =>
          keeps_bind (grows_stageNew _ _ _ n) fun _ => keeps_pure _
        have h := fits_rest_same hasked rfl (h (List.cons_ne_nil _ _))
        have hstage := run_stage_of_fits hd hgrows h
        have h := fits_rest hd hstage h
        have hfits := fits_of_bind (fun _ _ => keeps_pure _) h
        rw [run_bind_ok hstage,
          run_bind_ok (ih (seen.insert t) (by simpa using hd) fun _ => hfits)]
        simp [run_pure]

/-- What the solutions before the first error make is staged. -/
theorem run_stageSolutions {answer : Answers} (hanswer : d.storage.store.answer = answer)
    (rule : Rule) (seen : Std.TreeSet Statement) (derived : Nat) (s : Solutions)
    (hd : d.writer.isRunning = true)
    (h : d.storage.store.missing seen ((valuesBefore (s.items answer)).flatMap rule.instances) ≠
      [] → Fits (stageSolutions (Memory.backend limit) rule p seen derived s) d) :
    (stageSolutions (Memory.backend limit) rule p seen derived s).run d =
      ((match firstError? (s.items answer) with
        | some e => .error e
        | none => .ok (derived + (d.storage.store.missing seen
            ((valuesBefore (s.items answer)).flatMap rule.instances)).length)),
        ⟨d.writer.loaded ((d.storage.store.missing seen
            ((valuesBefore (s.items answer)).flatMap rule.instances)).map (⟨·, p⟩)),
          d.storage, d.notices⟩) := by
  induction s generalizing seen derived d with
  | nil => simp [stageSolutions, run_pure, firstError?, valuesBefore, Store.missing]
  | cons item rest ih =>
    cases item with
    | error e => simp [stageSolutions, run_throw, firstError?, valuesBefore, Store.missing]
    | ok solution =>
      rw [stageSolutions] at h ⊢
      simp only [Sequence.items_cons, valuesBefore, List.flatMap_cons, Store.missing_append,
        ne_eq, List.append_eq_nil_iff] at h
      have hnew := run_stageNew seen (rule.instances solution) hd fun hne =>
        fits_of_bind (fun _ => grows_stageSolutions _ _ _ _ _) (h fun hnil => hne hnil.1)
      have h := fun hne => fits_rest hd hnew (h hne)
      rw [run_bind_ok hnew]
      dsimp only at h ⊢
      rw [ih () (by exact hanswer) _ _ (by simpa using hd) fun hne => h fun hnil => hne hnil.2]
      simp only [Sequence.items_cons, firstError?, valuesBefore, List.flatMap_cons,
        Store.missing_append, List.length_append, Writer.loaded_loaded, List.map_append,
        Nat.add_assoc]
  | ask q next ih =>
    rw [stageSolutions] at h ⊢
    have hasked : (Staging.onStorage ((Memory.backend limit).responder q)).run d =
        (.ok (answer q), d) := by
      rw [← hanswer]
      rfl
    have h := fun hne => fits_rest_same hasked rfl (h hne)
    rw [run_bind_ok hasked, ih (answer q) hanswer seen derived hd h]
    rfl

/-- What the execution of a rule finds for its body. -/
def answers (r : Rowwise) (s : Store) (rule : Rule) : List (Except Error Binding) :=
  (r.evaluator (Memory.backend 0)).answers s rule.body

/-- What the execution of a rule finds new. -/
def derived (r : Rowwise) (s : Store) (rule : Rule) : List Statement :=
  s.missing ∅ ((valuesBefore (r.answers s rule)).flatMap rule.instances)

/-- The store answers the questions before the first solution. -/
theorem run_inquiry {α : Type} (i : Inquiry α) (d : Desk Memory) :
    (onStorage (i.run (Memory.backend limit).responder)).run d =
      (.ok (i.result d.storage.store.answer), d) := by
  have hanswer : ∀ q, (Memory.backend limit).responder q d.storage =
      (d.storage.store.answer q, d.storage) := fun _ => rfl
  rw [run_onStorage, Inquiry.run_eq_result hanswer]

/-- An execution fails exactly if some answer is an error, and then writes nothing. -/
theorem run_derive {r : Rowwise} {rule : Rule} (hd : d.writer.Idle)
    (h : r.derived d.storage.store rule ≠ [] → Fits (r.derive (Memory.backend limit) rule p) d) :
    match firstError? (r.answers d.storage.store rule) with
    | some e => ∃ d', (r.derive (Memory.backend limit) rule p).run d = (.error e, d') ∧
        d'.storage = d.storage
    | none => ∃ d', (r.derive (Memory.backend limit) rule p).run d =
        (.ok (r.derived d.storage.store rule).length, d') ∧
        d.Wrote ((r.derived d.storage.store rule).map (⟨·, p⟩)) d' := by
  rw [derive] at h ⊢
  have hnote := run_note ((r.evaluator (Memory.backend limit)).announcements rule.body .empty) d
  have h := fun hne => fits_rest_same hnote rfl (h hne)
  rw [run_bind_ok hnote]
  generalize d.notices ++ (r.evaluator (Memory.backend limit)).announcements rule.body .empty =
    notices at h
  have hfound := @run_inquiry limit _
    ((r.evaluator (Memory.backend limit)).evaluate rule.body .empty) ⟨d.writer, d.storage, notices⟩
  have h := fun hne => fits_rest_same hfound rfl (h hne)
  rw [run_bind_ok hfound]
  have hstaged := run_stageSolutions (d := ⟨d.writer, d.storage, notices⟩) rfl rule ∅ 0 _
    hd.isRunning fun hne => fits_of_bind (grows_end _) (h hne)
  have hitems : Sequence.items d.storage.store.answer
      (((r.evaluator (Memory.backend limit)).evaluate rule.body .empty).result
        d.storage.store.answer) = r.answers d.storage.store rule := rfl
  simp only [hitems] at hstaged
  cases herror : firstError? (r.answers d.storage.store rule) with
  | some e =>
    rw [herror] at hstaged
    exact ⟨_, run_bind_error hstaged, rfl⟩
  | none =>
    rw [herror] at hstaged
    rw [Nat.zero_add] at hstaged
    obtain ⟨d', hend, hwrote⟩ := run_end hd ((r.derived d.storage.store rule).map (⟨·, p⟩)) notices
      (r.derived d.storage.store rule).length
    exact ⟨d', (run_bind_ok hstaged).trans hend, hwrote⟩

end Rowwise

/-! ## Staging in bulk -/

namespace Plan

open Sequence

/-- The documents whose statements did not come before. -/
def firstOnly (seen : Std.TreeSet Statement) : List Document → List Document
  | [] => []
  | d :: rest =>
    if seen.contains d.statement then firstOnly seen rest
    else d :: firstOnly (seen.insert d.statement) rest

theorem mem_of_mem_firstOnly {seen : Std.TreeSet Statement} {ds : List Document} {d : Document}
    (h : d ∈ firstOnly seen ds) : d ∈ ds := by
  induction ds generalizing seen with
  | nil => exact h
  | cons first rest ih =>
    rw [firstOnly] at h
    split at h
    · exact List.mem_cons_of_mem _ (ih h)
    · obtain rfl | h := List.mem_cons.mp h
      · exact List.mem_cons_self
      · exact List.mem_cons_of_mem _ (ih h)

/-- Dropping what is repeated leaves every statement once, unless the limit is exceeded. -/
theorem valuesBefore_dropRepeated {answer : Answers} {s : Sequence (Except Error Document)}
    {ds : List Document} (hs : s.items answer = ds.map .ok) (limit : Option Nat)
    (seen : Std.TreeSet Statement)
    (hnone : firstError? ((dropRepeated limit seen s).items answer) = none) :
    valuesBefore ((dropRepeated limit seen s).items answer) = firstOnly seen ds := by
  induction s generalizing seen ds with
  | nil =>
    obtain rfl : ds = [] := by simpa using hs.symm
    rfl
  | cons item rest ih =>
    cases ds with
    | nil => cases hs
    | cons d ds =>
      rw [items_cons, List.map_cons] at hs
      obtain ⟨rfl, hrest⟩ := List.cons.inj hs
      rw [dropRepeated] at hnone ⊢
      rw [firstOnly]
      split at hnone
      · next hseen => rw [if_pos hseen, if_pos hseen]; exact ih () hrest seen hnone
      · next hseen =>
        rw [if_neg hseen, if_neg hseen]
        cases limit with
        | none => exact congrArg (d :: ·) (ih () hrest _ hnone)
        | some n =>
          simp only [items_cons] at hnone ⊢
          split at hnone
          · cases hnone
          · next hsmall =>
            rw [if_neg hsmall]
            exact congrArg (d :: ·) (ih () hrest _ hnone)
  | ask q next ih => exact ih (answer q) hs seen hnone

/-- Without a limit there is no error. -/
theorem firstError?_dropRepeated {answer : Answers} {s : Sequence (Except Error Document)}
    {ds : List Document} (hs : s.items answer = ds.map .ok) (seen : Std.TreeSet Statement) :
    firstError? ((dropRepeated none seen s).items answer) = none := by
  induction s generalizing seen ds with
  | nil => rfl
  | cons item rest ih =>
    cases ds with
    | nil => cases hs
    | cons d ds =>
      rw [items_cons, List.map_cons] at hs
      obtain ⟨rfl, hrest⟩ := List.cons.inj hs
      rw [dropRepeated]
      split
      · exact ih () hrest seen
      · exact ih () hrest _
  | ask q next ih => exact ih (answer q) hs seen

section records

variable {s : Store} {rule : Rule} {level : Nat} {time : Timestamp} {watermark : Option Timestamp}
  {plan : Plan}

/-- The records are the documents until the first error; behind an error nothing comes. -/
theorem items_records (h : rule.compile level time watermark = .ok plan) (options : PlanOptions)
    (limit : Nat) :
    ∃ cap, (options.allowLargeResults = true → cap = none) ∧
      (plan.records options limit).items s.answer =
        (upToError ((dropRepeated cap ∅ plan.outputs).items s.answer)).map
          (·.map Document.toJson) := by
  have hdistinct : plan.distinct = true := by
    obtain ⟨steps, -, rfl⟩ := Rule.compile_eq_ok h
    rfl
  refine ⟨if options.allowLargeResults then none else some limit, fun hl => if_pos hl, ?_⟩
  simp only [records, run, items_map, items_buffered, hdistinct, if_true, List.nil_append]

/-- Without an error the records are the documents, each statement once. -/
theorem valuesBefore_records (h : rule.compile level time watermark = .ok plan)
    {options : PlanOptions} {limit : Nat}
    (hnone : firstError? ((plan.records options limit).items s.answer) = none) :
    valuesBefore ((plan.records options limit).items s.answer) =
      (firstOnly ∅ (plan.documents rule s.facts.toList)).map Document.toJson := by
  obtain ⟨cap, -, hitems⟩ := @items_records s _ _ _ _ _ h options limit
  rw [hitems, firstError?_map, firstError?_upToError] at hnone
  rw [hitems, valuesBefore_map, valuesBefore_upToError,
    valuesBefore_dropRepeated (items_outputs s h) cap ∅ hnone]

/-- Every record is a document, whether an error comes or not. -/
theorem exists_valuesBefore_records (h : rule.compile level time watermark = .ok plan)
    (options : PlanOptions) (limit : Nat) :
    ∃ docs : List Document, valuesBefore ((plan.records options limit).items s.answer) =
      docs.map Document.toJson := by
  obtain ⟨cap, -, hitems⟩ := @items_records s _ _ _ _ _ h options limit
  exact ⟨_, by rw [hitems, valuesBefore_map]⟩

/-- Where large results are allowed there is no error. -/
theorem firstError?_records (h : rule.compile level time watermark = .ok plan)
    {options : PlanOptions} (hlarge : options.allowLargeResults = true) (limit : Nat) :
    firstError? ((plan.records options limit).items s.answer) = none := by
  obtain ⟨cap, hcap, hitems⟩ := @items_records s _ _ _ _ _ h options limit
  rw [hitems, firstError?_map, firstError?_upToError, hcap hlarge,
    firstError?_dropRepeated (items_outputs s h)]

end records

end Plan

/-- Whether an execution stages a document that the storage puts out. -/
def Store.takes (s : Store) (d : Document) : Bool :=
  decide (d.level ≤ Document.maxLevel) && d.statement.isWellFormed && !s.holds d.statement

namespace Bulk

open Staging

variable {limit : Nat} {p : Provenance} {d : Desk Memory}

/-- A document that the store takes is staged. -/
theorem run_stageRecord_new {doc : Document} (h : d.storage.store.takes doc = true) :
    (stageRecord (Memory.backend limit) p doc.toJson).run d =
      (stage Memory.sink (doc.toFact p.visibility) >>= fun _ => pure true).run d := by
  simp only [Store.takes, Bool.and_eq_true, decide_eq_true_eq, Bool.not_eq_true'] at h
  obtain ⟨⟨hlevel, hformed⟩, hheld⟩ := h
  have hasked := run_holds_memory limit doc.statement d
  rw [hheld] at hasked
  rw [stageRecord, Document.ofJson?_toJson, if_pos hlevel]
  simp only [hformed, Bool.not_true, Bool.false_eq_true, if_false]
  rw [run_bind_ok hasked]
  rfl

/-- What comes behind a document that the store takes. -/
theorem run_stageRecord_bind {α : Type} {doc : Document} (h : d.storage.store.takes doc = true)
    {rest : Bool → Staging Memory α} :
    (stageRecord (Memory.backend limit) p doc.toJson >>= rest).run d =
      (stage Memory.sink (doc.toFact p.visibility) >>= fun _ => rest true).run d := by
  rw [run_bind, run_stageRecord_new h, run_bind, run_bind]
  obtain ⟨_ | _, d'⟩ := (stage Memory.sink (doc.toFact p.visibility)).run d <;> rfl

/-- Any other document is skipped, perhaps with a notice. -/
theorem run_stageRecord_skip {doc : Document} (h : d.storage.store.takes doc = false) :
    ∃ notices, (stageRecord (Memory.backend limit) p doc.toJson).run d =
      (.ok false, ⟨d.writer, d.storage, notices⟩) := by
  rw [stageRecord, Document.ofJson?_toJson]
  by_cases hlevel : doc.level ≤ Document.maxLevel
  · rw [if_pos hlevel]
    cases hformed : doc.statement.isWellFormed with
    | false =>
      simp only [hformed, Bool.not_false, if_true]
      exact ⟨_, run_bind_ok (run_note _ d)⟩
    | true =>
      have hheld : d.storage.store.holds doc.statement = true := by
        simpa [Store.takes, hlevel, hformed] using h
      have hasked := run_holds_memory limit doc.statement d
      rw [hheld] at hasked
      simp only [hformed, Bool.not_true, Bool.false_eq_true, if_false]
      exact ⟨d.notices, run_bind_ok hasked⟩
  · rw [if_neg hlevel]
    exact ⟨_, run_bind_ok (run_note _ d)⟩

theorem grows_stageRecords (b : Backend Memory) (derived : Nat)
    (records : Sequence (Except Error Json)) :
    Grows (stageRecords b (Memory.executor limit) p derived records) := fun n =>
  keeps_stageRecords (closed_staged b n) (answering_any _)
    (closed_staged (Memory.backend limit) n).ask
    (Sequence.everyFor_of_forall (fun _ _ _ _ _ => trivial) records) derived

/-- The documents before the first error are staged if the store takes them. -/
theorem run_stageRecords {answer : Answers} (hanswer : d.storage.store.answer = answer)
    {records : Sequence (Except Error Json)} {docs : List Document}
    (hrecords : valuesBefore (records.items answer) = docs.map Document.toJson) (derived : Nat)
    (hd : d.writer.isRunning = true)
    (h : docs.filter d.storage.store.takes ≠ [] →
      Fits (stageRecords (Memory.backend limit) (Memory.executor limit) p derived records) d) :
    ∃ notices,
      (stageRecords (Memory.backend limit) (Memory.executor limit) p derived records).run d =
        ((match firstError? (records.items answer) with
          | some e => .error e
          | none => .ok (derived + (docs.filter d.storage.store.takes).length)),
          ⟨d.writer.loaded ((docs.filter d.storage.store.takes).map (·.toFact p.visibility)),
            d.storage, notices⟩) := by
  induction records generalizing docs derived d with
  | nil =>
    obtain rfl : docs = [] := by simpa [valuesBefore] using hrecords.symm
    exact ⟨d.notices, by simp [stageRecords, run_pure, firstError?]⟩
  | cons item rest ih =>
    cases item with
    | error e =>
      obtain rfl : docs = [] := by simpa [valuesBefore] using hrecords.symm
      exact ⟨d.notices, by simp [stageRecords, run_throw, firstError?]⟩
    | ok record =>
      cases docs with
      | nil => cases hrecords
      | cons doc docs =>
        rw [Sequence.items_cons, valuesBefore, List.map_cons] at hrecords
        obtain ⟨rfl, hrest⟩ := List.cons.inj hrecords
        rw [Sequence.items_cons, firstError?]
        rw [stageRecords] at h ⊢
        cases htakes : d.storage.store.takes doc with
        | false =>
          obtain ⟨skipped, hskip⟩ := @run_stageRecord_skip limit p d doc htakes
          rw [List.filter_cons_of_neg (by simp [htakes])] at h ⊢
          have h := fun hne => fits_rest_same hskip rfl (h hne)
          obtain ⟨notices, hrun⟩ :=
            ih () (d := ⟨d.writer, d.storage, skipped⟩) hanswer hrest _ hd h
          refine ⟨notices, ?_⟩
          rw [run_bind_ok hskip]
          exact hrun
        | true =>
          rw [List.filter_cons_of_pos htakes] at h ⊢
          have h := h (List.cons_ne_nil _ _)
          rw [Fits, run_stageRecord_bind htakes] at h
          rw [run_stageRecord_bind htakes]
          have hstage := run_stage_of_fits hd (grows_stageRecords _ _ _) h
          have h := fits_rest hd hstage h
          obtain ⟨notices, hrun⟩ :=
            ih () (by exact hanswer) hrest _ (by simpa using hd) fun _ => h
          refine ⟨notices, ?_⟩
          rw [run_bind_ok hstage]
          simp only [if_true] at hrun ⊢
          rw [hrun]
          simp [Nat.add_assoc, Nat.add_comm 1]
  | ask q next ih =>
    rw [stageRecords] at h ⊢
    have hasked : (Staging.onStorage ((Memory.executor limit).responder q)).run d =
        (.ok (answer q), d) := by
      rw [← hanswer]
      rfl
    have h := fun hne => fits_rest_same hasked rfl (h hne)
    rw [run_bind_ok hasked]
    exact ih (answer q) hanswer hrecords derived hd h

end Bulk

/-- What the execution of a plan finds new. -/
def Plan.derived (plan : Plan) (s : Store) (rule : Rule) : List Document :=
  (firstOnly ∅ (plan.documents rule s.facts.toList)).filter s.takes

/-- Where every document can be read back the statements that are found new are those missing. -/
theorem Store.map_statement_takes {s : Store} {docs : List Document}
    (hread : ∀ d ∈ docs, d.level ≤ Document.maxLevel ∧ d.statement.isWellFormed = true)
    (seen : Std.TreeSet Statement) :
    ((Plan.firstOnly seen docs).filter s.takes).map (·.statement) =
      s.missing seen (docs.map (·.statement)) := by
  induction docs generalizing seen with
  | nil => rfl
  | cons d docs ih =>
    have ih := ih fun e he => hread e (List.mem_cons_of_mem _ he)
    obtain ⟨hlevel, hformed⟩ := hread d List.mem_cons_self
    have htakes : s.takes d = !s.holds d.statement := by simp [Store.takes, hlevel, hformed]
    rw [Plan.firstOnly, List.map_cons, Store.missing]
    cases hseen : seen.contains d.statement with
    | true => exact ih seen
    | false =>
      simp only [Bool.false_eq_true, if_false, Bool.false_or]
      cases hheld : s.holds d.statement with
      | true =>
        -- what holds is not missing, whether it counts as seen or not
        rw [List.filter_cons_of_neg (by simp [htakes, hheld]), ih, if_pos rfl]
        refine missing_eq_of_seen fun u => ?_
        rw [Statement.contains_insert]
        by_cases hu : u = d.statement
        · simp [hu, hheld]
        · simp [hu]
      | false =>
        rw [List.filter_cons_of_pos (by simp [htakes, hheld]), List.map_cons, ih]
        rfl

namespace Bulk

open Staging

variable {limit : Nat} {p : Provenance} {d : Desk Memory}

/-- The execution of a plan stages what it finds new and writes it, unless a record is an error:
then it fails and writes nothing. -/
theorem run_derive {s : Bulk Memory} {rule : Rule} {level : Nat} {time : Timestamp}
    {watermark : Option Timestamp} {plan : Plan}
    (hplan : rule.compile level time watermark = .ok plan)
    (hexecutor : s.executor = Memory.executor limit) (hd : d.writer.Idle)
    (h : (firstError? ((plan.records s.options limit).items d.storage.store.answer) = none ∧
        plan.derived d.storage.store rule = []) ∨
      Fits (s.derive (Memory.backend limit) plan p) d) :
    match firstError? ((plan.records s.options limit).items d.storage.store.answer) with
    | some e => ∃ d', (s.derive (Memory.backend limit) plan p).run d = (.error e, d') ∧
        d'.storage = d.storage
    | none => ∃ d', (s.derive (Memory.backend limit) plan p).run d =
        (.ok (plan.derived d.storage.store rule).length, d') ∧
      d.Wrote ((plan.derived d.storage.store rule).map (·.toFact p.visibility)) d' := by
  rw [derive, hexecutor] at h ⊢
  have hstart : (onStorage ((Memory.executor limit).start plan s.options)).run d =
      (.ok (.ok (plan.records s.options limit)), d) := rfl
  have h := h.imp_right fun h => fits_rest_same hstart rfl h
  rw [run_bind_ok hstart]
  have hread :
      (MonadExcept.ofExcept (.ok (plan.records s.options limit)) : Staging Memory _).run d =
        (.ok (plan.records s.options limit), d) := rfl
  have h := h.imp_right fun h => fits_rest_same hread rfl h
  rw [run_bind_ok hread]
  have h := h.imp_right fun h => fits_of_bind (grows_end _) h
  cases herror : firstError? ((plan.records s.options limit).items d.storage.store.answer) with
  | some e =>
    obtain ⟨docs, hdocs⟩ := Plan.exists_valuesBefore_records hplan s.options limit
    have h : Fits _ d := h.resolve_left fun hnone => by rw [herror] at hnone; cases hnone.1
    obtain ⟨notices, hstaged⟩ := run_stageRecords rfl hdocs 0 hd.isRunning fun _ => h
    rw [herror] at hstaged
    exact ⟨_, run_bind_error hstaged, rfl⟩
  | none =>
    obtain ⟨notices, hstaged⟩ := run_stageRecords rfl (Plan.valuesBefore_records hplan herror) 0
      hd.isRunning fun hne => h.resolve_left fun hquiet => hne hquiet.2
    rw [herror] at hstaged
    rw [Nat.zero_add] at hstaged
    obtain ⟨d', hend, hwrote⟩ :=
      run_end hd ((plan.derived d.storage.store rule).map (·.toFact p.visibility)) notices
        (plan.derived d.storage.store rule).length
    exact ⟨d', (run_bind_ok hstaged).trans hend, hwrote⟩

end Bulk

end RdfReasoner
