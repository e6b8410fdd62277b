import RdfReasoner.Proofs.Currency
import RdfReasoner.Proofs.Derivation

/-!
# What one execution adds

An execution that succeeds adds what its rule makes of the solutions of the body and the store does
not hold yet, every statement at its first occurrence.  Evaluation row by row and plans come to this
in different ways: one asks for every statement as it is made, the other puts every statement out
once and asks when it reads the records.  In both cases the statements are those that the store is
`missing`, and these are the first occurrences of what it does not hold (`Store.missing_eq`).

The fact that is added for a statement tells of where it was made first.  For a plan this is the
first derivation that makes it (`Plan.find?_derivations`), as long as no guard leaves one out.
-/

namespace RdfReasoner

/-! ## First occurrences -/

/-- What a store is missing are the first occurrences of what was not seen and does not hold. -/
theorem Store.missing_eq (s : Store) (seen : Std.TreeSet Statement) (l : List Statement) :
    s.missing seen l = (l.filter fun t => !(seen.contains t || s.holds t)).eraseDups := by
  induction l generalizing seen with
  | nil => rfl
  | cons t rest ih =>
    rw [missing]
    split
    · next h => rw [ih, List.filter_cons_of_neg (by simp [h])]
    · next h =>
      rw [ih, List.filter_cons_of_pos (by simp [h]), List.eraseDups_cons, List.filter_filter]
      refine congrArg (fun l => t :: List.eraseDups l) (List.filter_congr fun u _ => ?_)
      rw [Statement.contains_insert]
      by_cases htu : u = t <;> simp [htu]

namespace Plan

/-- No document of a statement that was seen is kept. -/
theorem ne_of_mem_firstOnly {seen : Std.TreeSet Statement} {docs : List Document} {t : Statement}
    {d : Document} (hseen : seen.contains t = true) (h : d ∈ firstOnly seen docs) :
    t ≠ d.statement := by
  rintro rfl
  rw [(nodup_firstOnly seen docs).2 d h] at hseen
  cases hseen

/-- Of every other statement the first document is kept. -/
theorem find?_of_mem_firstOnly {seen : Std.TreeSet Statement} {docs : List Document} {d : Document}
    (h : d ∈ firstOnly seen docs) :
    docs.find? (fun d' => decide (d'.statement = d.statement)) = some d := by
  induction docs generalizing seen with
  | nil => cases h
  | cons first rest ih =>
    rw [firstOnly] at h
    split at h
    · next hseen =>
      rw [List.find?_cons_of_neg (by simpa using ne_of_mem_firstOnly hseen h)]
      exact ih h
    · obtain rfl | h := List.mem_cons.mp h
      · exact List.find?_cons_of_pos (by simp)
      · have hseen : (seen.insert first.statement).contains first.statement = true := by simp
        rw [List.find?_cons_of_neg (by simpa using ne_of_mem_firstOnly hseen h)]
        exact ih h

section unguarded

variable {rule : Rule} {time : Timestamp} {plan : Plan}

/-- Without guards every derivation counts. -/
theorem consequences_unguarded (rule : Rule) (time : Timestamp) (facts : List Fact) :
    consequences rule 0 time none facts =
      (rule.body.derivations facts .empty).flatMap fun d =>
        (rule.instances d.binding).map fun st => ⟨st, 1 + d.level, time⟩ := by
  have hadmitted : ∀ d ∈ rule.body.derivations facts .empty,
      decide (d.Admitted 0 none) = true := by
    intro d _
    simp [Derivation.Admitted]
  rw [consequences, List.filter_eq_self.mpr hadmitted]

/-- The document that is kept of a statement is one level above the facts of the first derivation
that makes it. -/
theorem find?_derivations (h : rule.compile 0 time none = .ok plan) {facts : List Fact}
    {doc : Document} (hdoc : doc ∈ firstOnly ∅ (plan.documents rule facts)) :
    ∃ d, (rule.body.derivations facts .empty).find?
        (fun d => decide (doc.statement ∈ rule.instances d.binding)) = some d ∧
      doc.level = 1 + d.level ∧ doc.timestamp = time := by
  have hfind := find?_of_mem_firstOnly hdoc
  rw [documents_eq_consequences h, consequences_unguarded, List.find?_flatMap,
    List.findSome?_eq_some_iff] at hfind
  obtain ⟨before, d, after, hsplit, hmade, hbefore⟩ := hfind
  obtain ⟨st, hst, rfl⟩ := List.mem_map.mp (List.mem_of_find?_eq_some hmade)
  refine ⟨d, List.find?_eq_some_iff_append.mpr ⟨by simpa using hst, before, after, hsplit, ?_⟩,
    rfl, rfl⟩
  intro d' hd'
  have hnone := hbefore d' hd'
  simp only [List.find?_eq_none, List.forall_mem_map, decide_eq_true_eq] at hnone
  simpa using fun hmem => hnone st hmem rfl

end unguarded

end Plan

/-! ## Executions without guards -/

namespace Execution

/-- Nothing waits to be written and no row is left out: the rule was never executed before, and no
level is asked for. -/
structure Fresh (limit : Nat) (e : Execution Memory) : Prop where
  ready : e.start.strategy.Ready limit
  unguarded : e.start.strategy.guard = 0
  unwatched : e.start.watermark e.rule.id = none

/-- The execution adds facts to the store, from the solutions of its body. -/
structure AddsMissing (limit n : Nat) (solutions : List Binding) (added : List Fact)
    (e : Execution Memory) : Prop where
  /-- Evaluation of the body finds these solutions over the store as it was, and no error. -/
  answers : (e.start.evaluator (Memory.backend limit)).answers e.start.store e.rule.body =
    solutions.map .ok
  /-- The facts come behind those that were stored. -/
  stored : (e.stop (Memory.backend limit)).store.facts.toList = e.start.store.facts.toList ++ added
  /-- They tell what the templates make of the solutions and did not hold, each once. -/
  statements : added.map (·.statement) =
    ((solutions.flatMap e.rule.instances).filter fun t => !e.start.store.holds t).eraseDups
  count : n = added.length
  /-- Row by row, they have the provenance that was asked for. -/
  byRow : e.plan? = none → ∀ f ∈ added, f.provenance = e.provenance
  /-- By a plan, they are one level above the stored facts of the first row that makes them. -/
  byPlan : e.plan?.isSome = true →
    solutions = (e.rule.body.derivations e.start.store.facts.toList .empty).map (·.binding) ∧
      ∀ f ∈ added, ∃ d, (e.rule.body.derivations e.start.store.facts.toList .empty).find?
          (fun d => decide (f.statement ∈ e.rule.instances d.binding)) = some d ∧
        f.provenance = ⟨1 + d.level, e.time, e.provenance.visibility⟩

variable {limit : Nat} {e : Execution Memory}

/-- The plan of a fresh execution has no guards. -/
theorem Fresh.compile (h : e.Fresh limit) {plan : Plan} (hplan : e.plan? = some plan) :
    e.rule.compile 0 e.time none = .ok plan := by
  obtain ⟨s, hs, hcompile⟩ := exists_compile hplan
  have hguard : s.minLevel = 0 := by
    have hguard := h.unguarded
    rw [hs] at hguard
    exact hguard
  rwa [hguard, h.unwatched] at hcompile

/-- So it goes through all derivations, whose bindings are the solutions of the body. -/
theorem Fresh.rows_eq (h : e.Fresh limit) {plan : Plan} (hplan : e.plan? = some plan) :
    e.rows.filter plan.admits =
      (e.rule.body.derivations e.start.store.facts.toList .empty).map ({} : Row).through := by
  have hadmits : ∀ row ∈ e.rows, plan.admits row = true := by
    intro row _
    refine (admits_iff hplan).mpr ⟨?_, ?_⟩
    · rw [guard, h.unguarded, ite_self]
      exact Nat.zero_le _
    · intro w hw
      rw [h.unwatched] at hw
      cases hw
  rw [List.filter_eq_self.mpr hadmits, rows, Query.rows_eq_derivations]

/-- What a plan without guards adds. -/
theorem Fresh.derived_plan (h : e.Fresh limit) {plan : Plan} (hplan : e.plan? = some plan)
    (hfit : e.LevelsFit) :
    let derivations := e.rule.body.derivations e.start.store.facts.toList .empty
    (e.start.evaluator (Memory.backend limit)).answers e.start.store e.rule.body =
        (derivations.map (·.binding)).map .ok ∧
      e.derived.map (·.statement) =
        e.start.store.missing ∅ ((derivations.map (·.binding)).flatMap e.rule.instances) ∧
      ∀ f ∈ e.derived, ∃ d,
        derivations.find? (fun d => decide (f.statement ∈ e.rule.instances d.binding)) = some d ∧
          f.provenance = ⟨1 + d.level, e.time, e.provenance.visibility⟩ := by
  intro derivations
  obtain ⟨steps, hsteps⟩ := exists_flatten hplan
  refine ⟨?_, ?_, fun f hf => ?_⟩
  · rw [Evaluator.answers_eq_rows _ _ hsteps, Query.rows_eq_derivations, List.map_map, List.map_map,
      List.map_map]
    rfl
  · rw [statements_derived_plan hplan hfit, h.rows_eq hplan, List.flatMap_map, List.flatMap_map]
    rfl
  · simp only [derived, hplan] at hf
    obtain ⟨doc, hdoc, rfl⟩ := List.mem_map.mp hf
    obtain ⟨d, hd, hlevel, htime⟩ :=
      Plan.find?_derivations (h.compile hplan) (List.mem_filter.mp hdoc).1
    exact ⟨d, hd, by rw [Document.toFact, hlevel, htime]⟩

/-- What evaluation row by row adds. -/
theorem exists_solutions_byRow (hplan : e.plan? = none) (herror : e.error? limit = none) :
    ∃ solutions : List Binding,
      (e.start.evaluator (Memory.backend limit)).answers e.start.store e.rule.body =
        solutions.map .ok ∧
      e.derived.map (·.statement) =
        e.start.store.missing ∅ (solutions.flatMap e.rule.instances) ∧
      ∀ f ∈ e.derived, f.provenance = e.provenance := by
  cases hr : e.start.strategy.byRow? with
  | none =>
    obtain ⟨obstacle, hsome⟩ := @error?_of_obstacle limit e hplan hr
    rw [herror] at hsome
    cases hsome
  | some r =>
    have hanswers : firstError? (r.answers e.start.store e.rule) = none := by
      simpa only [error?, hplan, hr] using herror
    refine ⟨valuesBefore (r.answers e.start.store e.rule), ?_, ?_, fun f hf => ?_⟩
    · rw [← answers_byRow hr]
      exact eq_map_valuesBefore hanswers
    · rw [statements_derived_byRow hplan hr]
      rfl
    · simp only [derived, hplan, hr, Option.map_some, Option.getD_some] at hf
      obtain ⟨t, -, rfl⟩ := List.mem_map.mp hf
      rfl

/-- **One execution adds exactly the missing consequences.**  On a store in memory with any content
a rule is executed in a fresh state, with a time of its own, and succeeds.  Then the facts that the
store has in addition are those that the rule makes of the solutions of its body and that did not
hold before, each at its first occurrence, and as many as the execution says.  Evaluated row by row
they have the provenance that was asked for; by a plan they have its time and its visibility, and
the level above that of the first row they were made of. -/
theorem addsMissing_of_fresh {n : Nat} (hfresh : e.Fresh limit) (htime : e.time ≠ .min)
    (hflush : e.WritesAtFlush (Memory.backend limit)) (hfit : e.LevelsFit)
    (hok : e.outcome (Memory.backend limit) = .ok n) :
    ∃ solutions added, e.AddsMissing limit n solutions added := by
  obtain ⟨herror, hdone⟩ := done_of_succeeds hfresh.ready (.inr hflush) ⟨n, hok⟩
  obtain ⟨now, hfacts⟩ := hdone.facts
  have hstamped : e.derived.map (·.stamped now) = e.derived := by
    refine (List.map_congr_left fun f hf => ?_).trans (List.map_id _)
    exact if_neg ((le_of_mem_derived hf).2 ▸ htime)
  rw [hstamped] at hfacts
  have hcount : n = e.derived.length := Except.ok.inj (hok.symm.trans hdone.outcome)
  have hunseen : ∀ l, e.start.store.missing ∅ l =
      (l.filter fun t => !e.start.store.holds t).eraseDups := by
    intro l
    simp [Store.missing_eq]
  cases hplan : e.plan? with
  | none =>
    obtain ⟨solutions, hanswers, hstatements, hprovenance⟩ := exists_solutions_byRow hplan herror
    exact ⟨solutions, e.derived, {
      answers := hanswers
      stored := hfacts
      statements := hstatements.trans (hunseen _)
      count := hcount
      byRow := fun _ => hprovenance
      byPlan := fun hsome => by rw [hplan] at hsome; cases hsome }⟩
  | some plan =>
    obtain ⟨hanswers, hstatements, hprovenance⟩ := hfresh.derived_plan hplan hfit
    exact ⟨_, e.derived, {
      answers := hanswers
      stored := hfacts
      statements := hstatements.trans (hunseen _)
      count := hcount
      byRow := fun hnone => by rw [hplan] at hnone; cases hnone
      byPlan := fun _ => ⟨rfl, hprovenance⟩ }⟩

/-- The facts that are added are those behind the stored ones. -/
theorem AddsMissing.added_eq {n : Nat} {solutions : List Binding} {added : List Fact}
    (h : e.AddsMissing limit n solutions added) :
    added = (e.stop (Memory.backend limit)).store.facts.toList.drop e.start.store.size := by
  rw [h.stored]
  exact (List.drop_left' (Array.length_toList ..)).symm

end Execution

namespace Family

open Execution

/-- A statement about the family that stands in a context. -/
def noted (context subject relation object : String) : Statement :=
  { said subject relation object with context := some (iri context) }

/-- Parents of parents are ancestors, and noted as such in a register. -/
def registered : Rule where
  id := "registered"
  body := .join (related "x" "parent" "y") (related "y" "parent" "z")
  head := [⟨.var "x", .const (iri "ancestor"), .var "z", none⟩,
    ⟨.var "x", .const (iri "ancestor"), .var "z", some (.const (iri "register"))⟩]

/-- The rule is executed, by a plan or row by row, where one ancestor can be found in two ways and
another one is known from an archive. -/
def registration (enabled : Bool) : Execution Memory where
  rule := registered
  provenance := ⟨9, second 9, "family"⟩
  start := .ofSettings (Memory.backend 1000) { pipeline := { enabled } } (memory [
    ⟨said "p0" "parent" "p1", { level := 2 }⟩, ⟨said "p1" "parent" "p3", {}⟩,
    ⟨said "p0" "parent" "p2", { level := 5 }⟩, ⟨said "p2" "parent" "p3", { level := 1 }⟩,
    ⟨said "p3" "parent" "p4", {}⟩, ⟨noted "archive" "p1" "ancestor" "p4", {}⟩])

theorem fresh_registration (enabled : Bool) : (registration enabled).Fresh 1000 where
  ready := (Session.fresh_ofSettings _ 1000 _).ready
  unguarded := by cases enabled <;> rfl
  unwatched := Watermarks.get?_empty _

set_option maxRecDepth 100000 in
/-- Of eight statements three are not added: two were made before, and one holds in the archive.
The first way to an ancestor decides about the level, although the second starts from higher
facts. -/
theorem addsMissing_registration :
    (∃ solutions added, (registration true).AddsMissing 1000 5 solutions added ∧
      added.map (fun f => (f.statement, f.provenance)) =
        [(said "p0" "ancestor" "p3", ⟨3, second 9, "family"⟩),
          (noted "register" "p0" "ancestor" "p3", ⟨3, second 9, "family"⟩),
          (noted "register" "p1" "ancestor" "p4", ⟨1, second 9, "family"⟩),
          (said "p2" "ancestor" "p4", ⟨2, second 9, "family"⟩),
          (noted "register" "p2" "ancestor" "p4", ⟨2, second 9, "family"⟩)]) ∧
      ∃ solutions added, (registration false).AddsMissing 1000 5 solutions added ∧
        added.map (·.level) = [9, 9, 9, 9, 9] := by
  obtain ⟨solutions, added, h⟩ := addsMissing_of_fresh (e := registration true) (n := 5)
    (fresh_registration true) (by decide +kernel) (by decide +kernel) (by decide +kernel)
    (by decide +kernel)
  obtain ⟨solutions', added', h'⟩ := addsMissing_of_fresh (e := registration false) (n := 5)
    (fresh_registration false) (by decide +kernel) (by decide +kernel) (by decide +kernel)
    (by decide +kernel)
  refine ⟨⟨solutions, added, h, ?_⟩, solutions', added', h', ?_⟩
  · rw [h.added_eq]
    decide +kernel
  · rw [h'.added_eq]
    decide +kernel

end Family

end RdfReasoner
