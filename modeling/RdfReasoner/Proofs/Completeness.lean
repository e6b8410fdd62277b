import RdfReasoner.Proofs.Execution

/-!
# Executions that miss nothing

An execution is complete (`Execution.Complete`) if afterwards every statement holds that its rule
makes of a solution over the store that it started from.  Evaluation row by row is complete.  A plan
skips the rows that its guards do not admit, so it is complete if what those rows make holds
already.

`UpToDate` is the invariant behind the guards: the facts fall into old ones, whose rows made
nothing that does not hold, and new ones, which are above a level and not before the watermark of
the rule.  A row that the guards skip is then a row of the old facts.
-/

namespace RdfReasoner

/-! ## What is added -/

namespace Plan

theorem nodup_firstOnly (seen : Std.TreeSet Statement) (ds : List Document) :
    ((firstOnly seen ds).map (·.statement)).Nodup ∧
      ∀ d ∈ firstOnly seen ds, seen.contains d.statement = false := by
  induction ds generalizing seen with
  | nil => exact ⟨List.nodup_nil, by simp [firstOnly]⟩
  | cons d ds ih =>
    rw [firstOnly]
    cases hseen : seen.contains d.statement with
    | true => exact ih seen
    | false =>
      obtain ⟨hnodup, hnew⟩ := ih (seen.insert d.statement)
      simp only [Std.TreeSet.contains_insert, Bool.or_eq_false_iff] at hnew
      refine ⟨List.nodup_cons.mpr ⟨fun hmem => ?_, hnodup⟩, fun x hx => ?_⟩
      · obtain ⟨x, hx, hsame⟩ := List.mem_map.mp hmem
        have := (hnew x hx).1
        rw [hsame] at this
        simp at this
      · obtain rfl | hx := List.mem_cons.mp hx
        · exact hseen
        · exact (hnew x hx).2

end Plan

/-- What templates make is well formed. -/
theorem Rule.isWellFormed_of_mem_instances {rule : Rule} {b : Binding} {t : Statement}
    (h : t ∈ rule.instances b) : t.isWellFormed = true := by
  obtain ⟨template, -, ht⟩ := List.mem_filterMap.mp h
  unfold Template.instantiate? at ht
  cases hc : template.context
  all_goals
    simp only [hc, Option.bind_eq_bind, Option.bind_eq_some_iff] at ht
    obtain ⟨c, -, s, -, p, -, o, -, ht⟩ := ht
    split at ht
    · next hformed => exact Option.some.inj ht ▸ hformed
    · cases ht

namespace Execution

variable {limit : Nat} {e : Execution Memory}

/-- No statement is derived twice, and none that holds already. -/
theorem derived_new (e : Execution Memory) :
    (e.derived.map (·.statement)).Nodup ∧
      ∀ f ∈ e.derived, e.start.store.holds f.statement = false := by
  unfold derived
  split
  · next plan _ =>
    rw [List.map_map]
    refine ⟨?_, fun f hf => ?_⟩
    · have hsub := (List.filter_sublist (p := e.start.store.takes)
        (l := Plan.firstOnly ∅ (plan.documents e.rule e.start.store.facts.toList))).map
          (·.statement)
      exact (Plan.nodup_firstOnly _ _).1.sublist hsub
    · obtain ⟨d, hd, rfl⟩ := List.mem_map.mp hf
      have htakes := (List.mem_filter.mp hd).2
      simp only [Store.takes, Bool.and_eq_true, Bool.not_eq_true'] at htakes
      exact htakes.2
  · cases e.start.strategy.byRow? with
    | none => exact ⟨List.nodup_nil, by simp⟩
    | some r =>
      simp only [Option.map_some, Option.getD_some, List.map_map]
      refine ⟨?_, fun f hf => ?_⟩
      · have hid : (fun f : Fact => f.statement) ∘ (Fact.mk · e.provenance) = id := rfl
        rw [hid, List.map_id]
        exact Store.nodup_missing ..
      · obtain ⟨t, ht, rfl⟩ := List.mem_map.mp hf
        exact (Store.mem_missing.mp ht).2.2

/-- An execution that is done appends what it derives; a fact without a time takes one. -/
theorem Done.facts (h : e.Done limit) :
    ∃ now, (e.stop (Memory.backend limit)).store.facts.toList =
      e.start.store.facts.toList ++ e.derived.map (·.stamped now) := by
  obtain ⟨now, hstored⟩ := h.stored
  obtain ⟨hnodup, hnew⟩ := e.derived_new
  refine ⟨now, ?_⟩
  rw [hstored]
  refine (Store.insertAll_new hnodup fun f hf hmem => ?_).1
  have hheld := Store.holds_of_mem hmem
  rw [hnew f hf] at hheld
  cases hheld

theorem Done.statements (h : e.Done limit) :
    (e.stop (Memory.backend limit)).store.statements =
      e.start.store.statements ++ e.derived.map (·.statement) := by
  obtain ⟨now, hfacts⟩ := h.facts
  rw [Store.statements, hfacts, List.map_append, List.map_map]
  congr 2
  exact funext fun f => Fact.statement_stamped now f

/-- What held keeps holding. -/
theorem Done.holds_of_holds (h : e.Done limit) {t : Statement} (ht : e.start.store.holds t = true) :
    (e.stop (Memory.backend limit)).store.holds t = true := by
  refine Store.holds_mono ?_ ht
  rw [h.statements]
  exact List.subset_append_left ..

/-- What is derived holds. -/
theorem Done.holds_of_derived (h : e.Done limit) {f : Fact} (hf : f ∈ e.derived) :
    (e.stop (Memory.backend limit)).store.holds f.statement = true := by
  refine Store.holds_of_mem ?_
  rw [h.statements]
  exact List.mem_append_right _ (List.mem_map_of_mem hf)

/-! ## The rows of an execution -/

/-- The rows that the body of the rule makes of the store at the start. -/
def rows (e : Execution Memory) : List Row := e.rule.body.rows e.start.store.facts.toList {}

/-- The level that every row of the plan has to reach; row by row there is none. -/
def guard (e : Execution Memory) : Nat := if e.plan?.isSome then e.start.strategy.guard else 0

/-- The least level that an execution derives facts at. -/
def floor (e : Execution Memory) : Nat := if e.plan?.isSome then e.guard + 1 else 0

/-- The guards of the plan. -/
theorem admits_iff {plan : Plan} (hplan : e.plan? = some plan) {row : Row} :
    plan.admits row = true ↔ e.guard ≤ row.level ∧
      ∀ w, e.start.watermark e.rule.id = some w → w ≤ row.timestamp := by
  obtain ⟨s, hs, hcompile⟩ := exists_compile hplan
  obtain ⟨steps, -, rfl⟩ := Rule.compile_eq_ok hcompile
  have hguard : e.guard = s.minLevel := by
    rw [guard, hplan, Option.isSome_some, if_pos rfl, hs]
    rfl
  have hlevel : (if s.minLevel = 0 then none else some s.minLevel).all (· ≤ row.level) = true ↔
      s.minLevel ≤ row.level := by
    by_cases h : s.minLevel = 0 <;> simp [h]
  rw [Plan.admits, Bool.and_eq_true, hlevel, hguard]
  cases e.start.watermark e.rule.id <;> simp

/-- What a document of the plan comes from. -/
theorem mem_documents {plan : Plan} {d : Document}
    (h : d ∈ plan.documents e.rule e.start.store.facts.toList) :
    ∃ row ∈ e.rows, plan.admits row = true ∧ d.statement ∈ e.rule.instances row.binding ∧
      d.level = row.level + 1 ∧ d.timestamp = plan.timestamp := by
  obtain ⟨row, hrow, hd⟩ := List.mem_flatMap.mp h
  obtain ⟨t, ht, rfl⟩ := List.mem_map.mp hd
  obtain ⟨hrow, hadmits⟩ := List.mem_filter.mp hrow
  exact ⟨row, hrow, hadmits, ht, rfl, rfl⟩

/-- What a fact that a plan derives comes from. -/
theorem mem_derived_plan {plan : Plan} (hplan : e.plan? = some plan) {f : Fact}
    (hf : f ∈ e.derived) :
    ∃ row ∈ e.rows, plan.admits row = true ∧ f.statement ∈ e.rule.instances row.binding ∧
      f.level = row.level + 1 ∧ f.timestamp = e.time := by
  have htime : plan.timestamp = e.time := by
    obtain ⟨s, -, hcompile⟩ := exists_compile hplan
    obtain ⟨steps, -, rfl⟩ := Rule.compile_eq_ok hcompile
    rfl
  simp only [derived, hplan] at hf
  obtain ⟨d, hd, rfl⟩ := List.mem_map.mp hf
  obtain ⟨row, hrow, hadmits, ht, hlevel, htimestamp⟩ :=
    mem_documents (Plan.mem_of_mem_firstOnly (List.mem_filter.mp hd).1)
  exact ⟨row, hrow, hadmits, ht, hlevel, htimestamp.trans htime⟩

/-- Every fact that is derived has the time of the execution and reaches its floor. -/
theorem le_of_mem_derived {f : Fact} (hf : f ∈ e.derived) :
    e.floor ≤ f.level ∧ f.timestamp = e.time := by
  unfold floor
  cases hplan : e.plan? with
  | some plan =>
    obtain ⟨row, -, hadmits, -, hlevel, htime⟩ := mem_derived_plan hplan hf
    have hguard := ((admits_iff hplan).mp hadmits).1
    refine ⟨?_, htime⟩
    rw [Option.isSome_some, if_pos rfl]
    omega
  | none =>
    refine ⟨Nat.zero_le _, ?_⟩
    simp only [derived, hplan] at hf
    cases hr : e.start.strategy.byRow? with
    | none => rw [hr] at hf; cases hf
    | some r =>
      rw [hr] at hf
      obtain ⟨t, -, rfl⟩ := List.mem_map.mp hf
      rfl

/-- The facts that an execution adds, as the store keeps them. -/
theorem Done.facts_added (h : e.Done limit) :
    ∃ added, (e.stop (Memory.backend limit)).store.facts.toList =
        e.start.store.facts.toList ++ added ∧
      ∀ f ∈ added, e.floor ≤ f.level ∧ e.time ≤ f.timestamp := by
  obtain ⟨now, hfacts⟩ := h.facts
  refine ⟨_, hfacts, fun g hg => ?_⟩
  obtain ⟨f, hf, rfl⟩ := List.mem_map.mp hg
  obtain ⟨hlevel, htime⟩ := le_of_mem_derived hf
  rw [← htime]
  exact ⟨f.level_stamped now ▸ hlevel, f.timestamp_le_stamped now⟩

/-! ## Complete executions -/

/-- Afterwards everything holds that the rule makes of the solutions over the store as it was. -/
def Complete (limit : Nat) (e : Execution Memory) : Prop :=
  ∀ solution,
    .ok solution ∈ (e.start.evaluator (Memory.backend limit)).answers e.start.store e.rule.body →
    ∀ t ∈ e.rule.instances solution, (e.stop (Memory.backend limit)).store.holds t = true

/-- A rule that a plan is run for can be compiled. -/
theorem exists_flatten {plan : Plan} (hplan : e.plan? = some plan) :
    ∃ steps, e.rule.body.flatten = .ok steps := by
  obtain ⟨s, -, hcompile⟩ := exists_compile hplan
  obtain ⟨steps, hsteps, -⟩ := Rule.compile_eq_ok hcompile
  exact ⟨steps, hsteps⟩

/-- For a rule that can be compiled the solutions are the bindings of the rows. -/
theorem complete_iff {steps : List Step} (h : e.rule.body.flatten = .ok steps) :
    e.Complete limit ↔ ∀ row ∈ e.rows, ∀ t ∈ e.rule.instances row.binding,
      (e.stop (Memory.backend limit)).store.holds t = true := by
  simp only [Complete, Evaluator.answers_eq_rows _ _ h, List.mem_map, Except.ok.injEq,
    exists_eq_right, rows]
  constructor
  · intro hall row hrow
    exact hall row.binding ⟨row, hrow, rfl⟩
  · rintro hall _ ⟨row, hrow, rfl⟩
    exact hall row hrow

/-- The statements that a plan derives are those that its rows make and the store is missing. -/
theorem statements_derived_plan {plan : Plan} (hplan : e.plan? = some plan) (hfit : e.LevelsFit) :
    e.derived.map (·.statement) = e.start.store.missing ∅
      ((e.rows.filter plan.admits).flatMap fun row => e.rule.instances row.binding) := by
  have hread : ∀ d ∈ plan.documents e.rule e.start.store.facts.toList,
      d.level ≤ Document.maxLevel ∧ d.statement.isWellFormed = true := by
    intro d hd
    obtain ⟨row, -, -, ht, -⟩ := mem_documents hd
    exact ⟨hfit plan hplan d hd, Rule.isWellFormed_of_mem_instances ht⟩
  have hstatements : (plan.documents e.rule e.start.store.facts.toList).map (·.statement) =
      (e.rows.filter plan.admits).flatMap fun row => e.rule.instances row.binding := by
    rw [Plan.documents, List.map_flatMap]
    refine congrArg (List.flatMap · _) (funext fun row => ?_)
    rw [List.map_map]
    exact List.map_id _
  rw [← hstatements, ← Store.map_statement_takes hread]
  simp only [derived, hplan, List.map_map]
  rfl

/-- Row by row they are those that the solutions make and the store is missing. -/
theorem statements_derived_byRow (hplan : e.plan? = none) {r : Rowwise}
    (hr : e.start.strategy.byRow? = some r) :
    e.derived.map (·.statement) = r.derived e.start.store e.rule := by
  simp only [derived, hplan, hr, Option.map_some, Option.getD_some, List.map_map]
  exact List.map_id _

/-- What is missing is derived, so all that was looked for holds in the end. -/
theorem Done.holds_of_mem (h : e.Done limit) {l : List Statement}
    (hl : e.derived.map (·.statement) = e.start.store.missing ∅ l) {t : Statement} (ht : t ∈ l) :
    (e.stop (Memory.backend limit)).store.holds t = true := by
  cases hheld : e.start.store.holds t with
  | true => exact h.holds_of_holds hheld
  | false =>
    have hmissing : t ∈ e.derived.map (·.statement) := by
      rw [hl]
      exact Store.mem_missing.mpr ⟨ht, rfl, hheld⟩
    obtain ⟨f, hf, rfl⟩ := List.mem_map.mp hmissing
    exact h.holds_of_derived hf

/-- What the rows that the guards admit make holds in the end. -/
theorem Done.holds_of_admits (h : e.Done limit) {plan : Plan} (hplan : e.plan? = some plan)
    (hfit : e.LevelsFit) {row : Row} (hrow : row ∈ e.rows) (hadmits : plan.admits row = true)
    {t : Statement} (ht : t ∈ e.rule.instances row.binding) :
    (e.stop (Memory.backend limit)).store.holds t = true := by
  refine h.holds_of_mem (statements_derived_plan hplan hfit) ?_
  exact List.mem_flatMap.mpr ⟨row, List.mem_filter.mpr ⟨hrow, hadmits⟩, ht⟩

/-- The evaluator of an execution row by row is that of its session. -/
theorem answers_byRow {r : Rowwise} (hr : e.start.strategy.byRow? = some r) :
    r.answers e.start.store e.rule =
      (e.start.evaluator (Memory.backend limit)).answers e.start.store e.rule.body := by
  have hevaluator : e.start.evaluator (Memory.backend limit) = r.evaluator (Memory.backend 0) := by
    simp only [Session.evaluator, Strategy.evaluation, hr]
    rfl
  rw [hevaluator]
  rfl

/-- Evaluation row by row is complete. -/
theorem Done.complete_of_byRow (h : e.Done limit) (herror : e.error? limit = none)
    (hplan : e.plan? = none) : e.Complete limit := by
  cases hr : e.start.strategy.byRow? with
  | none =>
    obtain ⟨obstacle, hsome⟩ := @error?_of_obstacle limit e hplan hr
    rw [herror] at hsome
    cases hsome
  | some r =>
    have hanswers : firstError? (r.answers e.start.store e.rule) = none := by
      simpa only [error?, hplan, hr] using herror
    intro solution hsolution t ht
    refine h.holds_of_mem (statements_derived_byRow hplan hr) ?_
    rw [← answers_byRow hr, eq_map_valuesBefore hanswers] at hsolution
    obtain ⟨found, hfound, heq⟩ := List.mem_map.mp hsolution
    obtain rfl := Except.ok.inj heq
    exact List.mem_flatMap.mpr ⟨found, hfound, ht⟩

end Execution

/-! ## Rules that are up to date -/

/-- The facts fall into old ones, whose rows made nothing that does not hold, and new ones, which
have at least the given level and are not before the watermark. -/
def UpToDate (rule : Rule) (level : Nat) (watermark : Option Timestamp) (s : Store) : Prop :=
  ∃ old new, s.facts.toList = old ++ new ∧
    (∀ f ∈ new, level ≤ f.level ∧ ∀ w, watermark = some w → w ≤ f.timestamp) ∧
    ∀ row ∈ rule.body.rows old {}, ∀ t ∈ rule.instances row.binding, s.holds t = true

namespace UpToDate

variable {rule : Rule} {level : Nat} {watermark : Option Timestamp} {s : Store}

/-- A rule that never ran is up to date: all facts are new. -/
theorem of_never (rule : Rule) (s : Store) : UpToDate rule 0 none s :=
  ⟨[], s.facts.toList, rfl, fun _ _ => ⟨Nat.zero_le _, by simp⟩, by simp⟩

theorem mono {lower : Nat} (h : UpToDate rule level watermark s) (hle : lower ≤ level) :
    UpToDate rule lower watermark s := by
  obtain ⟨old, new, hfacts, hnew, hold⟩ := h
  exact ⟨old, new, hfacts, fun f hf => ⟨Nat.le_trans hle (hnew f hf).1, (hnew f hf).2⟩, hold⟩

/-- New facts that are above the level and not before the watermark change nothing. -/
theorem grow (h : UpToDate rule level watermark s) {s' : Store} {added : List Fact}
    (hs' : s'.facts.toList = s.facts.toList ++ added)
    (hadded : ∀ f ∈ added, level ≤ f.level ∧ ∀ w, watermark = some w → w ≤ f.timestamp) :
    UpToDate rule level watermark s' := by
  obtain ⟨old, new, hfacts, hnew, hold⟩ := h
  refine ⟨old, new ++ added, ?_, fun f hf => ?_, fun row hrow t ht => ?_⟩
  · rw [hs', hfacts, List.append_assoc]
  · obtain hf | hf := List.mem_append.mp hf
    · exact hnew f hf
    · exact hadded f hf
  · refine Store.holds_mono ?_ (hold row hrow t ht)
    rw [Store.statements, Store.statements, hs', List.map_append]
    exact List.subset_append_left ..

/-- A row below the level or before the watermark made nothing that does not hold. -/
theorem holds_of_skipped (h : UpToDate rule level watermark s) {row : Row}
    (hrow : row ∈ rule.body.rows s.facts.toList {})
    (hskipped : ¬ (level ≤ row.level ∧ ∀ w, watermark = some w → w ≤ row.timestamp))
    {t : Statement} (ht : t ∈ rule.instances row.binding) : s.holds t = true := by
  obtain ⟨old, new, hfacts, hnew, hold⟩ := h
  rw [hfacts] at hrow
  obtain hrow | ⟨f, hf, hlevel, htime⟩ := Query.mem_rows_append hrow
  · exact hold row hrow t ht
  · obtain ⟨hlevel', htime'⟩ := hnew f hf
    refine absurd ⟨Nat.le_trans hlevel' hlevel, fun w hw => ?_⟩ hskipped
    exact Timestamp.le_trans (htime' w hw) htime

end UpToDate

namespace Execution

variable {limit : Nat} {e : Execution Memory}

/-- A plan for a rule that is up to date is complete. -/
theorem Done.complete_of_upToDate (h : e.Done limit) {plan : Plan} (hplan : e.plan? = some plan)
    (hfit : e.LevelsFit)
    (hup : UpToDate e.rule e.guard (e.start.watermark e.rule.id) e.start.store) :
    e.Complete limit := by
  obtain ⟨steps, hsteps⟩ := exists_flatten hplan
  refine (complete_iff hsteps).mpr fun row hrow t ht => ?_
  cases hadmits : plan.admits row with
  | true => exact h.holds_of_admits hplan hfit hrow hadmits ht
  | false =>
    have hskipped := mt (admits_iff hplan).mpr (Bool.eq_false_iff.mp hadmits)
    exact h.holds_of_holds (hup.holds_of_skipped hrow hskipped ht)

/-- After a complete execution its rule is up to date: all facts but the added ones are old. -/
theorem Done.upToDate_of_complete (h : e.Done limit) (hcomplete : e.Complete limit)
    {steps : List Step} (hsteps : e.rule.body.flatten = .ok steps)
    (hbefore : ∀ w, e.start.watermark e.rule.id = some w → w ≤ e.time) :
    UpToDate e.rule e.floor ((e.stop (Memory.backend limit)).watermark e.rule.id)
      (e.stop (Memory.backend limit)).store := by
  obtain ⟨added, hfacts, hadded⟩ := h.facts_added
  refine ⟨e.start.store.facts.toList, added, hfacts, fun f hf => ?_,
    (complete_iff hsteps).mp hcomplete⟩
  obtain ⟨hlevel, htime⟩ := hadded f hf
  refine ⟨hlevel, fun w hw => ?_⟩
  rw [Session.watermark, h.watermarks, Watermarks.get?_advance, if_pos rfl] at hw
  obtain rfl := Option.some.inj hw
  refine Timestamp.le_trans ?_ htime
  cases hold : e.start.work.watermarks.get? e.rule.id with
  | none => exact Timestamp.le_refl _
  | some w =>
    rw [Option.map_some, Option.getD_some, Timestamp.max_eq_right (hbefore w hold)]
    exact Timestamp.le_refl _

/-- Every other rule stays up to date, up to the floor of the execution. -/
theorem Done.upToDate_of_ne (h : e.Done limit) {rule : Rule} (hid : rule.id ≠ e.rule.id)
    {level : Nat} (hup : UpToDate rule level (e.start.watermark rule.id) e.start.store)
    (hlevel : level ≤ e.floor) (hbefore : ∀ w, e.start.watermark rule.id = some w → w ≤ e.time) :
    UpToDate rule level ((e.stop (Memory.backend limit)).watermark rule.id)
      (e.stop (Memory.backend limit)).store := by
  obtain ⟨added, hfacts, hadded⟩ := h.facts_added
  have hwatermark : (e.stop (Memory.backend limit)).watermark rule.id =
      e.start.watermark rule.id := by
    rw [Session.watermark, h.watermarks, Watermarks.get?_advance, if_neg (Ne.symm hid)]
    rfl
  rw [hwatermark]
  refine hup.grow hfacts fun f hf => ?_
  obtain ⟨hfloor, htime⟩ := hadded f hf
  exact ⟨Nat.le_trans hlevel hfloor, fun w hw => Timestamp.le_trans (hbefore w hw) htime⟩

end Execution

end RdfReasoner
