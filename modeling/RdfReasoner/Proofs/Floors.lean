import RdfReasoner.Proofs.Levels

/-!
# Level floors

In pass `k` a plan keeps only rows with a source of level `k` or above.  This loses nothing as long
as whatever a rule has not seen yet is of level `k` or above, and it is: a pass puts a floor under
the levels of what it adds.

A plan puts a fact one level above the row that it comes from, and its guard keeps the rows below
its own level out; what is made row by row has the level of the pass.  So facts may be joined that
the same pass has added, and the facts at the start may be of any level: all that pass `k` adds is
of level `k + 1` or above (`Execution.sourced_of_floor`).  The floors only rise, so what enters the
store between two executions stays above the floor of the first (`Session.levels_above_floor`).
Once a rule was evaluated row by row the plans are no longer guarded, and their floors are gone.
-/

namespace RdfReasoner

/-! ## What guards keep out -/

/-- All outputs of a plan are above its level guard. -/
theorem Plan.every_outputs_above (plan : Plan) :
    plan.outputs.Every (Sequence.ErrorOr fun d => plan.minLevel.getD 0 < d.level) := by
  refine Sequence.everyFor_any.mp (Sequence.everyFor_flatMapOk
    (Sequence.everyFor_filterOk (P := fun _ => True) ?_ plan.admits) ?_)
  · exact Sequence.everyFor_of_forall (fun _ _ _ => trivial) _
  · rintro row ⟨-, hadmits⟩
    have hlevel : plan.minLevel.all (· ≤ row.level) = true := (Bool.and_eq_true_iff.mp hadmits).1
    refine Sequence.everyFor_ofList fun item hitem => ?_
    obtain ⟨t, -, rfl⟩ := List.mem_map.mp hitem
    refine Sequence.errorOr_ok.mpr (Nat.lt_succ_of_le ?_)
    rcases hguard : plan.minLevel with _ | level
    · exact Nat.zero_le _
    · rw [hguard] at hlevel
      exact of_decide_eq_true hlevel

/-- The level guard of a plan is the one that it was compiled with. -/
theorem Rule.minLevel_compile {rule : Rule} {level : Nat} {time : Timestamp}
    {watermark : Option Timestamp} {plan : Plan}
    (h : rule.compile level time watermark = .ok plan) : plan.minLevel.getD 0 = level := by
  obtain ⟨steps, -, rfl⟩ := Rule.compile_eq_ok h
  by_cases hzero : level = 0
  · rw [hzero]
    rfl
  · exact congrArg (Option.getD · 0) (if_neg hzero)

/-! ## Executions -/

namespace Execution

variable {limit number floor : Nat} {e : Execution Memory}

/-- An execution of a pass: it carries the level of the pass, which the strategy was asked for as
well, as long as it guards plans at all. -/
structure OfPass {σ : Type} (number : Nat) (e : Execution σ) : Prop where
  level : e.provenance.level = number + 1
  asked : e.start.usedFallback = false → e.start.strategy.requiredLevel = number

/-- An execution goes row by row, or its plan is guarded. -/
def Guarded {σ : Type} (e : Execution σ) : Prop :=
  e.plan? = none ∨ e.start.usedFallback = false

/-- What a guarded execution of a pass stages is of the level of the pass or above. -/
theorem OfPass.stagesOnly (h : e.OfPass number) (hguarded : e.Guarded)
    (hplans : e.start.strategy.RunsPlans (· = Memory.executor limit))
    (hfloor : floor ≤ number + 1) : e.StagesOnly fun f => floor ≤ f.level where
  ofPlan s plan hs hcompile m records hrecords := by
    have hplan : e.plan? = some plan := by
      rw [plan?, hs, Strategy.plan?, hcompile]
      rfl
    have hunused : e.start.usedFallback = false := by
      rcases hguarded with hnone | hunused
      · rw [hplan] at hnone
        cases hnone
      · exact hunused
    have hlevel : plan.minLevel.getD 0 = number := by
      have hasked := h.asked hunused
      rw [Session.usedFallback, hs] at hunused
      rw [hs] at hasked
      have hunused : s.usedFallback = false := hunused
      rw [Rule.minLevel_compile hcompile, Bulk.minLevel, hunused]
      exact hasked
    rw [hs] at hplans
    have hexecutor : s.executor = Memory.executor limit := hplans
    rw [hexecutor] at hrecords
    obtain rfl := Except.ok.inj hrecords
    refine Sequence.every_mono (Plan.every_records plan.every_outputs_above s.options limit) ?_
    intro item hitem record hrecord d hd
    have habove : number < d.level := hlevel ▸ hitem record hrecord d hd
    exact Nat.le_trans hfloor habove
  byRow _ t _ := by
    show floor ≤ e.provenance.level
    rw [h.level]
    exact hfloor

/-- A guarded execution of a pass keeps up every floor that is not above its own. -/
theorem OfPass.sourced_stop (h : e.OfPass number) (hguarded : e.Guarded)
    (hplans : e.start.strategy.RunsPlans (· = Memory.executor limit)) (hfloor : floor ≤ number + 1)
    {base : Nat}
    (hs : Sourced (fun f => floor ≤ f.level) base e.start.store e.start.strategy.pending) :
    Sourced (fun f => floor ≤ f.level) base (e.stop (Memory.backend limit)).store
      (e.stop (Memory.backend limit)).strategy.pending := by
  have hinMemory : e.start.strategy.InMemory Memory.view :=
    Strategy.inMemory_iff.mpr (hplans.mono fun x hx => hx ▸ Memory.inMemory_executor limit)
  exact Execution.sourced_stop (Memory.inMemory_backend limit) hinMemory
    (h.stagesOnly hguarded hplans hfloor) hs

end Execution

/-- Facts from a position on that come from facts of a level or above are of that level or above. -/
theorem Sourced.le_level {floor base : Nat} {store : Store} {pending : List Fact}
    (h : Sourced (fun f => floor ≤ f.level) base store pending) :
    ∀ f ∈ store.facts.toList.drop base, floor ≤ f.level := by
  intro f hf
  obtain ⟨g, hg, now, rfl⟩ := h.stored f hf
  rw [Fact.level_stamped]
  exact hg

/-! ## Passes -/

namespace Session

variable {rules : List Rule} {number : Nat}

/-- The executions of a pass are of the pass, if its level was asked for. -/
theorem ofPass_of_mem_passLog {limit : Nat} {s : Session Memory}
    (h : s.usedFallback = false → s.strategy.requiredLevel = number) :
    ∀ e ∈ passLog (Memory.backend limit) number rules s, e.OfPass number := by
  induction rules generalizing s with
  | nil => exact List.forall_mem_nil _
  | cons rule rest ih =>
    rw [passLog]
    refine List.forall_mem_cons.mpr ⟨⟨rfl, h⟩, ?_⟩
    split
    · refine ih fun hunused => ?_
      rw [Execution.requiredLevel_stop]
      exact h (Execution.usedFallback_start hunused)
    · exact List.forall_mem_nil _

/-- At the start of a pass its level is asked for. -/
theorem requiredLevel_startPass {σ : Type} (s : Session σ) (number : Nat)
    (h : (s.startPass number).usedFallback = false) :
    (s.startPass number).strategy.requiredLevel = number := by
  obtain ⟨strategy, work, lastTick, visibility, maxPasses⟩ := s
  rcases strategy with bulk | rowwise
  · rfl
  · cases h

/-- The executions of each pass of a run are of that pass. -/
theorem ofPass_of_getElem?_runLog {limit rounds k : Nat} {s : Session Memory}
    {passed : List (Execution Memory)}
    (h : (s.runLog (Memory.backend limit) rules rounds)[k]? = some passed) :
    ∀ e ∈ passed, e.OfPass k := by
  obtain ⟨s', hpassed⟩ := exists_passLog h
  rw [Nat.zero_add] at hpassed
  rw [hpassed]
  exact ofPass_of_mem_passLog (s'.requiredLevel_startPass k)

/-! ## Every run -/

section floors

variable {limit : Nat} {log : List (Execution Memory)} {s : Session Memory}

/-- Plans are run on the store in memory, and nothing waits. -/
structure Idle (limit : Nat) (s : Session Memory) : Prop where
  plans : s.strategy.RunsPlans (· = Memory.executor limit)
  pending : s.strategy.pending = []

/-- An execution that succeeds leaves nothing waiting. -/
theorem Idle.execute {e : Execution Memory} (h : e.start.Idle limit)
    (hsucceeds : e.Succeeds (Memory.backend limit)) :
    (e.stop (Memory.backend limit)).Idle limit := by
  refine ⟨Execution.runsPlans_stop h.plans, List.eq_nil_iff_forall_not_mem.mpr fun g hg => ?_⟩
  have hbefore := Execution.pending_of_succeeds hsucceeds g hg
  rw [h.pending] at hbefore
  cases hbefore

theorem Idle.startPass (h : s.Idle limit) (number : Nat) : (s.startPass number).Idle limit :=
  ⟨h.plans.requireLevel number, (s.strategy.pending_requireLevel number).trans h.pending⟩

/-- As long as all executions succeed nothing waits between them. -/
theorem isInvariant_idle (limit : Nat) :
    IsInvariant Memory.view (Memory.backend limit) (fun _ => True) fun log _ s =>
      (∀ e ∈ log, e.Succeeds (Memory.backend limit)) → s.Idle limit where
  execute log times e h hsucceed := by
    obtain ⟨hlog, he⟩ := List.forall_mem_append.mp hsucceed
    exact (h hlog).execute (List.forall_mem_singleton.mp he)
  tick log times s h hsucceed := ⟨(h hsucceed).plans, (h hsucceed).pending⟩
  startPass log times number s h hsucceed := (h hsucceed).startPass number
  note log times n s h hsucceed := ⟨(h hsucceed).plans, (h hsucceed).pending⟩
  insert log times time facts s _ h hsucceed := ⟨(h hsucceed).plans, (h hsucceed).pending⟩

/-- The executions of passes with rising numbers, all of which succeed. -/
structure Rising (limit : Nat) (log : List (Execution Memory)) : Prop where
  succeed : ∀ e ∈ log, e.Succeeds (Memory.backend limit)
  ofPass : ∀ e ∈ log, ∃ number, e.OfPass number
  sorted : log.Pairwise fun e e' => e.provenance.level ≤ e'.provenance.level

/-- Nothing waits, and as long as plans are guarded, what entered the store since an execution began
is not below its level. -/
structure Floored (limit : Nat) (log : List (Execution Memory)) (s : Session Memory) : Prop
    extends Idle limit s where
  floors : s.usedFallback = false → ∀ e ∈ log, Sourced (fun f => e.provenance.level ≤ f.level)
    e.start.store.size s.store s.strategy.pending

/-- One more execution of a pass keeps the floors of all before it, and puts its own. -/
theorem Floored.execute {e : Execution Memory} (h : Floored limit log e.start)
    (hlog : Rising limit (log ++ [e])) :
    Floored limit (log ++ [e]) (e.stop (Memory.backend limit)) := by
  obtain ⟨-, hsucceeds⟩ := List.forall_mem_append.mp hlog.succeed
  obtain ⟨number, hpass⟩ := hlog.ofPass e (by simp)
  obtain ⟨-, -, hbelow⟩ := List.pairwise_append.mp hlog.sorted
  refine ⟨h.toIdle.execute (List.forall_mem_singleton.mp hsucceeds), fun hunused e' he' => ?_⟩
  have hstart := Execution.usedFallback_start hunused
  rcases List.mem_append.mp he' with he' | he'
  · have hfloor : e'.provenance.level ≤ number + 1 :=
      hpass.level ▸ hbelow e' he' e (List.mem_singleton.mpr rfl)
    exact hpass.sourced_stop (.inr hstart) h.plans hfloor (h.floors hstart e' he')
  · obtain rfl := List.mem_singleton.mp he'
    refine hpass.sourced_stop (.inr hstart) h.plans hpass.level.le (Sourced.of_pending ?_)
    rw [h.pending]
    exact List.forall_mem_nil _

/-- All that happens within a run keeps the floors. -/
theorem isInvariant_floored (limit : Nat) (rules : List Rule) (rounds : Nat) :
    IsInvariant Memory.view (Memory.backend limit) (· = .run rules rounds) fun log _ s =>
      Rising limit log → Floored limit log s where
  execute log times e h hlog := by
    refine (h ⟨?_, ?_, (List.pairwise_append.mp hlog.sorted).1⟩).execute hlog
    · exact (List.forall_mem_append.mp hlog.succeed).1
    · exact (List.forall_mem_append.mp hlog.ofPass).1
  tick log times s h hlog := ⟨⟨(h hlog).plans, (h hlog).pending⟩, (h hlog).floors⟩
  startPass log times number s h hlog := by
    refine ⟨(h hlog).toIdle.startPass number, fun hunused e he => ?_⟩
    rw [s.usedFallback_startPass] at hunused
    have hsourced := (h hlog).floors hunused e he
    exact hsourced.weaken ((s.strategy.pending_requireLevel number).symm ▸ hsourced.waiting)
  note log times n s h hlog := ⟨⟨(h hlog).plans, (h hlog).pending⟩, (h hlog).floors⟩
  insert log times time facts s hfit := by
    cases hfit

/-- The executions of a run are those of passes with rising numbers. -/
theorem rising_runLog {rounds : Nat} (hsucceed : ∀ e ∈
      (s.runLog (Memory.backend limit) rules rounds).flatten, e.Succeeds (Memory.backend limit)) :
    Rising limit (s.runLog (Memory.backend limit) rules rounds).flatten := by
  have hlevel {k : Nat} {passed : List (Execution Memory)}
      (hk : (s.runLog (Memory.backend limit) rules rounds)[k]? = some passed) :
      ∀ e ∈ passed, e.provenance.level = k + 1 :=
    fun e he => (ofPass_of_getElem?_runLog hk e he).level
  refine ⟨hsucceed, ?_, List.pairwise_flatten.mpr ⟨?_, List.pairwise_iff_getElem.mpr ?_⟩⟩
  · intro e he
    obtain ⟨passed, hpassed, he⟩ := List.mem_flatten.mp he
    obtain ⟨k, hk⟩ := List.mem_iff_getElem?.mp hpassed
    exact ⟨k, ofPass_of_getElem?_runLog hk e he⟩
  · intro passed hpassed
    obtain ⟨k, hk⟩ := List.mem_iff_getElem?.mp hpassed
    refine List.pairwise_of_forall_mem_list fun e he e' he' => ?_
    rw [hlevel hk e he, hlevel hk e' he']
  · intro k j hk hj hkj e he e' he'
    rw [hlevel (List.getElem?_eq_getElem hk) e he, hlevel (List.getElem?_eq_getElem hj) e' he']
    exact Nat.succ_le_succ hkj.le

/-- After calls all executions of which succeed nothing waits. -/
theorem Idle.performAll (h : s.Idle limit) {calls : List Call}
    (hsucceed : ∀ e ∈ s.executions Memory.view (Memory.backend limit) calls,
      e.Succeeds (Memory.backend limit)) :
    (s.performAll Memory.view (Memory.backend limit) calls).Idle limit := by
  have hend := @IsInvariant.performAll Memory Memory.view (Memory.backend limit) (fun _ => True) _
    [] [] s (isInvariant_idle limit) calls (fun _ _ => trivial) fun _ => h
  rw [List.nil_append] at hend
  exact hend hsucceed

/-- Every execution of a run finds the floors of those before it kept. -/
theorem Idle.floored_start (h : s.Idle limit) {rounds : Nat} (hsucceed : ∀ e ∈
      (s.runLog (Memory.backend limit) rules rounds).flatten, e.Succeeds (Memory.backend limit))
    {before after : List (Execution Memory)} {e : Execution Memory}
    (hlog : (s.runLog (Memory.backend limit) rules rounds).flatten = before ++ e :: after) :
    Floored limit before e.start := by
  have hrising := rising_runLog hsucceed
  rw [hlog] at hrising
  rw [← executions_run Memory.view] at hlog
  obtain ⟨_, hfloored⟩ := @IsInvariant.at_start Memory Memory.view (Memory.backend limit) _ _ [] s
    (isInvariant_floored limit rules rounds) _ (fun c hc => List.mem_singleton.mp hc)
    (fun _ => ⟨h, fun _ => List.forall_mem_nil _⟩) _ _ _ hlog
  exact hfloored ⟨(List.forall_mem_append.mp hrising.succeed).1,
    (List.forall_mem_append.mp hrising.ofPass).1, (List.pairwise_append.mp hrising.sorted).1⟩

/-- **A pass puts a floor under the levels.**  Over a store in memory with any facts, from nothing
waiting on, calls are made, and then rules are run in passes.  If all executions succeed, every pass
of the run executes all rules, in their order, and the following holds for the pass of number `k`,
counted from 0.

* What one of its executions adds is of level `k + 1` or above, if the execution goes row by row, or
  if no rule was evaluated row by row so far.
* So is all that enters the store from when one of its executions begins until an execution of a
  later pass does, if no rule was evaluated row by row until then.

This holds for plans that see what the same pass has added, and for the pass in which a rule is
evaluated row by row for the first time. -/
theorem levels_above_floor {s₀ : Session Memory} {calls : List Call} {rules : List Rule}
    {rounds : Nat} (hplans : s₀.strategy.RunsPlans (· = Memory.executor limit))
    (hidle : s₀.strategy.pending = [])
    (hsucceed : ∀ e ∈ s₀.executions Memory.view (Memory.backend limit)
      (calls ++ [.run rules rounds]), e.Succeeds (Memory.backend limit))
    (hs : s = s₀.performAll Memory.view (Memory.backend limit) calls) :
    let log := s.runLog (Memory.backend limit) rules rounds
    (∀ k passed, log[k]? = some passed →
      passed.map (·.rule) = rules ∧
      ∀ e ∈ passed, e.plan? = none ∨ e.start.usedFallback = false →
        ∀ f ∈ (e.stop (Memory.backend limit)).store.facts.toList.drop e.start.store.size,
          k + 1 ≤ f.level) ∧
    ∀ k j earlier later, k < j → log[k]? = some earlier → log[j]? = some later →
      ∀ e ∈ earlier, ∀ e' ∈ later, e'.start.usedFallback = false →
        ∀ f ∈ e'.start.store.facts.toList.drop e.start.store.size, k + 1 ≤ f.level := by
  intro log
  rw [executions_append, ← hs, List.forall_mem_append] at hsucceed
  obtain ⟨hcalls, hrun⟩ := hsucceed
  rw [executions_run] at hrun
  have hbegin : s.Idle limit := hs ▸ Idle.performAll ⟨hplans, hidle⟩ hcalls
  refine ⟨fun k passed hk => ⟨?_, fun e he hguarded => ?_⟩, ?_⟩
  · obtain ⟨s', rfl⟩ := exists_passLog hk
    refine map_rule_passLog fun e he => hrun e ?_
    exact List.mem_flatten.mpr ⟨_, List.mem_of_getElem? hk, he⟩
  · obtain ⟨before, after, hlog⟩ := List.append_of_mem
      (List.mem_flatten.mpr ⟨passed, List.mem_of_getElem? hk, he⟩)
    have hstart : e.start.Idle limit := (hbegin.floored_start hrun hlog).toIdle
    have hnone : ∀ g ∈ e.start.strategy.pending, k + 1 ≤ g.level := by
      rw [hstart.pending]
      exact List.forall_mem_nil _
    exact ((ofPass_of_getElem?_runLog hk e he).sourced_stop hguarded hstart.plans (Nat.le_refl _)
      (Sourced.of_pending hnone)).le_level
  · intro k j earlier later hkj hk hj e he e' he' hunused
    obtain ⟨before, after, hlog, hmem⟩ := exists_split_flatten hkj hk hj he he'
    have hsourced := (hbegin.floored_start hrun hlog).floors hunused e hmem
    rw [(ofPass_of_getElem?_runLog hk e he).level] at hsourced
    exact hsourced.le_level

end floors

end Session

namespace Family

open Session

/-- Three generations are born, one of which was told of by others already. -/
def births : List Call :=
  [.insert (second 0) [⟨said "p0" "parent" "p1", {}⟩, ⟨said "p1" "parent" "p2", { level := 4 }⟩,
    ⟨said "p2" "parent" "p3", {}⟩]]

set_option maxRecDepth 100000 in
/-- The rule for ancestors joins what the rule for parents adds in the same pass, and what it adds
itself is joined in the next one. -/
theorem levels_above_floor_births :
    let s := line.performAll Memory.view (Memory.backend 1000) births
    let log := s.runLog (Memory.backend 1000) [parents, ancestors] 9
    log.map (·.map (·.start.store.size)) = [[3, 6], [8, 8], [9, 9]] ∧
      ((Session.run (Memory.backend 1000) [parents, ancestors] 9).run s).2.store.facts.toList.map
        (·.level) = [0, 4, 0, 1, 5, 1, 6, 6, 7] ∧
      (∀ k passed, log[k]? = some passed →
        passed.map (·.rule) = [parents, ancestors] ∧
        ∀ e ∈ passed, e.plan? = none ∨ e.start.usedFallback = false →
          ∀ f ∈ (e.stop (Memory.backend 1000)).store.facts.toList.drop e.start.store.size,
            k + 1 ≤ f.level) ∧
      ∀ k j earlier later, k < j → log[k]? = some earlier → log[j]? = some later →
        ∀ e ∈ earlier, ∀ e' ∈ later, e'.start.usedFallback = false →
          ∀ f ∈ e'.start.store.facts.toList.drop e.start.store.size, k + 1 ≤ f.level := by
  intro s log
  have hsizes : log.map (·.map (·.start.store.size)) = [[3, 6], [8, 8], [9, 9]] := by
    decide +kernel
  have hlevels : ((Session.run (Memory.backend 1000) [parents, ancestors] 9).run
      s).2.store.facts.toList.map (·.level) = [0, 4, 0, 1, 5, 1, 6, 6, 7] := by
    decide +kernel
  have hplans : line.strategy.RunsPlans (· = Memory.executor 1000) := rfl
  have hidle : line.strategy.pending = [] := rfl
  have hsucceed : ∀ e ∈ line.executions Memory.view (Memory.backend 1000)
      (births ++ [.run [parents, ancestors] 9]), e.Succeeds (Memory.backend 1000) := by
    decide +kernel
  exact ⟨hsizes, hlevels, levels_above_floor hplans hidle hsucceed rfl⟩

end Family

end RdfReasoner
