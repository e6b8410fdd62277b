import RdfReasoner.Proofs.Currency

/-!
# Runs that come to a fixpoint

A pass that derives nothing leaves the store as it is, and its executions are complete, guards or
not: so the store is closed under the rules that were run.  Then no rule has anything to derive, and
running the same rules again changes nothing.

Both hold whatever happened to the session before, as long as facts enter with their stamps between
calls and time does not go back (`Session.closed_of_endsEmpty`).
-/

namespace RdfReasoner

open Fallible

namespace Session

/-! ## Closed stores -/

/-- Everything holds that the rule makes of the solutions over the store. -/
def Closed (limit : Nat) (s : Session Memory) (rule : Rule) : Prop :=
  ∀ solution, .ok solution ∈ (s.evaluator (Memory.backend limit)).answers s.store rule.body →
    ∀ t ∈ rule.instances solution, s.store.holds t = true

/-- An execution of the rule has nothing to derive and no reason to fail. -/
structure Quiet (limit : Nat) (s : Session Memory) (rule : Rule) : Prop where
  closed : s.Closed limit rule
  error : firstError? ((s.evaluator (Memory.backend limit)).answers s.store rule.body) = none
  way : s.strategy.byRow? = none → ∃ steps, rule.body.flatten = .ok steps

variable {limit : Nat} {s s' : Session Memory} {rule : Rule}

theorem Quiet.of_same (h : s.Quiet limit rule) (hstore : s'.store = s.store)
    (hsettings : s'.strategy.settings = s.strategy.settings) : s'.Quiet limit rule := by
  obtain ⟨hevaluation, hrest⟩ := Prod.mk.inj hsettings
  have hevaluator : s'.evaluator (Memory.backend limit) = s.evaluator (Memory.backend limit) :=
    congrArg (Evaluator.mk · _ _) hevaluation
  have hbyRow : s'.strategy.byRow?.isSome = s.strategy.byRow?.isSome := (Prod.mk.inj hrest).2
  refine ⟨?_, ?_, fun hnone => h.way ?_⟩
  · have hclosed := h.closed
    unfold Closed at hclosed ⊢
    rw [hevaluator, hstore]
    exact hclosed
  · rw [hevaluator, hstore]
    exact h.error
  · rw [hnone] at hbyRow
    exact Option.isNone_iff_eq_none.mp (Option.isSome_eq_false_iff.mp hbyRow.symm)

end Session

/-! ## Executions that derive nothing -/

namespace Execution

variable {limit : Nat} {e : Execution Memory} {settings : EvaluationOptions × PlanOptions × Bool}

/-- A rule whose clean execution derived nothing is quiet from then on. -/
theorem Clean.quiet (h : e.Clean limit settings) (hnil : e.derived = []) :
    e.start.Quiet limit e.rule := by
  refine ⟨?_, ?_, ?_⟩
  · intro solution hsolution t ht
    rw [← h.done.unchanged hnil]
    exact h.complete solution hsolution t ht
  · have herror := h.error
    rcases hplan : e.plan? with _ | plan
    · rcases hr : e.start.strategy.byRow? with _ | r
      · obtain ⟨obstacle, hsome⟩ := @error?_of_obstacle limit e hplan hr
        rw [hsome] at herror
        cases herror
      · rw [← answers_byRow hr]
        simpa only [error?, hplan, hr] using herror
    · obtain ⟨steps, hsteps⟩ := exists_flatten hplan
      rw [Evaluator.answers_eq_rows _ _ hsteps]
      exact firstError?_map_ok _
  · intro hr
    rcases hplan : e.plan? with _ | plan
    · obtain ⟨obstacle, hsome⟩ := @error?_of_obstacle limit e hplan hr
      rw [h.error] at hsome
      cases hsome
    · exact exists_flatten hplan

/-- An execution of a quiet rule derives nothing and does not fail. -/
theorem nothing_of_quiet (hlarge : e.start.strategy.planOptions.allowLargeResults = true)
    (hquiet : e.start.Quiet limit e.rule) : e.error? limit = none ∧ e.derived = [] := by
  have hnew := e.derived_new.2
  rcases hplan : e.plan? with _ | plan
  · rcases hr : e.start.strategy.byRow? with _ | r
    · -- nobody to hand the rule over to, but then it can be compiled
      obtain ⟨steps, hsteps⟩ := hquiet.way hr
      obtain ⟨obstacle, hsome⟩ := @error?_of_obstacle limit e hplan hr
      simp [error?, hplan, hr, Rule.obstacle?, hsteps] at hsome
    · have herror := hquiet.error
      rw [← answers_byRow hr] at herror
      refine ⟨by simpa only [error?, hplan, hr] using herror, ?_⟩
      refine List.eq_nil_iff_forall_not_mem.mpr fun f hf => ?_
      have hmem : f.statement ∈ r.derived e.start.store e.rule := by
        rw [← statements_derived_byRow hplan hr]
        exact List.mem_map_of_mem hf
      obtain ⟨hmem, -, hheld⟩ := Store.mem_missing.mp hmem
      obtain ⟨solution, hsolution, ht⟩ := List.mem_flatMap.mp hmem
      have hanswer : Except.ok solution ∈ r.answers e.start.store e.rule := by
        rw [eq_map_valuesBefore herror]
        exact List.mem_map_of_mem hsolution
      rw [answers_byRow hr] at hanswer
      rw [hquiet.closed solution hanswer _ ht] at hheld
      cases hheld
  · obtain ⟨s, hs, hcompile⟩ := exists_compile hplan
    obtain ⟨steps, hsteps⟩ := exists_flatten hplan
    refine ⟨?_, List.eq_nil_iff_forall_not_mem.mpr fun f hf => ?_⟩
    · simp only [error?, hplan]
      exact Plan.firstError?_records hcompile hlarge limit
    · obtain ⟨row, hrow, -, ht, -⟩ := mem_derived_plan hplan hf
      have hanswer : Except.ok row.binding ∈
          (e.start.evaluator (Memory.backend limit)).answers e.start.store e.rule.body := by
        rw [Evaluator.answers_eq_rows _ _ hsteps]
        exact List.mem_map_of_mem (List.mem_map_of_mem hrow)
      have hheld := hquiet.closed _ hanswer _ ht
      rw [hnew f hf] at hheld
      cases hheld

end Execution

namespace Session

variable {limit : Nat} {s s' : Session Memory} {rules : List Rule} {number : Nat}
  {settings : EvaluationOptions × PlanOptions × Bool}

/-! ## Passes that derive nothing -/

/-- A pass whose executions all derive nothing leaves the store as it is. -/
theorem pass_of_nothing
    (h : ∀ e ∈ passLog (Memory.backend limit) number rules s,
      e.Done limit ∧ e.outcome (Memory.backend limit) = .ok 0) (derived : Nat) :
    ∃ s', (pass (Memory.backend limit) number derived rules).run s = (.ok derived, s') ∧
      s'.store = s.store ∧
      ∀ rule ∈ rules, ∃ e ∈ passLog (Memory.backend limit) number rules s,
        e.rule = rule ∧ e.derived = [] ∧ e.start.store = s.store := by
  induction rules generalizing s with
  | nil => exact ⟨s, rfl, rfl, List.forall_mem_nil _⟩
  | cons rule rest ih =>
    obtain ⟨hdone, hok⟩ := h _ List.mem_cons_self
    rw [passLog_cons hok] at h ⊢
    have hnil : (s.nextExecution (Memory.backend limit) number rule).derived = [] := by
      have hlength := hdone.outcome.symm.trans hok
      exact List.length_eq_zero_iff.mp (Except.ok.inj hlength)
    obtain ⟨s', hrun, hstore, hrest⟩ := ih fun e he => h e (List.mem_cons_of_mem _ he)
    have hsame := hdone.unchanged hnil
    refine ⟨s', ?_, hstore.trans hsame, List.forall_mem_cons.mpr ⟨?_, ?_⟩⟩
    · rw [run_pass_cons, hok]
      exact hrun
    · exact ⟨_, List.mem_cons_self, rfl, hnil, rfl⟩
    · intro rule' hrule'
      obtain ⟨e, he, hrule, hderived, hstart⟩ := hrest rule' hrule'
      exact ⟨e, List.mem_cons_of_mem _ he, hrule, hderived, hstart.trans hsame⟩

/-- If the last pass derives nothing, each of its executions started from the store as it is in the
end. -/
theorem passes_of_nothing {rounds : Nat}
    (hclean : ∀ e ∈ (passesLog (Memory.backend limit) rules rounds number s).flatten,
      e.Clean limit settings)
    {last : List (Execution Memory)}
    (hlast : (passesLog (Memory.backend limit) rules rounds number s).getLast? = some last)
    (hnothing : ∀ e ∈ last, e.outcome (Memory.backend limit) = .ok 0) (total : Nat) :
    ∀ rule ∈ rules, ∃ e ∈ (passesLog (Memory.backend limit) rules rounds number s).flatten,
      e.rule = rule ∧ e.derived = [] ∧
      ((passes (Memory.backend limit) rules rounds number total).run s).2.store =
        e.start.store := by
  obtain ⟨number', s', rfl, hend⟩ := exists_last_pass hlast total
  have hmem := List.mem_of_getLast? hlast
  have hdone : ∀ e ∈ passLog (Memory.backend limit) number' rules (s'.startPass number'),
      e.Done limit ∧ e.outcome (Memory.backend limit) = .ok 0 := fun e he =>
    ⟨(hclean e (List.mem_flatten.mpr ⟨_, hmem, he⟩)).done, hnothing e he⟩
  obtain ⟨s'', hrun, hstore, hall⟩ := pass_of_nothing hdone 0
  intro rule hrule
  obtain ⟨e, he, hsame, hnil, hstart⟩ := hall rule hrule
  refine ⟨e, List.mem_flatten.mpr ⟨_, hmem, he⟩, hsame, hnil, ?_⟩
  rw [hend s'' hrun]
  exact hstore.trans hstart.symm

/-! ## Running again -/

/-- A pass over quiet rules derives nothing. -/
theorem pass_of_quiet (hready : s.strategy.Ready limit)
    (hlarge : s.strategy.planOptions.allowLargeResults = true)
    (hquiet : ∀ rule ∈ rules, s.Quiet limit rule) (derived : Nat) :
    ∃ s', (pass (Memory.backend limit) number derived rules).run s = (.ok derived, s') ∧
      s'.store = s.store := by
  induction rules generalizing s with
  | nil => exact ⟨s, rfl, rfl⟩
  | cons rule rest ih =>
    set e := s.nextExecution (Memory.backend limit) number rule with he
    have hrule : e.start.Quiet limit e.rule := (hquiet rule List.mem_cons_self).of_same rfl rfl
    have hnothing := Execution.nothing_of_quiet hlarge hrule
    have hdone := (Execution.spec hready (.inl hnothing)).1 hnothing.1
    have hstore := hdone.unchanged hnothing.2
    have hsettings := hdone.strategy.settings
    have hlarge' :
        (e.stop (Memory.backend limit)).strategy.planOptions.allowLargeResults = true := by
      have hoptions := (Prod.mk.inj (Prod.mk.inj hsettings).2).1
      rw [hoptions]
      exact hlarge
    have hquiet' : ∀ rule ∈ rest, (e.stop (Memory.backend limit)).Quiet limit rule :=
      fun rule' hrule' => (hquiet rule' (List.mem_cons_of_mem _ hrule')).of_same hstore hsettings
    obtain ⟨s', hrun, hsame⟩ := ih hdone.strategy.ready hlarge' hquiet'
    refine ⟨s', ?_, hsame.trans hstore⟩
    rw [run_pass_cons, ← he, hdone.outcome, hnothing.2]
    exact hrun

/-- Running quiet rules returns 0 and leaves the store as it is. -/
theorem run_of_quiet (hready : s.strategy.Ready limit)
    (hlarge : s.strategy.planOptions.allowLargeResults = true)
    (hquiet : ∀ rule ∈ rules, s.Quiet limit rule) (rounds : Nat) :
    ∃ s', (run (Memory.backend limit) rules (rounds + 1)).run s = (.ok (some 0), s') ∧
      s'.store = s.store := by
  have hsettings : (s.startPass 0).strategy.settings = s.strategy.settings :=
    s.strategy.settings_requireLevel 0
  have hoptions : (s.startPass 0).strategy.planOptions = s.strategy.planOptions :=
    (Prod.mk.inj (Prod.mk.inj hsettings).2).1
  have hquiet' : ∀ rule ∈ rules, (s.startPass 0).Quiet limit rule := fun rule hrule =>
    (hquiet rule hrule).of_same rfl hsettings
  rw [run, run_passes_succ]
  split
  · exact ⟨_, rfl, rfl⟩
  · obtain ⟨s', hrun, hstore⟩ :=
      @pass_of_quiet limit _ _ 0 (hready.requireLevel 0) (hoptions ▸ hlarge) hquiet' 0
    rw [hrun]
    exact ⟨s', rfl, hstore⟩

/-! ## Fixpoints -/

/-- The last pass of a run derived nothing. -/
def EndsEmpty (b : Backend Memory) (rules : List Rule) (rounds : Nat) (s : Session Memory) : Prop :=
  ∃ last, (s.runLog b rules rounds).getLast? = some last ∧ ∀ e ∈ last, e.outcome b = .ok 0

instance (b : Backend Memory) (rules : List Rule) (rounds : Nat) (s : Session Memory) :
    Decidable (s.EndsEmpty b rules rounds) :=
  match h : (s.runLog b rules rounds).getLast? with
  | none => isFalse fun ⟨_, hlast, _⟩ => nomatch h.symm.trans hlast
  | some last => decidable_of_iff (∀ e ∈ last, e.outcome b = .ok 0) (by simp [EndsEmpty, h])

/-- The session behind a run whose last pass derived nothing is closed under the rules that were
run, whatever was inserted and run before; running them again changes nothing. -/
theorem closed_of_endsEmpty {named : String → Rule} {s₀ s : Session Memory}
    (hfresh : s₀.Fresh limit) (hlarge : s₀.strategy.planOptions.allowLargeResults = true)
    {calls : List Call} {rounds : Nat} (hindirect : ∀ c ∈ calls, c.IsIndirect)
    (hstamps : ∀ c ∈ calls, c.StampsFacts)
    (hregular :
      ∀ e ∈ s₀.executions Memory.view (Memory.backend limit) (calls ++ [.run rules rounds]),
        e.Regular limit named)
    (hsorted :
      (s₀.times Memory.view (Memory.backend limit) (calls ++ [.run rules rounds])).Pairwise (· ≤ ·))
    (hempty : (s₀.performAll Memory.view (Memory.backend limit) calls).EndsEmpty
      (Memory.backend limit) rules rounds)
    (hs : s = s₀.performAll Memory.view (Memory.backend limit) (calls ++ [.run rules rounds])) :
    (∀ rule ∈ rules, s.Closed limit rule) ∧
      ∀ more, ∃ s', (run (Memory.backend limit) rules (more + 1)).run s = (.ok (some 0), s') ∧
        s'.store = s.store := by
  have hindirect' : ∀ c ∈ calls ++ [.run rules rounds], c.IsIndirect :=
    List.forall_mem_append.mpr ⟨hindirect, List.forall_mem_singleton.mpr trivial⟩
  have hstamps' : ∀ c ∈ calls ++ [.run rules rounds], c.StampsFacts :=
    List.forall_mem_append.mpr ⟨hstamps, List.forall_mem_singleton.mpr trivial⟩
  have hdirect : ∀ e ∈ s₀.directs Memory.view (Memory.backend limit) (calls ++ [.run rules rounds]),
      e.Complete limit := by
    rw [directs_eq_nil hindirect']
    exact List.forall_mem_nil _
  obtain ⟨hclean, hsteady⟩ := (hfresh.steady named).performAll hstamps' hregular hdirect
    (hfresh.onTime hsorted)
  rw [← hs] at hsteady
  have hoptions : s.strategy.planOptions = s₀.strategy.planOptions :=
    (Prod.mk.inj (Prod.mk.inj hsteady.settings).2).1
  -- every rule was executed in the last pass, on the store as it is in the end
  have hquiet : ∀ rule ∈ rules, s.Quiet limit rule := by
    rw [executions_append, List.forall_mem_append] at hclean
    obtain ⟨-, hrun⟩ := hclean
    rw [executions_cons, List.forall_mem_append] at hrun
    obtain ⟨last, hlast, hnothing⟩ := hempty
    intro rule hrule
    obtain ⟨e, he, rfl, hnil, hstore⟩ := passes_of_nothing hrun.1 hlast hnothing 0 rule hrule
    have hthis := hrun.1 e he
    refine (hthis.quiet hnil).of_same ?_ (hsteady.settings.trans hthis.settings.symm)
    rw [← hstore, hs, performAll_append]
    rfl
  exact ⟨fun rule hrule => (hquiet rule hrule).closed,
    fun more => run_of_quiet hsteady.ready (hoptions ▸ hlarge) hquiet more⟩

end Session

namespace Family

open Session

/-- A child is born after a first run and before the run at the end. -/
def growth : List Call :=
  [.insert (second 0) [⟨said "p0" "parent" "p1", {}⟩], .run [parents, ancestors] 9,
    .insert (second 5) [⟨said "p1" "parent" "p2", {}⟩]]

/-- The family with the child. -/
def grown : Session Memory :=
  (session {}).performAll Memory.view (Memory.backend 1000)
    (growth ++ [.run [parents, ancestors] 9])

set_option maxRecDepth 100000 in
/-- The child gets all its ancestors. -/
theorem closed_grown :
    grown.store.size = 5 ∧ (∀ rule ∈ [parents, ancestors], grown.Closed 1000 rule) ∧
      ∀ more, ∃ s', (run (Memory.backend 1000) [parents, ancestors] (more + 1)).run grown =
        (.ok (some 0), s') ∧ s'.store = grown.store := by
  have hsize : grown.store.size = 5 := by decide +kernel
  have hregular : ∀ e ∈ (session {}).executions Memory.view (Memory.backend 1000)
      (growth ++ [.run [parents, ancestors] 9]), e.Regular 1000 named := by decide +kernel
  have hfresh : (session {}).Fresh 1000 := fresh_ofSettings {} 1000 (memory [])
  exact ⟨hsize, closed_of_endsEmpty hfresh rfl (by decide) (by decide) hregular (by decide +kernel)
    (by decide +kernel) rfl⟩

end Family

end RdfReasoner
