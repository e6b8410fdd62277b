import RdfReasoner.Proofs.Expressible
import RdfReasoner.Proofs.Recording

/-!
# Falling back

A bulk strategy that is given a rule which no plan can express hands it to its fallback, if it has
one.  From then on it guards no plan by derivation levels any more, whatever level is asked for, and
there is no way back.

An engine may be asked for anything in any order, and anything may fail.  `Bulk.Follows` is what its
strategy remembers of the demands so far: the level that was asked for last, and whether the
fallback was ever needed.  Every demand keeps this up (`Bulk.Follows.serve`), so it says after any
demands which plan the next execution gives to the executor (`Engine.fallback_lasts`).
-/

namespace RdfReasoner

variable {σ : Type}

/-! ## What one execution does -/

namespace Bulk

variable (b : Backend σ) {rule : Rule} (p : Provenance) (s : Bulk σ) (w : Workspace σ)

/-- A rule that steps can express has its plan run, which changes no more than the writer. -/
theorem exists_execute_of_expressible (h : rule.Expressible) :
    ∃ writer, (s.execute b rule p w).2.1 = { s with writer } := by
  obtain ⟨plan, hplan, -⟩ := h.compile s.minLevel p.timestamp (w.watermarks.get? rule.id)
  rcases hrun : (s.derive b plan p).run ⟨s.writer, w.storage, w.notices⟩ with ⟨result, desk⟩
  exact ⟨desk.writer, by rw [execute_plan hplan hrun]⟩

/-- Any other rule is handed over, if there is someone to hand it to. -/
theorem exists_execute_of_fallback (h : ¬ rule.Expressible) {r : Rowwise}
    (hr : s.fallback = some r) :
    ∃ r', (s.execute b rule p w).2.1 = { s with usedFallback := true, fallback := some r' } := by
  obtain ⟨obstacle, hplan⟩ :=
    Rule.compile_of_not_expressible h s.minLevel p.timestamp (w.watermarks.get? rule.id)
  rcases hrun : (r.derive b rule p).run ⟨r.currentWriter, w.storage, w.notices⟩ with ⟨result, desk⟩
  exact ⟨_, by rw [execute_handed_over hr hplan hrun]⟩

/-- Otherwise nothing is done. -/
theorem exists_execute_of_no_fallback (h : ¬ rule.Expressible) (hr : s.fallback = none) :
    ∃ obstacle, s.execute b rule p w = (.error (.notExpressible obstacle), s, w) := by
  obtain ⟨obstacle, hplan⟩ :=
    Rule.compile_of_not_expressible h s.minLevel p.timestamp (w.watermarks.get? rule.id)
  exact ⟨obstacle, execute_obstacle hr hplan⟩

/-- Shutting down keeps the fallback, its use and the required level. -/
theorem shutdown_keeps :
    (s.shutdown b w).2.1.requiredLevel = s.requiredLevel ∧
      (s.shutdown b w).2.1.usedFallback = s.usedFallback ∧
      (s.shutdown b w).2.1.fallback.isSome = s.fallback.isSome := by
  unfold shutdown
  cases s.fallback with
  | none => exact ⟨rfl, rfl, rfl⟩
  | some r =>
    dsimp only
    rcases r.shutdown b w with ⟨_ | _, r', w'⟩ <;> exact ⟨rfl, rfl, rfl⟩

end Bulk

/-! ## What a strategy remembers -/

namespace Engine

/-- The level that a demand asks for. -/
def Demand.level? : Demand σ → Option Nat
  | .requireLevel level => some level
  | _ => none

/-- The level that was asked for last; at first it is 0. -/
def levelAfter (demands : List (Demand σ)) : Nat := (demands.filterMap Demand.level?).getLastD 0

/-- Some demand was to execute a rule that no plan can express. -/
def NeedsFallback (demands : List (Demand σ)) : Prop :=
  ∃ rule p, Demand.execute rule p ∈ demands ∧ ¬ rule.Expressible

theorem levelAfter_concat (demands : List (Demand σ)) (d : Demand σ) :
    levelAfter (demands ++ [d]) = d.level?.getD (levelAfter demands) := by
  rw [levelAfter, List.filterMap_append, List.filterMap_cons, List.filterMap_nil]
  cases d.level? with
  | none => rw [List.append_nil]; rfl
  | some level => exact List.getLastD_concat ..

theorem needsFallback_concat {demands : List (Demand σ)} {d : Demand σ} :
    NeedsFallback (demands ++ [d]) ↔
      NeedsFallback demands ∨ ∃ rule p, d = .execute rule p ∧ ¬ rule.Expressible := by
  simp only [NeedsFallback, List.mem_append, List.mem_singleton, or_and_right, exists_or,
    @eq_comm _ d]

end Engine

open Engine

/-- What a bulk strategy knows after some demands, with a fallback or without one. -/
structure Bulk.Follows (canFallBack : Bool) (demands : List (Demand σ)) (s : Bulk σ) : Prop where
  requiredLevel : s.requiredLevel = levelAfter demands
  fallback : s.fallback.isSome = canFallBack
  usedFallback : s.usedFallback = true ↔ canFallBack = true ∧ NeedsFallback demands

namespace Bulk.Follows

variable {canFallBack : Bool} {demands : List (Demand σ)} {s s' : Bulk σ}

/-- Before any demand nothing is asked for. -/
theorem start (executor : Executor σ) (options : PlanOptions) (writer : Writer)
    (fallback : Option Rowwise) :
    Follows (σ := σ) fallback.isSome [] { executor, options, writer, fallback } where
  requiredLevel := rfl
  fallback := rfl
  usedFallback := by simp [NeedsFallback]

/-- After a demand that leaves the fallback alone, only the level may be another. -/
theorem concat (h : s.Follows canFallBack demands) {d : Demand σ}
    (hd : ∀ rule p, d = .execute rule p → rule.Expressible)
    (hlevel : s'.requiredLevel = d.level?.getD s.requiredLevel)
    (hused : s'.usedFallback = s.usedFallback)
    (hfallback : s'.fallback.isSome = s.fallback.isSome) :
    s'.Follows canFallBack (demands ++ [d]) where
  requiredLevel := by rw [hlevel, levelAfter_concat, h.requiredLevel]
  fallback := hfallback.trans h.fallback
  usedFallback := by
    have hnew : ¬ ∃ rule p, d = .execute rule p ∧ ¬ rule.Expressible :=
      fun ⟨rule, p, heq, hrule⟩ => hrule (hd rule p heq)
    rw [hused, needsFallback_concat, or_iff_left hnew, h.usedFallback]

/-- Every demand keeps up what the strategy knows. -/
theorem serve (b : Backend σ) {m : Engine σ} (hm : m.strategy = .bulk s)
    (h : s.Follows canFallBack demands) (d : Demand σ) :
    ∃ s', (m.serve b d).strategy = .bulk s' ∧ s'.Follows canFallBack (demands ++ [d]) := by
  obtain ⟨_, w⟩ := m
  subst hm
  cases d with
  | requireLevel level => exact ⟨_, rfl, h.concat (fun _ _ => nofun) rfl rfl rfl⟩
  | outside change => exact ⟨s, rfl, h.concat (fun _ _ => nofun) rfl rfl rfl⟩
  | shutdown =>
    obtain ⟨hlevel, hused, hfallback⟩ := s.shutdown_keeps b w
    exact ⟨_, rfl, h.concat (fun _ _ => nofun) hlevel hused hfallback⟩
  | execute rule p =>
    refine ⟨(s.execute b rule p w).2.1, rfl, ?_⟩
    by_cases hrule : rule.Expressible
    · obtain ⟨writer, hs'⟩ := s.exists_execute_of_expressible b p w hrule
      rw [hs']
      exact h.concat (fun _ _ heq => by cases heq; exact hrule) rfl rfl rfl
    · have hneeds : NeedsFallback (demands ++ [.execute rule p]) :=
        needsFallback_concat.mpr (.inr ⟨rule, p, rfl, hrule⟩)
      have hlevel : levelAfter (demands ++ [.execute rule p]) = levelAfter demands :=
        levelAfter_concat demands _
      cases hr : s.fallback with
      | none =>
        obtain ⟨obstacle, hs'⟩ := s.exists_execute_of_no_fallback b p w hrule hr
        have hcannot : canFallBack = false := by rw [← h.fallback, hr]; rfl
        have hunused := h.usedFallback
        rw [hcannot] at hunused
        rw [hs', hcannot]
        exact ⟨h.requiredLevel.trans hlevel.symm, by rw [hr]; rfl, by simpa using hunused⟩
      | some r =>
        obtain ⟨r', hs'⟩ := s.exists_execute_of_fallback b p w hrule hr
        have hcan : canFallBack = true := by rw [← h.fallback, hr]; rfl
        rw [hs', hcan]
        exact ⟨h.requiredLevel.trans hlevel.symm, rfl, iff_of_true rfl ⟨rfl, hneeds⟩⟩

/-- So do all demands one after the other. -/
theorem serveAll (b : Backend σ) {m : Engine σ} (hm : m.strategy = .bulk s)
    (h : s.Follows canFallBack []) (demands : List (Demand σ)) :
    ∃ s', (m.serveAll b demands).strategy = .bulk s' ∧ s'.Follows canFallBack demands := by
  induction demands using List.reverseRecOn with
  | nil => exact ⟨s, hm, h⟩
  | append_singleton demands d ih =>
    obtain ⟨s', hs', hfollows⟩ := ih
    rw [serveAll_append]
    exact hfollows.serve b hs' d

/-- The plan of a rule that steps can express is guarded by the level asked for last, as long as the
fallback was not used. -/
theorem exists_newPlans {m : Engine σ} (hm : m.strategy = .bulk s)
    (h : s.Follows canFallBack demands) {rule : Rule} (hrule : rule.Expressible) (p : Provenance) :
    ∃ plan, m.newPlans (.execute rule p) = [plan] ∧
      plan.minLevel =
        if s.usedFallback = true ∨ levelAfter demands = 0 then none
        else some (levelAfter demands) := by
  obtain ⟨plan, hplan, hlevel⟩ :=
    hrule.compile s.minLevel p.timestamp (m.work.watermarks.get? rule.id)
  refine ⟨plan, ?_, ?_⟩
  · rw [newPlans, hm, Strategy.plan?, hplan]
    rfl
  · rw [hlevel, minLevel, h.requiredLevel]
    by_cases hused : s.usedFallback = true <;> simp [hused]

end Bulk.Follows

/-! ## Whole runs -/

namespace Engine

/-- A bulk strategy gives its executor a plan only to execute a rule that steps can express. -/
theorem newPlans_eq_nil {m : Engine σ} {s : Bulk σ} (hm : m.strategy = .bulk s) {d : Demand σ}
    (hd : ∀ rule p, d = .execute rule p → ¬ rule.Expressible) : m.newPlans d = [] := by
  cases d with
  | requireLevel level | shutdown | outside change => rfl
  | execute rule p =>
    obtain ⟨obstacle, hplan⟩ := Rule.compile_of_not_expressible (hd rule p rfl) s.minLevel
      p.timestamp (m.work.watermarks.get? rule.id)
    rw [newPlans, hm, Strategy.plan?, hplan]
    rfl

/-- **Falling back is for good, and switches the level guards off.**  Let anything be asked of a
bulk strategy, where everything may fail.

* The plans that its executor is given can be told from a record, which makes no other difference.
* The fallback counts as used exactly if there is one and a rule was to be executed with a slice, a
  pattern that is not ordinary or a test against a regular expression in its body, whether that
  succeeded or not.  This is never taken back.
* To execute any other rule, the executor is given one plan.  It is without a level guard if the
  fallback was used before.  Otherwise its guard is the level that was asked for last, unless that
  is 0.
* No other demand gives the executor a plan.
* Without a fallback, executing a rule that needs one fails and changes nothing. -/
theorem fallback_lasts (b : Backend σ) (executor : Executor σ) (options : PlanOptions)
    (writer : Writer) (fallback : Option Rowwise) (storage : σ) (notices : Array Notice)
    (demands : List (Demand σ)) :
    let start : Engine σ := fresh (.bulk { executor, options, writer, fallback }) storage notices
    let m := start.serveAll b demands
    (start.onRecord []).serveAll b.onRecord (demands.map Demand.onRecord) =
        m.onRecord (start.plans b demands) ∧
      (m.strategy.usedFallback = true ↔ fallback.isSome = true ∧
        ∃ rule p, Demand.execute rule p ∈ demands ∧
          ∃ part ∈ rule.body.parts, part.Inexpressible) ∧
      (m.strategy.usedFallback = true → ∀ more,
        (m.serveAll b more).strategy.usedFallback = true) ∧
      (∀ rule p, (∀ part ∈ rule.body.parts, ¬ part.Inexpressible) → ∃ plan,
        start.plans b (demands ++ [.execute rule p]) = start.plans b demands ++ [plan] ∧
        plan.minLevel =
          if m.strategy.usedFallback = true ∨ levelAfter demands = 0 then none
          else some (levelAfter demands)) ∧
      (∀ d, (∀ rule p, d = .execute rule p → ∃ part ∈ rule.body.parts, part.Inexpressible) →
        start.plans b (demands ++ [d]) = start.plans b demands) ∧
      (fallback = none → m.strategy.usedFallback = false ∧
        ∀ rule p, (∃ part ∈ rule.body.parts, part.Inexpressible) → ∃ obstacle,
          m.execute b rule p = (.error (.notExpressible obstacle), m)) := by
  intro start m
  have hbefore := Bulk.Follows.start (σ := σ) executor options writer fallback
  have hafter : ∀ demands, ∃ s, (start.serveAll b demands).strategy = .bulk s ∧
      s.Follows fallback.isSome demands := hbefore.serveAll b (m := start) rfl
  obtain ⟨s, hs, hfollows⟩ : ∃ s, m.strategy = .bulk s ∧ s.Follows fallback.isSome demands :=
    hafter demands
  have hused : m.strategy.usedFallback = s.usedFallback := congrArg Strategy.usedFallback hs
  have hplans : ∀ d, start.plans b (demands ++ [d]) = start.plans b demands ++ m.newPlans d :=
    plans_concat b start demands
  have hinexpressible : ∀ rule : Rule, (∃ part ∈ rule.body.parts, part.Inexpressible) ↔
      ¬ rule.Expressible := fun rule => by simp [Rule.Expressible]
  simp only [hinexpressible]
  refine ⟨serveAll_onRecord b start demands, ?_, ?_, ?_, ?_, ?_⟩
  · rw [hused]
    exact hfollows.usedFallback
  · intro h more
    obtain ⟨hcan, rule, p, hmem, hrule⟩ := hfollows.usedFallback.mp (hused ▸ h)
    obtain ⟨s', hs', hfollows'⟩ := hafter (demands ++ more)
    rw [serveAll_append] at hs'
    rw [hs']
    exact hfollows'.usedFallback.mpr ⟨hcan, rule, p, List.mem_append_left more hmem, hrule⟩
  · intro rule p hrule
    obtain ⟨plan, hplan, hlevel⟩ := hfollows.exists_newPlans hs hrule p
    exact ⟨plan, by rw [hplans, hplan], by rw [hlevel, hused]⟩
  · intro d hd
    rw [hplans, newPlans_eq_nil hs hd, List.append_nil]
  · rintro rfl
    have hr : s.fallback = none :=
      Option.isNone_iff_eq_none.mp (Option.isSome_eq_false_iff.mp hfollows.fallback)
    have hunused : s.usedFallback = false := by simpa using hfollows.usedFallback
    refine ⟨hused.trans hunused, fun rule p hrule => ?_⟩
    obtain ⟨obstacle, hexecute⟩ := s.exists_execute_of_no_fallback b p m.work hrule hr
    refine ⟨obstacle, ?_⟩
    rw [execute, hs, Strategy.execute, hexecute]
    show (_, (⟨.bulk s, m.work⟩ : Engine σ)) = (_, m)
    rw [← hs]

end Engine

end RdfReasoner
