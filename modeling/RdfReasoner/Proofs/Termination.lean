import Mathlib.Data.Set.Card
import RdfReasoner.Proofs.Agreement
import RdfReasoner.Proofs.Counts
import RdfReasoner.Proofs.Terms

/-!
# Every run comes to its end

A run makes passes until one of them derives nothing, and nothing in that loop counts down.  On a
store in memory it ends all the same.  What executions stage is well formed and made of the terms at
hand, those of the store at the start and of the rules (`Session.Confined`), so only finitely many
statements can ever be added.  A pass that succeeds lets the store grow by what it counts, since no
writer has anything left from before; and a pass that counts nothing is the last.

So the number of passes is at most one more than that of the statements that can be added
(`Session.run_terminates`).  Neither the level nor the watermark of a rule, nor the way in which it
is executed, plays a part in this: they only keep executions from deriving things.
-/

namespace RdfReasoner

open Fallible

/-! ## Statements that can be added -/

/-- All statements over some terms, without a context and with each of the terms as one. -/
def statementsOver (terms : List Term) : List Statement :=
  terms.flatMap fun s => terms.flatMap fun p => terms.flatMap fun o =>
    (none :: terms.map some).map fun c => ⟨s, p, o, c⟩

theorem length_statementsOver (terms : List Term) :
    (statementsOver terms).length =
      terms.length * terms.length * terms.length * (terms.length + 1) := by
  simp only [statementsOver, List.length_flatMap, List.length_map, List.length_cons,
    List.map_const', List.sum_replicate_nat, Nat.mul_assoc]

theorem mem_statementsOver {terms : List Term} {st : Statement} (h : st.Over {t | t ∈ terms}) :
    st ∈ statementsOver terms := by
  have hplace := Statement.over_iff.mp h
  obtain ⟨s, p, o, c⟩ := st
  have hcontext : c ∈ none :: terms.map some := by
    rcases c with _ | c
    · exact List.mem_cons_self
    · exact List.mem_cons_of_mem _ (List.mem_map_of_mem (hplace .context c rfl))
  refine List.mem_flatMap.mpr ⟨s, hplace .subject s rfl, ?_⟩
  refine List.mem_flatMap.mpr ⟨p, hplace .predicate p rfl, ?_⟩
  refine List.mem_flatMap.mpr ⟨o, hplace .object o rfl, ?_⟩
  exact List.mem_map.mpr ⟨c, hcontext, rfl⟩

namespace Store

variable {rules : List Rule} {start s : Store}

/-- The terms of a store and of some rules. -/
def atHand (s : Store) (rules : List Rule) : Set Term := {t | t ∈ termsAtHand s.facts.toList rules}

/-- The well-formed statements over the terms at hand that a store does not contain. -/
def addable (s : Store) (rules : List Rule) : Set Statement :=
  {t | t.Formed (s.atHand rules) ∧ t ∉ s.statements}

theorem addable_subset (s : Store) (rules : List Rule) :
    s.addable rules ⊆ {t | t ∈ statementsOver (termsAtHand s.facts.toList rules)} :=
  fun _ ht => mem_statementsOver ht.1.2

theorem finite_addable (s : Store) (rules : List Rule) : (s.addable rules).Finite :=
  (List.finite_toSet _).subset (s.addable_subset rules)

/-- There are fewer of them than passes that a run is given. -/
theorem ncard_addable_lt {σ : Type} (session : Session σ) (s : Store) (rules : List Rule) :
    (s.addable rules).ncard < session.enoughRounds s.facts.toList rules := by
  have hncard : (s.addable rules).ncard ≤
      (statementsOver (termsAtHand s.facts.toList rules)).length := by
    classical
    refine (Set.ncard_le_ncard (s.addable_subset rules) (List.finite_toSet _)).trans ?_
    rw [← List.coe_toFinset, Set.ncard_coe_finset]
    exact List.toFinset_card_le _
  rw [length_statementsOver] at hncard
  have hbound : passBound s.facts.toList rules < session.enoughRounds s.facts.toList rules :=
    Nat.lt_succ_of_le (Nat.le_max_right _ _)
  dsimp only [passBound] at hbound
  omega

theorem over_atHand (start : Store) (rules : List Rule) :
    ∀ st ∈ start.statements, st.Over (start.atHand rules) := by
  intro st hst t ht
  obtain ⟨f, hf, rfl⟩ := List.mem_map.mp hst
  exact List.mem_append_left _ (List.mem_flatMap.mpr ⟨f, hf, ht⟩)

theorem mem_atHand {rule : Rule} (hrule : rule ∈ rules) :
    ∀ t ∈ rule.terms, t ∈ start.atHand rules :=
  fun _ ht => List.mem_append_right _ (List.mem_flatMap.mpr ⟨rule, hrule, ht⟩)

/-- A store that took well-formed statements over the terms at hand at the start, and no others. -/
def GrownWithin (start : Store) (rules : List Rule) (s : Store) : Prop :=
  ∃ ts, (∀ t ∈ ts, t.Formed (start.atHand rules)) ∧ start.Took ts s

theorem grownWithin_self (start : Store) (rules : List Rule) : start.GrownWithin rules start :=
  ⟨[], List.forall_mem_nil _, start.took_nil⟩

/-- It may take more of them. -/
theorem admits_grownWithin (start : Store) (rules : List Rule) :
    Admits (start.GrownWithin rules) fun f => f.statement.Formed (start.atHand rules) := by
  rintro s time facts ⟨ts, hts, htook⟩ hfacts
  refine ⟨ts ++ facts.map (·.statement), ?_, htook.trans (s.took_insertAll time facts)⟩
  exact List.forall_mem_append.mpr ⟨hts, List.forall_mem_map.mpr hfacts⟩

/-- What it has behind the statements at the start could be added. -/
theorem GrownWithin.exists_added (h : start.GrownWithin rules s) :
    ∃ added, s.statements = start.statements ++ added ∧ added.Nodup ∧
      ∀ t ∈ added, t ∈ start.addable rules := by
  obtain ⟨ts, hts, added, hstatements, hnodup, hadded⟩ := h
  refine ⟨added, hstatements, hnodup, fun t ht => ?_⟩
  obtain ⟨hmem, hnew⟩ := (hadded t).mp ht
  exact ⟨hts t hmem, hnew⟩

theorem GrownWithin.over (h : start.GrownWithin rules s) :
    ∀ st ∈ s.statements, st.Over (start.atHand rules) := by
  obtain ⟨added, hstatements, -, hadded⟩ := h.exists_added
  rw [hstatements]
  exact List.forall_mem_append.mpr ⟨start.over_atHand rules, fun t ht => (hadded t ht).1.2⟩

theorem GrownWithin.kept (h : start.GrownWithin rules s) : start.statements ⊆ s.statements := by
  obtain ⟨ts, -, htook⟩ := h
  exact htook.subset

theorem GrownWithin.mem_addable (h : start.GrownWithin rules s) {t : Statement}
    (ht : t ∈ s.statements) (hnew : t ∉ start.statements) : t ∈ start.addable rules := by
  obtain ⟨added, hstatements, -, hadded⟩ := h.exists_added
  rw [hstatements] at ht
  exact hadded t ((List.mem_append.mp ht).resolve_left hnew)

/-- So it cannot become larger than with all of them. -/
theorem GrownWithin.size_le (h : start.GrownWithin rules s) :
    s.size ≤ start.size + (start.addable rules).ncard := by
  classical
  obtain ⟨added, hstatements, hnodup, hadded⟩ := h.exists_added
  have hlength : added.length ≤ (start.addable rules).ncard := by
    rw [← List.toFinset_card_of_nodup hnodup, ← Set.ncard_coe_finset]
    refine Set.ncard_le_ncard (fun t ht => hadded t ?_) (start.finite_addable rules)
    simpa using ht
  have hsize := congrArg List.length hstatements
  rw [List.length_append, length_statements, length_statements] at hsize
  omega

end Store

/-! ## Executions from idle writers on -/

namespace Execution

variable {σ : Type} {v : StoreView σ} {b : Backend σ} {e : Execution σ} {n : Nat}

/-- An execution adds a statement of some kind. -/
def Adds (b : Backend Memory) (A : Set Statement) (e : Execution Memory) : Prop :=
  ∃ t ∈ A, t ∉ e.start.store.statements ∧ t ∈ (e.stop b).store.statements

/-- If nothing waits, an execution that succeeds leaves nothing waiting and lets the store grow by
what it counts; if it counts anything, it adds something that was missing. -/
theorem grows_of_idle (hb : b.Exact v) (hs : e.start.strategy.RunsPlans (·.Exact v))
    (hidle : e.start.strategy.pending = []) (hn : e.outcome b = .ok n) :
    (e.stop b).strategy.pending = [] ∧
      (e.storeAfter v b).size = (e.storeBefore v).size + n ∧
      (0 < n → ∃ t, t ∉ (e.storeBefore v).statements ∧ t ∈ (e.storeAfter v b).statements) := by
  have hpending : (e.stop b).strategy.pending = [] := by
    refine List.eq_nil_iff_forall_not_mem.mpr fun g hg => ?_
    have hbefore := pending_of_succeeds ⟨n, hn⟩ g hg
    rw [hidle] at hbefore
    cases hbefore
  obtain ⟨counted, late, hgrowth⟩ := exists_growth hb hs hn
  -- whatever is late waited before
  have hlate : late = [] := by
    refine List.eq_nil_iff_forall_not_mem.mpr fun t ht => ?_
    obtain ⟨hwaiting, -⟩ := (hgrowth.late_iff t).mp ht
    obtain ⟨g, hg, -⟩ := List.mem_map.mp hwaiting
    have hbefore := Strategy.mem_pending_of_writerFor hg
    rw [hidle] at hbefore
    cases hbefore
  subst hlate
  refine ⟨hpending, hgrowth.size, fun hpos => ?_⟩
  have hcounted : 0 < counted.length := hgrowth.length ▸ hpos
  obtain ⟨t, ht⟩ := List.exists_mem_of_length_pos hcounted
  obtain ⟨-, hmissing⟩ := hgrowth.made t ht
  refine ⟨t, fun hmem => ?_, ?_⟩
  · rw [Store.holds_of_mem hmem] at hmissing
    cases hmissing
  · refine hgrowth.statements.mem_iff.mpr (List.mem_append_right _ ?_)
    exact List.mem_append_left _ ht

end Execution

/-! ## Passes -/

namespace Session

variable {limit number derived total n : Nat} {rules : List Rule} {start : Store}
  {s s' : Session Memory}

/-- The store has taken nothing but what could be added at the start of the run, nothing else waits
to be written, and plans are run on the store itself. -/
structure Confined (limit : Nat) (rules : List Rule) (start : Store) (s : Session Memory) : Prop
    extends Upholds (start.GrownWithin rules)
      (fun f => f.statement.Formed (start.atHand rules)) s.store s.strategy.pending where
  runsPlans : s.strategy.RunsPlans (· = Memory.executor limit)

/-- All that an execution of one of the rules stages could be added. -/
theorem Confined.stagesFor {e : Execution Memory} (h : e.start.Confined limit rules start)
    (hrule : e.rule ∈ rules) :
    e.StagesFor (Memory.backend limit) (Request.Over (start.atHand rules))
      fun f => f.statement.Formed (start.atHand rules) where
  ofPlan s plan hstrategy hcompile m records hrecords := by
    have hs := h.runsPlans
    rw [hstrategy] at hs
    have hexecutor : s.executor = Memory.executor limit := hs
    rw [hexecutor] at hrecords
    obtain rfl := Except.ok.inj hrecords
    have hterms : ∀ t ∈ e.rule.terms, t ∈ start.atHand rules := Store.mem_atHand hrule
    exact Plan.everyFor_records (Plan.outputs_formed hterms hcompile) s.options limit
  byRow r := (r.evaluator (Memory.backend limit)).evaluate_formed (Store.mem_atHand hrule)

/-- An execution of one of the rules stays within what could be added. -/
theorem Confined.stop {e : Execution Memory} (h : e.start.Confined limit rules start)
    (hrule : e.rule ∈ rules) : (e.stop (Memory.backend limit)).Confined limit rules start := by
  have hanswer : RepliesIn Memory.view (start.GrownWithin rules)
      (Request.Over (start.atHand rules)) Memory.responder :=
    fun q m hm => Store.over_answer (Store.GrownWithin.over hm) q
  have hplans : e.start.strategy.RunsPlans fun x => x.InMemory Memory.view ∧
      RepliesIn Memory.view (start.GrownWithin rules) (Request.Over (start.atHand rules))
        x.responder := by
    refine h.runsPlans.mono ?_
    rintro _ rfl
    exact ⟨Memory.inMemory_executor limit, hanswer⟩
  have hupholds := Execution.upholds_stop (Memory.inMemory_backend limit)
    (start.admits_grownWithin rules) hanswer hplans (h.stagesFor hrule) h.toUpholds
  exact ⟨hupholds, Execution.runsPlans_stop h.runsPlans⟩

/-- So does the start of a pass. -/
theorem Confined.startPass (h : s.Confined limit rules start) (number : Nat) :
    (s.startPass number).Confined limit rules start := by
  refine ⟨⟨h.holds, ?_⟩, h.runsPlans.requireLevel number⟩
  rw [Session.startPass, Strategy.pending_requireLevel]
  exact h.waiting

/-- So does everything that happens in a run of these rules. -/
theorem isRunInvariant_confined (limit : Nat) (rules : List Rule) (start : Store) :
    IsRunInvariant (Memory.backend limit) fun log _ s =>
      (∀ e ∈ log, e.rule ∈ rules) → s.Confined limit rules start where
  execute log _ e h hlog := by
    obtain ⟨hlog, he⟩ := List.forall_mem_append.mp hlog
    exact (h hlog).stop (he e List.mem_cons_self)
  tick _ _ _ h hlog := ⟨(h hlog).toUpholds, (h hlog).runsPlans⟩
  startPass _ _ number _ h hlog := (h hlog).startPass number
  note _ _ _ _ h hlog := ⟨(h hlog).toUpholds, (h hlog).runsPlans⟩

/-- In a resting session nothing waits, as between two executions that succeed. -/
structure Resting (limit : Nat) (rules : List Rule) (start : Store) (s : Session Memory) : Prop
    extends s.Confined limit rules start where
  idle : s.strategy.pending = []

theorem Resting.startPass (h : s.Resting limit rules start) (number : Nat) :
    (s.startPass number).Resting limit rules start := by
  refine ⟨h.toConfined.startPass number, ?_⟩
  rw [Session.startPass, Strategy.pending_requireLevel]
  exact h.idle

/-- A session with idle writers is resting. -/
theorem resting_of_ready (h : s.strategy.Ready limit) (rules : List Rule) :
    s.Resting limit rules s.store := by
  refine ⟨⟨⟨s.store.grownWithin_self rules, ?_⟩, h.runsPlans⟩, h.pending⟩
  rw [h.pending]
  exact List.forall_mem_nil _

/-- An execution that succeeds leaves the session resting, with as many statements more as it says;
if it says that there are any, one of them could be added and was missing. -/
theorem Resting.stop {e : Execution Memory} (h : e.start.Resting limit rules start)
    (hrule : e.rule ∈ rules) (hn : e.outcome (Memory.backend limit) = .ok n) :
    (e.stop (Memory.backend limit)).Resting limit rules start ∧
      (e.stop (Memory.backend limit)).store.size = e.start.store.size + n ∧
      (0 < n → e.Adds (Memory.backend limit) (start.addable rules)) := by
  have hexact : e.start.strategy.RunsPlans (·.Exact Memory.view) := by
    refine h.runsPlans.mono ?_
    rintro _ rfl
    exact Memory.exact_executor limit
  have hstop := h.toConfined.stop hrule
  obtain ⟨hidle, hsize, hadds⟩ :=
    Execution.grows_of_idle (Memory.exact_backend limit) hexact h.idle hn
  refine ⟨⟨hstop, hidle⟩, hsize, fun hpos => ?_⟩
  obtain ⟨t, hmissing, hmem⟩ := hadds hpos
  have hnew : t ∉ start.statements := fun hstart => hmissing (h.holds.kept hstart)
  exact ⟨t, hstop.holds.mem_addable hmem hnew, hmissing, hmem⟩

/-- So does a pass, and if it counts anything, one of its executions added something. -/
theorem Resting.pass {executed : List Rule} (h : s.Resting limit rules start)
    (hrules : ∀ rule ∈ executed, rule ∈ rules)
    (hrun : (Session.pass (Memory.backend limit) number derived executed).run s = (.ok n, s')) :
    s'.Resting limit rules start ∧ s'.store.size + derived = s.store.size + n ∧
      (derived < n → ∃ e ∈ passLog (Memory.backend limit) number executed s,
        e.Adds (Memory.backend limit) (start.addable rules)) := by
  induction executed generalizing s derived with
  | nil =>
    obtain ⟨hn, rfl⟩ := Prod.mk.inj hrun
    obtain rfl := Except.ok.inj hn
    exact ⟨h, rfl, fun hlt => absurd hlt (Nat.lt_irrefl _)⟩
  | cons rule rest ih =>
    obtain ⟨hrule, hrest⟩ := List.forall_mem_cons.mp hrules
    have hstart : (s.nextExecution (Memory.backend limit) number rule).start.Resting
        limit rules start := ⟨⟨h.toUpholds, h.runsPlans⟩, h.idle⟩
    rw [run_pass_cons] at hrun
    rcases hok : (s.nextExecution (Memory.backend limit) number rule).outcome
      (Memory.backend limit) with error | m
    · rw [hok] at hrun
      cases hrun
    · rw [hok] at hrun
      rw [passLog_cons hok]
      obtain ⟨hstop, hsize, hadds⟩ := hstart.stop hrule hok
      have hsize : _ = s.store.size + m := hsize
      obtain ⟨hs', hsize', hadds'⟩ := ih hstop hrest hrun
      refine ⟨hs', by omega, fun hlt => ?_⟩
      by_cases hm : 0 < m
      · exact ⟨_, List.mem_cons_self, hadds hm⟩
      · obtain ⟨e, he, hadd⟩ := hadds' (by omega)
        exact ⟨e, List.mem_cons_of_mem _ he, hadd⟩

/-! ## Runs -/

/-- Passes that return with the given number of rounds do the same with more. -/
theorem run_passes_of_le {σ : Type} {b : Backend σ} {s : Session σ} {rounds more : Nat}
    (h : ((passes b rules rounds number total).run s).1 ≠ .ok none) (hle : rounds ≤ more) :
    (passes b rules more number total).run s = (passes b rules rounds number total).run s := by
  induction rounds generalizing s number total more with
  | zero => exact absurd rfl h
  | succ rounds ih =>
    obtain ⟨more, rfl⟩ := Nat.exists_eq_add_of_le' (Nat.le_trans (Nat.le_add_left 1 rounds) hle)
    rw [run_passes_succ] at h ⊢
    rw [run_passes_succ]
    by_cases hstop : s.maxPasses.any (· ≤ number) = true
    · rw [if_pos hstop, if_pos hstop]
    · rw [if_neg hstop] at h ⊢
      rw [if_neg hstop]
      rcases hrun : (Session.pass b number 0 rules).run (s.startPass number) with ⟨_ | _ | n, s'⟩
      · rfl
      · rfl
      · rw [hrun] at h
        exact ih h (Nat.le_of_succ_le_succ hle)

/-- What passes do from a session on: there are no more of them than statements that can be added,
but for the last; all others add something; the total that they return is the growth of the store;
and if the rounds are used up, the store grew with each of them. -/
structure Advancing (limit : Nat) (rules : List Rule) (start : Store) (rounds number total : Nat)
    (s : Session Memory) : Prop where
  length_le : (passesLog (Memory.backend limit) rules rounds number s).length + s.store.size ≤
    start.size + (start.addable rules).ncard + 1
  adds : ∀ pass ∈ (passesLog (Memory.backend limit) rules rounds number s).dropLast,
    ∃ e ∈ pass, e.Adds (Memory.backend limit) (start.addable rules)
  counts : ∀ n s', (passes (Memory.backend limit) rules rounds number total).run s =
    (.ok (some n), s') → s'.store.size + total = s.store.size + n
  exhausts : ∀ s', (passes (Memory.backend limit) rules rounds number total).run s =
    (.ok none, s') → s.store.size + rounds ≤ s'.store.size

/-- Passes that end with the next one at the latest. -/
theorem Advancing.of_end {rounds : Nat} (result : Except Error Nat)
    (hroom : s.store.size ≤ start.size + (start.addable rules).ncard)
    (hlog : (passesLog (Memory.backend limit) rules rounds number s).length ≤ 1)
    (hrun : (passes (Memory.backend limit) rules rounds number total).run s =
      (result.map some, s'))
    (hcount : ∀ n, result = .ok n → s'.store.size + total = s.store.size + n) :
    Advancing limit rules start rounds number total s := by
  refine ⟨by omega, ?_, fun n t ht => ?_, fun t ht => ?_⟩
  · have hnil : (passesLog (Memory.backend limit) rules rounds number s).dropLast = [] := by
      refine List.length_eq_zero_iff.mp ?_
      rw [List.length_dropLast]
      omega
    rw [hnil]
    exact List.forall_mem_nil _
  · obtain ⟨hn, rfl⟩ := Prod.mk.inj (hrun.symm.trans ht)
    rcases result with error | m
    · cases hn
    · obtain rfl := Option.some.inj (Except.ok.inj hn)
      exact hcount m rfl
  · obtain ⟨hnone, -⟩ := Prod.mk.inj (hrun.symm.trans ht)
    rcases result with error | m
    · cases hnone
    · cases Except.ok.inj hnone

/-- Passes that go on behind one that lets the store grow. -/
theorem Advancing.of_next {rounds : Nat} {first : List (Execution Memory)}
    (h : Advancing limit rules start rounds (number + 1) (total + (n + 1)) s')
    (hlog : passesLog (Memory.backend limit) rules (rounds + 1) number s =
      first :: passesLog (Memory.backend limit) rules rounds (number + 1) s')
    (hrun : (passes (Memory.backend limit) rules (rounds + 1) number total).run s =
      (passes (Memory.backend limit) rules rounds (number + 1) (total + (n + 1))).run s')
    (hsize : s'.store.size = s.store.size + (n + 1))
    (hadds : ∃ e ∈ first, e.Adds (Memory.backend limit) (start.addable rules)) :
    Advancing limit rules start (rounds + 1) number total s := by
  refine ⟨?_, fun pass hpass => ?_, fun m t ht => ?_, fun t ht => ?_⟩
  · have hlength := h.length_le
    rw [hlog, List.length_cons]
    omega
  · have hlater := h.adds
    rw [hlog] at hpass
    rcases hrest : passesLog (Memory.backend limit) rules rounds (number + 1) s' with
      _ | ⟨next, later⟩
    · rw [hrest] at hpass
      cases hpass
    · rw [hrest] at hpass hlater
      rcases List.mem_cons.mp hpass with rfl | hpass
      · exact hadds
      · exact hlater pass hpass
  · have htotal := h.counts m t (hrun.symm.trans ht)
    omega
  · have hgrown := h.exhausts t (hrun.symm.trans ht)
    omega

/-- From a session that is resting on, passes advance. -/
theorem Resting.advancing (h : s.Resting limit rules start) (rounds number total : Nat) :
    Advancing limit rules start rounds number total s := by
  induction rounds generalizing s number total with
  | zero =>
    have hroom := h.holds.size_le
    refine ⟨?_, List.forall_mem_nil _, fun n s' hrun => ?_, fun s' hrun => ?_⟩
    · rw [passesLog, List.length_nil]
      omega
    · cases hrun
    · obtain ⟨-, rfl⟩ := Prod.mk.inj hrun
      exact Nat.le_refl _
  | succ rounds ih =>
    have hroom : s.store.size ≤ start.size + (start.addable rules).ncard := h.holds.size_le
    have hpasses := run_passes_succ (Memory.backend limit) rules rounds number total s
    by_cases hstop : s.maxPasses.any (· ≤ number) = true
    · -- no further pass is allowed
      have hlog : passesLog (Memory.backend limit) rules (rounds + 1) number s = [] := by
        rw [passesLog, if_pos hstop]
      rw [if_pos hstop] at hpasses
      refine .of_end (.ok total) hroom (by simp [hlog]) hpasses fun n hn => ?_
      obtain rfl := Except.ok.inj hn
      rfl
    · rw [if_neg hstop] at hpasses
      rcases hrun : (Session.pass (Memory.backend limit) number 0 rules).run (s.startPass number)
        with ⟨error | n, s'⟩
      · rw [hrun] at hpasses
        refine .of_end (.error error) hroom ?_ hpasses fun n hn => ?_
        · rw [passesLog, if_neg hstop, hrun]
          exact Nat.le_refl 1
        · cases hn
      · obtain ⟨hs', hsize, hadds⟩ := (h.startPass number).pass (fun _ hrule => hrule) hrun
        have hsize : s'.store.size = s.store.size + n := hsize
        rw [hrun] at hpasses
        rcases n with _ | n
        · refine .of_end (.ok total) hroom ?_ hpasses fun n hn => ?_
          · rw [passesLog, if_neg hstop, hrun]
            exact Nat.le_refl 1
          · obtain rfl := Except.ok.inj hn
            omega
        · -- the next pass starts from a larger store
          refine .of_next (ih hs' _ _) ?_ hpasses hsize (hadds (Nat.succ_pos n))
          rw [passesLog, if_neg hstop, hrun]

/-- A run of the rules stays within what could be added at its start. -/
theorem Confined.run (h : s.Confined limit rules start) (rounds : Nat) :
    ((Session.run (Memory.backend limit) rules rounds).run s).2.Confined limit rules start :=
  (isRunInvariant_confined limit rules start).run (fun _ => h) fun _ he => rule_mem_of_mem_runLog he

/-- A run that has a round for every statement that can be added, and one more, returns. -/
theorem Resting.returns (h : s.Resting limit rules s.store) {rounds : Nat}
    (hrounds : (s.store.addable rules).ncard < rounds) :
    ((run (Memory.backend limit) rules rounds).run s).1 ≠ .ok none := by
  intro hnone
  have hgrown := (h.advancing rounds 0 0).exhausts _ (Prod.ext hnone rfl)
  have hroom := (h.toConfined.run rounds).holds.size_le
  have hsize : s.store.size + rounds ≤
      ((run (Memory.backend limit) rules rounds).run s).2.store.size := hgrown
  omega

/-- So with these rounds, and with more, it comes to one and the same end. -/
theorem Resting.exists_end (h : s.Resting limit rules s.store) :
    ∃ (result : Except Error Nat) (final : Session Memory),
      ∀ rounds, (s.store.addable rules).ncard < rounds →
        (run (Memory.backend limit) rules rounds).run s = (result.map some, final) := by
  have hreturns := h.returns (Nat.lt_succ_self (s.store.addable rules).ncard)
  have hsame {rounds : Nat} (hrounds : (s.store.addable rules).ncard < rounds) :
      (run (Memory.backend limit) rules rounds).run s =
        (run (Memory.backend limit) rules ((s.store.addable rules).ncard + 1)).run s :=
    run_passes_of_le hreturns hrounds
  rcases hrun : (run (Memory.backend limit) rules ((s.store.addable rules).ncard + 1)).run s with
    ⟨error | _ | total, final⟩
  · exact ⟨.error error, final, fun rounds hrounds => (hsame hrounds).trans hrun⟩
  · exact absurd (congrArg Prod.fst hrun) hreturns
  · exact ⟨.ok total, final, fun rounds hrounds => (hsame hrounds).trans hrun⟩

/-- A run needs some number of rounds from whoever starts it, and gives no result if they were too
few.  The program around a session gives it `enoughRounds`, counted on the store as it is at the
start.  If nothing waits in a writer then, the run does not go without a result for want of rounds:
it returns a total, or fails with an error. -/
theorem run_enoughRounds (h : s.strategy.Ready limit) (rules : List Rule) :
    ((run (Memory.backend limit) rules (s.enoughRounds s.store.facts.toList rules)).run s).1 ≠
      .ok none :=
  (resting_of_ready h rules).returns (Store.ncard_addable_lt s s.store rules)

/-- Every run on a store in memory comes to its end, whether its passes are limited or not, if
nothing waits in a writer at its start.  Only finitely many statements can be added: the well-formed
ones over the terms of the store and of the rules.  Every pass but the last adds one of them, so
there are no more passes than these statements and one.  With as many rounds, and with more, the run
returns or fails in one and the same way; it adds nothing else, and if it returns, then how many
statements it added. -/
theorem run_terminates (h : s.strategy.Ready limit) (rules : List Rule) :
    (s.store.addable rules).Finite ∧
      (∀ rounds,
        (s.runLog (Memory.backend limit) rules rounds).length ≤
            (s.store.addable rules).ncard + 1 ∧
          ∀ pass ∈ (s.runLog (Memory.backend limit) rules rounds).dropLast,
            ∃ e ∈ pass, e.Adds (Memory.backend limit) (s.store.addable rules)) ∧
      ∃ (result : Except Error Nat) (final : Session Memory) (added : List Statement),
        (∀ rounds, (s.store.addable rules).ncard < rounds →
          (run (Memory.backend limit) rules rounds).run s = (result.map some, final)) ∧
        final.store.statements = s.store.statements ++ added ∧ added.Nodup ∧
        (∀ t ∈ added, t ∈ s.store.addable rules) ∧
        ∀ total, result = .ok total → total = added.length := by
  have hresting := resting_of_ready h rules
  refine ⟨s.store.finite_addable rules, fun rounds => ?_, ?_⟩
  · have hadvancing := hresting.advancing rounds 0 0
    have hlength := hadvancing.length_le
    refine ⟨?_, hadvancing.adds⟩
    unfold runLog
    omega
  · obtain ⟨result, final, hend⟩ := hresting.exists_end
    have hrun := hend _ (Nat.lt_succ_self (s.store.addable rules).ncard)
    have hconfined := hresting.toConfined.run ((s.store.addable rules).ncard + 1)
    rw [hrun] at hconfined
    obtain ⟨added, hstatements, hnodup, hadded⟩ := hconfined.holds.exists_added
    refine ⟨result, final, added, hend, hstatements, hnodup, hadded, ?_⟩
    rintro total rfl
    have hcounts := (hresting.advancing _ 0 0).counts total final hrun
    have hlength := congrArg List.length hstatements
    rw [List.length_append, Store.length_statements, Store.length_statements] at hlength
    have hlength : final.store.size = s.store.size + added.length := hlength
    omega

end Session

namespace Family

open Session

set_option maxRecDepth 100000 in
/-- The run over three generations adds six statements, whatever number of rounds it is given above
that of the statements that could be added. -/
theorem terminates_generations :
    ∃ (final : Session Memory) (added : List Statement),
      (∀ rounds, (generations.store.addable [parents, descendants, ancestors]).ncard < rounds →
        (run (Memory.backend 1000) [parents, descendants, ancestors] rounds).run (way true) =
          (.ok (some 6), final)) ∧
      final.store.statements = generations.store.statements ++ added ∧ added.length = 6 := by
  have hready : (way true).strategy.Ready 1000 := (fresh_ofSettings _ 1000 generations).ready
  obtain ⟨-, -, result, final, added, hruns, hstatements, -, -, htotal⟩ :=
    run_terminates hready [parents, descendants, ancestors]
  have hrun := hruns _ (Store.ncard_addable_lt (way true) _ _)
  have hsix : ((run (Memory.backend 1000) [parents, descendants, ancestors]
      ((way true).enoughRounds (way true).store.facts.toList
        [parents, descendants, ancestors])).run (way true)).1 = .ok (some 6) := by decide +kernel
  rw [hrun] at hsix
  obtain rfl : result = .ok 6 := by
    rcases result with error | total
    · cases hsix
    · exact congrArg Except.ok (Option.some.inj (Except.ok.inj hsix))
  exact ⟨final, added, hruns, hstatements, (htotal 6 rfl).symm⟩

end Family

end RdfReasoner
