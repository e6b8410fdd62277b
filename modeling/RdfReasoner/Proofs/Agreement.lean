import Mathlib.Data.List.Nodup
import RdfReasoner.Proofs.Currency

/-!
# Sessions that agree

What an execution derives can be said without its plan: the statements that evaluation of the whole
body makes and the store is missing, in the order in which they are made.  For a plan this is so as
long as its rule is up to date: what its guards skip holds already, and what is left is in order.

So two sessions that evaluate bodies in the same way and start from the same statements do the same
in every execution of a run, whether by plan or row by row (`Session.run_agree`), and the way that
settings choose makes no difference to what is derived.
-/

namespace RdfReasoner

open Fallible

/-- The settings with plans switched on or off. -/
def Settings.switched (s : Settings) (enabled : Bool) : Settings :=
  { s with pipeline := { s.pipeline with enabled } }

/-! ## Executions without their plans -/

namespace Execution

variable {limit : Nat} {named : String → Rule} {e e' : Execution Memory}

/-- What evaluation of the whole body finds at the start. -/
def answers (limit : Nat) (e : Execution Memory) : List (Except Error Binding) :=
  (e.start.evaluator (Memory.backend limit)).answers e.start.store e.rule.body

/-- What the rule makes of that and the store is missing. -/
def news (limit : Nat) (e : Execution Memory) : List Statement :=
  e.start.store.missing ∅ ((valuesBefore (e.answers limit)).flatMap e.rule.instances)

/-- Every rule can be executed, and no plan fails because of the size of its results. -/
structure Unhindered (s : Strategy Memory) : Prop where
  allowsLarge : s.planOptions.allowLargeResults = true
  byRow : s.byRow?.isSome = true

/-- An unhindered execution fails exactly if evaluation does. -/
theorem error?_eq_firstError? (h : Unhindered e.start.strategy) :
    e.error? limit = firstError? (e.answers limit) := by
  rcases hplan : e.plan? with _ | plan
  · obtain ⟨r, hr⟩ := Option.isSome_iff_exists.mp h.byRow
    have hanswers : r.answers e.start.store e.rule = e.answers limit := answers_byRow hr
    simp only [error?, hplan, hr, hanswers]
  · obtain ⟨s, hs, hcompile⟩ := exists_compile hplan
    obtain ⟨steps, hsteps⟩ := exists_flatten hplan
    have hnone : e.error? limit = none := by
      simp only [error?, hplan]
      exact Plan.firstError?_records hcompile h.allowsLarge limit
    rw [hnone, answers, Evaluator.answers_eq_rows _ _ hsteps, firstError?_map_ok]

/-- The statements that are derived are those that full evaluation finds new. -/
theorem Orderly.statements_derived (h : e.Orderly limit named)
    (hway : Unhindered e.start.strategy)
    (hup : ∀ plan, e.plan? = some plan →
      UpToDate e.rule e.guard (e.start.watermark e.rule.id) e.start.store) :
    e.derived.map (·.statement) = e.news limit := by
  rcases hplan : e.plan? with _ | plan
  · obtain ⟨r, hr⟩ := Option.isSome_iff_exists.mp hway.byRow
    have hanswers : r.answers e.start.store e.rule = e.answers limit := answers_byRow hr
    rw [statements_derived_byRow hplan hr, Rowwise.derived, hanswers, news]
  · obtain ⟨steps, hsteps⟩ := exists_flatten hplan
    -- what the guards skip holds already, so it is not missing either
    have hskipped : ∀ row ∈ e.rows, plan.admits row = false →
        ∀ t ∈ e.rule.instances row.binding, e.start.store.holds t = true := by
      intro row hrow hadmits t ht
      have hguards := mt (admits_iff hplan).mpr (Bool.eq_false_iff.mp hadmits)
      exact (hup plan hplan).holds_of_skipped hrow hguards ht
    have hanswers : valuesBefore (e.answers limit) = e.rows.map (·.binding) := by
      rw [answers, Evaluator.answers_eq_rows _ _ hsteps, valuesBefore_map_ok]
      rfl
    rw [statements_derived_plan hplan h.levelsFit, Store.missing_flatMap_filter hskipped, news,
      hanswers, List.flatMap_map]

/-- What an execution does, in terms of full evaluation. -/
theorem Orderly.spec (h : e.Orderly limit named) (hready : e.start.strategy.Ready limit)
    (hway : Unhindered e.start.strategy)
    (hup : ∀ plan, e.plan? = some plan →
      UpToDate e.rule e.guard (e.start.watermark e.rule.id) e.start.store) :
    (e.outcome (Memory.backend limit), (e.stop (Memory.backend limit)).store.statements) =
      match firstError? (e.answers limit) with
      | some err => (.error (.rule e.rule.id err), e.start.store.statements)
      | none => (.ok (e.news limit).length, e.start.store.statements ++ e.news limit) := by
  obtain ⟨hdone, hfailed⟩ := Execution.spec hready (.inr h.writesAtFlush)
  rw [error?_eq_firstError? hway] at hdone hfailed
  rcases herror : firstError? (e.answers limit) with _ | err
  · have hdone := hdone herror
    rw [hdone.outcome, hdone.statements, ← h.statements_derived hway hup, List.length_map]
  · have hfailed := hfailed err herror
    rw [hfailed.outcome, hfailed.store]

/-- Two executions of a rule on the same statements agree. -/
theorem Orderly.agree (h : e.Orderly limit named) (h' : e'.Orderly limit named)
    (hready : e.start.strategy.Ready limit) (hready' : e'.start.strategy.Ready limit)
    (hway : Unhindered e.start.strategy) (hway' : Unhindered e'.start.strategy)
    (hup : ∀ plan, e.plan? = some plan →
      UpToDate e.rule e.guard (e.start.watermark e.rule.id) e.start.store)
    (hup' : ∀ plan, e'.plan? = some plan →
      UpToDate e'.rule e'.guard (e'.start.watermark e'.rule.id) e'.start.store)
    (hrule : e.rule = e'.rule)
    (hevaluation : e.start.strategy.evaluation = e'.start.strategy.evaluation)
    (hstatements : e.start.store.statements = e'.start.store.statements) :
    e.outcome (Memory.backend limit) = e'.outcome (Memory.backend limit) ∧
      (e.stop (Memory.backend limit)).store.statements =
        (e'.stop (Memory.backend limit)).store.statements := by
  have hevaluator : e.start.evaluator (Memory.backend limit) =
      e'.start.evaluator (Memory.backend limit) := congrArg (Evaluator.mk · _ _) hevaluation
  have hanswers : e.answers limit = e'.answers limit := by
    rw [answers, answers, hevaluator, hrule, Evaluator.answers_congr _ hstatements]
  have hnews : e.news limit = e'.news limit := by
    rw [news, news, hanswers, hrule, Store.missing_congr hstatements]
  have hspec := h.spec hready hway hup
  rw [hanswers, hnews, hrule, hstatements, ← h'.spec hready' hway' hup'] at hspec
  exact Prod.mk.inj hspec

end Execution

/-! ## Passes and runs -/

namespace Session

variable {limit : Nat} {named : String → Rule} {s t : Session Memory} {number : Nat}
  {level : String → Nat} {settings settings' : EvaluationOptions × PlanOptions × Bool}
  {times times' : List Timestamp} {rules : List Rule}

/-- Settings under which two sessions agree. -/
structure Matching (settings settings' : EvaluationOptions × PlanOptions × Bool) : Prop where
  evaluation : settings.1 = settings'.1
  allowsLarge : settings.2.1.allowLargeResults = true
  allowsLarge' : settings'.2.1.allowLargeResults = true
  byRow : settings.2.2 = true
  byRow' : settings'.2.2 = true

/-- What shows of an execution: its rule, and how it ended. -/
def shown (limit : Nat) (e : Execution Memory) : Rule × Except Error Nat :=
  (e.rule, e.outcome (Memory.backend limit))

/-- Two parts of runs end alike: with the same result, and on the same statements. -/
structure EndAlike {α : Type} (x y : Except Error α × Session Memory) : Prop where
  result : x.1 = y.1
  statements : x.2.store.statements = y.2.store.statements

theorem Matching.unhindered (h : Matching settings settings') (hs : s.strategy.settings = settings)
    (ht : t.strategy.settings = settings') :
    Execution.Unhindered s.strategy ∧ Execution.Unhindered t.strategy ∧
      s.strategy.evaluation = t.strategy.evaluation := by
  subst hs ht
  exact ⟨⟨h.allowsLarge, h.byRow⟩, ⟨h.allowsLarge', h.byRow'⟩, h.evaluation⟩

/-- Two passes over the same rules and statements agree in every execution. -/
theorem InPass.agree (hmatching : Matching settings settings')
    (hs : s.InPass limit named settings number level)
    (ht : t.InPass limit named settings' number level)
    (hstatements : s.store.statements = t.store.statements)
    (hupper : ∀ id, level id ≤ number + 1) (hlevel : ∀ rule ∈ rules, number ≤ level rule.id)
    (horderly : ∀ e ∈ passLog (Memory.backend limit) number rules s, e.Orderly limit named)
    (horderly' : ∀ e ∈ passLog (Memory.backend limit) number rules t, e.Orderly limit named)
    (htimes : s.OnTime ((passLog (Memory.backend limit) number rules s).map (·.time) ++ times))
    (htimes' : t.OnTime ((passLog (Memory.backend limit) number rules t).map (·.time) ++ times'))
    (derived : Nat) :
    EndAlike ((Session.pass (Memory.backend limit) number derived rules).run s)
        ((Session.pass (Memory.backend limit) number derived rules).run t) ∧
      (passLog (Memory.backend limit) number rules s).map (shown limit) =
        (passLog (Memory.backend limit) number rules t).map (shown limit) := by
  induction rules generalizing s t level derived with
  | nil => exact ⟨⟨rfl, hstatements⟩, rfl⟩
  | cons rule rest ih =>
    obtain ⟨hrule, hlevel⟩ := List.forall_mem_cons.mp hlevel
    obtain ⟨hway, hway', hevaluation⟩ := hmatching.unhindered hs.settings ht.settings
    have hfirst := horderly _ List.mem_cons_self
    have hfirst' := horderly' _ List.mem_cons_self
    -- the levels are the same in both, so neither guard skips anything that is missing
    obtain ⟨houtcome, hstop⟩ := hfirst.agree hfirst' hs.ready ht.ready hway hway'
      (fun plan => hfirst.upToDate hs.current (hs.guard_le hrule))
      (fun plan => hfirst'.upToDate ht.current (ht.guard_le hrule)) rfl hevaluation hstatements
    rcases hok : (s.nextExecution (Memory.backend limit) number rule).outcome
      (Memory.backend limit) with error | n
    · -- both fail here, and nothing more is done
      have hok' := houtcome.symm.trans hok
      rw [run_pass_cons, run_pass_cons, hok, hok', passLog, passLog, hok, hok']
      refine ⟨⟨rfl, hstop⟩, ?_⟩
      simp only [Except.isOk, Except.toBool, Bool.false_eq_true, if_false, List.map_cons,
        List.map_nil, shown, hok, hok']
      rfl
    · have hok' := houtcome.symm.trans hok
      rw [passLog_cons hok] at horderly htimes ⊢
      rw [passLog_cons hok'] at horderly' htimes' ⊢
      rw [run_pass_cons, run_pass_cons, hok, hok']
      obtain ⟨-, hnext, hrest⟩ := hs.nextExecution hupper hrule ⟨hfirst, n, hok⟩ htimes
      obtain ⟨-, hnext', hrest'⟩ := ht.nextExecution hupper hrule ⟨hfirst', n, hok'⟩ htimes'
      obtain ⟨hend, hlog⟩ := ih hnext hnext' hstop (raised_le hupper rule)
        (fun rule' hrule' => le_raised (hlevel rule' hrule'))
        (fun e he => horderly e (List.mem_cons_of_mem _ he))
        (fun e he => horderly' e (List.mem_cons_of_mem _ he)) hrest hrest' (derived + n)
      refine ⟨hend, ?_⟩
      rw [List.map_cons, List.map_cons, hlog, shown, shown, hok, hok']
      rfl

/-- Passes one after the other agree as well. -/
theorem Steady.agree {rounds : Nat} (hmatching : Matching settings settings')
    (hs : s.Steady limit named settings) (ht : t.Steady limit named settings')
    (hcurrent : s.Current named (levelsAt rules number))
    (hcurrent' : t.Current named (levelsAt rules number))
    (hstatements : s.store.statements = t.store.statements) (hmax : s.maxPasses = t.maxPasses)
    (horderly : ∀ e ∈ (passesLog (Memory.backend limit) rules rounds number s).flatten,
      e.Orderly limit named)
    (horderly' : ∀ e ∈ (passesLog (Memory.backend limit) rules rounds number t).flatten,
      e.Orderly limit named)
    (htimes : s.OnTime
      ((passesLog (Memory.backend limit) rules rounds number s).flatten.map (·.time)))
    (htimes' : t.OnTime
      ((passesLog (Memory.backend limit) rules rounds number t).flatten.map (·.time)))
    (total : Nat) :
    EndAlike ((Session.passes (Memory.backend limit) rules rounds number total).run s)
        ((Session.passes (Memory.backend limit) rules rounds number total).run t) ∧
      (passesLog (Memory.backend limit) rules rounds number s).map (·.map (shown limit)) =
        (passesLog (Memory.backend limit) rules rounds number t).map (·.map (shown limit)) := by
  induction rounds generalizing s t number total with
  | zero => exact ⟨⟨rfl, hstatements⟩, rfl⟩
  | succ rounds ih =>
    rw [run_passes_succ, run_passes_succ, ← hmax]
    rw [passesLog] at horderly htimes ⊢
    rw [passesLog, ← hmax] at horderly' htimes' ⊢
    by_cases hstop : s.maxPasses.any (· ≤ number) = true
    · rw [if_pos hstop, if_pos hstop, if_pos hstop, if_pos hstop]
      exact ⟨⟨rfl, hstatements⟩, rfl⟩
    · rw [if_neg hstop] at horderly htimes horderly' htimes' ⊢
      rw [if_neg hstop, if_neg hstop, if_neg hstop]
      simp only [List.flatten_cons, List.map_append, List.forall_mem_append]
        at horderly htimes horderly' htimes'
      have hpass := hs.startPass hcurrent number
      have hpass' := ht.startPass hcurrent' number
      obtain ⟨hend, hlog⟩ := hpass.agree hmatching hpass' hstatements
        (levelsAt_le_succ rules number) (le_levelsAt number) horderly.1 horderly'.1
        ⟨htimes.sorted, htimes.ahead⟩ ⟨htimes'.sorted, htimes'.ahead⟩ 0
      rcases hrun : (Session.pass (Memory.backend limit) number 0 rules).run (s.startPass number)
        with ⟨result, s'⟩
      rcases hrun' : (Session.pass (Memory.backend limit) number 0 rules).run (t.startPass number)
        with ⟨result', t'⟩
      rw [hrun, hrun'] at hend
      obtain ⟨rfl, hstatements'⟩ := hend
      rw [hrun] at horderly htimes
      rw [hrun'] at horderly' htimes'
      dsimp only at hrun' ⊢
      rcases result with error | _ | n
      · exact ⟨⟨rfl, hstatements'⟩, by simp only [List.map_cons, hlog, List.map_nil]⟩
      · exact ⟨⟨rfl, hstatements'⟩, by simp only [List.map_cons, hlog, List.map_nil]⟩
      · obtain ⟨-, hnext, hrest⟩ :=
          hpass.next horderly.1 ⟨htimes.sorted, htimes.ahead⟩ hrun
        obtain ⟨-, hnext', hrest'⟩ :=
          hpass'.next horderly'.1 ⟨htimes'.sorted, htimes'.ahead⟩ hrun'
        have hmaxs : s'.maxPasses = s.maxPasses := by
          have h := maxPasses_pass (Memory.backend limit) number 0 rules (s.startPass number)
          rwa [hrun] at h
        have hmaxt : t'.maxPasses = t.maxPasses := by
          have h := maxPasses_pass (Memory.backend limit) number 0 rules (t.startPass number)
          rwa [hrun'] at h
        obtain ⟨hend, hlogs⟩ := ih hnext.steady hnext'.steady hnext.current hnext'.current
          hstatements' (hmaxs.trans (hmax.trans hmaxt.symm)) horderly.2 horderly'.2 hrest hrest'
          (total + (n + 1))
        exact ⟨hend, by simp only [List.map_cons, hlog, hlogs]⟩

/-- Rules whose ids are distinct are named by them. -/
theorem exists_named (hids : (rules.map (·.id)).Nodup) :
    ∃ named : String → Rule, ∀ rule ∈ rules, named rule.id = rule := by
  -- ids that name no rule of the list may name any
  let nothing : Query := .pattern { subject := .var "", predicate := .var "", object := .var "" }
  refine ⟨fun id => (rules.find? (·.id = id)).getD ⟨id, nothing, []⟩, fun rule hrule => ?_⟩
  rcases hfound : rules.find? (·.id = rule.id) with _ | found
  · have hnone := List.find?_eq_none.mp hfound rule hrule
    simp at hnone
  · have hid : found.id = rule.id := by simpa using List.find?_some hfound
    show (rules.find? (·.id = rule.id)).getD _ = rule
    rw [hfound]
    exact List.inj_on_of_nodup_map hids (List.mem_of_find?_eq_some hfound) hrule hid

theorem rule_mem_of_mem_passLog {b : Backend Memory} {e : Execution Memory}
    (he : e ∈ passLog b number rules s) : e.rule ∈ rules := by
  induction rules generalizing s with
  | nil => cases he
  | cons rule rest ih =>
    rw [passLog] at he
    rcases List.mem_cons.mp he with rfl | he
    · exact List.mem_cons_self
    · split at he
      · exact List.mem_cons_of_mem _ (ih he)
      · cases he

theorem rule_mem_of_mem_runLog {b : Backend Memory} {rounds : Nat} {e : Execution Memory}
    (he : e ∈ (passesLog b rules rounds number s).flatten) : e.rule ∈ rules := by
  induction rounds generalizing s number with
  | zero => cases he
  | succ rounds ih =>
    rw [passesLog] at he
    split at he
    · cases he
    · rw [List.flatten_cons] at he
      rcases List.mem_append.mp he with he | he
      · exact rule_mem_of_mem_passLog he
      · split at he
        · exact ih he
        · cases he

/-- A run by plans and a run row by row agree: they return the same, every execution ends in the
same way in both, and they leave the same statements behind, in the same order. -/
theorem run_agree {settings : Settings} (hlarge : settings.pipeline.allowLargeResults = true)
    {m m' : Memory} (hstatements : m.store.statements = m'.store.statements)
    (hids : (rules.map (·.id)).Nodup) (rounds : Nat)
    (hs : s = ofSettings (Memory.backend limit) (settings.switched true) m)
    (ht : t = ofSettings (Memory.backend limit) (settings.switched false) m')
    (hwrites : ∀ e ∈ (s.runLog (Memory.backend limit) rules rounds).flatten,
      e.WritesAtFlush (Memory.backend limit) ∧ e.LevelsFit)
    (hwrites' : ∀ e ∈ (t.runLog (Memory.backend limit) rules rounds).flatten,
      e.WritesAtFlush (Memory.backend limit) ∧ e.LevelsFit) :
    ((run (Memory.backend limit) rules rounds).run s).1 =
        ((run (Memory.backend limit) rules rounds).run t).1 ∧
      (s.runLog (Memory.backend limit) rules rounds).map (·.map (shown limit)) =
        (t.runLog (Memory.backend limit) rules rounds).map (·.map (shown limit)) ∧
      ((run (Memory.backend limit) rules rounds).run s).2.store.statements =
        ((run (Memory.backend limit) rules rounds).run t).2.store.statements := by
  obtain ⟨named, hnamed⟩ := exists_named hids
  have hfresh : s.Fresh limit := hs ▸ fresh_ofSettings _ limit m
  have hfresh' : t.Fresh limit := ht ▸ fresh_ofSettings _ limit m'
  have hmatching : Matching s.strategy.settings t.strategy.settings := by
    subst hs ht
    exact ⟨rfl, hlarge, rfl, rfl, rfl⟩
  have hstart : s.store.statements = t.store.statements := by
    subst hs ht
    exact hstatements
  have hmax : s.maxPasses = t.maxPasses := by
    subst hs ht
    rfl
  have hcurrent {u : Session Memory} (hu : u.Fresh limit) : u.Current named (levelsAt rules 0) :=
    (hu.steady named).current.mono fun id => levelsAt_le rules 0 id
  obtain ⟨hend, hlog⟩ := (hfresh.steady named).agree hmatching (hfresh'.steady named)
    (hcurrent hfresh) (hcurrent hfresh') hstart hmax
    (fun e he => ⟨(hwrites e he).1, (hwrites e he).2, hnamed _ (rule_mem_of_mem_runLog he)⟩)
    (fun e he => ⟨(hwrites' e he).1, (hwrites' e he).2, hnamed _ (rule_mem_of_mem_runLog he)⟩)
    (hfresh.onTime (sorted_runLog _ rules rounds s))
    (hfresh'.onTime (sorted_runLog _ rules rounds t)) 0
  exact ⟨hend.result, hlog, hend.statements⟩

end Session

namespace Family

open Session

/-- Descendants are found along the paths of parents, which no plan can follow. -/
def descendants : Rule where
  id := "descendants"
  body := .join (related "x" "parent" "y") (.pattern
    { subject := .var "x", predicate := .const (iri "parent"), object := .var "z",
      kind := .transitive })
  head := [⟨.var "z", .const (iri "descendant"), .var "x", none⟩]

/-- Three generations. -/
def generations : Memory :=
  memory [⟨said "p0" "parent" "p1", {}⟩, ⟨said "p1" "parent" "p2", { level := 7 }⟩]

/-- The session by plans and the one row by row. -/
def way (enabled : Bool) : Session Memory :=
  .ofSettings (Memory.backend 1000) (({} : Settings).switched enabled) generations

set_option maxRecDepth 100000 in
/-- Both derive the same ancestors and descendants. -/
theorem agree_generations :
    ((run (Memory.backend 1000) [parents, descendants, ancestors] 9).run
        (way true)).2.store.size = 8 ∧
      ((run (Memory.backend 1000) [parents, descendants, ancestors] 9).run (way true)).1 =
        ((run (Memory.backend 1000) [parents, descendants, ancestors] 9).run (way false)).1 ∧
      ((way true).runLog (Memory.backend 1000) [parents, descendants, ancestors] 9).map
          (·.map (shown 1000)) =
        ((way false).runLog (Memory.backend 1000) [parents, descendants, ancestors] 9).map
          (·.map (shown 1000)) ∧
      ((run (Memory.backend 1000) [parents, descendants, ancestors] 9).run
          (way true)).2.store.statements =
        ((run (Memory.backend 1000) [parents, descendants, ancestors] 9).run
          (way false)).2.store.statements := by
  have hwrites : ∀ e ∈ ((way true).runLog (Memory.backend 1000) [parents, descendants, ancestors]
      9).flatten, e.WritesAtFlush (Memory.backend 1000) ∧ e.LevelsFit := by decide +kernel
  have hwrites' : ∀ e ∈ ((way false).runLog (Memory.backend 1000) [parents, descendants, ancestors]
      9).flatten, e.WritesAtFlush (Memory.backend 1000) ∧ e.LevelsFit := by decide +kernel
  have hids : ([parents, descendants, ancestors].map (·.id)).Nodup := by decide
  refine ⟨by decide +kernel, ?_⟩
  have hlarge : ({} : Settings).pipeline.allowLargeResults = true := rfl
  exact run_agree hlarge (m := generations) rfl hids 9 rfl rfl hwrites hwrites'

end Family

end RdfReasoner
