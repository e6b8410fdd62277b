import RdfReasoner.Proofs.Completeness
import RdfReasoner.Proofs.History

/-!
# Sessions whose rules are up to date

Within a run the required level goes up from pass to pass, and the next run starts at 0 again.
`Session.Current` says of a session that every rule is up to date, each up to a level of its own;
once rules were evaluated row by row, levels guard nothing and none counts.

Between calls the level of every rule is 0 (`Steady`).  In pass `k` it is `k` for the rules of the
run that are still to be executed and `k + 1` for those that were (`InPass`), so every execution of
a run is complete and the next pass can start (`InPass.pass`).  A rule that is executed on its own
comes with whatever level the last pass asked for, so whether it is complete has to be known.
-/

namespace RdfReasoner

open Fallible

/-! ## Executions as they should be -/

/-- The execution writes at its flush, derives no level that is too high, and its rule is the one
that its id names. -/
structure Execution.Orderly (limit : Nat) (named : String → Rule) (e : Execution Memory) :
    Prop where
  writesAtFlush : e.WritesAtFlush (Memory.backend limit)
  levelsFit : e.LevelsFit
  named_id : named e.rule.id = e.rule

/-- Besides, it succeeds. -/
structure Execution.Regular (limit : Nat) (named : String → Rule) (e : Execution Memory) : Prop
    extends e.Orderly limit named where
  succeeds : e.Succeeds (Memory.backend limit)

instance (limit : Nat) (named : String → Rule) (e : Execution Memory) :
    Decidable (e.Regular limit named) :=
  decidable_of_iff (e.WritesAtFlush (Memory.backend limit) ∧ e.LevelsFit ∧
      named e.rule.id = e.rule ∧ e.Succeeds (Memory.backend limit))
    ⟨fun ⟨h₁, h₂, h₃, h₄⟩ => ⟨⟨h₁, h₂, h₃⟩, h₄⟩, fun ⟨⟨h₁, h₂, h₃⟩, h₄⟩ => ⟨h₁, h₂, h₃, h₄⟩⟩

/-- What an execution has to be in a session with the given settings. -/
structure Execution.Clean (limit : Nat) (settings : EvaluationOptions × PlanOptions × Bool)
    (e : Execution Memory) : Prop where
  settings : e.start.strategy.settings = settings
  error : e.error? limit = none
  done : e.Done limit
  complete : e.Complete limit

namespace Session

/-- The times to come are in order, and no watermark is ahead of them. -/
structure OnTime {σ : Type} (s : Session σ) (times : List Timestamp) : Prop where
  sorted : times.Pairwise (· ≤ ·)
  ahead : ∀ id w, s.watermark id = some w → ∀ t ∈ times, w ≤ t

/-- No watermark is ahead, so the one of a rule moves right to the next time. -/
theorem OnTime.advance {σ : Type} {s : Session σ} {t : Timestamp} {times : List Timestamp}
    (h : s.OnTime (t :: times)) (id : String) :
    ((s.work.watermarks.get? id).map (max · t)).getD t = t := by
  rcases hold : s.work.watermarks.get? id with _ | old
  · rfl
  · rw [Option.map_some, Option.getD_some]
    exact Timestamp.max_eq_right (h.ahead id old hold t List.mem_cons_self)

/-- A level, or 0 once rules were evaluated row by row. -/
def trusted {σ : Type} (s : Session σ) (level : Nat) : Nat :=
  if s.strategy.usedFallback then 0 else level

@[simp] theorem trusted_zero {σ : Type} (s : Session σ) : s.trusted 0 = 0 := ite_self 0

/-- Every rule that can be compiled is up to date, up to the level that its id is given. -/
def Current (named : String → Rule) (level : String → Nat) (s : Session Memory) : Prop :=
  ∀ rule, named rule.id = rule → ∀ steps, rule.body.flatten = .ok steps →
    UpToDate rule (s.trusted (level rule.id)) (s.watermark rule.id) s.store

/-- The session between two calls. -/
structure Steady (limit : Nat) (named : String → Rule)
    (settings : EvaluationOptions × PlanOptions × Bool) (s : Session Memory) : Prop where
  ready : s.strategy.Ready limit
  settings : s.strategy.settings = settings
  current : s.Current named fun _ => 0

/-- The session between two executions of a pass. -/
structure InPass (limit : Nat) (named : String → Rule)
    (settings : EvaluationOptions × PlanOptions × Bool) (number : Nat) (level : String → Nat)
    (s : Session Memory) : Prop where
  ready : s.strategy.Ready limit
  settings : s.strategy.settings = settings
  asked : s.strategy.usedFallback = false → s.strategy.requiredLevel = number
  current : s.Current named level

/-- A session whose executions left nothing behind yet, on a store with any content. -/
structure Fresh (limit : Nat) (s : Session Memory) : Prop where
  ready : s.strategy.Ready limit
  unwatched : s.work.watermarks = .empty

section fresh

variable {limit : Nat} {s : Session Memory}

/-- In a fresh session every rule is up to date. -/
theorem Fresh.steady (h : s.Fresh limit) (named : String → Rule) :
    s.Steady limit named s.strategy.settings := by
  refine ⟨h.ready, rfl, ?_⟩
  intro rule _ steps _
  have hwatermark : s.watermark rule.id = none := by
    rw [watermark, h.unwatched, Watermarks.get?_empty]
  rw [hwatermark, trusted_zero]
  exact UpToDate.of_never rule s.store

/-- In a fresh session any times in order will do. -/
theorem Fresh.onTime (h : s.Fresh limit) {times : List Timestamp}
    (hsorted : times.Pairwise (· ≤ ·)) : s.OnTime times := by
  refine ⟨hsorted, fun id w hw => ?_⟩
  rw [watermark, h.unwatched, Watermarks.get?_empty] at hw
  cases hw

/-- The session that settings ask for is fresh. -/
theorem fresh_ofSettings (settings : Settings) (limit : Nat) (memory : Memory) :
    (ofSettings (Memory.backend limit) settings memory).Fresh limit := by
  have hidle := Writer.idle_start settings.writer.batchSize
  have hstrategy : (ofSettings (Memory.backend limit) settings memory).strategy =
      if settings.pipeline.enabled then
        .bulk (.ofSettings (Memory.executor limit) settings (some (.ofSettings settings)))
      else .rowwise (.ofSettings settings) := rfl
  refine ⟨?_, rfl⟩
  by_cases henabled : settings.pipeline.enabled = true
  · rw [hstrategy, if_pos henabled]
    refine ⟨rfl, hidle, fun r hr => ?_⟩
    obtain rfl := Option.some.inj hr
    exact hidle
  · rw [hstrategy, if_neg henabled]
    exact hidle

end fresh

end Session

open Session

/-! ## One execution -/

namespace Execution

variable {limit : Nat} {named : String → Rule} {e : Execution Memory} {times : List Timestamp}
  {level level' : String → Nat}

/-- A regular execution is done. -/
theorem Regular.done (h : e.Regular limit named) (hready : e.start.strategy.Ready limit) :
    e.error? limit = none ∧ e.Done limit :=
  done_of_succeeds hready (.inr h.writesAtFlush) h.succeeds

/-- The watermark of the rule may move to the time of the execution, which is not ahead of the times
to come. -/
theorem onTime_stop {σ : Type} {b : Backend σ} (e : Execution σ)
    (ht : e.start.OnTime (e.time :: times)) : (e.stop b).OnTime times := by
  obtain ⟨hfirst, hsorted⟩ := List.pairwise_cons.mp ht.sorted
  have hstay : ∀ id w, e.start.watermark id = some w → ∀ t ∈ times, w ≤ t :=
    fun id w hw t htime => ht.ahead id w hw t (List.mem_cons_of_mem _ htime)
  refine ⟨hsorted, fun id w hw t htime => ?_⟩
  rw [watermark, e.watermarks_stop] at hw
  rcases houtcome : e.outcome b with error | n
  · rw [houtcome] at hw
    exact hstay id w hw t htime
  · rw [houtcome, Watermarks.after, Watermarks.get?_advance] at hw
    by_cases hid : e.rule.id = id
    · rw [if_pos hid, ht.advance] at hw
      obtain rfl := Option.some.inj hw
      exact hfirst t htime
    · rw [if_neg hid] at hw
      exact hstay id w hw t htime

/-- A level that counts after an execution counted before it. -/
theorem Done.trusted_le (h : e.Done limit) {lower upper : Nat} (hle : lower ≤ upper) :
    (e.stop (Memory.backend limit)).trusted lower ≤ e.start.trusted upper := by
  have hused := h.strategy.usedFallback
  unfold trusted
  rw [hused]
  -- once levels do not count they never count again
  by_cases hstart : e.start.strategy.usedFallback = true
  · simp [hstart]
  · rw [if_neg hstart]
    split
    · exact Nat.zero_le _
    · exact hle

/-- What is derived is above the required level, as far as levels count afterwards. -/
theorem Done.trusted_le_floor (h : e.Done limit) {lower : Nat}
    (hle : lower ≤ e.start.strategy.requiredLevel + 1) :
    (e.stop (Memory.backend limit)).trusted lower ≤ e.floor := by
  have hused := h.strategy.usedFallback
  unfold trusted floor guard Strategy.guard
  rcases hplan : e.plan? with _ | plan
  · -- row by row: from now on no level counts
    simp [hused, hplan]
  · rw [hplan, Option.isNone_some, Bool.or_false] at hused
    by_cases hstart : e.start.strategy.usedFallback = true
    · simp [hused, hstart]
    · simpa [hused, hstart] using hle

/-- The rule of a plan is up to date up to the guard. -/
theorem Orderly.upToDate (h : e.Orderly limit named) (hcurrent : e.start.Current named level)
    (hlevel : e.start.strategy.guard ≤ e.start.trusted (level e.rule.id)) {plan : Plan}
    (hplan : e.plan? = some plan) :
    UpToDate e.rule e.guard (e.start.watermark e.rule.id) e.start.store := by
  obtain ⟨steps, hsteps⟩ := exists_flatten hplan
  refine (hcurrent e.rule h.named_id steps hsteps).mono ?_
  rw [guard, hplan, Option.isSome_some, if_pos rfl]
  exact hlevel

/-- An execution of a rule that is up to date, up to the required level, is complete. -/
theorem Regular.complete (h : e.Regular limit named) (hready : e.start.strategy.Ready limit)
    (hcurrent : e.start.Current named level)
    (hlevel : e.start.strategy.guard ≤ e.start.trusted (level e.rule.id)) : e.Complete limit := by
  obtain ⟨herror, hdone⟩ := h.done hready
  rcases hplan : e.plan? with _ | plan
  · exact hdone.complete_of_byRow herror hplan
  · exact hdone.complete_of_upToDate hplan h.levelsFit (h.upToDate hcurrent hlevel hplan)

/-- After a complete execution all rules are up to date: its own up to one more than the required
level, and the others up to where they were. -/
theorem Regular.current (h : e.Regular limit named) (hready : e.start.strategy.Ready limit)
    (hcomplete : e.Complete limit) (ht : e.start.OnTime (e.time :: times))
    (hcurrent : e.start.Current named level)
    (hall : ∀ id, level' id ≤ e.start.strategy.requiredLevel + 1)
    (hothers : ∀ id, id ≠ e.rule.id → level' id ≤ level id) :
    (e.stop (Memory.backend limit)).Current named level' := by
  obtain ⟨-, hdone⟩ := h.done hready
  intro rule hrule steps hsteps
  have hfloor := hdone.trusted_le_floor (hall rule.id)
  have hbefore := fun id w hw => ht.ahead id w hw e.time List.mem_cons_self
  by_cases hid : rule.id = e.rule.id
  · -- the rule itself has seen everything but what it derived, which is above the required level
    have hsame : rule = e.rule := by rw [← hrule, hid, h.named_id]
    subst hsame
    exact (hdone.upToDate_of_complete hcomplete hsteps (hbefore _)).mono hfloor
  · -- to any other rule that is new, and it is late enough
    have hup := (hcurrent rule hrule steps hsteps).mono (hdone.trusted_le (hothers rule.id hid))
    exact hdone.upToDate_of_ne hid hup hfloor (hbefore _)

end Execution

/-! ## Passes -/

namespace Session

variable {limit : Nat} {named : String → Rule} {s s' : Session Memory} {times : List Timestamp}
  {settings : EvaluationOptions × PlanOptions × Bool} {number : Nat} {level level' : String → Nat}

theorem Current.mono (h : s.Current named level) (hle : ∀ id, level' id ≤ level id) :
    s.Current named level' := by
  intro rule hrule steps hsteps
  refine (h rule hrule steps hsteps).mono ?_
  unfold trusted
  split
  · exact Nat.le_refl 0
  · exact hle rule.id

/-- A call leaves the levels of a pass behind. -/
theorem InPass.steady (h : s.InPass limit named settings number level) :
    s.Steady limit named settings :=
  ⟨h.ready, h.settings, h.current.mono fun _ => Nat.zero_le _⟩

/-- The start of a pass asks for its level. -/
theorem Steady.startPass (h : s.Steady limit named settings) (hcurrent : s.Current named level)
    (number : Nat) : (s.startPass number).InPass limit named settings number level := by
  obtain ⟨strategy, work, lastTick, visibility, maxPasses⟩ := s
  rcases strategy with bulk | rowwise
  · exact ⟨h.ready, h.settings, fun _ => rfl, hcurrent⟩
  · have husesFallback : ¬ (Strategy.rowwise rowwise : Strategy Memory).usedFallback = false := by
      simp [Strategy.usedFallback]
    exact ⟨h.ready, h.settings, fun hused => absurd hused husesFallback, hcurrent⟩

/-- Levels after an execution in a pass: that of its rule is one above the pass. -/
def raised (number : Nat) (level : String → Nat) (rule : Rule) (id : String) : Nat :=
  if id = rule.id then number + 1 else level id

theorem raised_le (hupper : ∀ id, level id ≤ number + 1) (rule : Rule) (id : String) :
    raised number level rule id ≤ number + 1 := by
  unfold raised
  split
  · exact Nat.le_refl _
  · exact hupper id

theorem raised_of_ne {rule : Rule} {id : String} (h : id ≠ rule.id) :
    raised number level rule id = level id := if_neg h

theorem le_raised {rule : Rule} {id : String} (h : number ≤ level id) :
    number ≤ raised number level rule id := by
  unfold raised
  split
  · exact Nat.le_succ number
  · exact h

/-- The level that a rule is up to date to is the one that its execution in a pass asks for. -/
theorem InPass.guard_le (h : s.InPass limit named settings number level) {id : String}
    (hlevel : number ≤ level id) : s.strategy.guard ≤ s.trusted (level id) := by
  unfold Strategy.guard trusted
  rcases hused : s.strategy.usedFallback with _ | _
  · rw [h.asked hused]
    exact hlevel
  · exact Nat.le_refl 0

/-- An execution of a pass is clean, and the pass can go on behind it. -/
theorem InPass.nextExecution {rule : Rule}
    (h : s.InPass limit named settings number level) (hupper : ∀ id, level id ≤ number + 1)
    (hlevel : number ≤ level rule.id)
    (hregular : (s.nextExecution (Memory.backend limit) number rule).Regular limit named)
    (ht : s.OnTime ((s.nextExecution (Memory.backend limit) number rule).time :: times)) :
    (s.nextExecution (Memory.backend limit) number rule).Clean limit settings ∧
      ((s.nextExecution (Memory.backend limit) number rule).stop (Memory.backend limit)).InPass
        limit named settings number (raised number level rule) ∧
      ((s.nextExecution (Memory.backend limit) number rule).stop (Memory.backend limit)).OnTime
        times := by
  set e := s.nextExecution (Memory.backend limit) number rule with he
  -- the tick touches the clock only
  have hready : e.start.strategy.Ready limit := h.ready
  have hcurrent : e.start.Current named level := h.current
  have ht : e.start.OnTime (e.time :: times) := ⟨ht.sorted, ht.ahead⟩
  have hasked : e.start.strategy.usedFallback = false → e.start.strategy.requiredLevel = number :=
    h.asked
  have hcomplete := hregular.complete hready hcurrent (h.guard_le hlevel)
  obtain ⟨herror, hdone⟩ := hregular.done hready
  have hsettings := hdone.strategy.settings.trans h.settings
  refine ⟨⟨h.settings, herror, hdone, hcomplete⟩, ⟨hdone.strategy.ready, hsettings, ?_, ?_⟩,
    e.onTime_stop ht⟩
  · intro hused
    rw [hdone.strategy.usedFallback, Bool.or_eq_false_iff] at hused
    rw [hdone.strategy.requiredLevel]
    exact hasked hused.1
  · by_cases hused : e.start.strategy.usedFallback = true
    · -- no level counts, so the levels may as well be 0
      have hzero : (e.stop (Memory.backend limit)).Current named fun _ => 0 :=
        hregular.current hready hcomplete ht hcurrent (fun _ => Nat.zero_le _)
          fun _ _ => Nat.zero_le _
      have hstop : (e.stop (Memory.backend limit)).strategy.usedFallback = true := by
        rw [hdone.strategy.usedFallback, hused, Bool.true_or]
      intro rule' hrule' steps hsteps
      have hup := hzero rule' hrule' steps hsteps
      simpa only [trusted, if_pos hstop] using hup
    · refine hregular.current hready hcomplete ht hcurrent ?_ fun id hid => (raised_of_ne hid).le
      rw [hasked (Bool.eq_false_iff.mpr hused)]
      exact raised_le hupper rule

/-- All executions of a pass are clean, and afterwards its rules are up to date one level higher. -/
theorem InPass.pass {rules : List Rule} (h : s.InPass limit named settings number level)
    (hupper : ∀ id, level id ≤ number + 1) (hlevel : ∀ rule ∈ rules, number ≤ level rule.id)
    (hregular : ∀ e ∈ passLog (Memory.backend limit) number rules s, e.Regular limit named)
    (ht : s.OnTime ((passLog (Memory.backend limit) number rules s).map (·.time) ++ times))
    (derived : Nat) :
    (∀ e ∈ passLog (Memory.backend limit) number rules s, e.Clean limit settings) ∧
      ∃ n s', (Session.pass (Memory.backend limit) number derived rules).run s = (.ok n, s') ∧
        s'.OnTime times ∧
        ∀ level' : String → Nat, (∀ id, level' id ≤ number + 1) →
          (∀ id, id ∉ rules.map (·.id) → level' id ≤ level id) →
          s'.InPass limit named settings number level' := by
  induction rules generalizing s level derived with
  | nil =>
    -- no rule was executed, so the levels can only have gone down
    refine ⟨List.forall_mem_nil _, derived, s, rfl, ht, fun level' _ hothers => ?_⟩
    exact ⟨h.ready, h.settings, h.asked, h.current.mono fun id => hothers id List.not_mem_nil⟩
  | cons rule rest ih =>
    have hfirst := hregular _ List.mem_cons_self
    obtain ⟨n, hok⟩ := hfirst.succeeds
    rw [passLog_cons hok] at hregular ht ⊢
    obtain ⟨hrule, hlevel⟩ := List.forall_mem_cons.mp hlevel
    obtain ⟨hclean, hnext, htimes⟩ := h.nextExecution hupper hrule hfirst ht
    obtain ⟨hrest, m, s', hrun, htimes, hlevels⟩ := ih hnext (raised_le hupper rule)
      (fun rule' hrule' => le_raised (hlevel rule' hrule'))
      (fun e he => hregular e (List.mem_cons_of_mem _ he)) htimes (derived + n)
    refine ⟨List.forall_mem_cons.mpr ⟨hclean, hrest⟩, m, s', ?_, htimes, ?_⟩
    · rw [run_pass_cons, hok]
      exact hrun
    · intro level' hall hothers
      refine hlevels level' hall fun id hid => ?_
      -- the first rule may come again in the rest, so only its id says whether it was raised
      by_cases hsame : id = rule.id
      · rw [hsame, raised, if_pos rfl]
        exact hall rule.id
      · rw [raised_of_ne hsame]
        refine hothers id fun hmem => ?_
        rcases List.mem_cons.mp hmem with heq | hmem
        · exact hsame heq
        · exact hid hmem

/-! ## Runs -/

/-- A level for the rules of a run, and 0 for all others. -/
def levelsAt (rules : List Rule) (number : Nat) (id : String) : Nat :=
  if id ∈ rules.map (·.id) then number else 0

section levelsAt

variable {rules : List Rule}

theorem levelsAt_le (rules : List Rule) (number : Nat) (id : String) :
    levelsAt rules number id ≤ number := by
  unfold levelsAt
  split
  · exact Nat.le_refl _
  · exact Nat.zero_le _

theorem levelsAt_le_succ (rules : List Rule) (number : Nat) (id : String) :
    levelsAt rules number id ≤ number + 1 :=
  Nat.le_succ_of_le (levelsAt_le rules number id)

theorem le_levelsAt (number : Nat) : ∀ rule ∈ rules, number ≤ levelsAt rules number rule.id :=
  fun _ hrule => (if_pos (List.mem_map_of_mem (f := (·.id)) hrule)).ge

theorem levelsAt_of_notMem {number : Nat} {id : String} (h : id ∉ rules.map (·.id)) :
    levelsAt rules number id = 0 := if_neg h

end levelsAt

/-- Behind a pass that succeeds the next one can start. -/
theorem InPass.next {rules : List Rule} {derived n : Nat}
    (h : s.InPass limit named settings number (levelsAt rules number))
    (horderly : ∀ e ∈ passLog (Memory.backend limit) number rules s, e.Orderly limit named)
    (ht : s.OnTime ((passLog (Memory.backend limit) number rules s).map (·.time) ++ times))
    (hrun : (Session.pass (Memory.backend limit) number derived rules).run s = (.ok n, s')) :
    (∀ e ∈ passLog (Memory.backend limit) number rules s, e.Clean limit settings) ∧
      s'.InPass limit named settings number (levelsAt rules (number + 1)) ∧ s'.OnTime times := by
  have hsucceeds := succeeds_of_pass hrun
  obtain ⟨hclean, n', t, hrun', htimes, hlevels⟩ :=
    h.pass (levelsAt_le_succ rules number) (le_levelsAt number)
      (fun e he => ⟨horderly e he, hsucceeds e he⟩) ht derived
  rw [hrun] at hrun'
  obtain ⟨-, rfl⟩ := Prod.mk.inj hrun'
  refine ⟨hclean, hlevels _ (levelsAt_le rules (number + 1)) fun id hid => ?_, htimes⟩
  rw [levelsAt_of_notMem hid]
  exact Nat.zero_le _

/-- All executions of the passes from a number on are clean, and the session is steady in the
end. -/
theorem Steady.passes {rules : List Rule} {rounds : Nat} (h : s.Steady limit named settings)
    (hcurrent : s.Current named (levelsAt rules number))
    (hregular : ∀ e ∈ (passesLog (Memory.backend limit) rules rounds number s).flatten,
      e.Regular limit named)
    (ht : s.OnTime
      ((passesLog (Memory.backend limit) rules rounds number s).flatten.map (·.time) ++ times))
    (total : Nat) :
    (∀ e ∈ (passesLog (Memory.backend limit) rules rounds number s).flatten,
        e.Clean limit settings) ∧
      ((Session.passes (Memory.backend limit) rules rounds number total).run s).2.Steady limit named
        settings ∧
      ((Session.passes (Memory.backend limit) rules rounds number total).run s).2.OnTime times := by
  induction rounds generalizing number s total with
  | zero => exact ⟨List.forall_mem_nil _, h, ht⟩
  | succ rounds ih =>
    rw [run_passes_succ]
    rw [passesLog] at hregular ht ⊢
    by_cases hstop : s.maxPasses.any (· ≤ number) = true
    · rw [if_pos hstop] at hregular ht ⊢
      rw [if_pos hstop]
      exact ⟨List.forall_mem_nil _, ⟨h.ready, h.settings, h.current⟩, ⟨ht.sorted, ht.ahead⟩⟩
    · rw [if_neg hstop] at hregular ht ⊢
      rw [if_neg hstop]
      simp only [List.flatten_cons, List.map_append, List.append_assoc, List.forall_mem_append]
        at hregular ht ⊢
      have hpass := h.startPass hcurrent number
      obtain ⟨-, n, s', hrun, -⟩ := hpass.pass (levelsAt_le_succ rules number) (le_levelsAt number)
        hregular.1 ⟨ht.sorted, ht.ahead⟩ 0
      obtain ⟨hclean, hnext, htimes⟩ :=
        hpass.next (fun e he => (hregular.1 e he).toOrderly) ⟨ht.sorted, ht.ahead⟩ hrun
      rw [hrun] at hregular htimes ⊢
      -- the levels that the next pass asks for are those that this one leaves behind
      rcases n with _ | n
      · exact ⟨⟨hclean, List.forall_mem_nil _⟩, hnext.steady, htimes⟩
      · have hrest := ih hnext.steady hnext.current hregular.2 htimes (total + (n + 1))
        exact ⟨⟨hclean, hrest.1⟩, hrest.2⟩

end Session

/-! ## Calls -/

namespace Session

variable {limit : Nat} {named : String → Rule} {s : Session Memory} {times : List Timestamp}
  {settings : EvaluationOptions × PlanOptions × Bool}

/-- Facts that enter with their stamps leave every rule up to date. -/
theorem Steady.insert {time : Timestamp} {facts : List Fact} (h : s.Steady limit named settings)
    (hstamps : (Call.insert time facts).StampsFacts) (ht : s.OnTime (time :: times)) :
    ((Call.insert time facts).perform Memory.view (Memory.backend limit) s).Steady limit named
      settings := by
  refine ⟨h.ready, h.settings, ?_⟩
  intro rule hrule steps hsteps
  obtain ⟨added, hfacts, hadded⟩ := Store.facts_insertAll s.store time facts
  refine (h.current rule hrule steps hsteps).grow hfacts ?_
  intro f hf
  obtain ⟨g, hg, rfl⟩ := hadded f hf
  constructor
  · show s.trusted 0 ≤ _
    rw [trusted_zero]
    exact Nat.zero_le _
  · intro w hw
    rw [hstamps g hg]
    exact ht.ahead rule.id w hw time List.mem_cons_self

/-- Every call leaves the session steady if the executions that it asks for itself are complete;
those of runs are anyway. -/
theorem Steady.perform {c : Call} (h : s.Steady limit named settings) (hstamps : c.StampsFacts)
    (hregular : ∀ e ∈ c.executions (Memory.backend limit) s, e.Regular limit named)
    (hdirect : ∀ e ∈ c.direct s, e.Complete limit)
    (ht : s.OnTime (c.times (Memory.backend limit) s ++ times)) :
    (∀ e ∈ c.executions (Memory.backend limit) s, e.Clean limit settings) ∧
      (c.perform Memory.view (Memory.backend limit) s).Steady limit named settings ∧
      (c.perform Memory.view (Memory.backend limit) s).OnTime times := by
  rcases c with ⟨time, facts⟩ | ⟨rules, rounds⟩ | ⟨rule, p⟩
  · have hahead : ∀ id w, s.watermark id = some w → ∀ t ∈ times, w ≤ t := fun id w hw t htime =>
      ht.ahead id w hw t (List.mem_cons_of_mem _ htime)
    obtain ⟨-, hsorted⟩ := List.pairwise_cons.mp ht.sorted
    exact ⟨List.forall_mem_nil _, h.insert hstamps ht, ⟨hsorted, hahead⟩⟩
  · exact h.passes (h.current.mono fun id => (levelsAt_le rules 0 id)) hregular ht 0
  · have hthis := hregular _ (List.mem_singleton.mpr rfl)
    have hcomplete := hdirect _ (List.mem_singleton.mpr rfl)
    obtain ⟨herror, hdone⟩ := hthis.done h.ready
    have hcurrent :
        ((Execution.mk rule p s).stop (Memory.backend limit)).Current named fun _ => 0 :=
      hthis.current h.ready hcomplete ht h.current (fun _ => Nat.zero_le _)
        fun _ _ => Nat.zero_le _
    refine ⟨?_, ⟨hdone.strategy.ready, hdone.strategy.settings.trans h.settings, hcurrent⟩,
      Execution.onTime_stop _ ht⟩
    intro e he
    obtain rfl := List.mem_singleton.mp he
    exact ⟨h.settings, herror, hdone, hcomplete⟩

/-- So do any calls, one after the other. -/
theorem Steady.performAll {calls : List Call} (h : s.Steady limit named settings)
    (hstamps : ∀ c ∈ calls, c.StampsFacts)
    (hregular : ∀ e ∈ s.executions Memory.view (Memory.backend limit) calls, e.Regular limit named)
    (hdirect : ∀ e ∈ s.directs Memory.view (Memory.backend limit) calls, e.Complete limit)
    (ht : s.OnTime (s.times Memory.view (Memory.backend limit) calls)) :
    (∀ e ∈ s.executions Memory.view (Memory.backend limit) calls, e.Clean limit settings) ∧
      (s.performAll Memory.view (Memory.backend limit) calls).Steady limit named settings := by
  induction calls generalizing s with
  | nil => exact ⟨List.forall_mem_nil _, h⟩
  | cons c rest ih =>
    simp only [executions_cons, directs_cons, List.forall_mem_append, List.forall_mem_cons]
      at hstamps hregular hdirect ⊢
    obtain ⟨hclean, hsteady, htimes⟩ := h.perform hstamps.1 hregular.1 hdirect.1 ht
    obtain ⟨hrest, hend⟩ := ih hsteady hstamps.2 hregular.2 hdirect.2 htimes
    exact ⟨⟨hclean, hrest⟩, hend⟩

end Session

end RdfReasoner
