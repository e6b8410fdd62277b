import RdfReasoner.Proofs.Memory
import RdfReasoner.Session

/-!
# Executions

An `Execution` is one application of a rule within a session: what was asked for, and the session as
it was then.  Over a store in memory, from idle writers on, what an execution does can be said in
one piece as long as what it stages waits for its flush (`Execution.WritesAtFlush`): it fails and
leaves the store as it was, or it adds the facts `Execution.derived` and moves the watermark of its
rule (`Execution.spec`).
-/

namespace RdfReasoner

/-- What keeps a rule from being compiled. -/
def Rule.obstacle? (rule : Rule) : Option Obstacle :=
  match rule.body.flatten with
  | .error obstacle => some obstacle
  | .ok _ => none

/-- The plan of a rule exists exactly if nothing keeps it from being compiled. -/
theorem Rule.compile_eq_error {rule : Rule} {level : Nat} {time : Timestamp}
    {watermark : Option Timestamp} {obstacle : Obstacle}
    (h : rule.compile level time watermark = .error obstacle) :
    rule.body.flatten = .error obstacle := by
  rw [compile] at h
  cases hs : rule.body.flatten with
  | error e => rw [hs] at h; exact congrArg Except.error (Except.error.inj h)
  | ok steps => rw [hs] at h; cases h

/-! ## What strategies are made of -/

namespace Rowwise

/-- The writer that the next execution uses. -/
def currentWriter (r : Rowwise) : Writer := r.writer.getD (.start r.batchSize)

end Rowwise

namespace Strategy

variable {σ : Type}

/-- What evaluates rules row by row, if anything does. -/
def byRow? : Strategy σ → Option Rowwise
  | bulk s => s.fallback
  | rowwise r => some r

/-- The options of evaluation. -/
def evaluation (s : Strategy σ) : EvaluationOptions := (s.byRow?.map (·.options)).getD {}

/-- The level that the latest pass asked for. -/
def requiredLevel : Strategy σ → Nat
  | bulk s => s.requiredLevel
  | rowwise _ => 0

/-- The level guard of the next plan. -/
def guard (s : Strategy σ) : Nat := if s.usedFallback then 0 else s.requiredLevel

/-- The plan of a rule, if the storage would run one. -/
def plan? (s : Strategy σ) (rule : Rule) (time : Timestamp) (watermark : Option Timestamp) :
    Option Plan :=
  match s with
  | bulk s => (rule.compile s.minLevel time watermark).toOption
  | rowwise _ => none

/-- The writer that the execution of a rule uses. -/
def writerFor (s : Strategy σ) (rule : Rule) : Writer :=
  match s, rule.body.flatten with
  | bulk s, .ok _ => s.writer
  | bulk s, .error _ => (s.fallback.map (·.currentWriter)).getD s.writer
  | rowwise r, _ => r.currentWriter

/-- The strategy runs on a store in memory and all its writers are idle. -/
def Ready (limit : Nat) : Strategy Memory → Prop
  | bulk s => s.executor = Memory.executor limit ∧ s.writer.Idle ∧
      ∀ r, s.fallback = some r → r.currentWriter.Idle
  | rowwise r => r.currentWriter.Idle

/-- How plans are run. -/
def planOptions : Strategy σ → PlanOptions
  | bulk s => s.options
  | rowwise _ => {}

/-- What no execution changes: how bodies are evaluated, how plans are run, and whether rules can be
evaluated row by row at all. -/
def settings (s : Strategy σ) : EvaluationOptions × PlanOptions × Bool :=
  (s.evaluation, s.planOptions, s.byRow?.isSome)

/-- The strategy once a rule was evaluated row by row. -/
def afterByRow (s : Strategy σ) (r : Rowwise) : Strategy σ :=
  match s with
  | bulk s => bulk { s with usedFallback := true, fallback := some r }
  | rowwise _ => rowwise r

@[simp] theorem byRow?_afterByRow (s : Strategy σ) (r : Rowwise) :
    (s.afterByRow r).byRow? = some r := by
  cases s <;> rfl

@[simp] theorem planOptions_afterByRow (s : Strategy σ) (r : Rowwise) :
    (s.afterByRow r).planOptions = s.planOptions := by
  cases s <;> rfl

@[simp] theorem requiredLevel_afterByRow (s : Strategy σ) (r : Rowwise) :
    (s.afterByRow r).requiredLevel = s.requiredLevel := by
  cases s <;> rfl

@[simp] theorem usedFallback_afterByRow (s : Strategy σ) (r : Rowwise) :
    (s.afterByRow r).usedFallback = true := by
  cases s <;> rfl

@[simp] theorem settings_requireLevel (level : Nat) (s : Strategy σ) :
    (s.requireLevel level).settings = s.settings := by
  cases s <;> rfl

theorem Ready.requireLevel {limit : Nat} {s : Strategy Memory} (h : s.Ready limit) (level : Nat) :
    (s.requireLevel level).Ready limit := by
  cases s <;> exact h

theorem Ready.currentWriter {limit : Nat} {s : Strategy Memory} (h : s.Ready limit) {r : Rowwise}
    (hr : s.byRow? = some r) : r.currentWriter.Idle := by
  cases s with
  | bulk s => exact h.2.2 r hr
  | rowwise r' => exact Option.some.inj hr ▸ h

theorem Ready.afterByRow {limit : Nat} {s : Strategy Memory} (h : s.Ready limit) {r : Rowwise}
    (hr : r.currentWriter.Idle) : (s.afterByRow r).Ready limit := by
  cases s with
  | bulk s => exact ⟨h.1, h.2.1, fun r' hr' => Option.some.inj hr' ▸ hr⟩
  | rowwise _ => exact hr

end Strategy

namespace Session

/-- What evaluates the bodies of rules. -/
def evaluator {σ : Type} (b : Backend σ) (s : Session σ) : Evaluator :=
  ⟨s.strategy.evaluation, b.batching, b.reaches⟩

/-- The watermark of a rule. -/
def watermark {σ : Type} (s : Session σ) (id : String) : Option Timestamp :=
  s.work.watermarks.get? id

/-- The store in memory that a session works on. -/
def store (s : Session Memory) : Store := s.work.storage.store

end Session

/-! ## Ways of execution -/

/-- The watermarks after an execution with the given result. -/
def Watermarks.after (w : Watermarks) (rule : String) (t : Timestamp) :
    Except Error Nat → Watermarks
  | .ok _ => w.advance rule t
  | .error _ => w

section ways

variable {σ : Type} {b : Backend σ} {rule : Rule} {p : Provenance} {w : Workspace σ}
  {result : Except Error Nat} {desk : Desk σ}

/-- Executing a rule row by row runs `Rowwise.derive` from the current writer on. -/
theorem Rowwise.execute_eq {r : Rowwise}
    (h : (r.derive b rule p).run ⟨r.currentWriter, w.storage, w.notices⟩ = (result, desk)) :
    r.execute b rule p w = (result, { r with writer := some desk.writer },
      ⟨desk.storage, w.watermarks.after rule.id p.timestamp result, desk.notices⟩) := by
  unfold execute
  unfold currentWriter at h
  rw [h]
  cases result <;> rfl

/-- Executing a rule that can be compiled runs its plan. -/
theorem Bulk.execute_plan {s : Bulk σ} {plan : Plan}
    (hplan : rule.compile s.minLevel p.timestamp (w.watermarks.get? rule.id) = .ok plan)
    (h : (s.derive b plan p).run ⟨s.writer, w.storage, w.notices⟩ = (result, desk)) :
    s.execute b rule p w = (result, { s with writer := desk.writer },
      ⟨desk.storage, w.watermarks.after rule.id p.timestamp result, desk.notices⟩) := by
  unfold execute
  rw [hplan]
  dsimp only
  rw [h]
  cases result <;> rfl

/-- Any other rule is handed over. -/
theorem Bulk.execute_handed_over {s : Bulk σ} {r : Rowwise} (hr : s.fallback = some r)
    {obstacle : Obstacle}
    (hplan : rule.compile s.minLevel p.timestamp (w.watermarks.get? rule.id) = .error obstacle)
    (h : (r.derive b rule p).run ⟨r.currentWriter, w.storage, w.notices⟩ = (result, desk)) :
    s.execute b rule p w =
      (result,
        { s with usedFallback := true, fallback := some { r with writer := some desk.writer } },
        ⟨desk.storage, w.watermarks.after rule.id p.timestamp result, desk.notices⟩) := by
  unfold execute
  rw [hplan]
  dsimp only
  rw [hr]
  dsimp only
  rw [Rowwise.execute_eq h]

/-- Without anyone to hand it over to it fails. -/
theorem Bulk.execute_obstacle {s : Bulk σ} (hs : s.fallback = none) {obstacle : Obstacle}
    (hplan : rule.compile s.minLevel p.timestamp (w.watermarks.get? rule.id) = .error obstacle) :
    s.execute b rule p w = (.error (.notExpressible obstacle), s, w) := by
  unfold execute
  rw [hplan]
  dsimp only
  rw [hs]

end ways

/-! ## Executions -/

/-- One execution of a rule: what was asked for, and the session at its start. -/
structure Execution (σ : Type) where
  rule : Rule
  provenance : Provenance
  start : Session σ

namespace Execution

variable {σ : Type}

/-- The number of new facts, or why the execution failed. -/
def outcome (b : Backend σ) (e : Execution σ) : Except Error Nat :=
  ((Session.execute b e.rule e.provenance).run e.start).1

/-- The session at the end. -/
def stop (b : Backend σ) (e : Execution σ) : Session σ :=
  ((Session.execute b e.rule e.provenance).run e.start).2

/-- The execution does not fail. -/
def Succeeds (b : Backend σ) (e : Execution σ) : Prop := ∃ n, e.outcome b = .ok n

instance (b : Backend σ) (e : Execution σ) : Decidable (e.Succeeds b) :=
  match h : e.outcome b with
  | .ok n => isTrue ⟨n, h⟩
  | .error _ => isFalse fun ⟨_, hn⟩ => nomatch h.symm.trans hn

/-- The time that the execution was given. -/
def time (e : Execution σ) : Timestamp := e.provenance.timestamp

/-- The desk that the execution starts at, with a writer. -/
def desk (e : Execution σ) (w : Writer) : Desk σ := ⟨w, e.start.work.storage, e.start.work.notices⟩

@[simp] theorem writer_desk (e : Execution σ) (w : Writer) : (e.desk w).writer = w := rfl

@[simp] theorem storage_desk (e : Execution σ) (w : Writer) :
    (e.desk w).storage = e.start.work.storage := rfl

/-- The workspace after an execution with a result that leaves a desk behind. -/
def workAfter (e : Execution σ) (result : Except Error Nat) (desk : Desk σ) : Workspace σ :=
  ⟨desk.storage, e.start.work.watermarks.after e.rule.id e.time result, desk.notices⟩

/-- The plan that is run, unless the rule is evaluated row by row. -/
def plan? (e : Execution σ) : Option Plan :=
  e.start.strategy.plan? e.rule e.time (e.start.watermark e.rule.id)

/-- Fewer facts are staged than a batch takes, so they all wait for the flush. -/
def WritesAtFlush (b : Backend σ) (e : Execution σ) : Prop :=
  ((e.stop b).strategy.writerFor e.rule).staged <
    (e.start.strategy.writerFor e.rule).staged + (e.start.strategy.writerFor e.rule).batchSize

instance (b : Backend σ) (e : Execution σ) : Decidable (e.WritesAtFlush b) :=
  inferInstanceAs (Decidable (_ < _))

/-- Every document that the execution is told of can carry its derivation level. -/
def LevelsFit (e : Execution Memory) : Prop :=
  ∀ plan, e.plan? = some plan → ∀ d ∈ plan.documents e.rule e.start.store.facts.toList,
    d.level ≤ Document.maxLevel

instance (e : Execution Memory) : Decidable e.LevelsFit :=
  match h : e.plan? with
  | none => isTrue fun _ hplan => nomatch h.symm.trans hplan
  | some plan =>
    decidable_of_iff (∀ d ∈ plan.documents e.rule e.start.store.facts.toList,
      d.level ≤ Document.maxLevel) (by simp [LevelsFit, h])

/-- The facts that the execution adds if it succeeds. -/
def derived (e : Execution Memory) : List Fact :=
  match e.plan? with
  | some plan => (plan.derived e.start.store e.rule).map (·.toFact e.provenance.visibility)
  | none =>
    (e.start.strategy.byRow?.map fun r =>
      (r.derived e.start.store e.rule).map (⟨·, e.provenance⟩)).getD []

/-- Why the execution fails, if it does. -/
def error? (limit : Nat) (e : Execution Memory) : Option Error :=
  match e.plan? with
  | some plan =>
    firstError? ((plan.records e.start.strategy.planOptions limit).items e.start.store.answer)
  | none =>
    match e.start.strategy.byRow? with
    | some r => firstError? (r.answers e.start.store e.rule)
    | none => e.rule.obstacle?.map .notExpressible

/-- The execution finds nothing new, or what it stages waits for the flush. -/
def Flushes (limit : Nat) (e : Execution Memory) : Prop :=
  (e.error? limit = none ∧ e.derived = []) ∨ e.WritesAtFlush (Memory.backend limit)

/-! ## The ways of an execution -/

/-- What the strategy returns decides about the execution. -/
theorem run_execute {b : Backend σ} {e : Execution σ} {result : Except Error Nat}
    {strategy : Strategy σ} {work : Workspace σ}
    (h : e.start.strategy.execute b e.rule e.provenance e.start.work = (result, strategy, work)) :
    e.outcome b = result.mapError (.rule e.rule.id) ∧
      e.stop b = { e.start with strategy, work } := by
  have hrun : (Session.execute b e.rule e.provenance).run e.start =
      (result.mapError (.rule e.rule.id), { e.start with strategy, work }) := by
    unfold Session.execute ExceptT.run
    dsimp only
    rw [h]
  exact ⟨congrArg Prod.fst hrun, congrArg Prod.snd hrun⟩

/-- An execution changes the strategy and the workspace, and nothing else of the session. -/
theorem exists_stop (b : Backend σ) (e : Execution σ) :
    ∃ strategy work, e.stop b = { e.start with strategy, work } := by
  rcases h : e.start.strategy.execute b e.rule e.provenance e.start.work with
    ⟨result, strategy, work⟩
  exact ⟨strategy, work, (run_execute h).2⟩

/-- A plan is run by a bulk strategy, which compiled the rule. -/
theorem exists_compile {σ : Type} {e : Execution σ} {plan : Plan} (h : e.plan? = some plan) :
    ∃ s, e.start.strategy = .bulk s ∧
      e.rule.compile s.minLevel e.time (e.start.watermark e.rule.id) = .ok plan := by
  unfold plan? Strategy.plan? at h
  split at h
  · next s hs =>
    refine ⟨s, hs, ?_⟩
    cases hc : e.rule.compile s.minLevel e.time (e.start.watermark e.rule.id) with
    | error o => rw [hc] at h; cases h
    | ok found => rw [hc] at h; exact congrArg Except.ok (Option.some.inj h)
  · cases h

/-- An execution row by row, whether the rule was handed over or not. -/
theorem execute_byRow {σ : Type} {b : Backend σ} {e : Execution σ} (hplan : e.plan? = none)
    {r : Rowwise} (hr : e.start.strategy.byRow? = some r) {result : Except Error Nat}
    {desk : Desk σ}
    (hrun : (r.derive b e.rule e.provenance).run (e.desk r.currentWriter) = (result, desk)) :
    e.start.strategy.execute b e.rule e.provenance e.start.work =
        (result, e.start.strategy.afterByRow { r with writer := some desk.writer },
          e.workAfter result desk) ∧
      e.start.strategy.writerFor e.rule = r.currentWriter ∧
      (e.start.strategy.afterByRow { r with writer := some desk.writer }).writerFor e.rule =
        desk.writer := by
  unfold plan? Strategy.plan? at hplan
  cases hs : e.start.strategy with
  | rowwise r' =>
    rw [hs] at hr
    obtain rfl : r' = r := Option.some.inj hr
    refine ⟨?_, rfl, rfl⟩
    rw [Strategy.execute, Rowwise.execute_eq hrun]
    rfl
  | bulk s =>
    rw [hs] at hr hplan
    have hr : s.fallback = some r := hr
    cases hc : e.rule.compile s.minLevel e.time (e.start.watermark e.rule.id) with
    | ok plan => simp only [hc] at hplan; cases hplan
    | error obstacle =>
      have hflatten := Rule.compile_eq_error hc
      refine ⟨?_, ?_, ?_⟩
      · rw [Strategy.execute, Bulk.execute_handed_over hr hc hrun]
        rfl
      · simp [Strategy.writerFor, hflatten, hr]
      · simp [Strategy.writerFor, Strategy.afterByRow, hflatten, Rowwise.currentWriter]

/-- An execution runs a plan, goes row by row, or meets an obstacle. -/
inductive Way (b : Backend σ) (e : Execution σ) : Prop
  | plan (s : Bulk σ) (plan : Plan) (result : Except Error Nat) (desk : Desk σ)
      (hplan : e.plan? = some plan) (hs : e.start.strategy = .bulk s)
      (hcompile : e.rule.compile s.minLevel e.time (e.start.watermark e.rule.id) = .ok plan)
      (hrun : (s.derive b plan e.provenance).run (e.desk s.writer) = (result, desk))
      (houtcome : e.outcome b = result.mapError (.rule e.rule.id))
      (hstop : e.stop b = { e.start with
        strategy := .bulk { s with writer := desk.writer }
        work := e.workAfter result desk })
  | byRow (r : Rowwise) (result : Except Error Nat) (desk : Desk σ)
      (hplan : e.plan? = none) (hr : e.start.strategy.byRow? = some r)
      (hrun : (r.derive b e.rule e.provenance).run (e.desk r.currentWriter) = (result, desk))
      (houtcome : e.outcome b = result.mapError (.rule e.rule.id))
      (hstop : e.stop b = { e.start with
        strategy := e.start.strategy.afterByRow { r with writer := some desk.writer }
        work := e.workAfter result desk })
  | obstacle (obstacle : Obstacle) (hplan : e.plan? = none) (hr : e.start.strategy.byRow? = none)
      (hbody : e.rule.obstacle? = some obstacle)
      (houtcome : e.outcome b = .error (.rule e.rule.id (.notExpressible obstacle)))
      (hstop : e.stop b = e.start)

/-- There is no other way. -/
theorem way (b : Backend σ) (e : Execution σ) : e.Way b := by
  rcases hplan : e.plan? with _ | plan
  · rcases hr : e.start.strategy.byRow? with _ | r
    · unfold plan? Strategy.plan? at hplan
      rcases hs : e.start.strategy with s | r'
      · rw [hs] at hr hplan
        have hr : s.fallback = none := hr
        rcases hc : e.rule.compile s.minLevel e.time (e.start.watermark e.rule.id) with o | plan
        · have hexecute : e.start.strategy.execute b e.rule e.provenance e.start.work =
              (.error (.notExpressible o), .bulk s, e.start.work) := by
            rw [hs, Strategy.execute, Bulk.execute_obstacle hr hc]
          obtain ⟨houtcome, hstop⟩ := run_execute hexecute
          rw [← hs] at hstop
          refine .obstacle o ?_ ?_ ?_ houtcome hstop
          · simp only [plan?, Strategy.plan?, hs, hc, Except.toOption]
          · rw [hs]
            exact hr
          · rw [Rule.obstacle?, Rule.compile_eq_error hc]
        · simp only [hc] at hplan
          cases hplan
      · rw [hs] at hr
        cases hr
    · rcases hrun : (r.derive b e.rule e.provenance).run (e.desk r.currentWriter) with
        ⟨result, desk⟩
      obtain ⟨houtcome, hstop⟩ := run_execute (execute_byRow hplan hr hrun).1
      exact .byRow r result desk hplan hr hrun houtcome hstop
  · obtain ⟨s, hs, hcompile⟩ := exists_compile hplan
    rcases hrun : (s.derive b plan e.provenance).run (e.desk s.writer) with ⟨result, desk⟩
    have hexecute : e.start.strategy.execute b e.rule e.provenance e.start.work =
        (result, .bulk { s with writer := desk.writer },
          e.workAfter result desk) := by
      rw [hs, Strategy.execute, Bulk.execute_plan hcompile hrun]
      rfl
    obtain ⟨houtcome, hstop⟩ := run_execute hexecute
    exact .plan s plan result desk hplan hs hcompile hrun houtcome hstop

/-- The watermark of the rule moves if the execution succeeds, and no other does. -/
theorem watermarks_stop (b : Backend σ) (e : Execution σ) :
    (e.stop b).work.watermarks =
      e.start.work.watermarks.after e.rule.id e.time (e.outcome b) := by
  rcases e.way b with ⟨s, plan, result, desk, -, -, -, -, houtcome, hstop⟩ |
    ⟨r, result, desk, -, -, -, houtcome, hstop⟩ | ⟨obstacle, -, -, -, houtcome, hstop⟩
  · rw [hstop, houtcome]
    rcases result <;> rfl
  · rw [hstop, houtcome]
    rcases result <;> rfl
  · rw [hstop, houtcome]
    rfl

/-- No execution changes the level that is asked for. -/
theorem requiredLevel_stop (b : Backend σ) (e : Execution σ) :
    (e.stop b).strategy.requiredLevel = e.start.strategy.requiredLevel := by
  rcases e.way b with ⟨s, plan, result, desk, -, hs, -, -, -, hstop⟩ |
    ⟨r, result, desk, -, -, -, -, hstop⟩ | ⟨-, -, -, -, -, hstop⟩
  · rw [hstop, hs]
    rfl
  · rw [hstop, Strategy.requiredLevel_afterByRow]
  · rw [hstop]

/-! ## What an execution over a store in memory does -/

/-- How the strategy goes on after an execution that succeeds. -/
structure Goes (limit : Nat) (s : Strategy Memory) (handedOver : Bool) (s' : Strategy Memory) :
    Prop where
  ready : s'.Ready limit
  settings : s'.settings = s.settings
  requiredLevel : s'.requiredLevel = s.requiredLevel
  usedFallback : s'.usedFallback = (s.usedFallback || handedOver)

/-- The execution succeeds: it adds what it derives and moves the watermark of its rule. -/
structure Done (limit : Nat) (e : Execution Memory) : Prop where
  outcome : e.outcome (Memory.backend limit) = .ok e.derived.length
  stored : ∃ time, (e.stop (Memory.backend limit)).store =
    (e.start.store.insertAll time e.derived).1
  unchanged : e.derived = [] → (e.stop (Memory.backend limit)).store = e.start.store
  watermarks : (e.stop (Memory.backend limit)).work.watermarks =
    e.start.work.watermarks.advance e.rule.id e.time
  strategy : Goes limit e.start.strategy e.plan?.isNone (e.stop (Memory.backend limit)).strategy

/-- The execution fails and leaves the store as it was. -/
structure Failed (limit : Nat) (err : Error) (e : Execution Memory) : Prop where
  outcome : e.outcome (Memory.backend limit) = .error (.rule e.rule.id err)
  store : (e.stop (Memory.backend limit)).store = e.start.store

section spec

variable {limit : Nat} {e : Execution Memory}

/-- An execution that wrote what it derived is done. -/
theorem done_of_wrote {w : Writer} {fs : List Fact} {desk : Desk Memory}
    {strategy : Strategy Memory} (houtcome : e.outcome (Memory.backend limit) = .ok fs.length)
    (hstop : e.stop (Memory.backend limit) =
      { e.start with strategy, work := e.workAfter (.ok fs.length) desk })
    (hwrote : (e.desk w).Wrote fs desk) (hderived : e.derived = fs)
    (hgoes : Goes limit e.start.strategy e.plan?.isNone strategy) :
    e.Done limit := by
  subst hderived
  refine ⟨houtcome, ?_, fun hnil => ?_, ?_, ?_⟩
  · rw [hstop]
    exact hwrote.stored
  · rw [hstop]
    exact congrArg Memory.store (hwrote.unchanged hnil)
  · rw [hstop]
    rfl
  · rw [hstop]
    exact hgoes

/-- What a plan writes fits into its writer, or there is nothing to write. -/
theorem fits_plan {s : Bulk Memory} {plan : Plan} (hflush : e.Flushes limit)
    (hplan : e.plan? = some plan) (hs : e.start.strategy = .bulk s)
    (hcompile : e.rule.compile s.minLevel e.time (e.start.watermark e.rule.id) = .ok plan)
    (hidle : s.writer.Idle)
    {result : Except Error Nat} {desk : Desk Memory}
    (hrun : (s.derive (Memory.backend limit) plan e.provenance).run
      (e.desk s.writer) = (result, desk))
    (hstop : (e.stop (Memory.backend limit)).strategy = .bulk { s with writer := desk.writer }) :
    (e.error? limit = none ∧ plan.derived e.start.store e.rule = []) ∨
      Staging.Fits (s.derive (Memory.backend limit) plan e.provenance) (e.desk s.writer) := by
  obtain ⟨steps, hsteps, -⟩ := Rule.compile_eq_ok hcompile
  rcases hflush with ⟨hnone, hnil⟩ | hflush
  · left
    simp only [derived, hplan] at hnil
    exact ⟨hnone, List.map_eq_nil_iff.mp hnil⟩
  · right
    rw [WritesAtFlush, hstop, hs] at hflush
    simp only [Strategy.writerFor, hsteps] at hflush
    rw [Staging.Fits, hrun]
    simp only [writer_desk, hidle.pending, List.length_nil, Nat.add_zero]
    exact hflush

/-- What an execution row by row writes fits into its writer, if there is anything to write. -/
theorem fits_byRow {r : Rowwise} (hflush : e.Flushes limit) (hplan : e.plan? = none)
    (hr : e.start.strategy.byRow? = some r) (hidle : r.currentWriter.Idle)
    {result : Except Error Nat} {desk : Desk Memory}
    (hrun : (r.derive (Memory.backend limit) e.rule e.provenance).run
      (e.desk r.currentWriter) = (result, desk))
    (hstop : (e.stop (Memory.backend limit)).strategy =
      e.start.strategy.afterByRow { r with writer := some desk.writer })
    (hne : r.derived e.start.store e.rule ≠ []) :
    Staging.Fits (r.derive (Memory.backend limit) e.rule e.provenance)
      (e.desk r.currentWriter) := by
  obtain ⟨-, hwriter, hwriter'⟩ := execute_byRow hplan hr hrun
  rcases hflush with ⟨-, hnil⟩ | hflush
  · simp only [derived, hplan, hr, Option.map_some, Option.getD_some] at hnil
    exact absurd (List.map_eq_nil_iff.mp hnil) hne
  · rw [WritesAtFlush, hstop, hwriter, hwriter'] at hflush
    rw [Staging.Fits, hrun]
    simp only [writer_desk, hidle.pending, List.length_nil, Nat.add_zero]
    exact hflush

/-- An execution by a plan. -/
theorem spec_plan {s : Bulk Memory} {plan : Plan} {result : Except Error Nat} {desk : Desk Memory}
    (hready : e.start.strategy.Ready limit) (hflush : e.Flushes limit)
    (hplan : e.plan? = some plan) (hs : e.start.strategy = .bulk s)
    (hcompile : e.rule.compile s.minLevel e.time (e.start.watermark e.rule.id) = .ok plan)
    (hrun : (s.derive (Memory.backend limit) plan e.provenance).run
      (e.desk s.writer) = (result, desk))
    (houtcome : e.outcome (Memory.backend limit) = result.mapError (.rule e.rule.id))
    (hstop : e.stop (Memory.backend limit) = { e.start with
      strategy := .bulk { s with writer := desk.writer }
      work := e.workAfter result desk }) :
    (e.error? limit = none → e.Done limit) ∧
      ∀ err, e.error? limit = some err → e.Failed limit err := by
  rw [hs] at hready
  obtain ⟨hexecutor, hidle, hfallback⟩ := hready
  have hfits := fits_plan hflush hplan hs hcompile hidle hrun (by rw [hstop])
  have herror : e.error? limit =
      firstError? ((plan.records s.options limit).items e.start.work.storage.store.answer) := by
    simp only [error?, hplan, hs, Strategy.planOptions, Session.store]
  rw [herror] at hfits
  have hspec := Bulk.run_derive (d := e.desk s.writer) hcompile hexecutor hidle hfits
  rw [hrun, storage_desk, ← herror] at hspec
  constructor
  · intro hnone
    rw [hnone] at hspec
    obtain ⟨desk', heq, hwrote⟩ := hspec
    obtain ⟨rfl, rfl⟩ := Prod.mk.inj heq
    have hderived : e.derived =
        (plan.derived e.start.store e.rule).map (·.toFact e.provenance.visibility) := by
      simp only [derived, hplan]
    rw [← List.length_map (f := (·.toFact e.provenance.visibility))] at houtcome
    refine done_of_wrote houtcome hstop hwrote hderived ?_
    rw [hs, hplan]
    exact ⟨⟨hexecutor, hwrote.idle, hfallback⟩, rfl, rfl, (Bool.or_false _).symm⟩
  · intro err hsome
    rw [hsome] at hspec
    obtain ⟨desk', heq, hstorage⟩ := hspec
    obtain ⟨rfl, rfl⟩ := Prod.mk.inj heq
    refine ⟨houtcome, ?_⟩
    rw [hstop]
    exact congrArg Memory.store hstorage

/-- An execution row by row. -/
theorem spec_byRow {r : Rowwise} {result : Except Error Nat} {desk : Desk Memory}
    (hready : e.start.strategy.Ready limit) (hflush : e.Flushes limit) (hplan : e.plan? = none)
    (hr : e.start.strategy.byRow? = some r)
    (hrun : (r.derive (Memory.backend limit) e.rule e.provenance).run
      (e.desk r.currentWriter) = (result, desk))
    (houtcome : e.outcome (Memory.backend limit) = result.mapError (.rule e.rule.id))
    (hstop : e.stop (Memory.backend limit) = { e.start with
      strategy := e.start.strategy.afterByRow { r with writer := some desk.writer }
      work := e.workAfter result desk }) :
    (e.error? limit = none → e.Done limit) ∧
      ∀ err, e.error? limit = some err → e.Failed limit err := by
  have hidle := hready.currentWriter hr
  have hfits := fits_byRow hflush hplan hr hidle hrun (by rw [hstop])
  have herror : e.error? limit = firstError? (r.answers e.start.work.storage.store e.rule) := by
    simp only [error?, hplan, hr, Session.store]
  have hspec := Rowwise.run_derive (d := e.desk r.currentWriter) hidle hfits
  rw [hrun, storage_desk, ← herror] at hspec
  constructor
  · intro hnone
    rw [hnone] at hspec
    obtain ⟨desk', heq, hwrote⟩ := hspec
    obtain ⟨rfl, rfl⟩ := Prod.mk.inj heq
    have hderived : e.derived = (r.derived e.start.store e.rule).map (⟨·, e.provenance⟩) := by
      simp only [derived, hplan, hr, Option.map_some, Option.getD_some]
    rw [← List.length_map (f := (Fact.mk · e.provenance))] at houtcome
    have hready' :
        (e.start.strategy.afterByRow { r with writer := some desk.writer }).Ready limit :=
      hready.afterByRow hwrote.idle
    refine done_of_wrote houtcome hstop hwrote hderived ⟨hready', ?_, ?_, ?_⟩
    · simp [Strategy.settings, Strategy.evaluation, hr]
    · simp
    · simp [hplan]
  · intro err hsome
    rw [hsome] at hspec
    obtain ⟨desk', heq, hstorage⟩ := hspec
    obtain ⟨rfl, rfl⟩ := Prod.mk.inj heq
    refine ⟨houtcome, ?_⟩
    rw [hstop]
    exact congrArg Memory.store hstorage

/-- An execution fails and leaves the store as it was, or it adds what it derives. -/
theorem spec (hready : e.start.strategy.Ready limit) (hflush : e.Flushes limit) :
    (e.error? limit = none → e.Done limit) ∧
      ∀ err, e.error? limit = some err → e.Failed limit err := by
  rcases e.way (Memory.backend limit) with
    ⟨s, plan, result, desk, hplan, hs, hcompile, hrun, houtcome, hstop⟩ |
    ⟨r, result, desk, hplan, hr, hrun, houtcome, hstop⟩ |
    ⟨obstacle, hplan, hr, hbody, houtcome, hstop⟩
  · exact spec_plan hready hflush hplan hs hcompile hrun houtcome hstop
  · exact spec_byRow hready hflush hplan hr hrun houtcome hstop
  · have herror : e.error? limit = some (.notExpressible obstacle) := by
      simp only [error?, hplan, hr, hbody, Option.map_some]
    rw [herror]
    constructor
    · intro h
      cases h
    · intro err h
      obtain rfl := Option.some.inj h
      exact ⟨houtcome, congrArg Session.store hstop⟩

/-- A rule that there is neither a plan nor anyone else for is an error. -/
theorem error?_of_obstacle (hplan : e.plan? = none) (hr : e.start.strategy.byRow? = none) :
    ∃ obstacle, e.error? limit = some (.notExpressible obstacle) := by
  rcases e.way (Memory.backend limit) with ⟨s, plan, _, _, hplan', _⟩ | ⟨r, _, _, _, hr', _⟩ |
    ⟨obstacle, _, _, hbody, _, _⟩
  · rw [hplan] at hplan'
    cases hplan'
  · rw [hr] at hr'
    cases hr'
  · refine ⟨obstacle, ?_⟩
    simp only [error?, hplan, hr, hbody, Option.map_some]

/-- An execution that succeeds is done. -/
theorem done_of_succeeds (hready : e.start.strategy.Ready limit)
    (hflush : e.Flushes limit) (h : e.Succeeds (Memory.backend limit)) :
    e.error? limit = none ∧ e.Done limit := by
  obtain ⟨hdone, hfailed⟩ := spec hready hflush
  rcases herror : e.error? limit with _ | err
  · exact ⟨rfl, hdone herror⟩
  · obtain ⟨n, hn⟩ := h
    rw [(hfailed err herror).outcome] at hn
    cases hn

end spec

end Execution

end RdfReasoner
