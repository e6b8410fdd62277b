import Mathlib.Order.Bounds.Defs
import RdfReasoner.Proofs.Execution

/-!
# Engines

An `Engine` is a strategy that is used without a session.  Whoever holds it asks for executions with
rules and times of their own choosing, in any order; times may go back.  In between the required
level is set, the strategy is shut down, and others change the storage.  Nothing is assumed of the
backend: it may answer anything, and any question, record, stage or flush may fail.

Through all of this the watermark of a rule is the latest time of an execution of that rule that
succeeded (`Engine.watermarks_record_successes`).  What an execution does to the watermarks is said
once, for all the ways on which it can end, by `Execution.watermarks_stop`; all other demands leave
them alone.
-/

namespace RdfReasoner

variable {σ : Type}

/-! ## The latest of some times -/

/-- What is known is the latest of the given times, and nothing is known exactly if there are
none. -/
def LatestOf : Option Timestamp → List Timestamp → Prop
  | none, times => times = []
  | some t, times => IsGreatest {u | u ∈ times} t

namespace LatestOf

/-- One more time moves what is known forward, or leaves it where it is. -/
theorem concat {known : Option Timestamp} {times : List Timestamp} (h : LatestOf known times)
    (t : Timestamp) : LatestOf (some ((known.map (max · t)).getD t)) (times ++ [t]) := by
  cases known with
  | none =>
    have hnil : times = [] := h
    subst hnil
    refine ⟨List.mem_singleton_self t, ?_⟩
    intro u hu
    obtain rfl : u = t := List.mem_singleton.mp hu
    exact Timestamp.le_refl u
  | some t₀ =>
    obtain ⟨hmem, hge⟩ := h
    show IsGreatest {u | u ∈ times ++ [t]} (max t₀ t)
    constructor
    · show max t₀ t ∈ times ++ [t]
      rw [Timestamp.max_def]
      split
      · exact List.mem_append_right times (List.mem_singleton_self t)
      · exact List.mem_append_left [t] hmem
    · intro u hu
      rcases List.mem_append.mp hu with hu | hu
      · exact Timestamp.le_trans (hge hu) (Timestamp.le_max_left t₀ t)
      · obtain rfl : u = t := List.mem_singleton.mp hu
        exact Timestamp.le_max_right t₀ u

/-- Over more times what is known can only be later. -/
theorem le_of_append {known known' : Option Timestamp} {times more : List Timestamp}
    (h : LatestOf known times) (h' : LatestOf known' (times ++ more)) {t : Timestamp}
    (ht : known = some t) : ∃ t', known' = some t' ∧ t ≤ t' := by
  subst ht
  have hmem : t ∈ times ++ more := List.mem_append_left more h.1
  cases known' with
  | none =>
    have hnil : times ++ more = [] := h'
    rw [hnil] at hmem
    cases hmem
  | some t' => exact ⟨t', rfl, h'.2 hmem⟩

end LatestOf

/-! ## What is asked of a strategy -/

/-- A strategy and what it works on. -/
structure Engine (σ : Type) where
  strategy : Strategy σ
  work : Workspace σ

namespace Engine

/-- What may be asked of a strategy, or happen to its storage in between. -/
inductive Demand (σ : Type)
  | execute (rule : Rule) (p : Provenance)
  | requireLevel (level : Nat)
  | shutdown
  | outside (change : σ → σ)

/-- The engine before any rule was executed. -/
def fresh (strategy : Strategy σ) (storage : σ) (notices : Array Notice) : Engine σ :=
  ⟨strategy, ⟨storage, .empty, notices⟩⟩

/-- Executes a rule and counts the new facts. -/
def execute (b : Backend σ) (rule : Rule) (p : Provenance) (m : Engine σ) :
    Except Error Nat × Engine σ :=
  let (result, strategy, work) := m.strategy.execute b rule p m.work
  (result, ⟨strategy, work⟩)

/-- The engine once a demand was served, whether with success or not. -/
def serve (b : Backend σ) (m : Engine σ) : Demand σ → Engine σ
  | .execute rule p => (m.execute b rule p).2
  | .requireLevel level => { m with strategy := m.strategy.requireLevel level }
  | .shutdown =>
    let (_, strategy, work) := m.strategy.shutdown b m.work
    ⟨strategy, work⟩
  | .outside change => { m with work.storage := change m.work.storage }

/-- The engine once some demands were served one after the other. -/
def serveAll (b : Backend σ) (m : Engine σ) (demands : List (Demand σ)) : Engine σ :=
  demands.foldl (serve b) m

/-- The time of a demand to execute a rule, if it succeeds. -/
def success? (b : Backend σ) (id : String) (m : Engine σ) : Demand σ → Option Timestamp
  | .execute rule p =>
    if rule.id = id ∧ (m.execute b rule p).1.isOk then some p.timestamp else none
  | _ => none

/-- The times of all executions of a rule that succeed. -/
def successes (b : Backend σ) (id : String) : Engine σ → List (Demand σ) → List Timestamp
  | _, [] => []
  | m, r :: rest => (m.success? b id r).toList ++ successes b id (m.serve b r) rest

@[simp] theorem serveAll_append (b : Backend σ) (m : Engine σ) (demands more : List (Demand σ)) :
    m.serveAll b (demands ++ more) = (m.serveAll b demands).serveAll b more :=
  List.foldl_append

/-- The successes along two lists of demands. -/
theorem successes_append (b : Backend σ) (id : String) (m : Engine σ)
    (demands more : List (Demand σ)) :
    successes b id m (demands ++ more) =
      successes b id m demands ++ successes b id (m.serveAll b demands) more := by
  induction demands generalizing m with
  | nil => rfl
  | cons r rest ih =>
    rw [List.cons_append, successes, ih, successes, List.append_assoc]
    rfl

/-! ## What demands do to the watermarks -/

/-- An execution moves the watermark of its rule if it succeeds, and no other. -/
theorem watermarks_execute (b : Backend σ) (rule : Rule) (p : Provenance) (m : Engine σ) :
    (m.execute b rule p).2.work.watermarks =
      m.work.watermarks.after rule.id p.timestamp (m.execute b rule p).1 := by
  -- as an execution of a session that has this strategy and this workspace
  let e : Execution σ := ⟨rule, p, { strategy := m.strategy, work := m.work }⟩
  rcases h : m.strategy.execute b rule p m.work with ⟨result, strategy, work⟩
  obtain ⟨houtcome, hstop⟩ := Execution.run_execute (e := e) h
  have hmoved := e.watermarks_stop b
  rw [houtcome, hstop] at hmoved
  have hexecute : m.execute b rule p = (result, ⟨strategy, work⟩) := by
    rw [execute, h]
  rw [hexecute]
  rcases result with _ | _ <;> exact hmoved

/-- An execution that fails leaves all watermarks where they are. -/
theorem watermarks_execute_of_error {b : Backend σ} {rule : Rule} {p : Provenance} {m : Engine σ}
    {e : Error} (h : (m.execute b rule p).1 = .error e) :
    (m.execute b rule p).2.work.watermarks = m.work.watermarks := by
  rw [watermarks_execute, h]
  rfl

/-- An execution leaves the watermarks of other rules where they are. -/
theorem watermark_execute_of_ne (b : Backend σ) {rule : Rule} (p : Provenance) (m : Engine σ)
    {id : String} (hne : id ≠ rule.id) :
    (m.execute b rule p).2.work.watermarks.get? id = m.work.watermarks.get? id := by
  rw [watermarks_execute]
  rcases (m.execute b rule p).1 with _ | n
  · rfl
  · exact (Watermarks.get?_advance ..).trans (if_neg hne.symm)

/-- Giving the writers up leaves all watermarks where they are. -/
theorem watermarks_shutdown (b : Backend σ) (s : Strategy σ) (w : Workspace σ) :
    (s.shutdown b w).2.2.watermarks = w.watermarks := by
  have hrowwise : ∀ r : Rowwise, (r.shutdown b w).2.2.watermarks = w.watermarks := by
    intro r
    rw [Rowwise.shutdown]
    split <;> rfl
  cases s with
  | rowwise r => exact hrowwise r
  | bulk s =>
    show (s.shutdown b w).2.2.watermarks = w.watermarks
    unfold Bulk.shutdown
    rcases s.fallback with _ | r
    · rfl
    · have hfirst := hrowwise r
      rcases hrun : r.shutdown b w with ⟨reply, r', w'⟩
      rw [hrun] at hfirst
      dsimp only
      rw [hrun]
      rcases reply with _ | _ <;> exact hfirst

/-- A demand moves the watermark of a rule as far as it is a success of that rule. -/
theorem latestOf_serve (b : Backend σ) {m : Engine σ} {id : String} {times : List Timestamp}
    (h : LatestOf (m.work.watermarks.get? id) times) (r : Demand σ) :
    LatestOf ((m.serve b r).work.watermarks.get? id)
      (times ++ (m.success? b id r).toList) := by
  -- only the success of an execution of this rule moves its watermark
  have hstays : (m.serve b r).work.watermarks.get? id = m.work.watermarks.get? id →
      m.success? b id r = none → LatestOf ((m.serve b r).work.watermarks.get? id)
        (times ++ (m.success? b id r).toList) := by
    intro hsame hnone
    rw [hsame, hnone, Option.toList_none, List.append_nil]
    exact h
  cases r with
  | requireLevel level => exact hstays rfl rfl
  | outside change => exact hstays rfl rfl
  | shutdown =>
    exact hstays (congrArg (·.get? id) (watermarks_shutdown b m.strategy m.work)) rfl
  | execute rule p =>
    by_cases hid : rule.id = id
    · rcases hresult : (m.execute b rule p).1 with e | n
      · refine hstays (congrArg (·.get? id) (watermarks_execute_of_error hresult)) ?_
        rw [success?, hresult]
        exact if_neg fun hok => Bool.noConfusion hok.2
      · have hmark : (m.serve b (.execute rule p)).work.watermarks.get? id =
            some (((m.work.watermarks.get? id).map (max · p.timestamp)).getD p.timestamp) := by
          show (m.execute b rule p).2.work.watermarks.get? id = _
          rw [watermarks_execute, hresult, ← hid]
          exact (Watermarks.get?_advance ..).trans (if_pos rfl)
        have hsuccess : m.success? b id (.execute rule p) = some p.timestamp := by
          rw [success?, hresult]
          exact if_pos ⟨hid, rfl⟩
        rw [hmark, hsuccess]
        exact h.concat p.timestamp
    · refine hstays (watermark_execute_of_ne b p m (Ne.symm hid)) ?_
      exact if_neg fun hok => hid hok.1

/-- Along any demands the watermark of a rule follows its successes. -/
theorem latestOf_serveAll (b : Backend σ) {m : Engine σ} {id : String} {times : List Timestamp}
    (h : LatestOf (m.work.watermarks.get? id) times) (demands : List (Demand σ)) :
    LatestOf ((m.serveAll b demands).work.watermarks.get? id)
      (times ++ successes b id m demands) := by
  induction demands generalizing m times with
  | nil =>
    rw [successes, List.append_nil]
    exact h
  | cons r rest ih =>
    rw [successes, ← List.append_assoc]
    exact ih (latestOf_serve b h r)

/-- **Watermarks record exactly the successes.**  Whatever was asked of a strategy, the watermark of
every rule is the latest time of its executions that succeeded, and absent if none did.  The next
execution leaves all watermarks alone if it fails, and those of other rules in any case.  No
watermark goes back, whatever is asked for later. -/
theorem watermarks_record_successes (b : Backend σ) (strategy : Strategy σ) (storage : σ)
    (notices : Array Notice) (demands : List (Demand σ)) :
    let start := fresh strategy storage notices
    let m := start.serveAll b demands
    (∀ id, LatestOf (m.work.watermarks.get? id) (successes b id start demands)) ∧
      (∀ rule p e, (m.execute b rule p).1 = .error e →
        (m.execute b rule p).2.work.watermarks = m.work.watermarks) ∧
      (∀ rule p id, id ≠ rule.id →
        (m.execute b rule p).2.work.watermarks.get? id = m.work.watermarks.get? id) ∧
      ∀ more id t, m.work.watermarks.get? id = some t →
        ∃ t', (m.serveAll b more).work.watermarks.get? id = some t' ∧ t ≤ t' := by
  intro start m
  have hstart : ∀ id, LatestOf (start.work.watermarks.get? id) [] := by
    intro id
    show LatestOf (Watermarks.empty.get? id) []
    rw [Watermarks.get?_empty]
    exact rfl
  have hlatest : ∀ id, LatestOf (m.work.watermarks.get? id) (successes b id start demands) :=
    fun id => latestOf_serveAll b (hstart id) demands
  refine ⟨hlatest, ?_, ?_, ?_⟩
  · intro rule p e herror
    exact watermarks_execute_of_error herror
  · intro rule p id hne
    exact watermark_execute_of_ne b p m hne
  · intro more id t ht
    have hlater := latestOf_serveAll b (hstart id) (demands ++ more)
    rw [successes_append, serveAll_append] at hlater
    exact (hlatest id).le_of_append hlater ht

end Engine

end RdfReasoner
