import RdfReasoner.Proofs.Execution
import RdfReasoner.Session.Setup

/-!
# Histories of sessions

`Session.runLog` lists the executions of a run, pass by pass, in the order in which they are made;
it ends with the pass that derives nothing, with the last pass that was allowed, or with the first
execution that fails.  `Session.run_passes_succ` and `Session.run_pass_cons` tie it to what a run
does.

A `Call` is what may happen to a session from outside: facts enter the storage, stamped with the
time at which they enter; rules are run; a rule is executed on its own.  Calls are made one after
the other, and none of them undoes what an earlier one did, whether that failed or not.
-/

namespace RdfReasoner

open Fallible

namespace Session

variable {σ : Type}

/-! ## The executions of a run -/

/-- The execution of a rule in a pass, which takes its time from the clock. -/
def nextExecution (b : Backend σ) (number : Nat) (rule : Rule) (s : Session σ) : Execution σ where
  rule := rule
  provenance := ⟨number + 1, (s.tick b).1, s.visibility⟩
  start := (s.tick b).2

/-- The executions of a pass, up to the first that fails. -/
def passLog (b : Backend σ) (number : Nat) : List Rule → Session σ → List (Execution σ)
  | [], _ => []
  | rule :: rest, s =>
    let e := s.nextExecution b number rule
    e :: if (e.outcome b).isOk then passLog b number rest (e.stop b) else []

/-- The session at the start of a pass. -/
def startPass (number : Nat) (s : Session σ) : Session σ :=
  { s with strategy := s.strategy.requireLevel number }

/-- The executions of the passes from a number on. -/
def passesLog (b : Backend σ) (rules : List Rule) :
    (rounds number : Nat) → Session σ → List (List (Execution σ))
  | 0, _, _ => []
  | rounds + 1, number, s =>
    if s.maxPasses.any (· ≤ number) then []
    else
      passLog b number rules (s.startPass number) ::
        match (pass b number 0 rules).run (s.startPass number) with
        | (.ok (_ + 1), s') => passesLog b rules rounds (number + 1) s'
        | _ => []

/-- The executions of a run, pass by pass. -/
def runLog (b : Backend σ) (rules : List Rule) (rounds : Nat) (s : Session σ) :
    List (List (Execution σ)) :=
  passesLog b rules rounds 0 s

/-- The executions of a pass whose first execution succeeds. -/
theorem passLog_cons {b : Backend σ} {number n : Nat} {rule : Rule} {s : Session σ}
    (hok : (s.nextExecution b number rule).outcome b = .ok n) (rest : List Rule) :
    passLog b number (rule :: rest) s =
      s.nextExecution b number rule ::
        passLog b number rest ((s.nextExecution b number rule).stop b) := by
  rw [passLog, hok]
  rfl

/-- A pass goes on behind an execution that succeeds and ends with one that fails. -/
theorem run_pass_cons (b : Backend σ) (number derived : Nat) (rule : Rule) (rest : List Rule)
    (s : Session σ) :
    (pass b number derived (rule :: rest)).run s =
      match (s.nextExecution b number rule).outcome b with
      | .ok n => (pass b number (derived + n) rest).run ((s.nextExecution b number rule).stop b)
      | .error e => (.error e, (s.nextExecution b number rule).stop b) := by
  -- a tick, a look at the session for its label, and the execution
  have htick : (liftM (tick b) : SessionM σ Timestamp).run s = (.ok (s.tick b).1, (s.tick b).2) :=
    rfl
  have hget : (get : SessionM σ (Session σ)).run (s.tick b).2 = (.ok (s.tick b).2, (s.tick b).2) :=
    rfl
  have hexecute : (execute b rule ⟨number + 1, (s.tick b).1, s.visibility⟩).run (s.tick b).2 =
      ((s.nextExecution b number rule).outcome b, (s.nextExecution b number rule).stop b) := rfl
  rw [pass, run_bind_ok htick, run_bind_ok hget]
  cases houtcome : (s.nextExecution b number rule).outcome b with
  | ok n =>
    rw [houtcome] at hexecute
    exact run_bind_ok hexecute
  | error e =>
    rw [houtcome] at hexecute
    exact run_bind_error hexecute

/-- Passes go on as long as they derive something, if they are allowed to. -/
theorem run_passes_succ (b : Backend σ) (rules : List Rule) (rounds number total : Nat)
    (s : Session σ) :
    (passes b rules (rounds + 1) number total).run s =
      if s.maxPasses.any (· ≤ number) then
        (.ok (some total), { s with work := s.work.note .stoppedEarly })
      else
        match (pass b number 0 rules).run (s.startPass number) with
        | (.ok 0, s') => (.ok (some total), s')
        | (.ok (n + 1), s') => (passes b rules rounds (number + 1) (total + (n + 1))).run s'
        | (.error e, s') => (.error e, s') := by
  have hget : (get : SessionM σ (Session σ)).run s = (.ok s, s) := rfl
  rw [passes, run_bind_ok hget]
  split
  · rfl
  · have hmodify : (modify (startPass number) : SessionM σ Unit).run s =
        (.ok (), s.startPass number) := rfl
    refine (run_bind_ok hmodify).trans ?_
    rw [run_bind]
    split
    · next n s' hpass =>
      rw [hpass]
      cases n with
      | zero => rfl
      | succ n => rfl
    · next e s' hpass =>
      rw [hpass]

/-- No execution changes how many passes are allowed. -/
theorem maxPasses_stop (b : Backend σ) (e : Execution σ) :
    (e.stop b).maxPasses = e.start.maxPasses := by
  obtain ⟨strategy, work, hstop⟩ := e.exists_stop b
  rw [hstop]

theorem maxPasses_pass (b : Backend σ) (number derived : Nat) (rules : List Rule) (s : Session σ) :
    ((pass b number derived rules).run s).2.maxPasses = s.maxPasses := by
  induction rules generalizing s derived with
  | nil => rfl
  | cons rule rest ih =>
    rw [run_pass_cons]
    rcases (s.nextExecution b number rule).outcome b with _ | n
    · exact maxPasses_stop b _
    · exact (ih _ _).trans (maxPasses_stop b _)

/-- If a pass succeeds, so do all its executions. -/
theorem succeeds_of_pass {b : Backend σ} {number derived n : Nat} {rules : List Rule}
    {s s' : Session σ} (h : (pass b number derived rules).run s = (.ok n, s')) :
    ∀ e ∈ passLog b number rules s, e.Succeeds b := by
  induction rules generalizing s derived with
  | nil => exact List.forall_mem_nil _
  | cons rule rest ih =>
    rw [run_pass_cons] at h
    rcases hok : (s.nextExecution b number rule).outcome b with error | m
    · rw [hok] at h
      cases h
    · rw [hok] at h
      rw [passLog_cons hok]
      exact List.forall_mem_cons.mpr ⟨⟨m, hok⟩, ih h⟩

/-- A pass adds up what its executions derive; if it adds nothing, none of them derived anything. -/
theorem outcomes_of_pass {b : Backend σ} {number derived n : Nat} {rules : List Rule}
    {s s' : Session σ} (h : (pass b number derived rules).run s = (.ok n, s')) :
    derived ≤ n ∧ (n = derived → ∀ e ∈ passLog b number rules s, e.outcome b = .ok 0) := by
  induction rules generalizing s derived with
  | nil =>
    obtain ⟨hn, -⟩ := Prod.mk.inj h
    exact ⟨(Except.ok.inj hn).le, fun _ => List.forall_mem_nil _⟩
  | cons rule rest ih =>
    rw [run_pass_cons] at h
    rcases hok : (s.nextExecution b number rule).outcome b with error | m
    · rw [hok] at h
      cases h
    · rw [hok] at h
      rw [passLog_cons hok]
      obtain ⟨hle, hrest⟩ := ih h
      refine ⟨by omega, fun hn => List.forall_mem_cons.mpr ⟨?_, hrest (by omega)⟩⟩
      rw [hok, show m = 0 by omega]

/-- If all executions of a pass succeed, every rule is executed, in the order of the rules. -/
theorem map_rule_passLog {b : Backend σ} {number : Nat} {rules : List Rule} {s : Session σ}
    (h : ∀ e ∈ passLog b number rules s, e.Succeeds b) :
    (passLog b number rules s).map (·.rule) = rules := by
  induction rules generalizing s with
  | nil => rfl
  | cons rule rest ih =>
    obtain ⟨n, hn⟩ := h (s.nextExecution b number rule) List.mem_cons_self
    rw [passLog_cons hn] at h ⊢
    rw [List.map_cons, ih fun e he => h e (List.mem_cons_of_mem _ he)]
    rfl

/-- The passes of a run are passes with consecutive numbers. -/
theorem exists_passLog {b : Backend σ} {rules : List Rule} {rounds number k : Nat} {s : Session σ}
    {passed : List (Execution σ)}
    (h : (passesLog b rules rounds number s)[k]? = some passed) :
    ∃ s' : Session σ, passed = passLog b (number + k) rules (s'.startPass (number + k)) := by
  induction rounds generalizing s number k with
  | zero => cases h
  | succ rounds ih =>
    rw [passesLog] at h
    split at h
    · cases h
    · cases k with
      | zero => exact ⟨s, (Option.some.inj h).symm⟩
      | succ k =>
        rw [List.getElem?_cons_succ] at h
        rw [← Nat.add_assoc, Nat.add_right_comm]
        split at h
        · exact ih h
        · cases h

/-- The executions of the last pass of a run, and where the run ends if that pass derives
nothing. -/
theorem exists_last_pass {b : Backend σ} {rules : List Rule} {rounds number : Nat} {s : Session σ}
    {last : List (Execution σ)} (h : (passesLog b rules rounds number s).getLast? = some last)
    (total : Nat) :
    ∃ (number' : Nat) (s' : Session σ), last = passLog b number' rules (s'.startPass number') ∧
      ∀ s'', (pass b number' 0 rules).run (s'.startPass number') = (.ok 0, s'') →
        ((passes b rules rounds number total).run s).2 = s'' := by
  induction rounds generalizing s number total with
  | zero => cases h
  | succ rounds ih =>
    rw [run_passes_succ]
    rw [passesLog] at h
    by_cases hstop : s.maxPasses.any (· ≤ number) = true
    · rw [if_pos hstop] at h
      cases h
    · rw [if_neg hstop] at h ⊢
      rcases hrun : (pass b number 0 rules).run (s.startPass number) with ⟨_ | _ | n, s₁⟩
      · rw [hrun] at h
        refine ⟨number, s, (Option.some.inj h).symm, fun s'' h'' => ?_⟩
        cases hrun.symm.trans h''
      · rw [hrun] at h
        refine ⟨number, s, (Option.some.inj h).symm, fun s'' h'' => ?_⟩
        exact (Prod.mk.inj (hrun.symm.trans h'')).2
      · rw [hrun] at h
        rcases hlog : passesLog b rules rounds (number + 1) s₁ with _ | ⟨next, later⟩
        · -- no further pass was allowed, but this one derived something
          simp only [hlog] at h
          refine ⟨number, s, (Option.some.inj h).symm, fun s'' h'' => ?_⟩
          cases hrun.symm.trans h''
        · refine ih ?_ (total + (n + 1))
          simp only [hlog, List.getLast?_cons_cons] at h ⊢
          exact h

/-- A run that returns, and was not cut short, has no execution that fails, and its last pass
derives nothing. -/
theorem ends_of_passes {b : Backend σ} {rules : List Rule} {rounds number total n : Nat}
    {s s' : Session σ} (hmax : s.maxPasses = none)
    (h : (passes b rules rounds number total).run s = (.ok (some n), s')) :
    (∀ e ∈ (passesLog b rules rounds number s).flatten, e.Succeeds b) ∧
      ∃ last, (passesLog b rules rounds number s).getLast? = some last ∧
        ∀ e ∈ last, e.outcome b = .ok 0 := by
  induction rounds generalizing s number total with
  | zero => cases h
  | succ rounds ih =>
    have hgo : ¬ s.maxPasses.any (· ≤ number) = true := by simp [hmax]
    rw [run_passes_succ, if_neg hgo] at h
    rw [passesLog, if_neg hgo]
    rcases hrun : (pass b number 0 rules).run (s.startPass number) with ⟨_ | _ | m, s₁⟩
    · rw [hrun] at h
      cases h
    · simp only [List.flatten_cons, List.flatten_nil, List.append_nil]
      exact ⟨succeeds_of_pass hrun, _, rfl, (outcomes_of_pass hrun).2 rfl⟩
    · rw [hrun] at h
      have hmax₁ : s₁.maxPasses = none := by
        have hsame := maxPasses_pass b number 0 rules (s.startPass number)
        rw [hrun] at hsame
        exact hsame.trans hmax
      obtain ⟨hsucceeds, last, hlast, hnothing⟩ := ih hmax₁ h
      refine ⟨?_, last, ?_, hnothing⟩
      · rw [List.flatten_cons, List.forall_mem_append]
        exact ⟨succeeds_of_pass hrun, hsucceeds⟩
      · rw [List.getLast?_cons, hlast]
        rfl

/-! ## The times of a run -/

/-- No execution changes the time of the latest one. -/
theorem lastTick_stop (b : Backend σ) (e : Execution σ) :
    (e.stop b).lastTick = e.start.lastTick := by
  obtain ⟨strategy, work, hstop⟩ := e.exists_stop b
  rw [hstop]

/-- Times that may follow the executions so far: they are in order and not before the latest. -/
structure Follows (s : Session σ) (times : List Timestamp) : Prop where
  sorted : times.Pairwise (· ≤ ·)
  behind : ∀ last, s.lastTick = some last → ∀ t ∈ times, last ≤ t

theorem Follows.nextExecution {b : Backend σ} {number : Nat} {rule : Rule} {s : Session σ}
    {times : List Timestamp}
    (h : ((s.nextExecution b number rule).stop b).Follows times) :
    s.Follows ((s.nextExecution b number rule).time :: times) := by
  have htime : ∀ t ∈ times, (s.nextExecution b number rule).time ≤ t := by
    refine h.behind _ ?_
    rw [lastTick_stop]
    rfl
  refine ⟨List.pairwise_cons.mpr ⟨htime, h.sorted⟩, ?_⟩
  intro last hlast
  -- a tick that the clock would put before the latest time is put there
  have hfirst : last ≤ (s.nextExecution b number rule).time := by
    show last ≤ (s.lastTick.map (max · (b.now s.work.storage).1)).getD (b.now s.work.storage).1
    rw [hlast]
    exact Timestamp.le_max_left _ _
  refine List.forall_mem_cons.mpr ⟨hfirst, ?_⟩
  intro t ht
  exact Timestamp.le_trans hfirst (htime t ht)

/-- The times of a pass are in order. -/
theorem Follows.pass {b : Backend σ} {number derived : Nat} {rules : List Rule} {s : Session σ}
    {times : List Timestamp}
    (h : ((Session.pass b number derived rules).run s).2.Follows times) :
    s.Follows ((passLog b number rules s).map (·.time) ++ times) := by
  induction rules generalizing s derived with
  | nil => exact h
  | cons rule rest ih =>
    rw [run_pass_cons] at h
    rcases hok : (s.nextExecution b number rule).outcome b with error | n
    · rw [hok] at h
      rw [passLog, hok]
      exact Follows.nextExecution h
    · rw [hok] at h
      rw [passLog_cons hok]
      exact Follows.nextExecution (ih h)

/-- So are those of passes one after the other. -/
theorem Follows.passes {b : Backend σ} {rules : List Rule} {rounds number total : Nat}
    {s : Session σ} {times : List Timestamp}
    (h : ((Session.passes b rules rounds number total).run s).2.Follows times) :
    s.Follows ((passesLog b rules rounds number s).flatten.map (·.time) ++ times) := by
  induction rounds generalizing s number total with
  | zero => exact h
  | succ rounds ih =>
    rw [run_passes_succ] at h
    rw [passesLog]
    by_cases hstop : s.maxPasses.any (· ≤ number) = true
    · rw [if_pos hstop] at h ⊢
      exact ⟨h.sorted, h.behind⟩
    · rw [if_neg hstop] at h ⊢
      rw [List.flatten_cons, List.map_append, List.append_assoc]
      -- the times of the later passes follow this one, so its own can be put in front
      suffices hrest : ((Session.pass b number 0 rules).run (s.startPass number)).2.Follows _ from
        ⟨hrest.pass.sorted, hrest.pass.behind⟩
      rcases hrun : (Session.pass b number 0 rules).run (s.startPass number) with ⟨_ | _ | n, s'⟩
      · rw [hrun] at h
        exact h
      · rw [hrun] at h
        exact h
      · rw [hrun] at h
        exact ih h

/-- The times of a run are in order, whatever the clock shows. -/
theorem sorted_runLog (b : Backend σ) (rules : List Rule) (rounds : Nat) (s : Session σ) :
    ((s.runLog b rules rounds).flatten.map (·.time)).Pairwise (· ≤ ·) := by
  have hend : ((Session.passes b rules rounds 0 0).run s).2.Follows [] :=
    ⟨List.Pairwise.nil, fun _ _ => List.forall_mem_nil _⟩
  have hall := hend.passes.sorted
  rwa [List.append_nil] at hall

end Session

/-! ## Calls -/

/-- A storage seen as a store that facts can be put into from outside. -/
structure StoreView (σ : Type) where
  store : σ → Store
  put : Timestamp → List Fact → σ → σ
  store_put : ∀ time facts m, store (put time facts m) = ((store m).insertAll time facts).1

/-- A storage in memory as a store. -/
def Memory.view : StoreView Memory where
  store := Memory.store
  put time facts m := { m with store := (m.store.insertAll time facts).1 }
  store_put _ _ _ := rfl

/-- What may happen to a session from outside. -/
inductive Call
  /-- Facts enter the storage. -/
  | insert (time : Timestamp) (facts : List Fact)
  /-- Rules are run, for as many passes as there are rounds at most. -/
  | run (rules : List Rule) (rounds : Nat)
  /-- A rule is executed on its own. -/
  | execute (rule : Rule) (p : Provenance)

namespace Call

variable {σ : Type}

/-- Facts that enter are stamped with the time at which they do. -/
def StampsFacts : Call → Prop
  | insert time facts => ∀ f ∈ facts, (f.stamped time).timestamp = time
  | _ => True

instance (c : Call) : Decidable c.StampsFacts :=
  match c with
  | insert time facts =>
    inferInstanceAs (Decidable (∀ f ∈ facts, (f.stamped time).timestamp = time))
  | run .. | execute .. => isTrue trivial

/-- The call asks for no execution itself. -/
def IsIndirect : Call → Prop
  | execute .. => False
  | _ => True

instance (c : Call) : Decidable c.IsIndirect :=
  match c with
  | insert .. | run .. => isTrue trivial
  | execute .. => isFalse id

/-- The executions that a call makes. -/
def executions (b : Backend σ) : Call → Session σ → List (Execution σ)
  | insert .., _ => []
  | run rules rounds, s => (s.runLog b rules rounds).flatten
  | execute rule p, s => [⟨rule, p, s⟩]

/-- The executions that a call asks for itself, apart from runs. -/
def direct (c : Call) (s : Session σ) : List (Execution σ) :=
  match c with
  | execute rule p => [⟨rule, p, s⟩]
  | _ => []

/-- The times that a call hands out or is given. -/
def times (b : Backend σ) (c : Call) (s : Session σ) : List Timestamp :=
  match c with
  | insert time _ => [time]
  | _ => (c.executions b s).map (·.time)

/-- The session after a call. -/
def perform (v : StoreView σ) (b : Backend σ) (c : Call) (s : Session σ) : Session σ :=
  match c with
  | insert time facts => { s with work.storage := v.put time facts s.work.storage }
  | run rules rounds => ((Session.run b rules rounds).run s).2
  | execute rule p => (Execution.mk rule p s).stop b

end Call

namespace Session

variable {σ : Type}

/-- The session after some calls. -/
def performAll (v : StoreView σ) (b : Backend σ) (s : Session σ) : List Call → Session σ
  | [] => s
  | c :: rest => performAll v b (c.perform v b s) rest

/-- The executions that some calls make. -/
def executions (v : StoreView σ) (b : Backend σ) (s : Session σ) : List Call → List (Execution σ)
  | [] => []
  | c :: rest => c.executions b s ++ executions v b (c.perform v b s) rest

/-- Those that the calls ask for themselves. -/
def directs (v : StoreView σ) (b : Backend σ) (s : Session σ) : List Call → List (Execution σ)
  | [] => []
  | c :: rest => c.direct s ++ directs v b (c.perform v b s) rest

/-- The times that some calls hand out or are given. -/
def times (v : StoreView σ) (b : Backend σ) (s : Session σ) : List Call → List Timestamp
  | [] => []
  | c :: rest => c.times b s ++ times v b (c.perform v b s) rest

section calls

variable (v : StoreView σ) (b : Backend σ) (s : Session σ) (c : Call) (first rest : List Call)

theorem performAll_append :
    s.performAll v b (first ++ rest) = (s.performAll v b first).performAll v b rest := by
  induction first generalizing s with
  | nil => rfl
  | cons c first ih => exact ih (c.perform v b s)

theorem executions_cons :
    s.executions v b (c :: rest) = c.executions b s ++ (c.perform v b s).executions v b rest := rfl

/-- A single run makes its own executions. -/
theorem executions_run (rules : List Rule) (rounds : Nat) :
    s.executions v b [.run rules rounds] = (s.runLog b rules rounds).flatten := List.append_nil _

theorem directs_cons :
    s.directs v b (c :: rest) = c.direct s ++ (c.perform v b s).directs v b rest := rfl

theorem executions_append :
    s.executions v b (first ++ rest) =
      s.executions v b first ++ (s.performAll v b first).executions v b rest := by
  induction first generalizing s with
  | nil => rfl
  | cons c first ih =>
    rw [List.cons_append, executions_cons, executions_cons, ih, List.append_assoc]
    rfl

end calls

/-- Without direct executions there is nothing that calls ask for themselves. -/
theorem directs_eq_nil {v : StoreView σ} {b : Backend σ} {s : Session σ} {calls : List Call}
    (h : ∀ c ∈ calls, c.IsIndirect) : s.directs v b calls = [] := by
  induction calls generalizing s with
  | nil => rfl
  | cons c rest ih =>
    obtain ⟨hc, hrest⟩ := List.forall_mem_cons.mp h
    rw [directs_cons, ih hrest, List.append_nil]
    rcases c with _ | _ | _
    · rfl
    · rfl
    · exact hc.elim

end Session

/-! ## Invariants

What is kept by everything that may happen between and within calls holds in the end.  An invariant
may speak of the executions made so far and of the times to come.
-/

namespace Session

variable {σ : Type}

/-- An execution is either the one just made or one of those before it. -/
theorem split_append_singleton {α : Type} {log before after : List α} {x y : α}
    (h : log ++ [x] = before ++ y :: after) :
    (before = log ∧ y = x) ∨ ∃ rest, after = rest ++ [x] ∧ log = before ++ y :: rest := by
  rcases List.eq_nil_or_concat after with rfl | ⟨rest, last, rfl⟩
  · obtain ⟨hlog, hlast⟩ := List.append_inj' h rfl
    exact .inl ⟨hlog.symm, (List.singleton_inj.mp hlast).symm⟩
  · rw [List.concat_eq_append, ← List.cons_append, ← List.append_assoc] at h
    obtain ⟨hlog, hlast⟩ := List.append_inj' h rfl
    obtain rfl := List.singleton_inj.mp hlast
    exact .inr ⟨rest, List.concat_eq_append, hlog⟩

/-- What is in a later list comes behind what is in an earlier one, once they are put together. -/
theorem exists_split_flatten {α : Type} {lists : List (List α)} {k j : Nat} (hkj : k < j)
    {earlier later : List α} (hk : lists[k]? = some earlier) (hj : lists[j]? = some later)
    {x y : α} (hx : x ∈ earlier) (hy : y ∈ later) :
    ∃ before after, lists.flatten = before ++ y :: after ∧ x ∈ before := by
  obtain ⟨first, last, rfl⟩ := List.append_of_mem hy
  obtain ⟨hlt, hlater⟩ := List.getElem?_eq_some_iff.mp hj
  have hlists : lists = lists.take j ++ (first ++ y :: last) :: lists.drop (j + 1) := by
    rw [← hlater, ← List.drop_eq_getElem_cons hlt, List.take_append_drop]
  have hearlier : earlier ∈ lists.take j := by
    refine List.mem_of_getElem? (i := k) ?_
    rw [List.getElem?_take_of_lt hkj, hk]
  refine ⟨(lists.take j).flatten ++ first, last ++ (lists.drop (j + 1)).flatten, ?_, ?_⟩
  · conv_lhs => rw [hlists]
    simp
  · exact List.mem_append_left _ (List.mem_flatten.mpr ⟨earlier, hearlier, hx⟩)

/-- Everything that happens within a run keeps a property of the executions made, of the times to
come and of the session. -/
structure IsRunInvariant (b : Backend σ)
    (I : List (Execution σ) → List Timestamp → Session σ → Prop) : Prop where
  execute : ∀ log times e, I log (e.time :: times) e.start → I (log ++ [e]) times (e.stop b)
  tick : ∀ log times s, I log times s → I log times (s.tick b).2
  startPass : ∀ log times number s, I log times s → I log times (s.startPass number)
  note : ∀ log times n s, I log times s → I log times { s with work := s.work.note n }

/-- So does everything that may happen between calls, as long as the calls are of some kind. -/
structure IsInvariant (v : StoreView σ) (b : Backend σ) (Fit : Call → Prop)
    (I : List (Execution σ) → List Timestamp → Session σ → Prop) : Prop
    extends IsRunInvariant b I where
  insert : ∀ log times time facts s, Fit (.insert time facts) →
    I log (time :: times) s → I log times ((Call.insert time facts).perform v b s)

section invariants

variable {v : StoreView σ} {b : Backend σ} {Fit : Call → Prop}
  {I : List (Execution σ) → List Timestamp → Session σ → Prop} {log : List (Execution σ)}
  {times : List Timestamp} {s : Session σ}

namespace IsRunInvariant

theorem pass (h : IsRunInvariant b I) {number derived : Nat} {rules : List Rule}
    (hs : I log ((passLog b number rules s).map (·.time) ++ times) s) :
    I (log ++ passLog b number rules s) times ((Session.pass b number derived rules).run s).2 := by
  induction rules generalizing log s derived with
  | nil => exact (List.append_nil log).symm ▸ hs
  | cons rule rest ih =>
    rw [run_pass_cons]
    rcases hok : (s.nextExecution b number rule).outcome b with error | n
    · rw [passLog, hok] at hs ⊢
      exact h.execute log times _ (h.tick _ _ s hs)
    · rw [passLog_cons hok] at hs ⊢
      -- the log grows by one execution, whose time is no longer to come
      have hstop := h.execute log _ (s.nextExecution b number rule) (h.tick _ _ s hs)
      rw [List.append_cons]
      exact ih hstop

theorem passes (h : IsRunInvariant b I) {number total rounds : Nat} {rules : List Rule}
    (hs : I log ((passesLog b rules rounds number s).flatten.map (·.time) ++ times) s) :
    I (log ++ (passesLog b rules rounds number s).flatten) times
      ((Session.passes b rules rounds number total).run s).2 := by
  induction rounds generalizing log s number total with
  | zero => exact (List.append_nil log).symm ▸ hs
  | succ rounds ih =>
    rw [run_passes_succ]
    rw [passesLog] at hs ⊢
    by_cases hstop : s.maxPasses.any (· ≤ number) = true
    · rw [if_pos hstop] at hs ⊢
      rw [if_pos hstop, List.flatten_nil, List.append_nil]
      exact h.note _ _ _ s hs
    · rw [if_neg hstop] at hs ⊢
      rw [if_neg hstop]
      rw [List.flatten_cons, List.map_append, List.append_assoc] at hs
      rw [List.flatten_cons, ← List.append_assoc]
      have hpass := @pass σ b I log _ _ h number 0 rules (h.startPass _ _ number s hs)
      rcases hrun : (Session.pass b number 0 rules).run (s.startPass number) with ⟨_ | _ | n, s'⟩
      · rw [hrun] at hpass
        simpa using hpass
      · rw [hrun] at hpass
        simpa using hpass
      · rw [hrun] at hpass
        exact ih hpass

/-- What is kept holds after a run. -/
theorem run (h : IsRunInvariant b I) {rules : List Rule} {rounds : Nat}
    (hs : I [] ((s.runLog b rules rounds).flatten.map (·.time)) s) :
    I (s.runLog b rules rounds).flatten [] ((Session.run b rules rounds).run s).2 := by
  rw [← List.append_nil (List.map _ _)] at hs
  exact h.passes hs

end IsRunInvariant

namespace IsInvariant

theorem perform (h : IsInvariant v b Fit I) {c : Call} (hfit : Fit c)
    (hs : I log (c.times b s ++ times) s) :
    I (log ++ c.executions b s) times (c.perform v b s) := by
  rcases c with ⟨time, facts⟩ | ⟨rules, rounds⟩ | ⟨rule, p⟩
  · rw [Call.executions, List.append_nil]
    exact h.insert log times time facts s hfit hs
  · exact h.toIsRunInvariant.passes hs
  · exact h.execute log times ⟨rule, p, s⟩ hs

/-- An invariant that holds before some calls holds after them. -/
theorem performAll (h : IsInvariant v b Fit I) {calls : List Call} (hfit : ∀ c ∈ calls, Fit c)
    (hs : I log (s.times v b calls ++ times) s) :
    I (log ++ s.executions v b calls) times (s.performAll v b calls) := by
  induction calls generalizing log s with
  | nil => exact (List.append_nil log).symm ▸ hs
  | cons c rest ih =>
    obtain ⟨hc, hrest⟩ := List.forall_mem_cons.mp hfit
    rw [Session.times, List.append_assoc] at hs
    rw [executions_cons, ← List.append_assoc]
    exact ih hrest (h.perform hc hs)

/-- An invariant that holds before some calls holds at the start of each of their executions. -/
theorem at_start (h : IsInvariant v b Fit I) {calls : List Call} (hfit : ∀ c ∈ calls, Fit c)
    (hs : I [] (s.times v b calls ++ times) s) {before after : List (Execution σ)}
    {e : Execution σ} (hlog : s.executions v b calls = before ++ e :: after) :
    ∃ times, I before times e.start := by
  -- the invariant is kept together with what it said at the starts so far
  have hrecall : IsInvariant v b Fit fun log times s => I log times s ∧
      ∀ before e after, log = before ++ e :: after → ∃ times, I before times e.start :=
    { execute := fun log times e ⟨he, hstarts⟩ => by
        refine ⟨h.execute log times e he, ?_⟩
        intro before e' after hsplit
        rcases split_append_singleton hsplit with ⟨rfl, rfl⟩ | ⟨rest, rfl, hlog⟩
        · exact ⟨_, he⟩
        · exact hstarts before e' rest hlog
      tick := fun log times s hs => ⟨h.tick log times s hs.1, hs.2⟩
      startPass := fun log times number s hs => ⟨h.startPass log times number s hs.1, hs.2⟩
      note := fun log times n s hs => ⟨h.note log times n s hs.1, hs.2⟩
      insert := fun log times time facts s hfit hs =>
        ⟨h.insert log times time facts s hfit hs.1, hs.2⟩ }
  have hnone : ∀ before e after, ([] : List (Execution σ)) = before ++ e :: after →
      ∃ times, I before times e.start := by
    intro before e after hnil
    simp at hnil
  exact (hrecall.performAll hfit ⟨hs, hnone⟩).2 before e after hlog

end IsInvariant

end invariants

end Session

/-! ## A family

Parents are ancestors, and so are the ancestors of ancestors.
-/

namespace Family

/-- A member of the family, or a relation in it. -/
def iri (name : String) : Term := .iri name

/-- A statement about the family. -/
def said (subject relation object : String) : Statement :=
  ⟨iri subject, iri relation, iri object, none⟩

/-- The pattern of a relation between two that are not known. -/
def related (subject relation object : String) : Query :=
  .pattern { subject := .var subject, predicate := .const (iri relation), object := .var object }

/-- Whoever stands in one relation stands in another. -/
def relabel (id source target : String) : Rule where
  id := id
  body := related "x" source "y"
  head := [⟨.var "x", .const (iri target), .var "y", none⟩]

/-- Parents are ancestors. -/
def parents : Rule := relabel "parents" "parent" "ancestor"

/-- Ancestors of ancestors are ancestors. -/
def ancestors : Rule where
  id := "ancestors"
  body := .join (related "x" "ancestor" "y") (related "y" "ancestor" "z")
  head := [⟨.var "x", .const (iri "ancestor"), .var "z", none⟩]

/-- The rule that an id names. -/
def named (id : String) : Rule := if id = parents.id then parents else ancestors

/-- The time that is so many seconds after the start of 1970. -/
def second (n : Nat) : Timestamp := (Timestamp.ofMillis? (1000 * n)).getD .min

/-- A store with some facts, and a clock that goes on by a second with every reading. -/
def memory (facts : List Fact) : Memory where
  store := (Store.empty.insertAll (second 0) facts).1
  clock := second

/-- The session that settings ask for, on an empty store. -/
def session (settings : Settings) : Session Memory :=
  .ofSettings (Memory.backend 1000) settings (memory [])

end Family

end RdfReasoner
