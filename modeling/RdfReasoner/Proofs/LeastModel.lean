import Mathlib.Order.Bounds.Basic
import RdfReasoner.Proofs.Agreement
import RdfReasoner.Proofs.Closure
import RdfReasoner.Proofs.Meaning

/-!
# Least models

A run that comes to its end leaves the least set of statements behind that contains the statements
at its start and is closed under its rules (`Session.isLeast_settled`).  So the order of the rules,
the way in which they are executed and everything that settings may choose make no difference to
what is stored in the end.

Soundness is an invariant of the run: every closed set that contains the statements at the start
contains those of the store at any time, because more statements have more solutions.  Completeness
comes from the last pass, whose executions derive nothing although their guards skip nothing that is
missing.

Contexts are left out, at the start and in the templates: a statement without a context counts as
stored when it is stored in any context, so what would be derived then is not a matter of sets.
-/

namespace RdfReasoner

/-! ## Statements without contexts -/

/-- A rule whose body cuts nothing off and whose templates make statements without contexts. -/
structure Rule.Plain (rule : Rule) : Prop where
  body : rule.body.hasSlice = false
  head : ∀ template ∈ rule.head, template.context = none

instance (rule : Rule) : Decidable rule.Plain :=
  decidable_of_iff (rule.body.hasSlice = false ∧ ∀ template ∈ rule.head, template.context = none)
    ⟨fun ⟨body, head⟩ => ⟨body, head⟩, fun ⟨body, head⟩ => ⟨body, head⟩⟩

theorem Rule.Plain.context_of_mem_instances {rule : Rule} (h : rule.Plain) {b : Binding}
    {t : Statement} (ht : t ∈ rule.instances b) : t.context = none := by
  obtain ⟨template, htemplate, hinstance⟩ := List.mem_filterMap.mp ht
  simp only [Template.instantiate?, h.head template htemplate, Option.bind_eq_bind,
    Option.bind_eq_some_iff, Option.some.injEq, exists_eq_left'] at hinstance
  obtain ⟨s, -, p, -, o, -, hinstance⟩ := hinstance
  split at hinstance
  · rw [← Option.some.inj hinstance]
  · cases hinstance

/-- Among statements without contexts only what is stored holds. -/
theorem Store.mem_of_holds {s : Store} (hs : ∀ st ∈ s.statements, st.context = none)
    {t : Statement} (ht : t.context = none) (h : s.holds t = true) : t ∈ s.statements := by
  rw [holds_eq_any, List.any_eq_true] at h
  obtain ⟨kept, hmem, hcovers⟩ := h
  have hkept := hs kept hmem
  have heq : kept = t := by
    cases kept
    cases t
    simp_all [Statement.covers]
  exact heq ▸ hmem

/-- A set of statements contains what a rule makes of the solutions over it. -/
def Rule.Closes (rule : Rule) (S : Set Statement) : Prop :=
  ∀ b, rule.body.Solves S .empty b → ∀ t ∈ rule.instances b, t ∈ S

namespace Execution

variable {limit : Nat} {e : Execution Memory}

/-- Whatever an execution derives is made of a solution over the store at its start. -/
theorem exists_solution_of_mem_derived (limit : Nat) {f : Fact} (hf : f ∈ e.derived) :
    ∃ solution, .ok solution ∈
        (e.start.evaluator (Memory.backend limit)).answers e.start.store e.rule.body ∧
      f.statement ∈ e.rule.instances solution := by
  rcases hplan : e.plan? with _ | plan
  · rcases hr : e.start.strategy.byRow? with _ | r
    · simp [derived, hplan, hr] at hf
    · have hmem : f.statement ∈ r.derived e.start.store e.rule := by
        rw [← statements_derived_byRow hplan hr]
        exact List.mem_map_of_mem hf
      obtain ⟨hmem, -⟩ := Store.mem_missing.mp hmem
      obtain ⟨solution, hsolution, ht⟩ := List.mem_flatMap.mp hmem
      rw [← answers_byRow hr]
      exact ⟨solution, ok_mem_of_mem_valuesBefore hsolution, ht⟩
  · obtain ⟨steps, hsteps⟩ := exists_flatten hplan
    obtain ⟨row, hrow, -, ht, -⟩ := mem_derived_plan hplan hf
    rw [Evaluator.answers_eq_rows _ _ hsteps]
    exact ⟨row.binding, List.mem_map_of_mem (List.mem_map_of_mem hrow), ht⟩

end Execution

namespace Session

variable {limit : Nat} {rules : List Rule} {s : Session Memory} {start : Store} {T : Set Statement}

/-! ## Soundness -/

/-- The store has kept what it held at some start, and holds statements of a set only; none of them
has a context. -/
structure Within (start : Store) (T : Set Statement) (s : Session Memory) : Prop where
  kept : start.statements ⊆ s.store.statements
  bounded : s.store.content ⊆ T
  plain : ∀ st ∈ s.store.statements, st.context = none

/-- An execution of a plain rule stays within every set that is closed under the rule. -/
theorem Within.stop {e : Execution Memory} (h : e.start.Within start T) (hdone : e.Done limit)
    (hplain : e.rule.Plain) (hclosed : e.rule.Closes T) :
    (e.stop (Memory.backend limit)).Within start T := by
  have hnew : ∀ f ∈ e.derived, f.statement ∈ T ∧ f.statement.context = none := by
    intro f hf
    obtain ⟨solution, hsolution, ht⟩ := Execution.exists_solution_of_mem_derived limit hf
    have hsolves := (Evaluator.solves_of_mem_answers hplain.body hsolution).mono h.bounded
    exact ⟨hclosed solution hsolves _ ht, hplain.context_of_mem_instances ht⟩
  refine ⟨fun st hst => ?_, fun st hst => ?_, fun st hst => ?_⟩
  · rw [hdone.statements]
    exact List.mem_append_left _ (h.kept hst)
  · rw [Store.content, hdone.statements] at hst
    obtain hold | hmem := List.mem_append.mp hst
    · exact h.bounded hold
    · obtain ⟨f, hf, rfl⟩ := List.mem_map.mp hmem
      exact (hnew f hf).1
  · rw [hdone.statements] at hst
    obtain hold | hmem := List.mem_append.mp hst
    · exact h.plain st hold
    · obtain ⟨f, hf, rfl⟩ := List.mem_map.mp hmem
      exact (hnew f hf).2

/-- So does a run of plain rules, as long as its executions do not fail. -/
theorem isRunInvariant_within (limit : Nat) (start : Store) (hplain : ∀ rule ∈ rules, rule.Plain)
    (hclosed : ∀ rule ∈ rules, rule.Closes T) :
    IsRunInvariant (Memory.backend limit) fun log _ s =>
      (∀ e ∈ log, e.rule ∈ rules ∧ e.Done limit) → s.Within start T where
  execute log _ e h hlog := by
    obtain ⟨hlog, he⟩ := List.forall_mem_append.mp hlog
    obtain ⟨hrule, hdone⟩ := List.forall_mem_singleton.mp he
    exact (h hlog).stop hdone (hplain _ hrule) (hclosed _ hrule)
  tick _ _ _ h hlog := ⟨(h hlog).kept, (h hlog).bounded, (h hlog).plain⟩
  startPass _ _ _ _ h hlog := ⟨(h hlog).kept, (h hlog).bounded, (h hlog).plain⟩
  note _ _ _ _ h hlog := ⟨(h hlog).kept, (h hlog).bounded, (h hlog).plain⟩

/-! ## Runs that come to their end -/

/-- A run from a fresh session on that returns without being cut short; what its executions stage
waits for their flush, and no level that they derive is too high. -/
structure Settles (limit : Nat) (rules : List Rule) (rounds : Nat) (s : Session Memory) : Prop where
  fresh : s.Fresh limit
  unbounded : s.maxPasses = none
  returns : ∃ total, ((run (Memory.backend limit) rules rounds).run s).1 = .ok (some total)
  orderly : ∀ e ∈ (s.runLog (Memory.backend limit) rules rounds).flatten,
    e.WritesAtFlush (Memory.backend limit) ∧ e.LevelsFit

/-- The statements that a run leaves behind. -/
def settled (limit : Nat) (rules : List Rule) (rounds : Nat) (s : Session Memory) : Set Statement :=
  ((run (Memory.backend limit) rules rounds).run s).2.store.content

section settles

variable {rounds : Nat}

/-- No execution of such a run fails or misses anything, and the last one of every rule finds
nothing to derive. -/
theorem Settles.clean (h : s.Settles limit rules rounds) (hids : (rules.map (·.id)).Nodup) :
    (∀ e ∈ (s.runLog (Memory.backend limit) rules rounds).flatten,
        e.Clean limit s.strategy.settings) ∧
      ∀ rule ∈ rules, ∃ e ∈ (s.runLog (Memory.backend limit) rules rounds).flatten,
        e.rule = rule ∧ e.derived = [] ∧
          ((run (Memory.backend limit) rules rounds).run s).2.store = e.start.store := by
  obtain ⟨named, hnamed⟩ := exists_named hids
  obtain ⟨total, hreturns⟩ := h.returns
  obtain ⟨hsucceeds, last, hlast, hnothing⟩ :=
    ends_of_passes h.unbounded (Prod.ext hreturns rfl)
  have hregular : ∀ e ∈ (s.runLog (Memory.backend limit) rules rounds).flatten,
      e.Regular limit named := fun e he =>
    ⟨⟨(h.orderly e he).1, (h.orderly e he).2, hnamed _ (rule_mem_of_mem_runLog he)⟩,
      hsucceeds e he⟩
  have hsteady := h.fresh.steady named
  have hcurrent := hsteady.current.mono fun id => levelsAt_le rules 0 id
  have htimes : s.OnTime
      ((s.runLog (Memory.backend limit) rules rounds).flatten.map (·.time) ++ []) := by
    rw [List.append_nil]
    exact h.fresh.onTime (sorted_runLog _ rules rounds s)
  obtain ⟨hclean, -⟩ := hsteady.passes hcurrent hregular htimes 0
  exact ⟨hclean, passes_of_nothing hclean hlast hnothing 0⟩

section plain

variable (hids : (rules.map (·.id)).Nodup) (hplain : ∀ rule ∈ rules, rule.Plain)
  (hcontext : ∀ st ∈ s.store.statements, st.context = none)
include hids hplain hcontext

/-- Such a run stays within every closed set that contains its start. -/
theorem Settles.within (h : s.Settles limit rules rounds) (hstart : s.store.content ⊆ T)
    (hclosed : ∀ rule ∈ rules, rule.Closes T) :
    ((run (Memory.backend limit) rules rounds).run s).2.Within s.store T := by
  have hwithin : s.Within s.store T := ⟨fun _ hst => hst, hstart, hcontext⟩
  refine (isRunInvariant_within limit s.store hplain hclosed).run (fun _ => hwithin) fun e he => ?_
  exact ⟨rule_mem_of_mem_runLog he, ((h.clean hids).1 e he).done⟩

/-- What it leaves behind is closed under its rules. -/
theorem Settles.closes (h : s.Settles limit rules rounds) :
    ∀ rule ∈ rules, rule.Closes (s.settled limit rules rounds) := by
  intro rule hrule b hsolves t ht
  obtain ⟨hclean, hlast⟩ := h.clean hids
  obtain ⟨e, he, rfl, hnil, hstore⟩ := hlast rule hrule
  have hquiet := (hclean e he).quiet hnil
  have hwithin := h.within hids hplain hcontext (Set.subset_univ _) fun _ _ _ _ _ _ => trivial
  have hcontexts := hwithin.plain
  rw [settled, hstore] at hsolves ⊢
  rw [hstore] at hcontexts
  -- the last execution of the rule started from this store and missed nothing
  have hanswer := Evaluator.mem_answers_of_solves rfl hquiet.error hsolves
  exact Store.mem_of_holds hcontexts ((hplain e.rule hrule).context_of_mem_instances ht)
    (hquiet.closed b hanswer t ht)

/-- It leaves the least closed set behind that contains its start. -/
theorem Settles.isLeast (h : s.Settles limit rules rounds) :
    IsLeast {S | s.store.content ⊆ S ∧ ∀ rule ∈ rules, rule.Closes S}
      (s.settled limit rules rounds) := by
  refine ⟨⟨?_, h.closes hids hplain hcontext⟩, fun T hT => ?_⟩
  · exact (h.within hids hplain hcontext (Set.subset_univ _) fun _ _ _ _ _ _ => trivial).kept
  · exact (h.within hids hplain hcontext hT.1 hT.2).bounded

end plain

/-- A run of plain rules that comes to its end leaves the least set of statements behind that
contains the statements at its start and is closed under the rules; none of them has a context.
Every other such run from the same statements leaves the same set behind, in whatever order it
executes the rules, in whatever way, and with whatever settings. -/
theorem isLeast_settled (hids : (rules.map (·.id)).Nodup) (hplain : ∀ rule ∈ rules, rule.Plain)
    (hcontext : ∀ st ∈ s.store.statements, st.context = none)
    (h : s.Settles limit rules rounds) :
    IsLeast {S | s.store.content ⊆ S ∧ ∀ rule ∈ rules, rule.Closes S}
        (s.settled limit rules rounds) ∧
      (∀ st ∈ s.settled limit rules rounds, st.context = none) ∧
      ∀ (limit' : Nat) (rules' : List Rule) (rounds' : Nat) (s' : Session Memory),
        rules'.Perm rules → s'.store.content = s.store.content → s'.Settles limit' rules' rounds' →
        s'.settled limit' rules' rounds' = s.settled limit rules rounds := by
  have hleast := h.isLeast hids hplain hcontext
  have hwithin := h.within hids hplain hcontext (Set.subset_univ _) fun _ _ _ _ _ _ => trivial
  refine ⟨hleast, hwithin.plain, fun limit' rules' rounds' s' hperm hstart h' => ?_⟩
  have hids' : (rules'.map (·.id)).Nodup := (hperm.map (·.id)).nodup_iff.mpr hids
  have hplain' : ∀ rule ∈ rules', rule.Plain := fun rule hrule => hplain rule (hperm.subset hrule)
  have hcontext' : ∀ st ∈ s'.store.statements, st.context = none :=
    fun st hst => hcontext st (hstart.subset hst)
  have hleast' := h'.isLeast hids' hplain' hcontext'
  -- both are the least of the same sets
  have hsets : {S | s'.store.content ⊆ S ∧ ∀ rule ∈ rules', rule.Closes S} =
      {S | s.store.content ⊆ S ∧ ∀ rule ∈ rules, rule.Closes S} := by
    simp only [hstart, hperm.mem_iff]
  rw [hsets] at hleast'
  exact hleast'.unique hleast

end settles

end Session

namespace Family

open Session

set_option maxRecDepth 100000 in
/-- By plans and in one order, row by row and in the other: both runs leave the least model of the
family behind, in which the first generation has a descendant in the third. -/
theorem isLeast_generations :
    IsLeast {S | generations.store.content ⊆ S ∧
        ∀ rule ∈ [parents, descendants, ancestors], rule.Closes S}
        ((way true).settled 1000 [parents, descendants, ancestors] 9) ∧
      (way false).settled 1000 [ancestors, descendants, parents] 9 =
        (way true).settled 1000 [parents, descendants, ancestors] 9 ∧
      said "p2" "descendant" "p0" ∈
        (way true).settled 1000 [parents, descendants, ancestors] 9 := by
  have hsettles : (way true).Settles 1000 [parents, descendants, ancestors] 9 :=
    ⟨fresh_ofSettings _ 1000 generations, rfl, ⟨6, by decide +kernel⟩, by decide +kernel⟩
  have hsettles' : (way false).Settles 1000 [ancestors, descendants, parents] 9 :=
    ⟨fresh_ofSettings _ 1000 generations, rfl, ⟨6, by decide +kernel⟩, by decide +kernel⟩
  have hperm : [ancestors, descendants, parents].Perm [parents, descendants, ancestors] :=
    List.reverse_perm [parents, descendants, ancestors]
  have hmember : said "p2" "descendant" "p0" ∈ ((run (Memory.backend 1000)
      [parents, descendants, ancestors] 9).run (way true)).2.store.statements := by decide +kernel
  obtain ⟨hleast, -, hagree⟩ := isLeast_settled (by decide) (by decide) (by decide +kernel) hsettles
  exact ⟨hleast, hagree 1000 _ 9 (way false) hperm rfl hsettles', hmember⟩

end Family

end RdfReasoner
