import RdfReasoner.Proofs.Derivation
import RdfReasoner.Proofs.Leftovers

/-!
# Derivation levels

A plan puts a fact one level above the highest of the facts that it was joined from.  The level is
that of whichever row comes first to make the statement, it goes through a record in JSON, and the
store keeps the copy that is inserted first.  Still it can be relied on: every fact that a plan
added is accounted for by facts that were stored before it, and stands one level above the highest
of them (`Session.Ranked`).  So levels fall from a fact to the facts behind it, no fact supports
itself, and every fact has a finite derivation from facts that came from outside.

Nothing here depends on when staged facts are written.  A batch may fill up in the middle of an
execution, and the rows behind it are joined from its facts, too.  So what is known of the records
to come is known for every list of facts that the store may grow to: a reply that was given is among
the facts of every later store, and when a record comes, all replies so far are among the facts
stored at that moment.
-/

namespace RdfReasoner

open Relation Fallible

/-! ## Accounts -/

/-- A rule makes a fact of a derivation from stored facts: they satisfy the body, a template makes
the statement of the solution, and the fact stands one level above the highest of them. -/
structure Rule.AccountsBy (rule : Rule) (facts : List Fact) (d : Derivation) (f : Fact) : Prop where
  body : d ∈ rule.body.derivations facts .empty
  head : ∃ template ∈ rule.head, template.instantiate? d.binding = some f.statement
  level : f.level = 1 + d.level

/-- A rule makes a fact of some derivation from stored facts. -/
def Rule.Accounts (rule : Rule) (facts : List Fact) (f : Fact) : Prop :=
  ∃ d, rule.AccountsBy facts d f

namespace Rule

variable {rule : Rule} {facts facts' : List Fact} {d : Derivation} {f g : Fact}

theorem AccountsBy.mem (h : rule.AccountsBy facts d f) (hg : g ∈ d.sources) : g ∈ facts :=
  (Query.mem_derivations.mp h.body).2.1 g hg

/-- The facts behind a fact have lower levels. -/
theorem AccountsBy.level_lt (h : rule.AccountsBy facts d f) (hg : g ∈ d.sources) :
    g.level < f.level := by
  have hle : g.level ≤ d.level := by
    rw [Derivation.level, le_foldl_max (by omega)]
    exact .inr ⟨g, hg, Nat.le_refl _⟩
  have hlevel := h.level
  omega

/-- More facts account for more. -/
theorem Accounts.mono (h : rule.Accounts facts f) (hsub : facts ⊆ facts') :
    rule.Accounts facts' f := by
  obtain ⟨d, hbody, hhead, hlevel⟩ := h
  obtain ⟨hlength, hsources, hd⟩ := Query.mem_derivations.mp hbody
  have hbody' : d ∈ rule.body.derivations facts' .empty :=
    Query.mem_derivations.mpr ⟨hlength, fun g hg => hsub (hsources g hg), hd⟩
  exact ⟨d, hbody', hhead, hlevel⟩

/-- The time of a fact plays no part in it. -/
theorem Accounts.stamped (h : rule.Accounts facts f) (now : Timestamp) :
    rule.Accounts facts (f.stamped now) := by
  obtain ⟨d, hbody, hhead, hlevel⟩ := h
  refine ⟨d, hbody, ?_, ?_⟩
  · rw [Fact.statement_stamped]
    exact hhead
  · rw [Fact.level_stamped]
    exact hlevel

end Rule

/-! ## What plans put out -/

/-- A lookup is answered by facts of a list that it accepts. -/
def Request.From (facts : List Fact) : ReplyKind
  | .lookup l, reply =>
    Sequence.ErrorOr (fun found => ∀ f ∈ found, f ∈ facts ∧ l.accepts f.statement = true) reply
  | _, _ => True

theorem Request.From.mono {facts facts' : List Fact} {q : Request} {reply : q.Reply}
    (h : Request.From facts q reply) (hsub : facts ⊆ facts') : Request.From facts' q reply := by
  cases q with
  | lookup l =>
    intro found hfound f hf
    obtain ⟨hmem, haccepts⟩ := h found hfound f hf
    exact ⟨hsub hmem, haccepts⟩
  | _ => trivial

/-- A store answers from its facts. -/
theorem Store.from_answer (s : Store) (q : Request) :
    Request.From s.facts.toList q (s.answer q) := by
  cases q with
  | lookup l =>
    refine Sequence.errorOr_ok.mpr ?_
    intro f hf
    rw [s.lookup_eq_filter] at hf
    exact List.mem_filter.mp hf
  | _ => trivial

namespace Plan

open Sequence

variable (facts : List Fact)

/-- A row is joined with facts that a lookup is answered with. -/
theorem expand_from (p : Pattern) (r : Row) :
    (expand p r).EveryFor (Request.From facts) (ErrorOr fun row => row ∈ p.rows facts r) := by
  rw [expand]
  rcases hl : p.lookup? r.binding with _ | l
  · trivial
  · intro reply hreply
    rcases reply with err | found
    · exact ⟨errorOr_error err, trivial⟩
    · refine everyFor_flatMapOk (everyFor_delivered (errorOr_ok.mp hreply)) ?_
      rintro f ⟨hf, haccepts⟩
      refine everyFor_values ?_
      intro row hrow
      obtain ⟨b, hbind, rfl⟩ := Option.map_eq_some_iff.mp (Option.mem_toList.mp hrow)
      exact Pattern.mem_rows.mpr ⟨l, hl, f, hf, haccepts, b, hbind, rfl⟩

/-- The steps of a body make its rows. -/
theorem foldl_apply_from {q : Query} {steps : List Step} (h : q.flatten = .ok steps) {rows : Rows}
    {Q : Row → Prop} (hrows : rows.EveryFor (Request.From facts) (ErrorOr Q)) :
    (steps.foldl apply rows).EveryFor (Request.From facts)
      (ErrorOr fun row => ∃ r, Q r ∧ row ∈ q.rows facts r) := by
  induction q generalizing steps rows Q with
  | pattern p =>
    obtain ⟨-, rfl⟩ := Query.flatten_pattern h
    refine everyFor_flatMapOk hrows ?_
    intro r hr
    refine everyFor_mono (expand_from facts p r) ?_
    intro item hitem row hrow
    exact ⟨r, hr, hitem row hrow⟩
  | join left right ihl ihr =>
    obtain ⟨first, second, hl, hr, rfl⟩ := Query.flatten_join h
    rw [List.foldl_append]
    refine everyFor_mono (ihr hr (ihl hl hrows)) ?_
    intro item hitem row hrow
    obtain ⟨mid, ⟨r, hr, hmid⟩, hrow⟩ := hitem row hrow
    exact ⟨r, hr, List.mem_flatMap.mpr ⟨mid, hmid, hrow⟩⟩
  | filter f child ih =>
    obtain ⟨below, hbelow, rfl⟩ := Query.flatten_filter h
    rw [List.foldl_append]
    refine everyFor_mono (everyFor_filterOk (ih hbelow hrows) _) ?_
    intro item hitem row hrow
    obtain ⟨⟨r, hr, hmem⟩, haccepts⟩ := hitem row hrow
    exact ⟨r, hr, List.mem_filter.mpr ⟨hmem, haccepts⟩⟩
  | slice offset limit child => cases h

/-- A plan puts out what its rule accounts for. -/
theorem outputs_from {rule : Rule} {level : Nat} {time : Timestamp} {watermark : Option Timestamp}
    {plan : Plan} (h : rule.compile level time watermark = .ok plan) (visibility : String) :
    plan.outputs.EveryFor (Request.From facts)
      (ErrorOr fun d => rule.Accounts facts (d.toFact visibility)) := by
  obtain ⟨steps, hsteps, rfl⟩ := Rule.compile_eq_ok h
  have hfirst : (single (.ok {}) : Rows).EveryFor (Request.From facts)
      (ErrorOr fun row => row = {}) := ⟨errorOr_ok.mpr rfl, trivial⟩
  have hrows := foldl_apply_from facts hsteps hfirst
  rw [← foldl_apply_seedFirst] at hrows
  refine everyFor_flatMapOk (everyFor_filter hrows _) ?_
  rintro row ⟨r, rfl, hrow⟩
  refine everyFor_ofList ?_
  intro item hitem
  obtain ⟨st, hst, rfl⟩ := List.mem_map.mp hitem
  obtain ⟨template, htemplate, hmade⟩ := List.mem_filterMap.mp hst
  rw [Query.rows_eq_derivations] at hrow
  obtain ⟨d, hd, rfl⟩ := List.mem_map.mp hrow
  exact errorOr_ok.mpr ⟨d, hd, ⟨template, htemplate, hmade⟩, Nat.add_comm _ _⟩

/-- So does every record of it that can be read. -/
theorem records_from {rule : Rule} {level : Nat} {time : Timestamp} {watermark : Option Timestamp}
    {plan : Plan} (h : rule.compile level time watermark = .ok plan) (options : PlanOptions)
    (limit : Nat) (p : Provenance) :
    (plan.records options limit).EveryFor (Request.From facts)
      (Bulk.RecordOf p (rule.Accounts facts)) :=
  everyFor_records (outputs_from facts h p.visibility) options limit

end Plan

/-! ## Desks -/

/-- The facts of a storage. -/
def Desk.facts (d : Desk Memory) : List Fact := d.storage.store.facts.toList

/-- What came behind the facts at the start is accounted for, each fact by those before it, and so
is what waits in the writer. -/
structure Desk.Traced (rule : Rule) (start : List Fact) (d : Desk Memory) : Prop where
  grown : start <+: d.facts
  accounted : ∀ i f, d.facts[i]? = some f → start.length ≤ i → rule.Accounts (d.facts.take i) f
  waiting : ∀ g ∈ d.writer.pending, rule.Accounts d.facts g

/-- What comes behind some facts makes no difference to the fact at a position among them, nor to
those before it. -/
theorem getElem?_and_take_of_prefix {facts facts' : List Fact} (h : facts <+: facts') {i : Nat}
    (hi : i < facts.length) : facts'[i]? = facts[i]? ∧ facts'.take i = facts.take i := by
  obtain ⟨added, rfl⟩ := h
  exact ⟨List.getElem?_append_left hi, List.take_append_of_le_length (Nat.le_of_lt hi)⟩

/-- A store has grown from some facts on, and what came behind those at the start is accounted
for. -/
structure Store.Traced (rule : Rule) (start known : List Fact) (s : Store) : Prop where
  grown : known <+: s.facts.toList
  accounted : ∀ i f, s.facts.toList[i]? = some f → start.length ≤ i →
    rule.Accounts (s.facts.toList.take i) f

/-- What known facts account for may enter. -/
theorem Store.Traced.admits (rule : Rule) (start known : List Fact) :
    Store.Admits (Store.Traced rule start known) (rule.Accounts known) := by
  intro s time facts hs hfacts
  obtain ⟨added, hadded, hstamped⟩ := s.facts_insertAll time facts
  have hgrown : s.facts.toList <+: (s.insertAll time facts).1.facts.toList :=
    ⟨added, hadded.symm⟩
  refine ⟨hs.grown.trans hgrown, ?_⟩
  intro i f hf hi
  by_cases hold : i < s.facts.toList.length
  · obtain ⟨hsame, hbefore⟩ := getElem?_and_take_of_prefix hgrown hold
    rw [hsame] at hf
    rw [hbefore]
    exact hs.accounted i f hf hi
  · -- a new fact comes behind all that is known
    have hle : s.facts.toList.length ≤ i := Nat.le_of_not_lt hold
    rw [hadded] at hf ⊢
    rw [List.getElem?_append_right hle] at hf
    obtain ⟨g, hg, rfl⟩ := hstamped f (List.mem_of_getElem? hf)
    refine ((hfacts g hg).mono ?_).stamped time
    rw [List.take_append, List.take_of_length_le hle]
    exact List.Subset.trans hs.grown.subset (List.subset_append_left _ _)

namespace Desk.Traced

variable {limit : Nat} {rule : Rule} {start : List Fact} {d : Desk Memory}

/-- What is kept up by facts that the known ones account for stays traced. -/
theorem of_keeps {α : Type} (hd : d.Traced rule start) {act : Staging Memory α}
    (hact : Staging.Keeps (fun d' : Desk Memory =>
      Upholds (Store.Traced rule start d.facts) (rule.Accounts d.facts) d'.storage.store
        d'.writer.pending) act) :
    (act.run d).2.Traced rule start ∧ d.facts <+: (act.run d).2.facts := by
  obtain ⟨⟨hgrown, haccounted⟩, hwaiting⟩ :=
    hact d ⟨⟨List.prefix_refl _, hd.accounted⟩, hd.waiting⟩
  refine ⟨⟨hd.grown.trans hgrown, haccounted, ?_⟩, hgrown⟩
  intro g hg
  exact (hwaiting g hg).mono hgrown.subset

/-- The parts of an execution that stage only what the facts known at a time account for. -/
theorem closed (limit : Nat) (rule : Rule) (start known : List Fact) :
    Staging.Closed (Memory.backend limit) (rule.Accounts known) fun d : Desk Memory =>
      Upholds (Store.Traced rule start known) (rule.Accounts known) d.storage.store
        d.writer.pending :=
  (Memory.inMemory_backend limit).closed (Store.Traced.admits rule start known)

open Staging

/-- Staging records stays traced, if every record is accounted for by whatever the store has grown
to when it comes. -/
theorem stageRecords {p : Provenance} {s : Sequence (Except Error Json)}
    (hs : ∀ facts, d.facts ⊆ facts →
      s.EveryFor (Request.From facts) (Bulk.RecordOf p (rule.Accounts facts)))
    (hd : d.Traced rule start) (derived : Nat) :
    ((Bulk.stageRecords (Memory.backend limit) (Memory.executor limit) p derived s).run d).2.Traced
      rule start := by
  induction s generalizing d derived with
  | nil => exact hd
  | cons item rest ih =>
    rcases item with error | record
    · exact hd
    · obtain ⟨hrecord, -⟩ := hs d.facts (List.Subset.refl _)
      obtain ⟨hnext, hgrown⟩ := hd.of_keeps
        (Bulk.keeps_stageRecord (closed limit rule start d.facts) (hrecord record rfl))
      rw [Bulk.stageRecords, run_bind]
      rcases hrun : (Bulk.stageRecord (Memory.backend limit) p record).run d with ⟨_ | isNew, d'⟩
      · rw [hrun] at hnext
        exact hnext
      · rw [hrun] at hnext hgrown
        refine ih () ?_ hnext _
        intro facts hfacts
        exact (hs facts (List.Subset.trans hgrown.subset hfacts)).2
  | ask q next ih =>
    -- the reply is among the facts stored now, and so among all that are stored later
    refine ih (d.storage.store.answer q) ?_ hd derived
    intro facts hfacts
    exact hs facts hfacts _ ((d.storage.store.from_answer q).mono hfacts)

/-- Running a plan of the rule stays traced. -/
theorem derive {s : Bulk Memory} (hexecutor : s.executor = Memory.executor limit) {level : Nat}
    {time : Timestamp} {watermark : Option Timestamp} {plan : Plan}
    (hplan : rule.compile level time watermark = .ok plan) (p : Provenance)
    (hd : d.Traced rule start) :
    ((s.derive (Memory.backend limit) plan p).run d).2.Traced rule start := by
  have hflush : Keeps (Desk.Traced rule start) (Staging.flush (Memory.backend limit).sink) :=
    fun d hd => (hd.of_keeps (closed limit rule start d.facts).flush).1
  have hstart : (onStorage (s.executor.start plan s.options)).run d =
      (.ok (.ok (plan.records s.options limit)), d) := by
    rw [hexecutor]
    rfl
  have hrecords : (MonadExcept.ofExcept (.ok (plan.records s.options limit) : Except Error _) :
      Staging Memory _).run d = (.ok (plan.records s.options limit), d) := rfl
  rw [Bulk.derive, run_bind_ok hstart, run_bind_ok hrecords, hexecutor]
  refine keeps_bind_of_result (P := Desk.Traced rule start) ?_ ?_ d hd
  · intro d hd
    exact hd.stageRecords (fun facts _ => Plan.records_from facts hplan s.options limit p) 0
  · intro _ _ _ _
    exact keeps_bind hflush fun _ => keeps_pure _

end Desk.Traced

/-! ## Executions -/

namespace Execution

variable {limit : Nat} {e : Execution Memory}

/-- The position of a fact that the execution added. -/
def Added (limit : Nat) (e : Execution Memory) (i : Nat) : Prop :=
  e.start.store.size ≤ i ∧ i < (e.stop (Memory.backend limit)).store.size

/-- Whoever evaluated a rule row by row once has done so ever since. -/
theorem usedFallback_start (h : (e.stop (Memory.backend limit)).usedFallback = false) :
    e.start.usedFallback = false := by
  rcases e.way (Memory.backend limit) with ⟨s, plan, result, desk, -, hs, -, -, -, hstop⟩ |
    ⟨r, result, desk, -, -, -, -, hstop⟩ | ⟨-, -, -, -, -, hstop⟩
  · rw [hstop] at h
    rw [Session.usedFallback, hs]
    exact h
  · rw [hstop, Session.usedFallback, Strategy.usedFallback_afterByRow] at h
    cases h
  · rw [hstop] at h
    exact h

/-- An execution that starts with nothing waiting and takes no fallback adds facts that its rule
accounts for. -/
theorem accounted_stop (hplans : e.start.strategy.RunsPlans (· = Memory.executor limit))
    (hidle : e.start.strategy.pending = [])
    (hfallback : (e.stop (Memory.backend limit)).usedFallback = false) :
    e.start.store.facts.toList <+: (e.stop (Memory.backend limit)).store.facts.toList ∧
      ∀ i f, (e.stop (Memory.backend limit)).store.facts.toList[i]? = some f →
        e.start.store.size ≤ i →
        e.rule.Accounts ((e.stop (Memory.backend limit)).store.facts.toList.take i) f := by
  have hnone {i : Nat} {f : Fact} (hf : e.start.store.facts.toList[i]? = some f) :
      ¬ e.start.store.facts.toList.length ≤ i := by
    intro hle
    rw [List.getElem?_eq_none hle] at hf
    cases hf
  rcases e.way (Memory.backend limit) with
    ⟨s, plan, result, desk, -, hs, hcompile, hrun, -, hstop⟩ |
    ⟨r, result, desk, -, -, -, -, hstop⟩ | ⟨-, -, -, -, -, hstop⟩
  · rw [hs] at hplans hidle
    have hpending : s.writer.pending = [] := (List.append_eq_nil_iff.mp hidle).1
    have hstart : (e.desk s.writer).Traced e.rule e.start.store.facts.toList := by
      refine ⟨List.prefix_refl _, fun i f hf hi => absurd hi (hnone hf), ?_⟩
      rw [writer_desk, hpending]
      exact List.forall_mem_nil _
    have hend := hstart.derive hplans hcompile e.provenance
    rw [hrun] at hend
    rw [hstop]
    exact ⟨hend.grown, hend.accounted⟩
  · rw [hstop, Session.usedFallback, Strategy.usedFallback_afterByRow] at hfallback
    cases hfallback
  · rw [hstop]
    exact ⟨List.prefix_refl _, fun i f hf hi => absurd hi (hnone hf)⟩

end Execution

/-! ## Every history -/

/-- A fact has a finite derivation: it is given, or rules make it of facts of lower levels that have
one. -/
inductive Derivable (rules : List Rule) (Given : Fact → Prop) : Fact → Prop
  | given (f : Fact) (h : Given f) : Derivable rules Given f
  | made (f : Fact) (rule : Rule) (hrule : rule ∈ rules) (facts : List Fact) (d : Derivation)
      (haccounts : rule.AccountsBy facts d f) (hlower : ∀ g ∈ d.sources, g.level < f.level)
      (hsources : ∀ g ∈ d.sources, Derivable rules Given g) : Derivable rules Given f

/-- A fact is among those that a rule makes another one of. -/
def Supports (rules : List Rule) (facts : List Fact) (g f : Fact) : Prop :=
  ∃ rule ∈ rules, ∃ d, rule.AccountsBy facts d f ∧ g ∈ d.sources

/-- Support goes from lower levels to higher ones. -/
theorem level_lt_of_supports {rules : List Rule} {facts : List Fact} {g f : Fact}
    (h : TransGen (Supports rules facts) g f) : g.level < f.level := by
  have hstep {g f : Fact} (h : Supports rules facts g f) : g.level < f.level := by
    obtain ⟨rule, -, d, haccounts, hg⟩ := h
    exact haccounts.level_lt hg
  induction h with
  | single h => exact hstep h
  | tail _ h ih => exact Nat.lt_trans ih (hstep h)

namespace Session

variable {limit : Nat} {log : List (Execution Memory)} {s s' : Session Memory}

/-- The fact at a position was there at the start, or came from outside. -/
def Given (limit : Nat) (log : List (Execution Memory)) (s : Session Memory) (f : Fact) : Prop :=
  ∃ i, s.store.facts.toList[i]? = some f ∧ ∀ e ∈ log, ¬ e.Added limit i

/-- Levels rank derivations: every fact that an execution added is accounted for by its rule and
the facts stored before it; every fact has a finite derivation from what was given, along which
levels fall; and no fact supports itself, however far back. -/
structure Ranked (limit : Nat) (log : List (Execution Memory)) (s : Session Memory) : Prop where
  accounted : ∀ e ∈ log, ∀ i f, s.store.facts.toList[i]? = some f → e.Added limit i →
    e.rule.Accounts (s.store.facts.toList.take i) f
  derivable : ∀ f ∈ s.store.facts.toList, Derivable (log.map (·.rule)) (s.Given limit log) f
  acyclic : ∀ f, ¬ TransGen (Supports (log.map (·.rule)) s.store.facts.toList) f f

/-- Nothing waits, and what the executions so far have added is accounted for. -/
structure Explained (limit : Nat) (log : List (Execution Memory)) (s : Session Memory) : Prop where
  plans : s.strategy.RunsPlans (· = Memory.executor limit)
  idle : s.strategy.pending = []
  size_le : ∀ e ∈ log, (e.stop (Memory.backend limit)).store.size ≤ s.store.size
  accounted : ∀ e ∈ log, ∀ i f, s.store.facts.toList[i]? = some f → e.Added limit i →
    e.rule.Accounts (s.store.facts.toList.take i) f

/-- The level that a pass asks for has no part in whether rules are evaluated row by row. -/
theorem usedFallback_startPass (s : Session Memory) (number : Nat) :
    (s.startPass number).usedFallback = s.usedFallback := by
  obtain ⟨strategy, work, lastTick, visibility, maxPasses⟩ := s
  rcases strategy with bulk | rowwise <;> rfl

/-- What comes behind makes no difference to what was accounted for. -/
theorem Explained.grow (h : Explained limit log s)
    (hgrown : s.store.facts.toList <+: s'.store.facts.toList)
    (hplans : s'.strategy.RunsPlans (· = Memory.executor limit))
    (hidle : s'.strategy.pending = []) : Explained limit log s' := by
  have hsize : s.store.size ≤ s'.store.size := hgrown.length_le
  refine ⟨hplans, hidle, fun e he => Nat.le_trans (h.size_le e he) hsize, ?_⟩
  intro e he i f hf hadded
  have hi : i < s.store.facts.toList.length := Nat.lt_of_lt_of_le hadded.2 (h.size_le e he)
  obtain ⟨hsame, hbefore⟩ := getElem?_and_take_of_prefix hgrown hi
  rw [hsame] at hf
  rw [hbefore]
  exact h.accounted e he i f hf hadded

/-- One more execution that succeeds and takes no fallback. -/
theorem Explained.execute {e : Execution Memory} (h : Explained limit log e.start)
    (hsucceeds : e.Succeeds (Memory.backend limit))
    (hfallback : (e.stop (Memory.backend limit)).usedFallback = false) :
    Explained limit (log ++ [e]) (e.stop (Memory.backend limit)) := by
  obtain ⟨hgrown, haccounted⟩ := Execution.accounted_stop h.plans h.idle hfallback
  have hidle : (e.stop (Memory.backend limit)).strategy.pending = [] := by
    apply List.eq_nil_iff_forall_not_mem.mpr
    intro g hg
    have hbefore := Execution.pending_of_succeeds hsucceeds g hg
    rw [h.idle] at hbefore
    cases hbefore
  have hold := h.grow hgrown (Execution.runsPlans_stop h.plans) hidle
  refine ⟨hold.plans, hidle, ?_, ?_⟩
  · intro e' he'
    rcases List.mem_append.mp he' with he' | he'
    · exact hold.size_le e' he'
    · obtain rfl := List.mem_singleton.mp he'
      exact Nat.le_refl _
  · intro e' he' i f hf hadded
    rcases List.mem_append.mp he' with he' | he'
    · exact hold.accounted e' he' i f hf hadded
    · obtain rfl := List.mem_singleton.mp he'
      exact haccounted i f hf hadded.1

/-- As long as all executions succeed and none takes the fallback, everything stays explained. -/
theorem isInvariant_explained (limit : Nat) :
    IsInvariant Memory.view (Memory.backend limit) (fun _ => True) fun log _ s =>
      (∀ e ∈ log, e.Succeeds (Memory.backend limit)) → s.usedFallback = false →
        Explained limit log s where
  execute log times e h hsucceed hfallback := by
    have hbefore := h (fun e' he' => hsucceed e' (List.mem_append_left _ he'))
      (Execution.usedFallback_start hfallback)
    exact hbefore.execute (hsucceed e (by simp)) hfallback
  tick log times s h hsucceed hfallback := by
    have hs := h hsucceed hfallback
    exact hs.grow (List.prefix_refl _) hs.plans hs.idle
  startPass log times number s h hsucceed hfallback := by
    rw [s.usedFallback_startPass] at hfallback
    have hs := h hsucceed hfallback
    exact hs.grow (List.prefix_refl _) (hs.plans.requireLevel number)
      ((s.strategy.pending_requireLevel number).trans hs.idle)
  note log times n s h hsucceed hfallback := by
    have hs := h hsucceed hfallback
    exact hs.grow (List.prefix_refl _) hs.plans hs.idle
  insert log times time facts s _ h hsucceed hfallback := by
    have hs := h hsucceed hfallback
    refine hs.grow ?_ hs.plans hs.idle
    obtain ⟨added, hadded, -⟩ := s.store.facts_insertAll time facts
    show s.store.facts.toList <+: (s.store.insertAll time facts).1.facts.toList
    rw [hadded]
    exact List.prefix_append _ _

/-- What is explained is ranked. -/
theorem Explained.ranked (h : Explained limit log s) : Ranked limit log s := by
  refine ⟨h.accounted, ?_, fun f hf => Nat.lt_irrefl _ (level_lt_of_supports hf)⟩
  -- the facts behind a fact come before it
  have hposition (i : Nat) : ∀ f, s.store.facts.toList[i]? = some f →
      Derivable (log.map (·.rule)) (s.Given limit log) f := by
    induction i using Nat.strong_induction_on with
    | _ i ih =>
      intro f hf
      by_cases hgiven : ∀ e ∈ log, ¬ e.Added limit i
      · exact .given f ⟨i, hf, hgiven⟩
      · push Not at hgiven
        obtain ⟨e, he, hadded⟩ := hgiven
        obtain ⟨d, haccounts⟩ := h.accounted e he i f hf hadded
        refine .made f e.rule (List.mem_map_of_mem he) _ d haccounts
          (fun g hg => haccounts.level_lt hg) ?_
        intro g hg
        obtain ⟨j, hj⟩ := List.mem_iff_getElem?.mp (haccounts.mem hg)
        rw [List.getElem?_take] at hj
        split at hj
        · next hlt => exact ih j hlt g hj
        · cases hj
  intro f hf
  obtain ⟨i, hi⟩ := List.mem_iff_getElem?.mp hf
  exact hposition i f hi

/-- **Derivation levels rank derivations.**  Over a store in memory, from nothing waiting on, facts
are inserted, rules are run and executed on their own.  If all executions succeed and no rule was
ever evaluated row by row, levels rank derivations in the session that comes out, whenever staged
facts are written. -/
theorem ranked_of_succeeds {s₀ : Session Memory} {calls : List Call}
    (hplans : s₀.strategy.RunsPlans (· = Memory.executor limit))
    (hidle : s₀.strategy.pending = [])
    (hsucceed : ∀ e ∈ s₀.executions Memory.view (Memory.backend limit) calls,
      e.Succeeds (Memory.backend limit))
    (hs : s = s₀.performAll Memory.view (Memory.backend limit) calls)
    (hfallback : s.usedFallback = false) :
    Ranked limit (s₀.executions Memory.view (Memory.backend limit) calls) s := by
  have hstart : Explained limit [] s₀ :=
    ⟨hplans, hidle, List.forall_mem_nil _, List.forall_mem_nil _⟩
  have hend := @IsInvariant.performAll Memory Memory.view (Memory.backend limit) (fun _ => True) _
    [] [] s₀ (isInvariant_explained limit) calls (fun _ _ => trivial) fun _ _ => hstart
  rw [List.nil_append, ← hs] at hend
  exact (hend hsucceed hfallback).ranked

end Session

namespace Family

open Session

/-- A family of which every fact is written as soon as it is staged. -/
def line : Session Memory :=
  .ofSettings (Memory.backend 1000) { writer := { batchSize := 1 } } (memory [])

/-- A fourth generation is born after a first run. -/
def discovery : List Call :=
  [.insert (second 0) [⟨said "p0" "parent" "p1", {}⟩, ⟨said "p1" "parent" "p2", {}⟩],
    .execute parents ⟨1, second 1, ""⟩, .run [parents, ancestors] 9,
    .insert (second 9) [⟨said "p2" "parent" "p3", {}⟩], .run [parents, ancestors] 9]

set_option maxRecDepth 100000 in
/-- The last execution that adds anything makes its second fact, of level 3, from its first. -/
theorem ranked_discovery :
    let s := line.performAll Memory.view (Memory.backend 1000) discovery
    s.store.facts.toList.map (·.level) = [0, 0, 1, 1, 2, 0, 1, 2, 3] ∧
      Ranked 1000 (line.executions Memory.view (Memory.backend 1000) discovery) s := by
  intro s
  have hlevels : s.store.facts.toList.map (·.level) = [0, 0, 1, 1, 2, 0, 1, 2, 3] := by
    decide +kernel
  exact ⟨hlevels, ranked_of_succeeds rfl rfl (by decide +kernel) rfl (by decide +kernel)⟩

end Family

end RdfReasoner
