import RdfReasoner.Plan.Run
import RdfReasoner.Proofs.Evaluation

/-!
# Rows of a body

`Query.rows` says which rows a body makes of a list of facts, by recursion on the body.  Both ways
of executing a rule come down to it where the body can be compiled: a plan makes the rows that its
guards admit (`Plan.items_rows`), and evaluation finds the bindings of all rows in the same order
(`Evaluator.answers_eq_rows`).

When facts are added, every row is a row of the facts before or stands above one of the facts added
(`Query.mem_rows_append`).  This is what lets the guards of a plan skip rows.
-/

namespace RdfReasoner

/-! ## Rows -/

/-- The rows that a row becomes by joining it with the facts that match a pattern. -/
def Pattern.rows (p : Pattern) (facts : List Fact) (r : Row) : List Row :=
  ((p.lookup? r.binding).map fun l =>
    (facts.filter (l.accepts ·.statement)).filterMap fun f =>
      (p.bind? r.binding f.statement).map fun b => r.joined b f).getD []

/-- The rows that a row becomes by joining it with the facts as a body says; slices have none. -/
def Query.rows (facts : List Fact) : Query → Row → List Row
  | .pattern p, r => p.rows facts r
  | .join left right, r => (left.rows facts r).flatMap (right.rows facts)
  | .filter f child, r => (child.rows facts r).filter fun row => f.accepts row.binding
  | .slice .., _ => []

theorem Pattern.mem_rows {p : Pattern} {facts : List Fact} {r row : Row} :
    row ∈ p.rows facts r ↔ ∃ l, p.lookup? r.binding = some l ∧ ∃ f ∈ facts,
      l.accepts f.statement = true ∧ ∃ b, p.bind? r.binding f.statement = some b ∧
        row = r.joined b f := by
  unfold rows
  cases p.lookup? r.binding with
  | none => simp
  | some l =>
    simp only [Option.map_some, Option.getD_some, List.mem_filterMap, List.mem_filter,
      Option.map_eq_some_iff, Option.some.injEq, exists_eq_left', and_assoc]
    simp only [eq_comm]

/-- A row stands above the row that it came from. -/
theorem Query.le_of_mem_rows {facts : List Fact} {q : Query} {r row : Row}
    (h : row ∈ q.rows facts r) : r.level ≤ row.level ∧ r.timestamp ≤ row.timestamp := by
  induction q generalizing r row with
  | pattern p =>
    obtain ⟨_, _, f, _, _, b, _, rfl⟩ := Pattern.mem_rows.mp h
    exact ⟨Nat.le_max_left .., Timestamp.le_max_left ..⟩
  | join left right ihl ihr =>
    obtain ⟨mid, hmid, hrow⟩ := List.mem_flatMap.mp h
    obtain ⟨hlevel, htime⟩ := ihl hmid
    obtain ⟨hlevel', htime'⟩ := ihr hrow
    exact ⟨Nat.le_trans hlevel hlevel', Timestamp.le_trans htime htime'⟩
  | filter f child ih => exact ih (List.mem_filter.mp h).1
  | slice offset limit child => simp [rows] at h

/-- A row of old and new facts is a row of the old ones, or stands above a new one. -/
theorem Query.mem_rows_append {old new : List Fact} {q : Query} {r row : Row}
    (h : row ∈ q.rows (old ++ new) r) :
    row ∈ q.rows old r ∨ ∃ f ∈ new, f.level ≤ row.level ∧ f.timestamp ≤ row.timestamp := by
  induction q generalizing r row with
  | pattern p =>
    obtain ⟨l, hl, f, hf, hacc, b, hb, rfl⟩ := Pattern.mem_rows.mp h
    obtain hf | hf := List.mem_append.mp hf
    · exact .inl (Pattern.mem_rows.mpr ⟨l, hl, f, hf, hacc, b, hb, rfl⟩)
    · exact .inr ⟨f, hf, Nat.le_max_right .., Timestamp.le_max_right ..⟩
  | join left right ihl ihr =>
    obtain ⟨mid, hmid, hrow⟩ := List.mem_flatMap.mp h
    obtain hmid | ⟨f, hf, hlevel, htime⟩ := ihl hmid
    · obtain hrow | hnew := ihr hrow
      · exact .inl (List.mem_flatMap.mpr ⟨mid, hmid, hrow⟩)
      · exact .inr hnew
    · -- the new fact stays below all rows that its row becomes
      obtain ⟨hlevel', htime'⟩ := le_of_mem_rows hrow
      exact .inr ⟨f, hf, Nat.le_trans hlevel hlevel', Timestamp.le_trans htime htime'⟩
  | filter f child ih =>
    obtain ⟨hrow, haccepts⟩ := List.mem_filter.mp h
    exact (ih hrow).imp_left fun hold => List.mem_filter.mpr ⟨hold, haccepts⟩
  | slice offset limit child => simp [rows] at h

/-- No facts make no rows. -/
@[simp] theorem Query.rows_nil (q : Query) (r : Row) : q.rows [] r = [] := by
  induction q generalizing r with
  | pattern p => cases h : p.lookup? r.binding <;> simp [rows, Pattern.rows, h]
  | join left right ihl ihr => simp [rows, ihl]
  | filter f child ih => simp [rows, ih]
  | slice offset limit child => rfl

/-! ## Bodies that can be compiled -/

namespace Query

theorem flatten_pattern {p : Pattern} {steps : List Step}
    (h : (pattern p).flatten = .ok steps) : p.kind = .ordinary ∧ steps = [.join p] := by
  rw [flatten] at h
  split at h
  · next hp => exact ⟨hp, (Except.ok.inj h).symm⟩
  · cases h
  · cases h

theorem flatten_join {left right : Query} {steps : List Step}
    (h : (join left right).flatten = .ok steps) :
    ∃ first second, left.flatten = .ok first ∧ right.flatten = .ok second ∧
      steps = first ++ second := by
  rw [flatten] at h
  cases hl : left.flatten with
  | error e => rw [hl] at h; cases h
  | ok first =>
    cases hr : right.flatten with
    | error e => rw [hl, hr] at h; cases h
    | ok second =>
      rw [hl, hr] at h
      exact ⟨first, second, rfl, rfl, (Except.ok.inj h).symm⟩

theorem flatten_filter {f : Filter} {child : Query} {steps : List Step}
    (h : (filter f child).flatten = .ok steps) :
    ∃ below, child.flatten = .ok below ∧ steps = below ++ [.filter f] := by
  rw [flatten] at h
  split at h
  · cases h
  · cases hc : child.flatten with
    | error e => rw [hc] at h; cases h
    | ok below => rw [hc] at h; exact ⟨below, rfl, (Except.ok.inj h).symm⟩

end Query

/-- The plan of a rule, which exists exactly if the body can be flattened. -/
theorem Rule.compile_eq_ok {rule : Rule} {level : Nat} {time : Timestamp}
    {watermark : Option Timestamp} {plan : Plan}
    (h : rule.compile level time watermark = .ok plan) :
    ∃ steps, rule.body.flatten = .ok steps ∧
      plan = ⟨rule.id, seedFirst steps, rule.head, if level = 0 then none else some level,
        watermark, true, time⟩ := by
  rw [compile] at h
  cases hs : rule.body.flatten with
  | error e => rw [hs] at h; cases h
  | ok steps => rw [hs] at h; exact ⟨steps, rfl, (Except.ok.inj h).symm⟩

/-! ## Rows of a plan -/

namespace Plan

open Sequence

/-- Joining a row in the storage makes its rows. -/
theorem items_expand (s : Store) (p : Pattern) (r : Row) :
    (expand p r).items s.answer = (p.rows s.facts.toList r).map .ok := by
  rw [expand, Pattern.rows]
  cases p.lookup? r.binding with
  | none => rfl
  | some l =>
    simp only [items_ask, Store.answer, Option.map_some, Option.getD_some, items_flatMapOk,
      ← s.lookup_eq_filter, items_delivered s.answer_deliver, List.flatMap_map, onValue,
      items_ofList]
    rw [List.filterMap_eq_flatMap_toList, List.map_flatMap]

/-- The steps of a body make its rows out of every row. -/
theorem items_foldl_apply (s : Store) {q : Query} {steps : List Step} (h : q.flatten = .ok steps)
    {rows : Rows} {rs : List Row} (hrows : rows.items s.answer = rs.map .ok) :
    (steps.foldl apply rows).items s.answer =
      (rs.flatMap (q.rows s.facts.toList)).map .ok := by
  induction q generalizing steps rows rs with
  | pattern p =>
    obtain ⟨-, rfl⟩ := Query.flatten_pattern h
    rw [List.foldl_cons, List.foldl_nil, apply, items_flatMapOk, hrows, List.flatMap_map,
      List.map_flatMap]
    exact congrArg (List.flatMap · rs) (funext fun r => items_expand s p r)
  | join left right ihl ihr =>
    obtain ⟨first, second, hl, hr, rfl⟩ := Query.flatten_join h
    rw [List.foldl_append, ihr hr (ihl hl hrows), List.flatMap_assoc]
    rfl
  | filter f child ih =>
    obtain ⟨below, hbelow, rfl⟩ := Query.flatten_filter h
    rw [List.foldl_append, List.foldl_cons, List.foldl_nil, apply, items_filterOk,
      ih hbelow hrows, List.filter_map, List.filter_flatMap]
    rfl
  | slice offset limit child => cases h

theorem foldl_apply_seedFirst (steps : List Step) (rows : Rows) :
    (seedFirst steps).foldl apply rows = steps.foldl apply rows := by
  unfold seedFirst
  split <;> rfl

/-- A plan makes the rows of its body that its guards admit. -/
theorem items_rows (s : Store) {rule : Rule} {level : Nat} {time : Timestamp}
    {watermark : Option Timestamp} {plan : Plan}
    (h : rule.compile level time watermark = .ok plan) :
    plan.rows.items s.answer =
      ((rule.body.rows s.facts.toList {}).filter plan.admits).map .ok := by
  obtain ⟨steps, hsteps, rfl⟩ := Rule.compile_eq_ok h
  have hfirst : (single (.ok {}) : Rows).items s.answer = [({} : Row)].map .ok := rfl
  rw [rows, items_filterOk, foldl_apply_seedFirst, items_foldl_apply s hsteps hfirst,
    List.flatMap_singleton, List.filter_map]
  rfl

/-- What the templates make of the rows that the guards admit, row by row. -/
def documents (plan : Plan) (rule : Rule) (facts : List Fact) : List Document :=
  ((rule.body.rows facts {}).filter plan.admits).flatMap fun r =>
    (rule.instances r.binding).map fun st => ⟨st, r.level + 1, plan.timestamp⟩

/-- A plan puts out what the templates make of its rows. -/
theorem items_outputs (s : Store) {rule : Rule} {level : Nat} {time : Timestamp}
    {watermark : Option Timestamp} {plan : Plan}
    (h : rule.compile level time watermark = .ok plan) :
    plan.outputs.items s.answer = (plan.documents rule s.facts.toList).map .ok := by
  have htemplates : plan.templates = rule.head := by
    obtain ⟨steps, -, rfl⟩ := Rule.compile_eq_ok h
    rfl
  rw [outputs, items_flatMapOk, items_rows s h, List.flatMap_map, documents, List.map_flatMap]
  refine congrArg (List.flatMap · _) (funext fun r => ?_)
  simp only [onValue, items_ofList, htemplates, Rule.instances, List.map_map]
  rfl

end Plan

/-! ## Solutions of a body -/

namespace Evaluator

open Sequence

/-- A binding is extended as the rows that hold it are. -/
theorem matchOne_eq_rows (e : Evaluator) (s : Store) {p : Pattern} (hp : p.kind = .ordinary)
    (r : Row) :
    e.matchOne s p r.binding = (p.rows s.facts.toList r).map fun row => .ok row.binding := by
  rw [matchOne, hp, Pattern.rows]
  cases p.lookup? r.binding with
  | none => rfl
  | some l =>
    simp only [Option.map_some, Option.getD_some, extensions, Store.statements, List.filter_map,
      List.filterMap_map, List.map_filterMap]
    refine List.filterMap_congr fun f _ => ?_
    cases hb : p.bind? r.binding f.statement <;> simp [Row.joined, hb]

/-- A batched join finds what the pattern finds for every solution of its left side. -/
theorem items_batchedJoin (e : Evaluator) (s : Store) (p : Pattern) {left : Solutions}
    {bs : List Binding} (hleft : left.items s.answer = bs.map .ok) :
    (e.batchedJoin p left).items s.answer = bs.flatMap (e.matchOne s p) := by
  have hsize := e.options.joinBatchSize_pos
  rw [batchedJoin, items_flatMapOk, items_chunks_ok hsize [] bs hsize hleft, List.nil_append,
    List.flatMap_map]
  simp only [onValue, items_ofInquiry, items_matchPattern]
  conv_rhs => rw [← flatten_consecutive hsize bs, ← List.flatMap_id, List.flatMap_assoc]
  rfl

/-- The same for a batched join over rows. -/
theorem items_batchedJoin_rows (e : Evaluator) (s : Store) {p : Pattern} (hp : p.kind = .ordinary)
    {left : Solutions} {rs : List Row}
    (hleft : left.items s.answer = rs.map fun row => .ok row.binding) :
    (e.batchedJoin p left).items s.answer =
      (rs.flatMap (p.rows s.facts.toList)).map fun row => .ok row.binding := by
  have hbindings : left.items s.answer = (rs.map (·.binding)).map .ok := by
    rw [List.map_map]
    exact hleft
  rw [e.items_batchedJoin s p hbindings, List.flatMap_map, List.map_flatMap]
  exact congrArg (List.flatMap · rs) (funext fun r => e.matchOne_eq_rows s hp r)

theorem filter_rows (f : Filter) (rs : List Row) :
    (rs.map fun row => Except.ok (ε := Error) row.binding).filter (staysOk f.accepts) =
      (rs.filter fun row => f.accepts row.binding).map fun row => .ok row.binding := by
  rw [List.filter_map]
  rfl

/-- Every form of a batched join finds the bindings of the rows. -/
theorem items_batched? {e : Evaluator} {s : Store} {right : Query} {joined : Solutions → Solutions}
    (hjoined : e.batched? right = some joined) {steps : List Step} (h : right.flatten = .ok steps)
    {left : Solutions} {rs : List Row}
    (hleft : left.items s.answer = rs.map fun row => .ok row.binding) :
    (joined left).items s.answer =
      (rs.flatMap (right.rows s.facts.toList)).map fun row => .ok row.binding := by
  unfold batched? at hjoined
  split at hjoined
  · cases hjoined
    obtain ⟨hp, -⟩ := Query.flatten_pattern h
    exact e.items_batchedJoin_rows s hp hleft
  · cases hjoined
    obtain ⟨below, hbelow, -⟩ := Query.flatten_filter h
    obtain ⟨hp, -⟩ := Query.flatten_pattern hbelow
    simp only [filtered, items_filterOk]
    rw [e.items_batchedJoin_rows s hp hleft, filter_rows, List.filter_flatMap]
    rfl
  · cases hjoined
    obtain ⟨below, hbelow, -⟩ := Query.flatten_filter h
    obtain ⟨first, second, hfirst, hsecond, -⟩ := Query.flatten_join hbelow
    obtain ⟨hp, -⟩ := Query.flatten_pattern hfirst
    obtain ⟨hp', -⟩ := Query.flatten_pattern hsecond
    simp only [filtered, items_filterOk]
    rw [e.items_batchedJoin_rows s hp' (e.items_batchedJoin_rows s hp hleft), filter_rows,
      List.flatMap_assoc, List.filter_flatMap]
    rfl
  · cases hjoined

/-- What is found for a body that can be compiled are the bindings of its rows, in their order. -/
theorem found_eq_rows (e : Evaluator) (s : Store) {q : Query} {steps : List Step}
    (h : q.flatten = .ok steps) (r : Row) :
    e.found s q r.binding = (q.rows s.facts.toList r).map fun row => .ok row.binding := by
  induction q generalizing steps r with
  | pattern p =>
    rw [found_pattern, e.matchOne_eq_rows s (Query.flatten_pattern h).1]
    rfl
  | filter f child ih =>
    obtain ⟨below, hbelow, -⟩ := Query.flatten_filter h
    rw [found_filter, ih hbelow, filter_rows]
    rfl
  | join left right ihl ihr =>
    obtain ⟨first, second, hl, hr, -⟩ := Query.flatten_join h
    cases hb : if e.options.performant then e.batched? right else none with
    | none =>
      rw [found_join hb, ihl hl, List.flatMap_map, Query.rows, List.map_flatMap]
      exact congrArg (List.flatMap · _) (funext fun row => ihr hr row)
    | some joined =>
      rw [found_join_batched hb]
      have hb : e.batched? right = some joined := by
        split at hb
        · exact hb
        · cases hb
      exact items_batched? hb hr (ihl hl r)
  | slice offset limit child => cases h

/-- The answers for a body that can be compiled are the bindings of its rows, in their order. -/
theorem answers_eq_rows (e : Evaluator) (s : Store) {q : Query} {steps : List Step}
    (h : q.flatten = .ok steps) :
    e.answers s q = ((q.rows s.facts.toList {}).map (·.binding)).map .ok := by
  have hfound : e.found s q .empty =
      ((q.rows s.facts.toList {}).map (·.binding)).map .ok := by
    rw [List.map_map]
    exact e.found_eq_rows s h {}
  rw [answers_eq, hfound, upToError_map_ok]

end Evaluator

end RdfReasoner
