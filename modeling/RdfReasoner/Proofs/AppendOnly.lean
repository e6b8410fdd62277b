import RdfReasoner.Proofs.Insertion

/-!
# Stores only grow

Facts enter a store by three calls: one fact is inserted, a statement is asserted, or several facts
are inserted at once.  Each of them is an insertion of what it offers (`Entry.run_eq_insertAll`), so
what a call does is said once (`Store.facts_insertAll_eq`): the facts that were there stay in their
places, and behind them come the first of every new statement in the order of the call, as many as
the call says.

Along a history of calls this makes the store a prefix of every later one, and what is kept of a
statement is the fact that was offered first, with the provenance that it was offered with
(`Entry.append_only`).
-/

namespace RdfReasoner

/-- A stamp leaves a fact as it is, but for the least timestamp. -/
theorem Fact.stamped_eq (now : Timestamp) (f : Fact) :
    f.stamped now = ⟨f.statement, ⟨f.level, if f.timestamp = .min then now else f.timestamp,
      f.provenance.visibility⟩⟩ := by
  unfold stamped
  split <;> rfl

namespace Store

/-- The facts of a list that a store keeps: the first of every statement that it does not have. -/
def newAmong (s : Store) (fs : List Fact) : List Fact :=
  (firstOf fs).filter (·.statement ∉ s.statements)

/-- What an insertion adds and what it counts. -/
theorem facts_insertAll_eq (s : Store) (now : Timestamp) (fs : List Fact) :
    (s.insertAll now fs).1.facts.toList =
        s.facts.toList ++ (s.newAmong fs).map (·.stamped now) ∧
      (s.insertAll now fs).2 = (s.newAmong fs).length := by
  have hkept : s.facts.toList = firstOf s.facts.toList := (firstOf_of_nodup s.distinct).symm
  have hfacts : (s.insertAll now fs).1.facts.toList =
      s.facts.toList ++ (s.newAmong fs).map (·.stamped now) := by
    rw [facts_keepAll hkept, firstOf_append, ← hkept, firstOf_map_stamped, List.filter_map,
      newAmong]
    simp only [Function.comp_def, Fact.statement_stamped, statements]
    rfl
  refine ⟨hfacts, ?_⟩
  -- the count is what the list of facts grows by
  have hsize := s.size_insertAll now fs
  have hlength := congrArg List.length hfacts
  simp only [List.length_append, List.length_map, Array.length_toList] at hlength
  simp only [size] at hsize
  omega

end Store

/-! ## Calls -/

/-- A call that lets facts enter a store. -/
inductive Entry
  | insert (f : Fact)
  | assert (st : Statement)
  | insertAll (fs : List Fact)

namespace Entry

/-- The facts that a call at some time offers; what is asserted is offered as of that time. -/
def offered (now : Timestamp) : Entry → List Fact
  | insert f => [f]
  | assert st => [⟨st, { timestamp := now }⟩]
  | insertAll fs => fs

/-- The store after a call, and the number of facts that the call says are new.  A single one is
said to be new or not. -/
def run (s : Store) (now : Timestamp) : Entry → Store × Nat
  | insert f => ((s.insert now f).1, (s.insert now f).2.toNat)
  | assert st => ((s.assert now st).1, (s.assert now st).2.toNat)
  | insertAll fs => s.insertAll now fs

/-- Every call inserts what it offers. -/
theorem run_eq_insertAll (s : Store) (now : Timestamp) (c : Entry) :
    c.run s now = s.insertAll now (c.offered now) := by
  have hone (f : Fact) : ((s.insert now f).1, (s.insert now f).2.toNat) = s.insertAll now [f] := by
    rw [Store.insertAll_cons]
    cases (s.insert now f).2 <;> rfl
  cases c with
  | insert f => exact hone f
  | assert st => exact hone ⟨st, { timestamp := now }⟩
  | insertAll fs => rfl

/-- The store after some calls, each at its time. -/
def history (calls : List (Timestamp × Entry)) : Store :=
  calls.foldl (fun s c => (c.2.run s c.1).1) .empty

/-- What some calls offer, with the times at which they do. -/
def offers (calls : List (Timestamp × Entry)) : List (Timestamp × Fact) :=
  calls.flatMap fun c => (c.2.offered c.1).map (c.1, ·)

theorem history_concat (calls : List (Timestamp × Entry)) (now : Timestamp) (c : Entry) :
    history (calls ++ [(now, c)]) = (c.run (history calls) now).1 := by
  rw [history, List.foldl_concat]
  rfl

/-- A store holds the first of everything that was offered. -/
theorem facts_history (calls : List (Timestamp × Entry)) :
    (history calls).facts.toList = firstOf ((offers calls).map fun o => o.2.stamped o.1) := by
  induction calls using List.reverseRecOn with
  | nil => rfl
  | append_singleton calls c ih =>
    have hoffers : offers (calls ++ [c]) = offers calls ++ (c.2.offered c.1).map (c.1, ·) := by
      rw [offers, List.flatMap_append, List.flatMap_singleton]
      rfl
    rw [history_concat, run_eq_insertAll, Store.facts_keepAll ih, hoffers, List.map_append,
      List.map_map]
    rfl

/-- Whatever a store holds stays where it is in every later one. -/
theorem facts_prefix (calls more : List (Timestamp × Entry)) :
    (history calls).facts.toList <+: (history (calls ++ more)).facts.toList := by
  induction more using List.reverseRecOn with
  | nil => simp only [List.append_nil, List.prefix_refl]
  | append_singleton more c ih =>
    rw [← List.append_assoc, history_concat, run_eq_insertAll,
      (Store.facts_insertAll_eq _ _ _).1]
    exact ih.trans (List.prefix_append _ _)

/-- What is kept of a statement is what was offered first, which takes the time of the call if it
has none of its own. -/
theorem get?_history {calls : List (Timestamp × Entry)} {st : Statement} {g : Fact} :
    (history calls).get? st = some g ↔
      ∃ before now f after, offers calls = before ++ (now, f) :: after ∧ f.statement = st ∧
        (∀ o ∈ before, o.2.statement ≠ st) ∧ g = f.stamped now := by
  rw [Store.get?_eq_find?, facts_history, find?_firstOf, List.find?_map, Option.map_eq_some_iff]
  simp only [List.find?_eq_some_iff_append, Function.comp_apply, Fact.statement_stamped,
    decide_eq_true_eq, Bool.not_eq_eq_eq_not, Bool.not_true, decide_eq_false_iff_not]
  constructor
  · rintro ⟨⟨now, f⟩, ⟨hst, before, after, hoffers, hbefore⟩, rfl⟩
    exact ⟨before, now, f, after, hoffers, hst, hbefore, rfl⟩
  · rintro ⟨before, now, f, after, hoffers, hst, hbefore, rfl⟩
    exact ⟨(now, f), ⟨hst, before, after, hoffers, hbefore⟩, rfl⟩

/-- **A store is append-only and keeps no statement twice.**  After any calls it holds of every
statement the fact that was offered first, with its level and its access label, and with its time
unless that is the least one: then it has the time of the call.  The next call leaves all facts in
their places.  Behind them it adds of the new statements the facts that it offers first, in the
order in which it offers them, and it returns their number; nothing that follows moves or changes
any fact. -/
theorem append_only (calls : List (Timestamp × Entry)) :
    let s := history calls
    s.statements.Nodup ∧
      (∀ st g, s.get? st = some g ↔ ∃ before now f after,
        offers calls = before ++ (now, f) :: after ∧ f.statement = st ∧
          (∀ o ∈ before, o.2.statement ≠ st) ∧
          g = ⟨st, ⟨f.level, if f.timestamp = .min then now else f.timestamp,
            f.provenance.visibility⟩⟩) ∧
      (∀ now c, history (calls ++ [(now, c)]) = (c.run s now).1 ∧
        (c.run s now).1.facts.toList = s.facts.toList ++
          ((firstOf (c.offered now)).filter (·.statement ∉ s.statements)).map (·.stamped now) ∧
        (c.run s now).1.size = s.size + (c.run s now).2) ∧
      ∀ more, s.facts.toList <+: (history (calls ++ more)).facts.toList := by
  intro s
  refine ⟨s.distinct, fun st g => ?_, fun now c => ⟨history_concat calls now c, ?_, ?_⟩,
    facts_prefix calls⟩
  · rw [get?_history]
    constructor
    · rintro ⟨before, now, f, after, hoffers, rfl, hbefore, rfl⟩
      exact ⟨before, now, f, after, hoffers, rfl, hbefore, Fact.stamped_eq now f⟩
    · rintro ⟨before, now, f, after, hoffers, rfl, hbefore, rfl⟩
      exact ⟨before, now, f, after, hoffers, rfl, hbefore, (Fact.stamped_eq now f).symm⟩
  · rw [run_eq_insertAll]
    exact (s.facts_insertAll_eq now (c.offered now)).1
  · rw [run_eq_insertAll]
    exact s.size_insertAll now (c.offered now)

end Entry

end RdfReasoner
