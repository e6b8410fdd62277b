import RdfReasoner.Proofs.Store

/-!
# Stores after any insertions

Facts enter a store one at a time or many at once, well formed or not, and as often as anyone likes.
Whatever entered, the store holds of every statement the fact that came first, in the order in which
they came (`Store.facts_after`).  Its four indexes are another way to go through that list: a lookup
finds what a scan of it finds, and so does the test whether a statement is kept
(`Store.index_eq_scan`).
-/

namespace RdfReasoner

/-! ## The first of every statement -/

/-- The facts of a list, without those that say the same as one before them. -/
def firstOf : List Fact → List Fact
  | [] => []
  | f :: fs => f :: (firstOf fs).filter (·.statement ≠ f.statement)

/-- Every statement of the list is left. -/
theorem mem_statements_firstOf {fs : List Fact} {t : Statement} :
    t ∈ (firstOf fs).map (·.statement) ↔ t ∈ fs.map (·.statement) := by
  induction fs with
  | nil => rfl
  | cons f fs ih =>
    rw [firstOf, List.map_cons, List.map_cons, List.mem_cons, List.mem_cons, ← ih]
    by_cases ht : t = f.statement
    · simp [ht]
    · simp only [ht, false_or, List.mem_map, List.mem_filter, decide_eq_true_eq]
      refine exists_congr fun g => ⟨fun ⟨⟨hg, _⟩, hgt⟩ => ⟨hg, hgt⟩, fun ⟨hg, hgt⟩ => ?_⟩
      exact ⟨⟨hg, hgt ▸ ht⟩, hgt⟩

/-- Of a second list what is left says nothing that the first one says. -/
theorem firstOf_append (fs gs : List Fact) :
    firstOf (fs ++ gs) =
      firstOf fs ++ (firstOf gs).filter (·.statement ∉ fs.map (·.statement)) := by
  induction fs with
  | nil => simp [firstOf]
  | cons f fs ih =>
    rw [List.cons_append, firstOf, firstOf, ih, List.filter_append, List.filter_filter,
      List.cons_append]
    congr 2
    refine List.filter_congr fun g _ => ?_
    simp [not_or]

/-- One more fact is left unless its statement came before. -/
theorem firstOf_concat (fs : List Fact) (f : Fact) :
    firstOf (fs ++ [f]) =
      firstOf fs ++ if f.statement ∈ fs.map (·.statement) then [] else [f] := by
  rw [firstOf_append]
  congr 1
  by_cases hold : f.statement ∈ fs.map (·.statement)
  · rw [if_pos hold]
    simpa [firstOf] using hold
  · rw [if_neg hold]
    simpa [firstOf] using hold

/-- Where no statement comes twice all facts are left. -/
theorem firstOf_of_nodup {fs : List Fact} (h : (fs.map (·.statement)).Nodup) :
    firstOf fs = fs := by
  induction fs with
  | nil => rfl
  | cons f fs ih =>
    obtain ⟨hf, hfs⟩ := List.nodup_cons.mp h
    rw [firstOf, ih hfs, List.filter_eq_self.mpr]
    intro g hg
    rw [decide_eq_true_eq]
    intro heq
    exact hf (List.mem_map.mpr ⟨g, hg, heq⟩)

/-- Stamps make no difference to what comes first. -/
theorem firstOf_map_stamped (now : Timestamp) (fs : List Fact) :
    firstOf (fs.map (·.stamped now)) = (firstOf fs).map (·.stamped now) := by
  induction fs with
  | nil => rfl
  | cons f fs ih =>
    rw [List.map_cons, firstOf, firstOf, ih, List.map_cons, List.filter_map]
    congr 2
    refine List.filter_congr fun g _ => ?_
    simp

/-- What is left of a statement is the first fact that says it. -/
theorem find?_firstOf (fs : List Fact) (st : Statement) :
    (firstOf fs).find? (·.statement = st) = fs.find? (·.statement = st) := by
  induction fs with
  | nil => rfl
  | cons f fs ih =>
    rw [firstOf, List.find?_cons, List.find?_cons]
    by_cases hf : f.statement = st
    · simp [hf]
    · rw [← ih, List.find?_filter]
      simp only [hf, decide_false]
      congr 1
      funext g
      by_cases hg : g.statement = st
      · simp [hg, Ne.symm hf]
      · simp [hg]

/-! ## What a store holds in the end -/

/-- One call that lets facts enter a store. -/
inductive Insertion
  | one (now : Timestamp) (f : Fact)
  | many (now : Timestamp) (fs : List Fact)

namespace Insertion

/-- The facts that a call offers, with the time that they take where they have none. -/
def facts : Insertion → List Fact
  | one now f => [f.stamped now]
  | many now fs => fs.map (·.stamped now)

/-- The store after a call. -/
def into (s : Store) : Insertion → Store
  | one now f => (s.insert now f).1
  | many now fs => (s.insertAll now fs).1

end Insertion

namespace Store

variable {s : Store} {offered : List Fact}

/-- The store after some calls. -/
def after (insertions : List Insertion) : Store := insertions.foldl Insertion.into .empty

/-- A store that kept the first of every statement keeps it up. -/
theorem facts_keep (h : s.facts.toList = firstOf offered) (f : Fact) :
    (s.keep f).1.facts.toList = firstOf (offered ++ [f]) := by
  have hmem : f.statement ∈ s.statements ↔ f.statement ∈ offered.map (·.statement) := by
    rw [statements, h, mem_statements_firstOf]
  rw [(s.keep_eq f).1, firstOf_concat, ← h]
  by_cases hold : f.statement ∈ s.statements
  · rw [if_pos hold, if_pos (hmem.mp hold), List.append_nil]
  · rw [if_neg hold, if_neg (mt hmem.mpr hold), Array.toList_push]

theorem facts_keepAll (h : s.facts.toList = firstOf offered) (now : Timestamp) (fs : List Fact) :
    (s.insertAll now fs).1.facts.toList = firstOf (offered ++ fs.map (·.stamped now)) := by
  induction fs generalizing s offered with
  | nil =>
    rw [List.map_nil, List.append_nil, ← h]
    rfl
  | cons f fs ih =>
    rw [insertAll_cons, List.map_cons, List.append_cons]
    exact ih (facts_keep h (f.stamped now))

/-- So does a call, whichever it is. -/
theorem facts_into (h : s.facts.toList = firstOf offered) (i : Insertion) :
    (i.into s).facts.toList = firstOf (offered ++ i.facts) := by
  rcases i with ⟨now, f⟩ | ⟨now, fs⟩
  · exact facts_keep h (f.stamped now)
  · exact facts_keepAll h now fs

/-- After some calls a store holds the first fact of every statement that was offered, in the order
in which they were offered. -/
theorem facts_after (insertions : List Insertion) :
    (after insertions).facts.toList = firstOf (insertions.flatMap Insertion.facts) := by
  induction insertions using List.reverseRecOn with
  | nil => rfl
  | append_singleton insertions i ih =>
    rw [after, List.foldl_concat, List.flatMap_append, List.flatMap_singleton]
    exact facts_into ih i

/-! ## Indexes and scans -/

/-- Whatever entered a store, its indexes find what a scan of its facts finds.  The facts are those
that came first of their statement, in the order in which they came; a lookup yields those of them
that it accepts, in this order and each of them once, and so does the cursor that reads it; and a
statement holds exactly if a fact has its subject, predicate and object, and its context if it has
one. -/
theorem index_eq_scan (insertions : List Insertion) :
    (after insertions).facts.toList = firstOf (insertions.flatMap Insertion.facts) ∧
    (∀ l : Lookup,
      (after insertions).lookup l =
        (after insertions).facts.toList.filter (fun f => l.accepts f.statement) ∧
      (((after insertions).lookup l).map (·.statement)).Nodup ∧
      (Cursor.ofLookup (after insertions) l).readAll (after insertions) =
        ((after insertions).lookup l).map (·, 0)) ∧
    ∀ st : Statement, (after insertions).holds st = true ↔
      ∃ f ∈ (after insertions).facts.toList, f.statement.subject = st.subject ∧
        f.statement.predicate = st.predicate ∧ f.statement.object = st.object ∧
        ∀ c, st.context = some c → f.statement.context = some c := by
  refine ⟨facts_after insertions, fun l => ⟨lookup_eq_filter _ l, ?_, ?_⟩, fun st => ?_⟩
  · rw [map_statement_lookup]
    exact (after insertions).distinct.filter _
  · rw [Cursor.readAll, Cursor.ofLookup, lookup, List.filterMap_map, List.map_filterMap]
    rfl
  · rw [holds_eq_any, List.any_eq_true, statements]
    simp only [List.mem_map, exists_exists_and_eq_and, Statement.covers_iff]

end Store

end RdfReasoner
