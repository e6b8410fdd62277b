import RdfReasoner.Proofs.Batching
import RdfReasoner.Proofs.Reachability

/-!
# What queries mean

`Query.Solves` says which bindings a query makes of a binding over a set of statements: no lists, no
chunks, no searches, and nothing that could fail.  A transitive pattern ranges over the statements
that paths make.  A slice picks solutions by their number, which a set of statements knows nothing
of, so it has no meaning here; all it picks are solutions of the query without it
(`Query.unsliced`).

Evaluation is sound for this meaning whatever its options are (`Evaluator.solves_of_mem_passedOn`),
and complete unless it ends with an error (`Evaluator.mem_answers_of_solves`).  More statements have
more solutions (`Query.Solves.mono`).
-/

namespace RdfReasoner

open Relation

/-! ## Solutions over a set of statements -/

/-- The statements that a pattern ranges over under a lookup. -/
def Pattern.Offers (S : Set Statement) (p : Pattern) (l : Lookup) (st : Statement) : Prop :=
  match p.kind with
  | .ordinary => st ∈ S
  | .fixed candidates => st ∈ candidates
  | .transitive =>
    st.context = l.context ∧ TransGen (Leads S st.predicate l.context) st.subject st.object

/-- The bindings that a query makes of a binding. -/
def Query.Solves (S : Set Statement) : Query → Binding → Binding → Prop
  | .pattern p, b, b' =>
    ∃ l st, p.lookup? b = some l ∧ p.Offers S l st ∧ l.accepts st = true ∧ p.bind? b st = some b'
  | .join left right, b, b' => ∃ mid, left.Solves S b mid ∧ right.Solves S mid b'
  | .filter f child, b, b' => child.Solves S b b' ∧ f.accepts b' = true
  | .slice .., _, _ => False

/-- Whether a query cuts solutions off somewhere. -/
def Query.hasSlice : Query → Bool
  | .pattern _ => false
  | .join left right => left.hasSlice || right.hasSlice
  | .filter _ child => child.hasSlice
  | .slice .. => true

/-- The query without its slices, which has the solutions that they cut off, too. -/
def Query.unsliced : Query → Query
  | .pattern p => .pattern p
  | .join left right => .join left.unsliced right.unsliced
  | .filter f child => .filter f child.unsliced
  | .slice _ _ child => child.unsliced

theorem Query.unsliced_eq {q : Query} (h : q.hasSlice = false) : q.unsliced = q := by
  induction q with
  | pattern p => rfl
  | join left right ihl ihr =>
    rw [hasSlice, Bool.or_eq_false_iff] at h
    rw [unsliced, ihl h.1, ihr h.2]
  | filter f child ih => rw [unsliced, ih h]
  | slice offset limit child => cases h

theorem Pattern.Offers.mono {S T : Set Statement} (hST : S ⊆ T) {p : Pattern} {l : Lookup}
    {st : Statement} (h : p.Offers S l st) : p.Offers T l st := by
  unfold Offers at h ⊢
  split
  · next hp => rw [hp] at h; exact hST h
  · next hp => rw [hp] at h; exact h
  · next hp =>
    rw [hp] at h
    exact ⟨h.1, TransGen.mono (fun _ _ => Leads.mono hST) _ _ h.2⟩

/-- More statements have more solutions. -/
theorem Query.Solves.mono {S T : Set Statement} (hST : S ⊆ T) {q : Query} {b b' : Binding}
    (h : q.Solves S b b') : q.Solves T b b' := by
  induction q generalizing b b' with
  | pattern p =>
    obtain ⟨l, st, hl, hoffers, hrest⟩ := h
    exact ⟨l, st, hl, hoffers.mono hST, hrest⟩
  | join left right ihl ihr =>
    obtain ⟨mid, hleft, hright⟩ := h
    exact ⟨mid, ihl hleft, ihr hright⟩
  | filter f child ih => exact ⟨ih h.1, h.2⟩
  | slice offset limit child => exact h.elim

/-! ## Errors among items -/

section items

variable {α β ε : Type}

open Sequence

theorem ok_mem_flatMap_onValue {f : α → List (Except ε β)} {l : List (Except ε α)} {b : β} :
    .ok b ∈ l.flatMap (onValue f) ↔ ∃ a, .ok a ∈ l ∧ .ok b ∈ f a := by
  rw [List.mem_flatMap]
  constructor
  · rintro ⟨_ | a, hitem, hb⟩
    · simp [onValue] at hb
    · exact ⟨a, hitem, hb⟩
  · rintro ⟨a, ha, hb⟩
    exact ⟨.ok a, ha, hb⟩

theorem error_mem_flatMap_onValue {f : α → List (Except ε β)} {l : List (Except ε α)} {e : ε} :
    .error e ∈ l.flatMap (onValue f) ↔ .error e ∈ l ∨ ∃ a, .ok a ∈ l ∧ .error e ∈ f a := by
  rw [List.mem_flatMap]
  constructor
  · rintro ⟨e' | a, hitem, he⟩
    · obtain rfl : e = e' := by simpa [onValue] using he
      exact .inl hitem
    · exact .inr ⟨a, hitem, he⟩
  · rintro (he | ⟨a, ha, he⟩)
    · exact ⟨.error e, he, List.mem_singleton_self _⟩
    · exact ⟨.ok a, ha, he⟩

theorem ok_mem_of_mem_valuesBefore {l : List (Except ε α)} {a : α} (h : a ∈ valuesBefore l) :
    .ok a ∈ l := by
  induction l with
  | nil => cases h
  | cons item l ih =>
    cases item with
    | error e => cases h
    | ok a' =>
      obtain rfl | h := List.mem_cons.mp h
      · exact List.mem_cons_self
      · exact List.mem_cons_of_mem _ (ih h)

theorem mem_valuesBefore_of_ok_mem {l : List (Except ε α)} {a : α} (h : .ok a ∈ upToError l) :
    a ∈ valuesBefore l := by
  induction l with
  | nil => cases h
  | cons item l ih =>
    cases item with
    | error e => simp [upToError] at h
    | ok a' =>
      obtain heq | h := List.mem_cons.mp h
      · obtain rfl := Except.ok.inj heq
        exact List.mem_cons_self
      · exact List.mem_cons_of_mem _ (ih h)

/-- Without a first error there is none. -/
theorem error_notMem {l : List (Except ε α)} (h : firstError? l = none) (e : ε) : .error e ∉ l := by
  rw [eq_map_valuesBefore h]
  simp

end items

namespace Evaluator

open Sequence

variable {e : Evaluator} {s : Store}

/-! ## Patterns -/

theorem ok_mem_extensions {p : Pattern} {b b' : Binding} {l : Lookup}
    {statements : List Statement} :
    .ok b' ∈ (extensions p b l statements).map (Except.ok (ε := Error)) ↔
      ∃ st ∈ statements, l.accepts st = true ∧ p.bind? b st = some b' := by
  simp only [List.mem_map, Except.ok.injEq, exists_eq_right, extensions, List.mem_filterMap,
    List.mem_filter, and_assoc]

/-- What the store answers about paths are the statements that a transitive pattern ranges over. -/
theorem mem_reach_iff {l : Lookup} {key : Endpoint × Term × Option Term}
    (hkey : reachKey? l = some key) {st : Statement} (haccepts : l.accepts st = true) :
    st ∈ s.reach key.1 key.2.1 key.2.2 ↔
      st.context = l.context ∧
        TransGen (Leads s.content st.predicate l.context) st.subject st.object := by
  have hplace := Lookup.accepts_iff.mp haccepts
  unfold reachKey? at hkey
  split at hkey
  · next predicate subject hpredicate hsubject =>
    obtain rfl := Option.some.inj hkey
    obtain rfl := Option.some.inj (hplace .subject subject hsubject)
    obtain rfl := Option.some.inj (hplace .predicate predicate hpredicate)
    simp only [Store.mem_reach_subject, true_and]
  · next predicate object hpredicate _ hobject =>
    obtain rfl := Option.some.inj hkey
    obtain rfl := Option.some.inj (hplace .object object hobject)
    obtain rfl := Option.some.inj (hplace .predicate predicate hpredicate)
    simp only [Store.mem_reach_object, true_and]
  · cases hkey

/-- A pattern is resolved to solutions only. -/
theorem solves_of_mem_matchOne {p : Pattern} {b b' : Binding} (h : .ok b' ∈ e.matchOne s p b) :
    (Query.pattern p).Solves s.content b b' := by
  rcases hl : p.lookup? b with _ | l
  · rcases hp : p.kind with _ | candidates | _ <;> simp [matchOne, hp, hl] at h
  · simp only [Query.Solves, Pattern.Offers, hl, Option.some.injEq]
    rcases hp : p.kind with _ | candidates | _
    · simp only [matchOne, hp, hl, Option.map_some, Option.getD_some] at h
      obtain ⟨st, hst, hrest⟩ := ok_mem_extensions.mp h
      exact ⟨l, st, rfl, hst, hrest⟩
    · simp only [matchOne, hp, hl, Option.map_some, Option.getD_some] at h
      obtain ⟨st, hst, hrest⟩ := ok_mem_extensions.mp h
      exact ⟨l, st, rfl, hst, hrest⟩
    · simp only [matchOne, hp, hl, Option.map_some, Option.getD_some] at h
      split at h
      · split at h
        · next key hkey =>
          obtain ⟨st, hst, haccepts, hbind⟩ := ok_mem_extensions.mp h
          exact ⟨l, st, rfl, (mem_reach_iff hkey haccepts).mp hst, haccepts, hbind⟩
        · simp at h
      · simp at h

/-- Every solution is found, or there is an error. -/
theorem mem_matchOne_of_solves (hreaches : e.reaches = true) {p : Pattern} {b b' : Binding}
    (h : (Query.pattern p).Solves s.content b b') :
    .ok b' ∈ e.matchOne s p b ∨ ∃ err, .error err ∈ e.matchOne s p b := by
  obtain ⟨l, st, hl, hoffers, haccepts, hbind⟩ := h
  rcases hp : p.kind with _ | candidates | _
  · simp only [Pattern.Offers, hp] at hoffers
    simp only [matchOne, hp, hl, Option.map_some, Option.getD_some]
    exact .inl (ok_mem_extensions.mpr ⟨st, hoffers, haccepts, hbind⟩)
  · simp only [Pattern.Offers, hp] at hoffers
    simp only [matchOne, hp, hl, Option.map_some, Option.getD_some]
    exact .inl (ok_mem_extensions.mpr ⟨st, hoffers, haccepts, hbind⟩)
  · simp only [Pattern.Offers, hp] at hoffers
    simp only [matchOne, hp, hl, hreaches, if_true, Option.map_some, Option.getD_some]
    -- without a known end nothing can be asked
    rcases hkey : reachKey? l with _ | key
    · exact .inr ⟨.unsupported p, List.mem_singleton_self _⟩
    · exact .inl (ok_mem_extensions.mpr
        ⟨st, (mem_reach_iff hkey haccepts).mpr hoffers, haccepts, hbind⟩)

/-! ## Trees -/

section pairwise

variable (hpairwise : e.options.performant = false)
include hpairwise

/-- Pairwise evaluation yields solutions only; a slice leaves some of them out. -/
theorem solves_of_mem_found {q : Query} {b b' : Binding} (h : .ok b' ∈ e.found s q b) :
    q.unsliced.Solves s.content b b' := by
  induction q generalizing b b' with
  | pattern p =>
    rw [found_pattern] at h
    exact solves_of_mem_matchOne h
  | filter f child ih =>
    rw [found_filter, List.mem_filter] at h
    exact ⟨ih h.1, h.2⟩
  | join left right ihl ihr =>
    rw [found_join (if_neg (by simp [hpairwise])), ok_mem_flatMap_onValue] at h
    obtain ⟨mid, hmid, hb'⟩ := h
    exact ⟨mid, ihl hmid, ihr hb'⟩
  | slice offset limit child ih =>
    rw [found_slice] at h
    exact ih (mem_of_mem_items_slice h)

/-- It yields every solution, or an error. -/
theorem mem_found_of_solves (hreaches : e.reaches = true) {q : Query} {b b' : Binding}
    (h : q.Solves s.content b b') :
    .ok b' ∈ e.found s q b ∨ ∃ err, .error err ∈ e.found s q b := by
  induction q generalizing b b' with
  | pattern p =>
    rw [found_pattern]
    exact mem_matchOne_of_solves hreaches h
  | filter f child ih =>
    rw [found_filter]
    refine (ih h.1).imp (fun hb' => ?_) fun ⟨err, herr⟩ => ⟨err, ?_⟩
    · exact List.mem_filter.mpr ⟨hb', h.2⟩
    · exact List.mem_filter.mpr ⟨herr, rfl⟩
  | join left right ihl ihr =>
    obtain ⟨mid, hleft, hright⟩ := h
    rw [found_join (if_neg (by simp [hpairwise]))]
    simp only [ok_mem_flatMap_onValue, error_mem_flatMap_onValue]
    rcases ihl hleft with hmid | ⟨err, herr⟩
    · rcases ihr hright with hb' | ⟨err, herr⟩
      · exact .inl ⟨mid, hmid, hb'⟩
      · exact .inr ⟨err, .inr ⟨mid, hmid, herr⟩⟩
    · exact .inr ⟨err, .inl herr⟩
  | slice offset limit child => exact h.elim

end pairwise

/-! ## Whole queries -/

/-- The same evaluator without batched joins. -/
def pairwise (e : Evaluator) : Evaluator :=
  { e with options := { e.options with performant := false } }

theorem stopsWithin_found_pairwise (e : Evaluator) (s : Store) (q : Query) (b : Binding) :
    StopsWithin (e.found s q b) (e.pairwise.found s q b) := by
  have hpairwise : e.pairwise.options.performant = false := rfl
  have hreaches : e.reaches = e.pairwise.reaches := rfl
  have h : StopsWithin (e.yields (s.answerWith s.resolver) q b)
      (e.pairwise.yields (s.answerWith s.resolver) q b) :=
    stopsWithin_pairwise hpairwise hreaches q b
  rwa [s.answerWith_resolver] at h

/-- Whatever is passed on of a query is a solution, with slices and without. -/
theorem solves_of_mem_passedOn {q : Query} {b b' : Binding}
    (h : .ok b' ∈ e.passedOn s.answer q b) : q.unsliced.Solves s.content b.sanitized b' := by
  rw [passedOn_eq] at h
  have hstarts := (e.stopsWithin_found_pairwise s q b.sanitized).prefix_valuesBefore
  have hmem := hstarts.subset (mem_valuesBefore_of_ok_mem h)
  exact solves_of_mem_found (e := e.pairwise) rfl (ok_mem_of_mem_valuesBefore hmem)

theorem solves_of_mem_answers {q : Query} (hslice : q.hasSlice = false) {b : Binding}
    (h : .ok b ∈ e.answers s q) : q.Solves s.content .empty b := by
  rw [← Query.unsliced_eq hslice]
  exact solves_of_mem_passedOn h

/-- Without an error every solution is passed on. -/
theorem mem_answers_of_solves (hreaches : e.reaches = true) {q : Query}
    (hnone : firstError? (e.answers s q) = none) {b : Binding}
    (h : q.Solves s.content .empty b) : .ok b ∈ e.answers s q := by
  rw [answers_eq, firstError?_upToError] at hnone
  have heq := (e.stopsWithin_found_pairwise s q .empty).eq_of_firstError? hnone
  rw [heq] at hnone
  rw [answers_eq, heq, eq_map_valuesBefore hnone, upToError_map_ok, ← eq_map_valuesBefore hnone]
  refine (mem_found_of_solves (e := e.pairwise) rfl hreaches h).resolve_right ?_
  rintro ⟨err, herr⟩
  exact error_notMem hnone err herr

end Evaluator

end RdfReasoner
