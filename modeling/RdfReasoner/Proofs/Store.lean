import Mathlib.Data.List.Basic
import Mathlib.Data.List.Induction
import Mathlib.Data.List.TakeWhile
import RdfReasoner.Backend

/-!
# What a store holds

A store is known by the list of its facts: a lookup yields the facts that it accepts in their order
(`Store.lookup_eq_filter`), and a statement holds when a kept statement covers it
(`Store.holds_eq_any`).  What is kept stays where it is; new facts come behind
(`Store.facts_insertAll`), and of their statements those that the store did not have
(`Store.took_insertAll`).  Of a list of statements a store is missing those that it does not hold
(`Store.missing`).

Provenance plays no part in what is found: two stores with the same statements in the same order
hold the same (`Store.holds_congr`) and know the same paths (`Store.reach_congr`).
-/

namespace RdfReasoner

/-- What two ascending lists have in common is what the first holds of the second. -/
theorem TermIndex.common_eq_filter {as bs : List Nat} (ha : as.Pairwise (· < ·))
    (hb : bs.Pairwise (· < ·)) : TermIndex.common as bs = as.filter (· ∈ bs) := by
  induction as generalizing bs with
  | nil => rfl
  | cons a as ih =>
    obtain ⟨hlt, ha⟩ := List.pairwise_cons.mp ha
    have hsub : bs.dropWhile (· < a) <:+ bs := List.dropWhile_suffix _
    have hrest := hb.sublist hsub.sublist
    -- nothing from `a` on is among what is dropped
    have hkeep : ∀ x, a ≤ x → (x ∈ bs.dropWhile (· < a) ↔ x ∈ bs) := by
      intro x hx
      refine ⟨fun h => hsub.subset h, fun h => ?_⟩
      rw [← List.takeWhile_append_dropWhile (p := (· < a)) (l := bs), List.mem_append] at h
      refine h.resolve_left fun h => ?_
      have := List.mem_takeWhile_imp h
      simp at this
      omega
    have htail : as.filter (· ∈ bs.dropWhile (· < a)) = as.filter (· ∈ bs) := by
      refine List.filter_congr fun x hx => ?_
      simp only [decide_eq_decide]
      exact hkeep x (Nat.le_of_lt (hlt x hx))
    have hhead : (bs.dropWhile (· < a)).head? = some a ↔ a ∈ bs := by
      rw [← hkeep a (Nat.le_refl a)]
      refine ⟨List.mem_of_mem_head?, fun h => ?_⟩
      cases hd : bs.dropWhile (· < a) with
      | nil => rw [hd] at h; simp at h
      | cons b rest =>
        have hb : ¬ b < a := by
          have := List.head?_dropWhile_not (p := (· < a)) (l := bs)
          rw [hd] at this
          simpa using this
        rw [hd] at h hrest
        obtain rfl | h := List.mem_cons.mp h
        · rfl
        · exact absurd ((List.pairwise_cons.mp hrest).1 a h) hb
    rw [common, List.filter_cons, ih ha hrest, htail]
    by_cases h : a ∈ bs
    · simp [hhead.mpr h, h]
    · simp [mt hhead.mp h, h]

/-- Whether keeping one statement makes another hold: they say the same, and in the same context
where the other has one. -/
def Statement.covers (kept s : Statement) : Bool :=
  kept.subject = s.subject && kept.predicate = s.predicate && kept.object = s.object &&
    s.context.all fun c => kept.context = some c

/-- The context matters only where the other statement has one. -/
theorem Statement.covers_iff {kept s : Statement} :
    kept.covers s = true ↔ kept.subject = s.subject ∧ kept.predicate = s.predicate ∧
      kept.object = s.object ∧ ∀ c, s.context = some c → kept.context = some c := by
  rcases hc : s.context with _ | c <;> simp [covers, hc, and_assoc]

@[simp] theorem Statement.covers_self (s : Statement) : s.covers s = true := by
  cases hc : s.context <;> simp [covers, hc]

/-- One statement covers what another one covers that it covers. -/
theorem Statement.covers_trans {a b c : Statement} (hab : a.covers b = true)
    (hbc : b.covers c = true) : a.covers c = true := by
  simp only [covers, Bool.and_eq_true, decide_eq_true_eq] at hab hbc ⊢
  obtain ⟨⟨⟨hs, hp⟩, ho⟩, hc⟩ := hab
  obtain ⟨⟨⟨hs', hp'⟩, ho'⟩, hc'⟩ := hbc
  refine ⟨⟨⟨hs.trans hs', hp.trans hp'⟩, ho.trans ho'⟩, ?_⟩
  rcases hcontext : c.context with _ | context
  · rfl
  · rw [hcontext, Option.all_some, decide_eq_true_eq] at hc'
    rw [hc', Option.all_some, decide_eq_true_eq] at hc
    rw [Option.all_some, decide_eq_true_eq]
    exact hc

namespace Store

/-- The statements in the order in which they came. -/
def statements (s : Store) : List Statement := s.facts.toList.map (·.statement)

@[simp] theorem length_statements (s : Store) : s.statements.length = s.size := by
  simp [statements, size]

/-! ## Lookups -/

/-- Reading the positions that pass a test reads the members that pass it. -/
theorem filterMap_range_filter (l : List Fact) (p : Fact → Bool) :
    ((List.range l.length).filter fun i => l[i]?.any p).filterMap (l[·]?) = l.filter p := by
  have hget (l : List Fact) (i : Nat) :
      (if l[i]?.any p then l[i]? else none) = l[i]?.filter p := by
    cases l[i]? with
    | none => rfl
    | some f => cases hp : p f <;> simp [Option.filter, hp]
  rw [List.filterMap_filter]
  simp only [hget]
  induction l using List.reverseRecOn with
  | nil => rfl
  | append_singleton l f ih =>
    rw [List.length_append, List.length_singleton, List.range_succ, List.filterMap_append,
      List.filter_append, ← ih]
    congr 1
    · refine List.filterMap_congr fun i hi => ?_
      rw [List.getElem?_append_left (List.mem_range.mp hi)]
    · cases hp : p f <;> simp [Option.filter, hp]

/-- Narrows the positions found so far down to those in the index of one more place. -/
def narrow (s : Store) (l : Lookup) (found : Option (List Nat)) (place : Position) :
    Option (List Nat) :=
  match l.termAt place, found with
  | none, _ => found
  | some t, none => some ((s.index place).positions t)
  | some t, some ids => some (TermIndex.common ids ((s.index place).positions t))

theorem candidates_eq_foldl (s : Store) (l : Lookup) :
    s.candidates l = Position.all.foldl (s.narrow l) none := rfl

/-- Whether the fact at a position has the term that a place is fixed to. -/
def hasFixed (s : Store) (l : Lookup) (i : Nat) (place : Position) : Bool :=
  (l.termAt place).all fun t => s.facts[i]?.bind (·.statement.termAt place) = some t

/-- One more place adds its own test. -/
theorem getD_narrow (s : Store) (l : Lookup) (place : Position) {found : Option (List Nat)}
    {p : Nat → Bool}
    (hp : found.getD (List.range s.facts.size) = (List.range s.facts.size).filter p) :
    (s.narrow l found place).getD (List.range s.facts.size) =
      (List.range s.facts.size).filter fun i => p i && s.hasFixed l i place := by
  have ascending := List.pairwise_lt_range (n := s.facts.size)
  unfold narrow hasFixed
  cases ht : l.termAt place with
  | none => simpa using hp
  | some t =>
    have hindex := s.positions_index place t
    cases found with
    | none =>
      rw [Option.getD_none] at hp
      have all_pass : ∀ i ∈ List.range s.facts.size, p i = true := by
        intro i hi
        rw [hp] at hi
        exact (List.mem_filter.mp hi).2
      simp only [Option.getD_some, hindex, positionsOf, Option.all_some]
      refine List.filter_congr fun i hi => ?_
      rw [all_pass i hi, Bool.true_and]
    | some ids =>
      rw [Option.getD_some] at hp
      subst hp
      simp only [Option.getD_some, hindex, positionsOf, Option.all_some]
      rw [TermIndex.common_eq_filter (ascending.filter _) (ascending.filter _),
        List.filter_filter]
      refine List.filter_congr fun i hi => ?_
      simp [List.mem_range.mp hi, Bool.and_comm]

/-- What the indexes of some places narrow the positions down to. -/
theorem getD_foldl_narrow (s : Store) (l : Lookup) (places : List Position)
    {found : Option (List Nat)} {p : Nat → Bool}
    (hp : found.getD (List.range s.facts.size) = (List.range s.facts.size).filter p) :
    (places.foldl (s.narrow l) found).getD (List.range s.facts.size) =
      (List.range s.facts.size).filter fun i => p i && places.all (s.hasFixed l i) := by
  induction places generalizing found p with
  | nil => simpa using hp
  | cons place places ih =>
    rw [List.foldl_cons, ih (s.getD_narrow l place hp)]
    simp only [List.all_cons, Bool.and_assoc]

/-- A lookup finds the positions of the facts that it accepts. -/
theorem positions_eq_filter (s : Store) (l : Lookup) :
    s.positions l =
      (List.range s.facts.size).filter fun i => s.facts[i]?.any (l.accepts ·.statement) := by
  have hall : (none : Option (List Nat)).getD (List.range s.facts.size) =
      (List.range s.facts.size).filter fun _ => true := by
    rw [Option.getD_none, List.filter_true]
  rw [positions, candidates_eq_foldl, getD_foldl_narrow s l _ hall]
  refine List.filter_congr fun i hi => ?_
  have hget := Array.getElem?_eq_getElem (List.mem_range.mp hi)
  simp only [Bool.true_and, hget, Option.any_some, Lookup.accepts]
  refine congrArg (List.all Position.all) (funext fun place => ?_)
  simp [hasFixed, hget]

/-- A lookup yields the facts that it accepts, in their order. -/
theorem lookup_eq_filter (s : Store) (l : Lookup) :
    s.lookup l = s.facts.toList.filter (l.accepts ·.statement) := by
  rw [lookup, positions_eq_filter]
  simpa using filterMap_range_filter s.facts.toList (l.accepts ·.statement)

/-- The statements that a lookup yields. -/
theorem map_statement_lookup (s : Store) (l : Lookup) :
    (s.lookup l).map (·.statement) = s.statements.filter l.accepts := by
  rw [lookup_eq_filter, statements, List.filter_map]
  rfl

/-- The fact that was kept for a statement is the one that says it. -/
theorem get?_eq_find? (s : Store) (st : Statement) :
    s.get? st = s.facts.toList.find? (·.statement = st) := by
  rw [get?, s.table_eq, ← Array.find?_eq_bind_findIdx?_getElem?, Array.find?_toList]
  congr 1

/-! ## What holds -/

theorem contains_iff {s : Store} {st : Statement} : s.contains st = true ↔ st ∈ s.statements := by
  rw [contains, Std.TreeMap.contains_eq_isSome_getElem?, s.table_eq, Array.findIdx?_isSome,
    Array.any_eq_true']
  simp only [beq_iff_eq, statements, List.mem_map, Array.mem_toList_iff]

/-- Something is found exactly when a lookup accepts a kept statement. -/
theorem isEmpty_positions (s : Store) (l : Lookup) :
    (!(s.positions l).isEmpty) = s.statements.any l.accepts := by
  rw [positions_eq_filter, Bool.eq_iff_iff, Bool.not_eq_true', List.isEmpty_eq_false_iff_exists_mem,
    List.any_eq_true]
  simp only [List.mem_filter, List.mem_range, statements, List.mem_map, Array.mem_toList_iff]
  constructor
  · rintro ⟨i, hi, h⟩
    rw [Array.getElem?_eq_getElem hi] at h
    exact ⟨_, ⟨s.facts[i], Array.getElem_mem hi, rfl⟩, h⟩
  · rintro ⟨_, ⟨f, hf, rfl⟩, h⟩
    obtain ⟨i, hi, rfl⟩ := Array.mem_iff_getElem.mp hf
    exact ⟨i, hi, by simpa [Array.getElem?_eq_getElem hi] using h⟩

/-- A kept statement covers another when the lookup of the other accepts it and the context fits. -/
theorem covers_eq_accepts (kept st : Statement) :
    kept.covers st = ((Lookup.ofStatement st).accepts kept &&
      st.context.all fun c => kept.context = some c) := by
  simp [Statement.covers, Lookup.accepts, Lookup.ofStatement, Lookup.termAt, Position.all,
    Statement.termAt, Bool.and_assoc]

/-- A statement holds exactly when a kept one covers it. -/
theorem holds_eq_any (s : Store) (st : Statement) :
    s.holds st = s.statements.any (·.covers st) := by
  have hself : s.contains st = true → s.statements.any (·.covers st) = true := fun h =>
    List.any_eq_true.mpr ⟨st, contains_iff.mp h, st.covers_self⟩
  cases hc : st.context with
  | none =>
    have hcandidates : s.candidates (Lookup.ofStatement st) =
        some (s.positions (Lookup.ofStatement st)) := by
      rfl
    have hcovers : s.statements.any (Lookup.ofStatement st).accepts =
        s.statements.any (·.covers st) := by
      simp only [covers_eq_accepts, hc, Option.all_none, Bool.and_true]
    rw [holds, hc, hcandidates, Option.any_some, isEmpty_positions, hcovers]
    cases hcont : s.contains st with
    | false => rfl
    | true => rw [hself hcont]; rfl
  | some c =>
    rw [holds, hc, Option.isNone_some, Bool.false_and, Bool.or_false, Bool.eq_iff_iff]
    refine ⟨hself, fun h => ?_⟩
    obtain ⟨kept, hmem, hcov⟩ := List.any_eq_true.mp h
    simp only [Statement.covers, hc, Option.all_some, Bool.and_eq_true, decide_eq_true_eq] at hcov
    obtain ⟨⟨⟨hs, hp⟩, ho⟩, hctx⟩ := hcov
    have : kept = st := by cases kept; cases st; simp_all
    exact contains_iff.mpr (this ▸ hmem)

/-- Two stores with the same statements hold the same. -/
theorem holds_congr {s t : Store} (h : s.statements = t.statements) : s.holds = t.holds := by
  funext st
  rw [holds_eq_any, holds_eq_any, h]

/-- What holds keeps holding when statements are added. -/
theorem holds_mono {s t : Store} (h : s.statements ⊆ t.statements) {st : Statement}
    (hs : s.holds st = true) : t.holds st = true := by
  rw [holds_eq_any, List.any_eq_true] at *
  obtain ⟨kept, hmem, hcov⟩ := hs
  exact ⟨kept, h hmem, hcov⟩

theorem holds_of_mem {s : Store} {st : Statement} (h : st ∈ s.statements) : s.holds st = true := by
  rw [holds_eq_any, List.any_eq_true]
  exact ⟨st, h, st.covers_self⟩

/-- What a statement covers holds with it. -/
theorem holds_of_covers {s : Store} {a b : Statement} (ha : s.holds a = true)
    (hab : a.covers b = true) : s.holds b = true := by
  rw [holds_eq_any, List.any_eq_true] at ha ⊢
  obtain ⟨kept, hmem, hkept⟩ := ha
  exact ⟨kept, hmem, Statement.covers_trans hkept hab⟩

/-- Two stores with the same statements know the same paths. -/
theorem reach_congr {s t : Store} (h : s.statements = t.statements) : s.reach = t.reach := by
  have hsize : s.size = t.size := by rw [← length_statements, h, length_statements]
  have hneighbours (forward : Bool) (predicate : Term) (context : Option Term) :
      s.neighbours forward predicate context = t.neighbours forward predicate context := by
    funext node
    have hmap (l : Lookup) (f : Statement → Term) :
        (s.lookup l).map (fun e => f e.statement) = (t.lookup l).map fun e => f e.statement := by
      have hlookup : (s.lookup l).map (·.statement) = (t.lookup l).map (·.statement) := by
        rw [map_statement_lookup, map_statement_lookup, h]
      simpa only [List.map_map, Function.comp_def] using congrArg (List.map f) hlookup
    cases forward
    · exact hmap _ (·.subject)
    · exact hmap _ (·.object)
  funext e predicate context
  cases e <;> simp only [reach, hneighbours, hsize]

theorem answer_deliver (s : Store) : s.answer .deliver = .ok () := rfl

/-! ## Growing -/

/-- A fact is kept exactly when its statement was not. -/
theorem keep_eq (s : Store) (f : Fact) :
    (s.keep f).1.facts = (if f.statement ∈ s.statements then s.facts else s.facts.push f) ∧
      (s.keep f).2 = decide (f.statement ∉ s.statements) := by
  have hmem : s.table[f.statement]? = none ↔ f.statement ∉ s.statements := by
    rw [← contains_iff, contains, Std.TreeMap.contains_eq_isSome_getElem?]
    simp
  rw [keep]
  by_cases h : f.statement ∈ s.statements
  · rw [dif_neg (mt hmem.mp (not_not.mpr h)), if_pos h]
    exact ⟨rfl, by simp [h]⟩
  · rw [dif_pos (hmem.mpr h), if_neg h]
    exact ⟨rfl, by simp [h]⟩

/-- Keeping facts one after the other. -/
theorem insertAll_cons (s : Store) (now : Timestamp) (f : Fact) (fs : List Fact) :
    s.insertAll now (f :: fs) =
      (((s.insert now f).1.insertAll now fs).1,
        ((s.insert now f).1.insertAll now fs).2 + if (s.insert now f).2 then 1 else 0) := by
  -- what the first fact counts is carried along and added in the end
  let carry : Store × Nat → Store × Nat :=
    fun a => (a.1, a.2 + if (s.insert now f).2 then 1 else 0)
  have hstart : ((s.insert now f).1, if (s.insert now f).2 then 0 + 1 else 0) =
      carry ((s.insert now f).1, 0) := by
    simp [carry]
  rw [insertAll, List.foldl_cons]
  dsimp only
  rw [hstart]
  refine List.foldl_hom carry fun a g => Prod.ext rfl ?_
  by_cases hnew : (a.1.insert now g).2
  · simp only [carry, hnew, if_true]
    omega
  · simp only [carry, hnew, Bool.false_eq_true, if_false]

/-- What is counted as kept is what the store grows by. -/
theorem size_insertAll (s : Store) (now : Timestamp) (fs : List Fact) :
    (s.insertAll now fs).1.size = s.size + (s.insertAll now fs).2 := by
  induction fs generalizing s with
  | nil => rfl
  | cons f fs ih =>
    have hkeep := s.keep_eq (f.stamped now)
    have hsize : (s.insert now f).1.size = s.size + if (s.insert now f).2 then 1 else 0 := by
      rw [insert, size, hkeep.1, hkeep.2]
      by_cases hold : (f.stamped now).statement ∈ s.statements
      · rw [if_pos hold, if_neg (by simpa using hold)]
        rfl
      · rw [if_neg hold, if_pos (by simpa using hold), Array.size_push]
        rfl
    rw [insertAll_cons, ih, hsize, Nat.add_assoc]
    dsimp only
    rw [Nat.add_comm (if (s.insert now f).2 then 1 else 0)]

/-- What was kept stays where it is, and all that comes behind are facts of the list, which take the
time of the insertion where they had none. -/
theorem facts_insertAll (s : Store) (now : Timestamp) (fs : List Fact) :
    ∃ added, (s.insertAll now fs).1.facts.toList = s.facts.toList ++ added ∧
      ∀ g ∈ added, ∃ f ∈ fs, g = f.stamped now := by
  induction fs generalizing s with
  | nil => exact ⟨[], by simp [insertAll], by simp⟩
  | cons f fs ih =>
    obtain ⟨added, heq, hadded⟩ := ih (s.insert now f).1
    rw [insertAll_cons, heq, insert, (s.keep_eq _).1]
    split
    · exact ⟨added, rfl, fun g hg => by
        obtain ⟨f', hf', rfl⟩ := hadded g hg; exact ⟨f', by simp [hf'], rfl⟩⟩
    · refine ⟨f.stamped now :: added, by simp, fun g hg => ?_⟩
      obtain rfl | hg := List.mem_cons.mp hg
      · exact ⟨f, by simp, rfl⟩
      · obtain ⟨f', hf', rfl⟩ := hadded g hg
        exact ⟨f', by simp [hf'], rfl⟩

/-- A store that took the statements of a list behind its own: those that it did not have, each of
them once. -/
def Took (s : Store) (ts : List Statement) (s' : Store) : Prop :=
  ∃ added, s'.statements = s.statements ++ added ∧ added.Nodup ∧
    ∀ t, t ∈ added ↔ t ∈ ts ∧ t ∉ s.statements

theorem took_nil (s : Store) : s.Took [] s := ⟨[], by simp⟩

theorem Took.subset {s s' : Store} {ts : List Statement} (h : s.Took ts s') :
    s.statements ⊆ s'.statements := by
  obtain ⟨added, heq, -⟩ := h
  rw [heq]
  exact List.subset_append_left _ _

theorem Took.trans {s s' s'' : Store} {ts us : List Statement} (h : s.Took ts s')
    (h' : s'.Took us s'') : s.Took (ts ++ us) s'' := by
  obtain ⟨added, heq, hnodup, hmem⟩ := h
  obtain ⟨added', heq', hnodup', hmem'⟩ := h'
  have hnew : ∀ t, t ∈ added' ↔ t ∈ us ∧ t ∉ s.statements ∧ t ∉ added := by
    intro t
    rw [hmem', heq, List.mem_append, not_or]
  refine ⟨added ++ added', by rw [heq', heq, List.append_assoc], ?_, fun t => ?_⟩
  · rw [List.nodup_append]
    exact ⟨hnodup, hnodup', fun t ht t' ht' htt' => ((hnew t').mp ht').2.2 (htt' ▸ ht)⟩
  · rw [List.mem_append, List.mem_append, hnew, hmem]
    tauto

/-- Facts that are kept one after the other are taken behind what was there. -/
theorem took_insertAll (s : Store) (now : Timestamp) (fs : List Fact) :
    s.Took (fs.map (·.statement)) (s.insertAll now fs).1 := by
  induction fs generalizing s with
  | nil => exact s.took_nil
  | cons f fs ih =>
    have hfirst : s.Took [f.statement] (s.insert now f).1 := by
      have hkeep := (s.keep_eq (f.stamped now)).1
      rw [Fact.statement_stamped] at hkeep
      by_cases hold : f.statement ∈ s.statements
      · rw [if_pos hold] at hkeep
        refine ⟨[], by simp [statements, insert, hkeep], List.nodup_nil, fun t => ?_⟩
        simp only [List.not_mem_nil, List.mem_singleton, false_iff, not_and, not_not]
        rintro rfl
        exact hold
      · rw [if_neg hold] at hkeep
        refine ⟨[f.statement], by simp [statements, insert, hkeep], List.pairwise_singleton _ _,
          fun t => ?_⟩
        simp only [List.mem_singleton, iff_self_and]
        rintro rfl
        exact hold
    rw [insertAll_cons]
    exact hfirst.trans (ih _)

/-- Facts with new statements, no two of them the same, are all kept. -/
theorem insertAll_new {s : Store} {now : Timestamp} {fs : List Fact}
    (hnodup : (fs.map (·.statement)).Nodup) (hnew : ∀ f ∈ fs, f.statement ∉ s.statements) :
    (s.insertAll now fs).1.facts.toList = s.facts.toList ++ fs.map (·.stamped now) ∧
      (s.insertAll now fs).2 = fs.length := by
  induction fs generalizing s with
  | nil => simp [insertAll]
  | cons f fs ih =>
    obtain ⟨hf, hnodup⟩ := List.nodup_cons.mp hnodup
    have hmiss : (f.stamped now).statement ∉ s.statements := by
      simpa using hnew f (by simp)
    have hkeep := s.keep_eq (f.stamped now)
    rw [if_neg hmiss] at hkeep
    have hrest : ∀ g ∈ fs, g.statement ∉ (s.insert now f).1.statements := by
      intro g hg hmem
      rw [insert, statements, hkeep.1] at hmem
      simp only [Array.toList_push, List.map_append, List.mem_append, List.map_cons,
        Fact.statement_stamped, List.map_nil, List.mem_singleton] at hmem
      obtain hmem | heq := hmem
      · exact hnew g (by simp [hg]) hmem
      · exact hf (List.mem_map.mpr ⟨g, hg, heq⟩)
    obtain ⟨hfacts, hcount⟩ := ih hnodup hrest
    rw [insertAll_cons, hfacts, hcount]
    simp [insert, hkeep.1, hkeep.2, hnew f (by simp)]

end Store

/-! ## Statements that a store is missing -/

/-- Seeing one more statement. -/
theorem Statement.mem_insert_iff {seen : Std.TreeSet Statement} {t u : Statement} :
    u ∈ seen.insert t ↔ u = t ∨ u ∈ seen := by
  rw [Std.TreeSet.mem_insert, Std.LawfulEqCmp.compare_eq_iff_eq, eq_comm]

theorem Statement.contains_insert (seen : Std.TreeSet Statement) (t u : Statement) :
    (seen.insert t).contains u = (decide (u = t) || seen.contains u) := by
  rw [Bool.eq_iff_iff, ← Std.TreeSet.mem_iff_contains, mem_insert_iff, Bool.or_eq_true,
    decide_eq_true_eq, Std.TreeSet.mem_iff_contains]

namespace Store

/-- The statements that are neither seen before nor hold, each once. -/
def missing (s : Store) (seen : Std.TreeSet Statement) : List Statement → List Statement
  | [] => []
  | t :: rest =>
    if seen.contains t || s.holds t then s.missing seen rest
    else t :: s.missing (seen.insert t) rest

variable {s : Store} {seen : Std.TreeSet Statement}

/-- What has been seen or is found missing counts as seen from then on. -/
theorem missing_append (s : Store) (seen : Std.TreeSet Statement) (l m : List Statement) :
    s.missing seen (l ++ m) =
      s.missing seen l ++ s.missing ((s.missing seen l).foldl (·.insert ·) seen) m := by
  induction l generalizing seen with
  | nil => rfl
  | cons t rest ih =>
    rw [List.cons_append, missing, missing]
    split
    · exact ih seen
    · rw [ih, List.foldl_cons, List.cons_append]

theorem mem_missing {l : List Statement} {t : Statement} :
    t ∈ s.missing seen l ↔ t ∈ l ∧ seen.contains t = false ∧ s.holds t = false := by
  induction l generalizing seen with
  | nil => simp [missing]
  | cons u rest ih =>
    rw [missing, List.mem_cons]
    split
    · next h =>
      rw [ih]
      refine ⟨fun ⟨ht, hnew⟩ => ⟨.inr ht, hnew⟩, ?_⟩
      rintro ⟨rfl | ht, hseen, hheld⟩
      · rw [hseen, hheld] at h
        cases h
      · exact ⟨ht, hseen, hheld⟩
    · next h =>
      rw [Bool.not_eq_true, Bool.or_eq_false_iff] at h
      rw [List.mem_cons, ih, Statement.contains_insert, Bool.or_eq_false_iff]
      by_cases htu : t = u
      · subst htu
        simp [h.1, h.2]
      · simp [htu]

/-- No statement is missing twice. -/
theorem nodup_missing (s : Store) (seen : Std.TreeSet Statement) (l : List Statement) :
    (s.missing seen l).Nodup := by
  induction l generalizing seen with
  | nil => exact List.nodup_nil
  | cons t rest ih =>
    rw [missing]
    split
    · exact ih seen
    · refine List.nodup_cons.mpr ⟨fun h => ?_, ih _⟩
      have := (mem_missing.mp h).2.1
      simp at this

/-- Statements that hold are not missing. -/
theorem missing_of_holds {l : List Statement} (h : ∀ t ∈ l, s.holds t = true) :
    s.missing seen l = [] := by
  rw [List.eq_nil_iff_forall_not_mem]
  intro t ht
  obtain ⟨hmem, -, hheld⟩ := mem_missing.mp ht
  rw [h t hmem] at hheld
  cases hheld

/-- What holds may count as seen or not. -/
theorem missing_eq_of_seen {seen seen' : Std.TreeSet Statement}
    (h : ∀ t, (seen.contains t || s.holds t) = (seen'.contains t || s.holds t))
    {l : List Statement} : s.missing seen l = s.missing seen' l := by
  induction l generalizing seen seen' with
  | nil => rfl
  | cons t rest ih =>
    rw [missing, missing, ih h, h t]
    split
    · rfl
    · refine congrArg (t :: ·) (ih fun u => ?_)
      simp only [Std.TreeSet.contains_insert, Bool.or_assoc, h u]

/-- What makes only statements that hold can be left out. -/
theorem missing_flatMap_filter {α : Type} {as : List α} {p : α → Bool} {f : α → List Statement}
    (h : ∀ a ∈ as, p a = false → ∀ t ∈ f a, s.holds t = true) :
    s.missing seen ((as.filter p).flatMap f) = s.missing seen (as.flatMap f) := by
  induction as generalizing seen with
  | nil => rfl
  | cons a as ih =>
    have ih {seen : Std.TreeSet Statement} :
        s.missing seen ((as.filter p).flatMap f) = s.missing seen (as.flatMap f) :=
      ih fun x hx => h x (by simp [hx])
    rw [List.flatMap_cons, missing_append, List.filter_cons]
    split
    · rw [List.flatMap_cons, missing_append, ih]
    · next hp =>
      rw [missing_of_holds (h a (by simp) (Bool.not_eq_true _ ▸ hp)), ih]
      rfl

theorem missing_congr {s t : Store} (h : s.statements = t.statements) :
    s.missing = t.missing := by
  funext seen l
  induction l generalizing seen with
  | nil => rfl
  | cons u rest ih => simp only [missing, holds_congr h, ih]

end Store

end RdfReasoner
