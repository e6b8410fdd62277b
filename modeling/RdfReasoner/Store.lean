import RdfReasoner.Store.TermIndex
import RdfReasoner.Lookup

/-!
# The store

A store keeps every statement once, in the order in which the facts came, and only grows.  A fact is
known by its position.  Every place of a statement has an index from terms to positions, so the
facts that a lookup accepts are at the positions that the indexes of its fixed places have in
common.  The type carries what ties the parts together: the table of positions is exact, no
statement is kept twice, and every index lists exactly the positions that it should.

A `Cursor` is a lookup that was made but not read yet: it holds positions and reads the facts one by
one, possibly from a store that has grown since.
-/

namespace RdfReasoner

/-- The positions of the facts that hold a term in a place. -/
def positionsOf (facts : Array Fact) (p : Position) (t : Term) : List Nat :=
  (List.range facts.size).filter fun i => facts[i]?.bind (·.statement.termAt p) = some t

theorem positionsOf_push (facts : Array Fact) (f : Fact) (p : Position) (t : Term) :
    positionsOf (facts.push f) p t =
      positionsOf facts p t ++ if f.statement.termAt p = some t then [facts.size] else [] := by
  unfold positionsOf
  rw [Array.size_push, List.range_succ, List.filter_append]
  congr 1
  · refine List.filter_congr fun i hi => ?_
    have hi : i < facts.size := List.mem_range.mp hi
    simp [Array.getElem?_push, Nat.ne_of_lt hi]
  · by_cases h : f.statement.termAt p = some t <;> simp [h]

/-- Facts in the order in which they came, and what is needed to find them. -/
structure Store where
  facts : Array Fact := #[]
  /-- The position of every statement. -/
  table : Std.TreeMap Statement Nat := ∅
  subjects : TermIndex := {}
  predicates : TermIndex := {}
  objects : TermIndex := {}
  contexts : TermIndex := {}
  /-- The table is exact. -/
  table_eq : ∀ s, table[s]? = facts.findIdx? (·.statement == s) := by simp
  /-- No statement is kept twice. -/
  distinct : (facts.toList.map (·.statement)).Nodup := by simp
  /-- The indexes are exact. -/
  subjects_eq : ∀ t, subjects.positions t = positionsOf facts .subject t := by simp [positionsOf]
  predicates_eq : ∀ t, predicates.positions t = positionsOf facts .predicate t := by
    simp [positionsOf]
  objects_eq : ∀ t, objects.positions t = positionsOf facts .object t := by simp [positionsOf]
  contexts_eq : ∀ t, contexts.positions t = positionsOf facts .context t := by simp [positionsOf]

namespace Store

/-- The store without facts. -/
def empty : Store := {}

/-- The number of facts. -/
def size (s : Store) : Nat := s.facts.size

/-- Whether a statement is kept, in exactly its context. -/
def contains (s : Store) (st : Statement) : Bool := s.table.contains st

/-- The fact that was kept for a statement. -/
def get? (s : Store) (st : Statement) : Option Fact := s.table[st]?.bind (s.facts[·]?)

/-- The index of a place. -/
def index (s : Store) : Position → TermIndex
  | .subject => s.subjects
  | .predicate => s.predicates
  | .object => s.objects
  | .context => s.contexts

theorem positions_index (s : Store) (p : Position) (t : Term) :
    (s.index p).positions t = positionsOf s.facts p t := by
  cases p
  · exact s.subjects_eq t
  · exact s.predicates_eq t
  · exact s.objects_eq t
  · exact s.contexts_eq t

/-! ## Growing -/

theorem findIdx?_push_of_none {facts : Array Fact} {f : Fact}
    (h : facts.findIdx? (·.statement == f.statement) = none) (st : Statement) :
    (facts.push f).findIdx? (·.statement == st) =
      if st = f.statement then some facts.size else facts.findIdx? (·.statement == st) := by
  rw [Array.findIdx?_push]
  by_cases hst : st = f.statement
  · subst hst
    simp [h]
  · have : (f.statement == st) = false := by simpa using fun h => hst h.symm
    cases hf : facts.findIdx? (·.statement == st) <;> simp [hst, this]

theorem nodup_push_of_none {facts : Array Fact} {f : Fact}
    (h : facts.findIdx? (·.statement == f.statement) = none)
    (distinct : (facts.toList.map (·.statement)).Nodup) :
    ((facts.push f).toList.map (·.statement)).Nodup := by
  rw [Array.findIdx?_eq_none_iff] at h
  simp only [Array.toList_push, List.map_append, List.map_cons, List.map_nil]
  refine List.nodup_append.mpr ⟨distinct, by simp, ?_⟩
  intro a ha b hb
  obtain ⟨g, hg, rfl⟩ := List.mem_map.mp ha
  obtain rfl := List.mem_singleton.mp hb
  simpa using h g (Array.mem_toList_iff.mp hg)

/-- The store with one more fact, whose statement it does not keep yet. -/
def push (s : Store) (f : Fact) (h : s.table[f.statement]? = none) : Store where
  facts := s.facts.push f
  table := s.table.insert f.statement s.facts.size
  subjects := s.subjects.add? (f.statement.termAt .subject) s.facts.size
  predicates := s.predicates.add? (f.statement.termAt .predicate) s.facts.size
  objects := s.objects.add? (f.statement.termAt .object) s.facts.size
  contexts := s.contexts.add? (f.statement.termAt .context) s.facts.size
  table_eq st := by
    rw [s.table_eq] at h
    rw [findIdx?_push_of_none h, Std.TreeMap.getElem?_insert, s.table_eq]
    by_cases hst : st = f.statement
    · simp [hst]
    · simp [hst, Ne.symm hst]
  distinct := nodup_push_of_none (s.table_eq _ ▸ h) s.distinct
  subjects_eq t := by rw [TermIndex.positions_add?, positionsOf_push, s.subjects_eq]
  predicates_eq t := by rw [TermIndex.positions_add?, positionsOf_push, s.predicates_eq]
  objects_eq t := by rw [TermIndex.positions_add?, positionsOf_push, s.objects_eq]
  contexts_eq t := by rw [TermIndex.positions_add?, positionsOf_push, s.contexts_eq]

/-- Keeps a fact unless its statement is kept already, and says whether the store has grown. -/
def keep (s : Store) (f : Fact) : Store × Bool :=
  if h : s.table[f.statement]? = none then (s.push f h, true) else (s, false)

/-- Keeps a fact, which takes the time `now` unless it has a time already. -/
def insert (s : Store) (now : Timestamp) (f : Fact) : Store × Bool := s.keep (f.stamped now)

/-- Keeps facts one after the other and counts the new ones. -/
def insertAll (s : Store) (now : Timestamp) (facts : List Fact) : Store × Nat :=
  facts.foldl (fun (s, n) f =>
    let (s, isNew) := s.insert now f
    (s, if isNew then n + 1 else n)) (s, 0)

/-- Keeps a statement as asserted at the time `now`. -/
def assert (s : Store) (now : Timestamp) (st : Statement) : Store × Bool :=
  s.insert now ⟨st, { timestamp := now }⟩

/-! ## Looking up -/

/-- The positions that the fixed places of a lookup have in common, if any place is fixed. -/
def candidates (s : Store) (l : Lookup) : Option (List Nat) :=
  Position.all.foldl (fun found p =>
    match l.termAt p, found with
    | none, _ => found
    | some t, none => some ((s.index p).positions t)
    | some t, some ids => some (TermIndex.common ids ((s.index p).positions t))) none

/-- The positions of the facts that a lookup accepts. -/
def positions (s : Store) (l : Lookup) : List Nat :=
  (s.candidates l).getD (List.range s.facts.size)

/-- The facts that a lookup accepts, in the order in which they came. -/
def lookup (s : Store) (l : Lookup) : List Fact := (s.positions l).filterMap (s.facts[·]?)

/-- The facts that some of several lookups accept, lookup by lookup, each with the position of the
lookup in the list. -/
def lookupAll (s : Store) (ls : List Lookup) : List (Fact × Nat) :=
  ls.zipIdx.flatMap fun (l, tag) => (s.lookup l).map (·, tag)

/-- Whether a statement is kept; one without a context may be kept in any. -/
def holds (s : Store) (st : Statement) : Bool :=
  s.contains st ||
    (st.context.isNone && (s.candidates (Lookup.ofStatement st)).any (!·.isEmpty))

end Store

/-! ## Cursors -/

/-- The positions, each with a tag, that a lookup found and that are not read yet. -/
structure Cursor where
  remaining : List (Nat × Nat)

namespace Cursor

/-- A lookup that is to be read later. -/
def ofLookup (s : Store) (l : Lookup) : Cursor := ⟨(s.positions l).map (·, 0)⟩

/-- The candidates of a lookup with its tag, or else all positions. -/
def tagged (s : Store) (tag : Nat) (candidates : Option (List Nat)) : List (Nat × Nat) :=
  (candidates.getD (List.range s.size)).map (·, tag)

/-- The positions that some lookups find, lookup by lookup, each with the tag of its lookup; the
first one has the tag `tag`.  The indexes are asked once for lookups that are equal, and what they
have found is `known` from then on. -/
def gather (s : Store) (known : List (Lookup × Option (List Nat))) (tag : Nat) :
    List Lookup → List (Nat × Nat)
  | [] => []
  | l :: ls =>
    match known.lookup l with
    | some candidates => tagged s tag candidates ++ gather s known (tag + 1) ls
    | none =>
      let candidates := s.candidates l
      tagged s tag candidates ++ gather s ((l, candidates) :: known) (tag + 1) ls

/-- Several lookups that are to be read later, each fact with the position of its lookup. -/
def ofLookups (s : Store) (ls : List Lookup) : Cursor := ⟨gather s [] 0 ls⟩

/-- Reads the first of the remaining positions that the store has a fact at. -/
def readFirst? (s : Store) : List (Nat × Nat) → Option ((Fact × Nat) × Cursor)
  | [] => none
  | (id, tag) :: rest =>
    match s.facts[id]? with
    | some f => some ((f, tag), ⟨rest⟩)
    | none => readFirst? s rest

/-- The next fact, read from the store as it is now. -/
def next? (c : Cursor) (s : Store) : Option ((Fact × Nat) × Cursor) := readFirst? s c.remaining

/-- All remaining facts, read from one store. -/
def readAll (c : Cursor) (s : Store) : List (Fact × Nat) :=
  c.remaining.filterMap fun (id, tag) => s.facts[id]?.map (·, tag)

end Cursor

end RdfReasoner
