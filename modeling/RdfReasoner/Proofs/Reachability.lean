import Mathlib.Data.List.Perm.Subperm
import Mathlib.Logic.Relation
import RdfReasoner.Proofs.Store

/-!
# What can be reached

The breadth-first search of a store finds exactly the terms that paths lead to
(`mem_breadthFirst`).  A path is a step along an edge or several of them, so its start counts as
reached only if an edge leads back to it.

Soundness needs no bound on the rounds.  Completeness does: the search has to come to the end of its
queue (`Searches`).  Every round takes one node off the queue, and a node joins it only when it is
found, so the queue and what can still be found shrink together by one in every round.
-/

namespace RdfReasoner

open Relation

/-! ## The search -/

section search

variable {α : Type} [DecidableEq α] {neighbours : α → List α} {found queue as : List α}

theorem mem_fresh {a : α} : a ∈ fresh found as ↔ a ∈ as ∧ a ∉ found := by
  simp [fresh]

theorem nodup_eraseDups (as : List α) : as.eraseDups.Nodup := by
  match as with
  | [] => exact List.nodup_nil
  | a :: as =>
    rw [List.eraseDups_cons, List.nodup_cons]
    exact ⟨by simp, nodup_eraseDups _⟩
termination_by as.length
decreasing_by exact Nat.lt_succ_of_le (List.length_filter_le _ as)

theorem nodup_fresh (found as : List α) : (fresh found as).Nodup := nodup_eraseDups _

/-- Whatever is found was found before, or a path leads to it from the queue. -/
theorem reached_of_mem_breadthFirst {rounds : Nat} {x : α}
    (h : x ∈ breadthFirst neighbours rounds found queue) :
    x ∈ found ∨ ∃ node ∈ queue, TransGen (fun a b => b ∈ neighbours a) node x := by
  induction rounds generalizing found queue with
  | zero => exact .inl h
  | succ rounds ih =>
    cases queue with
    | nil => exact .inl h
    | cons node queue =>
      have hstep : ∀ y ∈ fresh found (neighbours node), y ∈ neighbours node :=
        fun y hy => (mem_fresh.mp hy).1
      rcases ih h with hfound | ⟨start, hstart, hpath⟩
      · obtain hfound | hnew := List.mem_append.mp hfound
        · exact .inl hfound
        · exact .inr ⟨node, List.mem_cons_self, .single (hstep x hnew)⟩
      · obtain hold | hnew := List.mem_append.mp hstart
        · exact .inr ⟨start, List.mem_cons_of_mem _ hold, hpath⟩
        · exact .inr ⟨node, List.mem_cons_self, .head (hstep start hnew) hpath⟩

/-- A search on its way: nodes that were taken up have all their neighbours found, and every other
node that counts is in the queue. -/
structure Searching (neighbours : α → List α) (start : α) (found queue : List α) : Prop where
  nodup : found.Nodup
  explored : ∀ node, node = start ∨ node ∈ found →
    node ∈ queue ∨ ∀ x ∈ neighbours node, x ∈ found

/-- A round takes up the first node of the queue. -/
theorem Searching.next {start node : α} (h : Searching neighbours start found (node :: queue)) :
    Searching neighbours start (found ++ fresh found (neighbours node))
      (queue ++ fresh found (neighbours node)) := by
  refine ⟨?_, fun y hy => ?_⟩
  · refine List.nodup_append.mpr ⟨h.nodup, nodup_fresh found _, ?_⟩
    rintro a ha b hb rfl
    exact (mem_fresh.mp hb).2 ha
  · -- the neighbours of the node were found before, or they are now
    have hnode : ∀ x ∈ neighbours node, x ∈ found ++ fresh found (neighbours node) := by
      intro x hx
      by_cases hold : x ∈ found
      · exact List.mem_append_left _ hold
      · exact List.mem_append_right _ (mem_fresh.mpr ⟨hx, hold⟩)
    have hother : y = start ∨ y ∈ found →
        y ∈ queue ++ fresh found (neighbours node) ∨
          ∀ x ∈ neighbours y, x ∈ found ++ fresh found (neighbours node) := by
      intro hy
      rcases h.explored y hy with hqueue | hclosed
      · obtain rfl | hqueue := List.mem_cons.mp hqueue
        · exact .inr hnode
        · exact .inl (List.mem_append_left _ hqueue)
      · exact .inr fun x hx => List.mem_append_left _ (hclosed x hx)
    rcases hy with hstart | hy
    · exact hother (.inl hstart)
    · obtain hfound | hnew := List.mem_append.mp hy
      · exact hother (.inr hfound)
      · exact .inl (List.mem_append_right _ hnew)

omit [DecidableEq α] in
/-- At the end of the queue everything is found that a path leads to. -/
theorem Searching.mem_of_reached {start x : α} (h : Searching neighbours start found [])
    (hpath : TransGen (fun a b => b ∈ neighbours a) start x) : x ∈ found := by
  have hclosed {node : α} (hnode : node = start ∨ node ∈ found) :
      ∀ x ∈ neighbours node, x ∈ found :=
    (h.explored node hnode).resolve_left List.not_mem_nil
  induction hpath with
  | single hedge => exact hclosed (.inl rfl) _ hedge
  | tail _ hedge ih => exact hclosed (.inr ih) _ hedge

/-- The search from some state on comes to the end of its queue, and then has found this much. -/
inductive Searches (neighbours : α → List α) : (found queue result : List α) → Prop
  | done (found : List α) : Searches neighbours found [] found
  | round {found queue result : List α} (node : α)
      (h : Searches neighbours (found ++ fresh found (neighbours node))
        (queue ++ fresh found (neighbours node)) result) :
      Searches neighbours found (node :: queue) result

/-- With a round for every node in the queue and one for every node still to be found, the search
comes to the end of its queue. -/
theorem Searching.searches {start : α} {rounds : Nat} {all : List α}
    (h : Searching neighbours start found queue) (hall : ∀ node, ∀ x ∈ neighbours node, x ∈ all)
    (hfound : ∀ x ∈ found, x ∈ all) (hrounds : queue.length + all.length ≤ rounds + found.length) :
    Searches neighbours found queue (breadthFirst neighbours rounds found queue) := by
  induction rounds generalizing found queue with
  | zero =>
    have hle : found.length ≤ all.length := (h.nodup.subperm hfound).length_le
    obtain rfl : queue = [] := List.length_eq_zero_iff.mp (by omega)
    exact .done found
  | succ rounds ih =>
    cases queue with
    | nil => exact .done found
    | cons node queue =>
      refine .round node (ih h.next (List.forall_mem_append.mpr ⟨hfound, fun x hx => ?_⟩) ?_)
      · exact hall node x (mem_fresh.mp hx).1
      · simp only [List.length_append, List.length_cons] at hrounds ⊢
        omega

/-- It is on its way all along. -/
theorem Searches.searching {start : α} {result : List α}
    (hend : Searches neighbours found queue result) (h : Searching neighbours start found queue) :
    Searching neighbours start result [] := by
  induction hend with
  | done found => exact h
  | round node _ ih => exact ih h.next

omit [DecidableEq α] in
/-- A search starts with nothing found and one node to be taken up. -/
theorem searching_start (neighbours : α → List α) (start : α) :
    Searching neighbours start [] [start] := by
  refine ⟨List.nodup_nil, fun node hnode => .inl (List.mem_singleton.mpr ?_)⟩
  exact hnode.resolve_right List.not_mem_nil

/-- One round more than there are nodes to be found is enough. -/
theorem searches_breadthFirst {all : List α} (hall : ∀ node, ∀ x ∈ neighbours node, x ∈ all)
    (start : α) :
    Searches neighbours [] [start] (breadthFirst neighbours (all.length + 1) [] [start]) := by
  refine (searching_start neighbours start).searches hall (List.forall_mem_nil _) ?_
  simp only [List.length_singleton, List.length_nil]
  omega

/-- The search finds what paths lead to, if there is one round more than nodes to be found. -/
theorem mem_breadthFirst {all : List α} (hall : ∀ node, ∀ x ∈ neighbours node, x ∈ all)
    {start x : α} :
    x ∈ breadthFirst neighbours (all.length + 1) [] [start] ↔
      TransGen (fun a b => b ∈ neighbours a) start x := by
  constructor
  · intro h
    rcases reached_of_mem_breadthFirst h with hnil | ⟨node, hnode, hpath⟩
    · cases hnil
    · rwa [List.mem_singleton.mp hnode] at hpath
  · intro hpath
    have hend := (searches_breadthFirst hall start).searching (searching_start neighbours start)
    exact hend.mem_of_reached hpath

end search

/-! ## Paths through statements -/

/-- Some statement leads from one term to another along a predicate, in a context if there is one
given. -/
def Leads (S : Set Statement) (predicate : Term) (context : Option Term) (a b : Term) : Prop :=
  ∃ st ∈ S, st.subject = a ∧ st.predicate = predicate ∧ st.object = b ∧
    ∀ c, context = some c → st.context = some c

/-- More statements lead to more. -/
theorem Leads.mono {S T : Set Statement} (hST : S ⊆ T) {predicate : Term} {context : Option Term}
    {a b : Term} (h : Leads S predicate context a b) : Leads T predicate context a b := by
  obtain ⟨st, hst, hrest⟩ := h
  exact ⟨st, hST hst, hrest⟩

namespace Endpoint

/-- The term that paths start from or lead to. -/
def term : Endpoint → Term
  | subject start => start
  | object goal => goal

/-- Whether paths are followed from subjects to objects. -/
def isForward : Endpoint → Bool
  | subject _ => true
  | object _ => false

/-- One step away from an end: along a statement, or against it. -/
def Edge (S : Set Statement) (predicate : Term) (context : Option Term) :
    Endpoint → Term → Term → Prop
  | subject _, a, b => Leads S predicate context a b
  | object _, a, b => Leads S predicate context b a

/-- What is said of an end and a node that it reaches. -/
def told (predicate : Term) (context : Option Term) : Endpoint → Term → Statement
  | subject start, node => ⟨start, predicate, node, context⟩
  | object goal, node => ⟨node, predicate, goal, context⟩

end Endpoint

namespace Store

variable {s : Store} {predicate : Term} {context : Option Term}

/-- The statements of a store. -/
def content (s : Store) : Set Statement := {st | st ∈ s.statements}

/-- What a lookup finds, read off the places that it fixes. -/
theorem mem_map_lookup {l : Lookup} {f : Statement → Term} {t : Term} :
    t ∈ (s.lookup l).map (fun fact => f fact.statement) ↔
      ∃ st ∈ s.content, ((∀ a, l.subject = some a → st.subject = a) ∧
        (∀ p, l.predicate = some p → st.predicate = p) ∧
        (∀ o, l.object = some o → st.object = o) ∧
        ∀ c, l.context = some c → st.context = some c) ∧ f st = t := by
  have hfound : (s.lookup l).map (fun fact => f fact.statement) =
      (s.statements.filter l.accepts).map f := by
    rw [← map_statement_lookup, List.map_map]
    rfl
  simp only [hfound, List.mem_map, List.mem_filter, Lookup.accepts_iff, and_assoc]
  refine exists_congr fun st => and_congr_right fun _ => ?_
  constructor
  · rintro ⟨hplace, ht⟩
    exact ⟨fun a ha => Option.some.inj (hplace .subject a ha),
      fun p hp => Option.some.inj (hplace .predicate p hp),
      fun o ho => Option.some.inj (hplace .object o ho), hplace .context, ht⟩
  · rintro ⟨hsubject, hpredicate, hobject, hcontext, ht⟩
    refine ⟨fun place u hu => ?_, ht⟩
    cases place with
    | subject => exact congrArg some (hsubject u hu)
    | predicate => exact congrArg some (hpredicate u hu)
    | object => exact congrArg some (hobject u hu)
    | context => exact hcontext u hu

/-- The nodes next to a term, seen from an end, are those that an edge leads to. -/
theorem mem_neighbours {e : Endpoint} {a b : Term} :
    b ∈ s.neighbours e.isForward predicate context a ↔ e.Edge s.content predicate context a b := by
  cases e with
  | subject start =>
    rw [neighbours, Endpoint.isForward, if_pos rfl, mem_map_lookup]
    simp [Endpoint.Edge, Leads, and_left_comm, and_comm]
  | object goal =>
    rw [neighbours, Endpoint.isForward, if_neg Bool.false_ne_true, mem_map_lookup]
    simp [Endpoint.Edge, Leads, and_left_comm, and_comm]

/-- There are no more nodes to be found than there are facts. -/
theorem exists_ends (s : Store) (e : Endpoint) (predicate : Term) (context : Option Term) :
    ∃ ends : List Term, ends.length = s.size ∧
      ∀ node, ∀ x ∈ s.neighbours e.isForward predicate context node, x ∈ ends := by
  cases e with
  | subject start =>
    refine ⟨s.statements.map (·.object), by simp, fun node x hx => ?_⟩
    obtain ⟨st, hst, -, -, rfl, -⟩ := mem_neighbours.mp hx
    exact List.mem_map_of_mem hst
  | object goal =>
    refine ⟨s.statements.map (·.subject), by simp, fun node x hx => ?_⟩
    obtain ⟨st, hst, rfl, -⟩ := mem_neighbours.mp hx
    exact List.mem_map_of_mem hst

/-- What is reached from an end is found by a search that comes to the end of its queue. -/
theorem exists_searches (s : Store) (e : Endpoint) (predicate : Term) (context : Option Term) :
    ∃ nodes, Searches (s.neighbours e.isForward predicate context) [] [e.term] nodes ∧
      s.reach e predicate context = nodes.map (e.told predicate context) ∧
      ∀ node, node ∈ nodes ↔ TransGen (e.Edge s.content predicate context) e.term node := by
  obtain ⟨ends, hsize, hends⟩ := s.exists_ends e predicate context
  have hedges : (fun a b => b ∈ s.neighbours e.isForward predicate context a) =
      e.Edge s.content predicate context :=
    funext fun a => funext fun b => propext mem_neighbours
  refine ⟨_, searches_breadthFirst hends e.term, ?_, fun node => ?_⟩
  · rw [hsize]
    cases e <;> rfl
  · rw [mem_breadthFirst hends, hedges]

/-- Paths from a subject make the statements that lead from it to whatever it reaches. -/
theorem mem_reach_subject {start : Term} {st : Statement} :
    st ∈ s.reach (.subject start) predicate context ↔
      st.subject = start ∧ st.predicate = predicate ∧ st.context = context ∧
        TransGen (Leads s.content predicate context) start st.object := by
  obtain ⟨nodes, -, hreach, hnodes⟩ := s.exists_searches (.subject start) predicate context
  rw [hreach, List.mem_map]
  simp only [hnodes]
  constructor
  · rintro ⟨node, hpath, rfl⟩
    exact ⟨rfl, rfl, rfl, hpath⟩
  · rintro ⟨rfl, rfl, rfl, hpath⟩
    exact ⟨st.object, hpath, rfl⟩

/-- Paths to an object make the statements that lead to it from whatever reaches it. -/
theorem mem_reach_object {goal : Term} {st : Statement} :
    st ∈ s.reach (.object goal) predicate context ↔
      st.object = goal ∧ st.predicate = predicate ∧ st.context = context ∧
        TransGen (Leads s.content predicate context) st.subject goal := by
  obtain ⟨nodes, -, hreach, hnodes⟩ := s.exists_searches (.object goal) predicate context
  have hswap (node : Term) :
      TransGen (Endpoint.Edge s.content predicate context (.object goal)) goal node ↔
        TransGen (Leads s.content predicate context) node goal :=
    transGen_swap
  rw [hreach, List.mem_map]
  simp only [hnodes, Endpoint.term, hswap]
  constructor
  · rintro ⟨node, hpath, rfl⟩
    exact ⟨rfl, rfl, rfl, hpath⟩
  · rintro ⟨rfl, rfl, rfl, hpath⟩
    exact ⟨st.subject, hpath, rfl⟩

end Store

end RdfReasoner
