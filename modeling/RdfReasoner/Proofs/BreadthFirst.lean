import Mathlib.Order.Lattice.Nat
import RdfReasoner.Proofs.Reachability

/-!
# The order of a search

A breadth-first search finds the nodes that are near before those that are further off.  The length
of a shortest path from the start, of one edge at least, is the `distance` of a node; the start has
one only if it lies on a cycle.

`Layered` is what every round keeps from the first one on: the nodes found are in the order of their
distances, the queue holds the last of them, and nothing found is further off than one edge from any
node in the queue.  So a node that is found in a round is one edge further off than the node that is
taken up, since all nodes up to the distance of that one were found before (`Layered.mem_of_le`).

`Store.reach_exact` puts this together with what can be reached at all: the answer of a store.
-/

namespace RdfReasoner

open Relation

/-! ## Paths and distances -/

/-- A path of so many edges from a node to another. -/
inductive PathOf {α : Type} (edge : α → α → Prop) (a : α) : Nat → α → Prop
  | nil : PathOf edge a 0 a
  | concat {n : Nat} {b c : α} (h : PathOf edge a n b) (hbc : edge b c) : PathOf edge a (n + 1) c

/-- The number of edges of a shortest path, which has one at least. -/
noncomputable def distance {α : Type} (edge : α → α → Prop) (a b : α) : Nat :=
  sInf {n | 0 < n ∧ PathOf edge a n b}

section distances

variable {α : Type} {edge : α → α → Prop} {a b c : α}

theorem transGen_iff_pathOf : TransGen edge a b ↔ ∃ n, 0 < n ∧ PathOf edge a n b := by
  constructor
  · intro h
    induction h with
    | single hab => exact ⟨1, Nat.one_pos, .concat .nil hab⟩
    | tail _ hbc ih =>
      obtain ⟨n, -, hpath⟩ := ih
      exact ⟨n + 1, Nat.succ_pos n, .concat hpath hbc⟩
  · rintro ⟨n, hn, hpath⟩
    induction hpath with
    | nil => exact absurd hn (Nat.lt_irrefl 0)
    | @concat n b c hpath hbc ih =>
      cases hpath with
      | nil => exact .single hbc
      | concat _ _ => exact (ih (Nat.succ_pos _)).tail hbc

/-- A node that can be reached is at the end of a shortest path. -/
theorem pathOf_distance (h : TransGen edge a b) :
    0 < distance edge a b ∧ PathOf edge a (distance edge a b) b :=
  Nat.sInf_mem (transGen_iff_pathOf.mp h)

/-- A neighbour of the start is one edge off. -/
theorem distance_of_edge (h : edge a b) : distance edge a b = 1 := by
  have hle : distance edge a b ≤ 1 := Nat.sInf_le ⟨Nat.one_pos, .concat .nil h⟩
  have hpos := (pathOf_distance (.single h)).1
  omega

/-- A neighbour of any other node is at most one edge further off. -/
theorem distance_le_succ (h : TransGen edge a b) (hbc : edge b c) :
    distance edge a c ≤ distance edge a b + 1 :=
  Nat.sInf_le ⟨Nat.succ_pos _, .concat (pathOf_distance h).2 hbc⟩

/-- The node before the last one of a shortest path is the start, or nearer than the last. -/
theorem edge_or_nearer (h : TransGen edge a c) :
    edge a c ∨ ∃ b, TransGen edge a b ∧ edge b c ∧ distance edge a b < distance edge a c := by
  obtain ⟨hpos, hpath⟩ := pathOf_distance h
  generalize hlength : distance edge a c = n at hpos hpath
  cases hpath with
  | nil => exact absurd hpos (Nat.lt_irrefl 0)
  | @concat n b c hpath hbc =>
    rcases Nat.eq_zero_or_pos n with rfl | hn
    · cases hpath
      exact .inl hbc
    · refine .inr ⟨b, transGen_iff_pathOf.mpr ⟨n, hn, hpath⟩, hbc, ?_⟩
      have hle : distance edge a b ≤ n := Nat.sInf_le ⟨hn, hpath⟩
      omega

end distances

/-! ## Layers -/

section layers

variable {α : Type} {neighbours : α → List α} {start node x : α} {taken queue : List α}

/-- That a node is among the neighbours of another. -/
def Next (neighbours : α → List α) (a b : α) : Prop := b ∈ neighbours a

/-- A search behind its first round: nodes that were taken up, and those in the queue behind
them. -/
structure Layered (neighbours : α → List α) (start : α) (taken queue : List α) : Prop where
  nodup : (taken ++ queue).Nodup
  reached : ∀ x ∈ taken ++ queue, TransGen (Next neighbours) start x
  explored : ∀ node, node = start ∨ node ∈ taken → ∀ x ∈ neighbours node, x ∈ taken ++ queue
  sorted : (taken ++ queue).Pairwise fun a b =>
    distance (Next neighbours) start a ≤ distance (Next neighbours) start b
  close : ∀ node ∈ queue, ∀ x ∈ taken ++ queue,
    distance (Next neighbours) start x ≤ distance (Next neighbours) start node + 1

namespace Layered

/-- No node of the queue is nearer than its first one. -/
theorem le_of_mem (h : Layered neighbours start taken (node :: queue)) (hx : x ∈ node :: queue) :
    distance (Next neighbours) start node ≤ distance (Next neighbours) start x := by
  obtain rfl | hx := List.mem_cons.mp hx
  · exact Nat.le_refl _
  · exact (List.pairwise_cons.mp (List.pairwise_append.mp h.sorted).2.1).1 x hx

/-- Every node is found that is no further off than the first one of the queue. -/
theorem mem_of_le (h : Layered neighbours start taken (node :: queue))
    (hx : TransGen (Next neighbours) start x)
    (hle : distance (Next neighbours) start x ≤ distance (Next neighbours) start node) :
    x ∈ taken ++ node :: queue := by
  induction hn : distance (Next neighbours) start x using Nat.strong_induction_on generalizing x with
  | _ n ih =>
    subst hn
    rcases edge_or_nearer hx with hedge | ⟨z, hz, hedge, hlt⟩
    · exact h.explored start (.inl rfl) x hedge
    · -- the node before it is nearer, so it is not in the queue any more
      have hfound := ih _ hlt hz (by omega) rfl
      refine h.explored z (.inr ?_) x hedge
      refine (List.mem_append.mp hfound).resolve_right fun hqueue => ?_
      have := h.le_of_mem hqueue
      omega

variable [DecidableEq α]

/-- What is found in a round is one edge further off than the node that is taken up. -/
theorem distance_fresh (h : Layered neighbours start taken (node :: queue))
    (hx : x ∈ fresh (taken ++ node :: queue) (neighbours node)) :
    TransGen (Next neighbours) start x ∧
      distance (Next neighbours) start x = distance (Next neighbours) start node + 1 := by
  obtain ⟨hedge, hnew⟩ := mem_fresh.mp hx
  have hnode : TransGen (Next neighbours) start node := h.reached node (by simp)
  have hreached : TransGen (Next neighbours) start x := hnode.tail hedge
  have hle := distance_le_succ hnode hedge
  have hlt : ¬ distance (Next neighbours) start x ≤ distance (Next neighbours) start node :=
    fun hle => hnew (h.mem_of_le hreached hle)
  exact ⟨hreached, by omega⟩

/-- The first round finds the neighbours of the start. -/
theorem first (neighbours : α → List α) (start : α) :
    Layered neighbours start [] (fresh [] (neighbours start)) := by
  have hedge : ∀ x ∈ fresh [] (neighbours start), Next neighbours start x :=
    fun x hx => (mem_fresh.mp hx).1
  refine ⟨nodup_fresh [] _, fun x hx => .single (hedge x hx), fun node hnode x hx => ?_, ?_, ?_⟩
  · obtain rfl := hnode.resolve_right List.not_mem_nil
    exact mem_fresh.mpr ⟨hx, List.not_mem_nil⟩
  · refine List.Pairwise.imp_of_mem (fun ha hb _ => ?_) (nodup_fresh [] (neighbours start))
    rw [distance_of_edge (hedge _ ha), distance_of_edge (hedge _ hb)]
  · intro node _ x hx
    rw [distance_of_edge (hedge x hx)]
    omega

/-- Every other round takes up the first node of the queue. -/
theorem next (h : Layered neighbours start taken (node :: queue)) :
    Layered neighbours start (taken ++ [node])
      (queue ++ fresh (taken ++ node :: queue) (neighbours node)) := by
  have hfound : taken ++ [node] ++ (queue ++ fresh (taken ++ node :: queue) (neighbours node)) =
      (taken ++ node :: queue) ++ fresh (taken ++ node :: queue) (neighbours node) := by
    simp
  have hnew : ∀ x ∈ fresh (taken ++ node :: queue) (neighbours node),
      TransGen (Next neighbours) start x ∧
        distance (Next neighbours) start x = distance (Next neighbours) start node + 1 :=
    fun x hx => h.distance_fresh hx
  constructor <;> rw [hfound]
  · refine List.nodup_append.mpr ⟨h.nodup, nodup_fresh _ _, ?_⟩
    rintro a ha b hb rfl
    exact (mem_fresh.mp hb).2 ha
  · exact List.forall_mem_append.mpr ⟨h.reached, fun x hx => (hnew x hx).1⟩
  · intro z hz x hx
    by_cases hold : x ∈ taken ++ node :: queue
    · exact List.mem_append_left _ hold
    · rw [List.mem_append, List.mem_singleton, ← or_assoc] at hz
      rcases hz with hz | rfl
      · exact absurd (h.explored z hz x hx) hold
      · exact List.mem_append_right _ (mem_fresh.mpr ⟨hx, hold⟩)
  · refine List.pairwise_append.mpr ⟨h.sorted, ?_, fun x hx y hy => ?_⟩
    · refine List.Pairwise.imp_of_mem (fun ha hb _ => ?_) (nodup_fresh _ (neighbours node))
      rw [(hnew _ ha).2, (hnew _ hb).2]
    · rw [(hnew y hy).2]
      exact h.close node List.mem_cons_self x hx
  · intro q hq x hx
    -- neither is further off than one edge from the node that is taken up
    have hqueue : distance (Next neighbours) start node ≤ distance (Next neighbours) start q := by
      rcases List.mem_append.mp hq with hq | hq
      · exact h.le_of_mem (List.mem_cons_of_mem node hq)
      · rw [(hnew q hq).2]
        omega
    have hclose : distance (Next neighbours) start x ≤
        distance (Next neighbours) start node + 1 := by
      rcases List.mem_append.mp hx with hx | hx
      · exact h.close node List.mem_cons_self x hx
      · exact Nat.le_of_eq (hnew x hx).2
    omega

end Layered

variable [DecidableEq α]

/-- A search keeps its layers until its queue is empty. -/
theorem Searches.layered {found result : List α} (hend : Searches neighbours found queue result)
    (hfound : found = taken ++ queue) (h : Layered neighbours start taken queue) :
    Layered neighbours start result [] := by
  induction hend generalizing taken with
  | done found =>
    rw [List.append_nil] at hfound
    exact hfound ▸ h
  | round node _ ih =>
    subst hfound
    refine ih ?_ h.next
    simp

/-- What a search finds is in the order of the distances, each node once. -/
theorem Searches.sorted {result : List α} (h : Searches neighbours [] [start] result) :
    result.Nodup ∧ result.Pairwise fun a b =>
      distance (Next neighbours) start a ≤ distance (Next neighbours) start b := by
  cases h with
  | round _ hend =>
    have hlayered := hend.layered rfl (Layered.first neighbours start)
    have hnodup := hlayered.nodup
    have hsorted := hlayered.sorted
    rw [List.append_nil] at hnodup hsorted
    exact ⟨hnodup, hsorted⟩

end layers

/-! ## What a store answers -/

/-- **Reachability is answered exactly.**  From an end the search through a store comes to the end
of its queue, whatever cycles there are.  What it has found then are the nodes that a path of one or
more edges leads to from the end, along the predicate and within the context if one is given: to
objects from a subject, to subjects from an object.  Every one of them is found once, those at a
shorter distance before those at a longer one, and the end itself exactly if it lies on a cycle.
The answer tells of each node in this order, under the given context. -/
theorem Store.reach_exact (s : Store) (e : Endpoint) (predicate : Term) (context : Option Term) :
    ∃ nodes, Searches (s.neighbours e.isForward predicate context) [] [e.term] nodes ∧
      s.reach e predicate context = nodes.map (e.told predicate context) ∧
      nodes.Nodup ∧
      (∀ node, node ∈ nodes ↔ TransGen (e.Edge s.content predicate context) e.term node) ∧
      (nodes.Pairwise fun a b => distance (e.Edge s.content predicate context) e.term a ≤
        distance (e.Edge s.content predicate context) e.term b) ∧
      (e.term ∈ nodes ↔
        ∃ n, 0 < n ∧ PathOf (e.Edge s.content predicate context) e.term n e.term) := by
  obtain ⟨nodes, hsearches, hreach, hnodes⟩ := s.exists_searches e predicate context
  have hedges : Next (s.neighbours e.isForward predicate context) =
      e.Edge s.content predicate context :=
    funext fun a => funext fun b => propext mem_neighbours
  obtain ⟨hnodup, hsorted⟩ := hsearches.sorted
  rw [hedges] at hsorted
  exact ⟨nodes, hsearches, hreach, hnodup, hnodes, hsorted,
    (hnodes e.term).trans transGen_iff_pathOf⟩

end RdfReasoner
