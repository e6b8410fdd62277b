import RdfReasoner.Proofs.BreadthFirst
import RdfReasoner.Proofs.Derivation
import RdfReasoner.Proofs.Matching

/-!
# The kinds of patterns

The kind of a pattern says where its matches come from.  What they are is the same for all kinds.

A pattern over what is stored asks the storage, which gathers the lookups of a whole batch, goes
through its indexes and tags what it finds; a pattern over a list of candidates goes through the
list for every binding.  If the list is what is stored, nobody can tell them apart, however many
solutions are pulled (`Evaluator.fixed_eq_ordinary`).

A transitive pattern searches from one of its ends, from the subject where it is known, and keeps
what leads to the other one if that is known, too.  So there are three ways to the same answer,
forwards, backwards, and forwards with a goal, and they agree: from either end one finds the terms
that make the pattern hold when they are put in (`Evaluator.transitive_from_either_end`).
-/

namespace RdfReasoner

open Relation

namespace Evaluator

open Sequence

/-! ## What a pattern is resolved to -/

/-- What a pattern is resolved to for some bindings, for fixed answers. -/
def resolved (e : Evaluator) (answer : Answers) (p : Pattern) (bs : List Binding) :
    List (Except Error Binding) :=
  ((e.matchPattern p bs).result answer).items answer

/-- Resolves a pattern for some bindings and pulls at most `n` items. -/
def pull {σ : Type} (e : Evaluator) (responder : Responder σ) (p : Pattern) (bs : List Binding)
    (n : Nat) : StateM σ (List (Except Error Binding)) := do
  (← (e.matchPattern p bs).run responder).take responder n

/-- Over a store the first items are pulled of what a pattern is resolved to. -/
theorem pull_store (e : Evaluator) (s : Store) (p : Pattern) (bs : List Binding) (n : Nat) :
    e.pull Store.responder p bs n s = ((e.resolved s.answer p bs).take n, s) := by
  have hsteady : ∀ q, Store.responder q s = (s.answer q, s) := fun _ => rfl
  show ((e.matchPattern p bs).run Store.responder s).1.take Store.responder n
    ((e.matchPattern p bs).run Store.responder s).2 = _
  rw [Inquiry.run_eq_result hsteady, take_eq_items hsteady]
  rfl

/-- A lookup that accepts some statements matches them. -/
theorem getD_extensions (p : Pattern) (b : Binding) (statements : List Statement) :
    (((p.lookup? b).map fun l => (extensions p b l statements).map
        (Except.ok (ε := Error))).getD []) =
      (statements.filterMap (p.match? b)).map .ok := by
  rcases hl : p.lookup? b with _ | l
  · have hnone : p.match? b = fun _ => none := by
      funext st
      rw [Pattern.match?, hl, Option.bind_none]
    rw [hnone, List.filterMap_none]
    rfl
  · rw [Option.map_some, Option.getD_some, extensions, List.filterMap_filter]
    congr 2
    funext st
    rw [Pattern.match?, hl, Option.bind_some]

/-- **Candidates and stored statements agree.**  A pattern finds the same solutions in the same
order, whether it goes through what is stored as a list of candidates or asks the store itself, and
whichever way its lookups are put: for binding after binding what the statements make of it that
match, in the order in which they are stored.  This holds for as many items as are pulled. -/
theorem fixed_eq_ordinary (e e' : Evaluator) (s : Store) (p : Pattern) (bs : List Binding)
    (n : Nat) :
    e.pull Store.responder { p with kind := .fixed s.statements } bs n s =
        e'.pull Store.responder { p with kind := .ordinary } bs n s ∧
      e'.pull Store.responder { p with kind := .ordinary } bs n s =
        (((bs.flatMap fun b => s.statements.filterMap (p.match? b)).map .ok).take n, s) := by
  -- neither the lookup nor the binding looks at the kind
  have hmatch (kind : PatternKind) :
      (bs.flatMap fun b => ((({ p with kind } : Pattern).lookup? b).map fun l =>
        (extensions { p with kind } b l s.statements).map (Except.ok (ε := Error))).getD []) =
      (bs.flatMap fun b => s.statements.filterMap (p.match? b)).map .ok := by
    rw [List.map_flatMap]
    exact congrArg (List.flatMap · bs) (funext fun b => getD_extensions _ b s.statements)
  have hstored : e'.resolved s.answer { p with kind := .ordinary } bs =
      (bs.flatMap fun b => s.statements.filterMap (p.match? b)).map .ok := by
    rw [← hmatch .ordinary, ← s.answerWith_resolver]
    exact e'.items_ordinary s.resolver s _ bs
  have hlisted : e.resolved s.answer { p with kind := .fixed s.statements } bs =
      (bs.flatMap fun b => s.statements.filterMap (p.match? b)).map .ok := by
    rw [← hmatch (.fixed s.statements)]
    exact items_fixed s.answer _ s.statements bs
  rw [pull_store, pull_store, hstored, hlisted]
  exact ⟨rfl, rfl⟩

end Evaluator

/-! ## Ends of transitive patterns -/

namespace Pattern

variable {p : Pattern} {b : Binding}

/-- The slot of the end that a search starts from. -/
def nearSlot (p : Pattern) : Endpoint → Slot
  | .subject _ => p.subject
  | .object _ => p.object

/-- The slot of the other end. -/
def farSlot (p : Pattern) : Endpoint → Slot
  | .subject _ => p.object
  | .object _ => p.subject

/-- A statement whose terms the slots have already leaves a binding as it is. -/
theorem bind?_eq_self {st : Statement}
    (h : ∀ place slot t, p.slotAt place = some slot → st.termAt place = some t →
      slot.resolve b = some t) : p.bind? b st = some b :=
  bind?_of_isLeast
    ⟨⟨le_refl b, fun place _ v t hslot ht => h place (.var v) t hslot ht⟩, fun _ hb' => hb'.1⟩

/-- If a variable is all that was missing, it is all that is added. -/
theorem bind?_eq_set {st : Statement} {v : String} {t : Term} (hv : b.held? v = none)
    (h : ∀ place slot u, p.slotAt place = some slot → st.termAt place = some u →
      slot.resolve (b.set v t) = some u)
    (place : Position) (hslot : p.slotAt place = some (.var v)) (ht : st.termAt place = some t) :
    p.bind? b st = some (b.set v t) := by
  obtain ⟨⟨hle, -⟩, hleast⟩ := Binding.isLeast_put hv (some t)
  refine bind?_of_isLeast ⟨⟨hle, fun place _ w u hw hu => h place (.var w) u hw hu⟩, ?_⟩
  rintro b' ⟨hle', hall⟩
  exact hleast ⟨hle', Binding.get?_eq_some.mp (hall place place.mem_all v t hslot ht)⟩

end Pattern

namespace Slot

variable {b : Binding} {v : String}

theorem resolve_set_self (b : Binding) (v : String) (t : Term) :
    (var v).resolve (b.set v t) = some t := by
  rw [resolve, Binding.get?, Binding.set, Binding.held?_put, if_pos rfl]
  rfl

theorem resolve_set_of_ne {slot : Slot} (h : slot ≠ var v) (t : Term) :
    slot.resolve (b.set v t) = slot.resolve b := by
  cases slot with
  | var w =>
    have hne : w ≠ v := fun heq => h (heq ▸ rfl)
    rw [resolve, resolve, Binding.get?, Binding.get?, Binding.set, Binding.held?_put, if_neg hne]
  | const c => rfl

/-- A slot that has a term does not hold a variable without one. -/
theorem ne_var_of_resolve {slot : Slot} {t : Term} (hv : b.held? v = none)
    (h : slot.resolve b = some t) : slot ≠ var v := by
  rintro rfl
  rw [resolve, Binding.get?, hv] at h
  cases h

end Slot

/-! ## Paths from either end -/

namespace Endpoint

variable {predicate : Term} {context : Option Term} {known : Endpoint} {node : Term}

/-- What is looked for when nothing but one end is known. -/
def lookup (predicate : Term) (context : Option Term) : Endpoint → Lookup
  | subject start => ⟨some start, some predicate, none, context⟩
  | object goal => ⟨none, some predicate, some goal, context⟩

theorem reachKey?_lookup :
    Evaluator.reachKey? (known.lookup predicate context) = some (known, predicate, context) := by
  cases known <;> rfl

/-- Whatever is told of the end is looked for. -/
theorem accepts_told :
    (known.lookup predicate context).accepts (known.told predicate context node) = true := by
  rw [Lookup.accepts_iff]
  intro place t ht
  cases known <;> cases place <;> first | exact ht | cases ht

/-- Steps away from an end make a path from the subject to the object that is told of it. -/
theorem transGen_edge_iff {S : Set Statement} :
    TransGen (known.Edge S predicate context) known.term node ↔
      TransGen (Leads S predicate context) (known.told predicate context node).subject
        (known.told predicate context node).object := by
  cases known with
  | subject start => exact Iff.rfl
  | object goal => exact transGen_swap

end Endpoint

/-- Paths start at subjects. -/
theorem isResource_of_path {s : Store} (hformed : ∀ st ∈ s.statements, st.isWellFormed = true)
    {predicate x y : Term} {context : Option Term}
    (h : TransGen (Leads s.content predicate context) x y) : x.isResource = true := by
  obtain ⟨z, ⟨st, hst, rfl, -⟩, -⟩ := TransGen.head'_iff.mp h
  have hst' := hformed st hst
  rw [Statement.isWellFormed, Bool.and_eq_true, Bool.and_eq_true] at hst'
  exact hst'.1.1

namespace Pattern

variable {p : Pattern} {b : Binding} {predicate : Term} {context : Option Term}

/-- With a predicate, and with a subject that can be one or none, a pattern turns into a lookup. -/
theorem lookup?_eq_some (hsubject : (p.subject.resolve b).all Term.isResource = true)
    (hpredicate : p.predicate.resolve b = some predicate) (hiri : predicate.isIri = true) :
    p.lookup? b = some ⟨p.subject.resolve b, some predicate, p.object.resolve b,
      p.context.bind (·.resolve b)⟩ := by
  rw [lookup?, hpredicate]
  exact if_pos (by rw [hsubject, Option.all_some, hiri]; rfl)

/-- A subject that cannot be one leads to no lookup. -/
theorem lookup?_eq_none {x : Term} (hsubject : p.subject.resolve b = some x)
    (hx : x.isResource ≠ true) : p.lookup? b = none := by
  rw [lookup?, hsubject]
  exact if_neg (by simp [hx])

/-- The slots that resolve to the terms of a statement do so place by place. -/
theorem resolve_of_places {st : Statement} (hsubject : p.subject.resolve b = some st.subject)
    (hpredicate : p.predicate.resolve b = some st.predicate)
    (hobject : p.object.resolve b = some st.object)
    (hcontext : p.context.bind (·.resolve b) = st.context) (place : Position) (slot : Slot)
    (t : Term) (hslot : p.slotAt place = some slot) (ht : st.termAt place = some t) :
    slot.resolve b = some t := by
  cases place with
  | subject =>
    obtain rfl := Option.some.inj hslot
    exact hsubject.trans ht
  | predicate =>
    obtain rfl := Option.some.inj hslot
    exact hpredicate.trans ht
  | object =>
    obtain rfl := Option.some.inj hslot
    exact hobject.trans ht
  | context =>
    have hslot : p.context = some slot := hslot
    rw [hslot, Option.bind_some] at hcontext
    exact hcontext.trans ht

/-- One end of a pattern is known, and a variable stands at the other end and for no context. -/
structure OpenAt (p : Pattern) (b : Binding) (known : Endpoint) (v : String) : Prop where
  near : (p.nearSlot known).resolve b = some known.term
  far : p.farSlot known = .var v
  unbound : b.held? v = none
  not_context : p.context ≠ some (.var v)

namespace OpenAt

variable {known : Endpoint} {v : String}

/-- With a term for the variable both ends are known, and nothing else has changed. -/
theorem resolve (h : p.OpenAt b known v) (hpredicate : p.predicate.resolve b = some predicate)
    (t : Term) :
    p.subject.resolve (b.set v t) =
        some (known.told predicate (p.context.bind (·.resolve b)) t).subject ∧
      p.predicate.resolve (b.set v t) = some predicate ∧
      p.object.resolve (b.set v t) =
        some (known.told predicate (p.context.bind (·.resolve b)) t).object ∧
      p.context.bind (·.resolve (b.set v t)) = p.context.bind (·.resolve b) := by
  have hnear : (p.nearSlot known).resolve (b.set v t) = some known.term := by
    rw [Slot.resolve_set_of_ne (Slot.ne_var_of_resolve h.unbound h.near), h.near]
  have hfar : (p.farSlot known).resolve (b.set v t) = some t := by
    rw [h.far, Slot.resolve_set_self]
  have hpredicate' : p.predicate.resolve (b.set v t) = some predicate := by
    rw [Slot.resolve_set_of_ne (Slot.ne_var_of_resolve h.unbound hpredicate), hpredicate]
  have hcontext : p.context.bind (·.resolve (b.set v t)) = p.context.bind (·.resolve b) := by
    rcases hslot : p.context with _ | slot
    · rfl
    · have hne : slot ≠ .var v := fun heq => h.not_context (heq ▸ hslot)
      exact Slot.resolve_set_of_ne hne t
  cases known with
  | subject start => exact ⟨hnear, hpredicate', hfar, hcontext⟩
  | object goal => exact ⟨hfar, hpredicate', hnear, hcontext⟩

/-- Nothing but the known end is looked for. -/
theorem lookup? (h : p.OpenAt b known v)
    (hsubject : (p.subject.resolve b).all Term.isResource = true)
    (hpredicate : p.predicate.resolve b = some predicate) (hiri : predicate.isIri = true) :
    p.lookup? b = some (known.lookup predicate (p.context.bind (·.resolve b))) := by
  have hopen : (p.farSlot known).resolve b = none := by
    rw [h.far, Slot.resolve, Binding.get?, h.unbound]
    rfl
  rw [lookup?_eq_some hsubject hpredicate hiri]
  have hnear := h.near
  cases known with
  | subject start =>
    rw [nearSlot] at hnear
    rw [farSlot] at hopen
    rw [hnear, hopen]
    rfl
  | object goal =>
    rw [nearSlot] at hnear
    rw [farSlot] at hopen
    rw [hnear, hopen]
    rfl

/-- What is told of the known end adds the variable to the binding. -/
theorem bind?_told (h : p.OpenAt b known v) (hpredicate : p.predicate.resolve b = some predicate)
    (t : Term) :
    p.bind? b (known.told predicate (p.context.bind (·.resolve b)) t) = some (b.set v t) := by
  obtain ⟨hsubject, hpredicate', hobject, hcontext⟩ := h.resolve hpredicate t
  have hfar := h.far
  cases known with
  | subject start =>
    have hplaces := resolve_of_places hsubject hpredicate' hobject hcontext
    exact bind?_eq_set h.unbound hplaces .object (congrArg some hfar) rfl
  | object goal =>
    have hplaces := resolve_of_places hsubject hpredicate' hobject hcontext
    exact bind?_eq_set h.unbound hplaces .subject (congrArg some hfar) rfl

end OpenAt

end Pattern

namespace Evaluator

section transitive

variable {e : Evaluator} (port s : Store) {p : Pattern} {b : Binding} {predicate : Term}
  (hreaches : e.reaches = true) (hkind : p.kind = .transitive)
include hreaches hkind

/-- What a search from an end has found extends the binding. -/
theorem resolveOne_transitive {l : Lookup} (hl : p.lookup? b = some l) {known : Endpoint}
    {context : Option Term} (hkey : reachKey? l = some (known, predicate, context)) :
    e.resolveOne s.resolver port p b =
      (extensions p b l (s.reach known predicate context)).map .ok := by
  rw [resolveOne, hkind]
  simp only [hreaches, if_true, hl, Option.map_some, Option.getD_some, hkey]
  rfl

theorem resolveOne_eq_nil (hl : p.lookup? b = none) : e.resolveOne s.resolver port p b = [] := by
  rw [resolveOne, hkind]
  simp only [hreaches, if_true, hl, Option.map_none, Option.getD_none]

variable {s} (hformed : ∀ st ∈ s.statements, st.isWellFormed = true)
  (hpredicate : p.predicate.resolve b = some predicate) (hiri : predicate.isIri = true)
include hformed hpredicate hiri

/-- With both ends known a transitive pattern is a test. -/
theorem resolveOne_between {x y : Term} (hsubject : p.subject.resolve b = some x)
    (hobject : p.object.resolve b = some y) :
    (TransGen (Leads s.content predicate (p.context.bind (·.resolve b))) x y →
      e.resolveOne s.resolver port p b = [.ok b]) ∧
    (¬TransGen (Leads s.content predicate (p.context.bind (·.resolve b))) x y →
      e.resolveOne s.resolver port p b = []) := by
  by_cases hx : x.isResource = true
  · obtain ⟨nodes, -, hreach, hnodup, hnodes, -⟩ :=
      s.reach_exact (.subject x) predicate (p.context.bind (·.resolve b))
    have hl := p.lookup?_eq_some (by rw [hsubject]; exact hx) hpredicate hiri
    rw [hsubject, hobject] at hl
    -- of all that the search finds only the goal is accepted
    have haccepts (node : Term) :
        Lookup.accepts ⟨some x, some predicate, some y, p.context.bind (·.resolve b)⟩
          ((Endpoint.subject x).told predicate (p.context.bind (·.resolve b)) node) =
        decide (node = y) := by
      rw [Bool.eq_iff_iff, Lookup.accepts_iff, decide_eq_true_eq]
      constructor
      · intro h
        exact Option.some.inj (h .object y rfl)
      · rintro rfl place t ht
        cases place <;> exact ht
    have hbind : p.bind? b ((Endpoint.subject x).told predicate (p.context.bind (·.resolve b)) y) =
        some b :=
      Pattern.bind?_eq_self (Pattern.resolve_of_places hsubject hpredicate hobject rfl)
    have hfound : e.resolveOne s.resolver port p b = if y ∈ nodes then [.ok b] else [] := by
      rw [resolveOne_transitive port s hreaches hkind hl rfl, hreach, extensions, List.filter_map]
      simp only [Function.comp_def, haccepts]
      rw [List.filter_eq, hnodup.count]
      split
      · simp only [List.replicate_one, List.map_singleton, List.filterMap_cons, hbind,
          List.filterMap_nil]
      · rfl
    have hgoal : y ∈ nodes ↔
        TransGen (Leads s.content predicate (p.context.bind (·.resolve b))) x y := hnodes y
    rw [hfound, ← hgoal]
    exact ⟨fun hmem => if_pos hmem, fun hmem => if_neg hmem⟩
  · have hnone := resolveOne_eq_nil port s hreaches hkind (Pattern.lookup?_eq_none hsubject hx)
    exact ⟨fun hpath => absurd (isResource_of_path hformed hpath) hx, fun _ => hnone⟩

/-- With one end known a transitive pattern finds the terms at the other ends of the paths. -/
theorem resolveOne_open {known : Endpoint} {v : String} (h : p.OpenAt b known v) :
    ∃ terms : List Term, terms.Nodup ∧
      e.resolveOne s.resolver port p b = terms.map (fun t => .ok (b.set v t)) ∧
      ∀ t, t ∈ terms ↔
        TransGen (Leads s.content predicate (p.context.bind (·.resolve b)))
          (known.told predicate (p.context.bind (·.resolve b)) t).subject
          (known.told predicate (p.context.bind (·.resolve b)) t).object := by
  by_cases hsubject : (p.subject.resolve b).all Term.isResource = true
  · obtain ⟨nodes, -, hreach, hnodup, hnodes, -⟩ :=
      s.reach_exact known predicate (p.context.bind (·.resolve b))
    refine ⟨nodes, hnodup, ?_, fun t => (hnodes t).trans Endpoint.transGen_edge_iff⟩
    rw [resolveOne_transitive port s hreaches hkind (h.lookup? hsubject hpredicate hiri)
      Endpoint.reachKey?_lookup, hreach, extensions, List.filter_eq_self.mpr, List.filterMap_map]
    · simp only [Function.comp_def, h.bind?_told hpredicate, List.filterMap_eq_map', List.map_map]
    · intro st hst
      obtain ⟨node, -, rfl⟩ := List.mem_map.mp hst
      exact Endpoint.accepts_told
  · -- what cannot be a subject is at the beginning of no path
    rcases hx : p.subject.resolve b with _ | x
    · rw [hx] at hsubject
      exact absurd rfl hsubject
    · rw [hx] at hsubject
      refine ⟨[], List.nodup_nil, ?_, fun t => ⟨fun hmem => absurd hmem List.not_mem_nil, ?_⟩⟩
      · exact resolveOne_eq_nil port s hreaches hkind (Pattern.lookup?_eq_none hx hsubject)
      · intro hpath
        have hsame : p.subject.resolve (b.set v t) = some x := by
          rw [Slot.resolve_set_of_ne (Slot.ne_var_of_resolve h.unbound hx), hx]
        rw [(h.resolve hpredicate t).1, Option.some.injEq] at hsame
        rw [hsame] at hpath
        exact absurd (isResource_of_path hformed hpath) hsubject

end transitive

/-- **Transitive patterns answer the same from either end.**  Let a transitive pattern be resolved
over a store of well-formed statements that answers for the paths, for a batch of bindings.  What
becomes of a binding does not depend on the others in the batch.  If both ends of the pattern are
known under a binding, the binding itself is found, once, if a path along the predicate leads from
the subject to the object, within the context where that is known; else nothing is found.  If one
end is known, whichever it is, and a variable at the other end is not bound, the binding is extended
by every term, each once, with which the extended binding finds something, and by no other term. -/
theorem transitive_from_either_end {e : Evaluator} (hreaches : e.reaches = true) {s : Store}
    (hformed : ∀ st ∈ s.statements, st.isWellFormed = true) (port : Store) {p : Pattern}
    (hkind : p.kind = .transitive) :
    let found := e.resolved (port.answerWith s.resolver) p
    (∀ bs, found bs = bs.flatMap fun b => found [b]) ∧
    ∀ b predicate, p.predicate.resolve b = some predicate → predicate.isIri = true →
      (∀ x y, p.subject.resolve b = some x → p.object.resolve b = some y →
        (TransGen (Leads s.content predicate (p.context.bind (·.resolve b))) x y →
          found [b] = [.ok b]) ∧
        (¬TransGen (Leads s.content predicate (p.context.bind (·.resolve b))) x y →
          found [b] = [])) ∧
      ∀ known v, p.OpenAt b known v →
        ∃ terms : List Term, terms.Nodup ∧ found [b] = terms.map (fun t => .ok (b.set v t)) ∧
          ∀ t, t ∈ terms ↔ ∃ b', .ok b' ∈ found [b.set v t] := by
  intro found
  have hresolved (bs : List Binding) : found bs = bs.flatMap (e.resolveOne s.resolver port p) :=
    e.items_matchPattern_resolver s.resolver port p bs
  have hone (b : Binding) : found [b] = e.resolveOne s.resolver port p b := by
    rw [hresolved, List.flatMap_singleton]
  refine ⟨fun bs => ?_, fun b predicate hpredicate hiri => ⟨?_, fun known v h => ?_⟩⟩
  · simp only [hone]
    exact hresolved bs
  · intro x y hsubject hobject
    rw [hone]
    exact resolveOne_between port hreaches hkind hformed hpredicate hiri hsubject hobject
  · obtain ⟨terms, hnodup, hterms, hmem⟩ :=
      resolveOne_open port hreaches hkind hformed hpredicate hiri h
    refine ⟨terms, hnodup, by rw [hone, hterms], fun t => ?_⟩
    -- with a term for the variable the pattern is a test
    obtain ⟨hsubject, hpredicate', hobject, hcontext⟩ := h.resolve hpredicate t
    obtain ⟨hpath, hnone⟩ :=
      resolveOne_between port hreaches hkind hformed hpredicate' hiri hsubject hobject
    rw [hcontext] at hpath hnone
    rw [hone, hmem]
    constructor
    · intro h
      rw [hpath h]
      exact ⟨_, List.mem_singleton_self _⟩
    · rintro ⟨b', hb'⟩
      by_contra h
      rw [hnone h] at hb'
      cases hb'

end Evaluator

namespace Ferry

/-- Ferries go around three places, and from one of them to a reef in summer. -/
def circle : Store :=
  let ferry (departure arrival : String) (season : Option Term) : Fact :=
    ⟨⟨.iri departure, .iri "ferry", .iri arrival, season⟩, {}⟩
  (Store.empty.insertAll .min
    [ferry "north" "isle" none, ferry "isle" "cape" none, ferry "cape" "north" none,
      ferry "cape" "reef" (some (.iri "summer"))]).1

/-- Where ferries lead to, in whatever season. -/
def crossing : Pattern where
  subject := .var "x"
  predicate := .const (.iri "ferry")
  object := .var "y"
  context := some (.var "season")
  kind := .transitive

/-- Around the circle one gets from the north to the reef. -/
theorem north_leads_to_reef :
    TransGen (Leads circle.content (.iri "ferry") none) (.iri "north") (.iri "reef") := by
  have hstep (departure arrival : String) (season : Option Term)
      (h : ⟨.iri departure, .iri "ferry", .iri arrival, season⟩ ∈ circle.statements) :
      Leads circle.content (.iri "ferry") none (.iri departure) (.iri arrival) :=
    ⟨_, h, rfl, rfl, rfl, fun _ hc => (Option.some_ne_none _ hc.symm).elim⟩
  exact ((TransGen.single (hstep "north" "isle" none (by decide +kernel))).tail
    (hstep "isle" "cape" none (by decide +kernel))).tail
    (hstep "cape" "reef" (some (.iri "summer")) (by decide +kernel))

set_option maxRecDepth 100000 in
/-- From the north one gets to the reef and back to the north; to the reef one gets from the north
and not from the reef. -/
theorem found_crossing :
    let found := (evaluator true 2 (by decide)).resolved (Store.empty.answerWith circle.resolver)
      crossing
    let north := Binding.empty.set "x" (.iri "north")
    let reef := Binding.empty.set "y" (.iri "reef")
    found [north, reef] = found [north] ++ found [reef] ∧
      found [reef.set "x" (.iri "north")] = [.ok (reef.set "x" (.iri "north"))] ∧
      (∃ terms : List Term, terms.Nodup ∧
        found [north] = terms.map (fun t => .ok (north.set "y" t)) ∧
        Term.iri "north" ∈ terms ∧ Term.iri "reef" ∈ terms) ∧
      ∃ terms : List Term, terms.Nodup ∧
        found [reef] = terms.map (fun t => .ok (reef.set "x" t)) ∧
        Term.iri "north" ∈ terms ∧ Term.iri "reef" ∉ terms := by
  intro found north reef
  have hformed : ∀ st ∈ circle.statements, st.isWellFormed = true := by decide +kernel
  obtain ⟨hbatch, hone⟩ := Evaluator.transitive_from_either_end
    (e := evaluator true 2 (by decide)) rfl hformed Store.empty (p := crossing) rfl
  refine ⟨?_, ?_, ?_, ?_⟩
  · exact (hbatch [north, reef]).trans (by rw [List.flatMap_cons, List.flatMap_singleton])
  · exact ((hone _ (.iri "ferry") rfl rfl).1 (.iri "north") (.iri "reef") (by decide +kernel)
      (by decide +kernel)).1 north_leads_to_reef
  · obtain ⟨terms, hnodup, hfound, hmem⟩ := (hone north (.iri "ferry") rfl rfl).2
      (.subject (.iri "north")) "y" ⟨by decide +kernel, rfl, by decide +kernel, by decide +kernel⟩
    refine ⟨terms, hnodup, hfound, (hmem _).mpr ⟨north.set "y" (.iri "north"), ?_⟩,
      (hmem _).mpr ⟨north.set "y" (.iri "reef"), ?_⟩⟩
    · decide +kernel
    · decide +kernel
  · obtain ⟨terms, hnodup, hfound, hmem⟩ := (hone reef (.iri "ferry") rfl rfl).2
      (.object (.iri "reef")) "x" ⟨by decide +kernel, rfl, by decide +kernel, by decide +kernel⟩
    refine ⟨terms, hnodup, hfound, (hmem _).mpr ⟨reef.set "x" (.iri "north"), ?_⟩, fun hreef => ?_⟩
    · decide +kernel
    · have hnothing : found [reef.set "x" (.iri "reef")] = [] := by decide +kernel
      obtain ⟨b', hb'⟩ : ∃ b', .ok b' ∈ found [reef.set "x" (.iri "reef")] := (hmem _).mp hreef
      rw [hnothing] at hb'
      cases hb'

end Ferry

end RdfReasoner
