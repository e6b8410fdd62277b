import RdfReasoner.Proofs.Meaning

/-!
# What solutions rest on

A solution carries what it was started from and what its patterns found, and nothing else
(`Binding.Extends`).  No operator takes anything back: once a statement fits a pattern under a
binding, it fits under every extension of it (`Pattern.Fits.mono`).  So at the end every pattern of
the query has something in the store that it fits under the solution as a whole, whichever operators
stand between the pattern and the solution (`Evaluator.grounded_of_mem_passedOn`).

The context is the one place that a statement may lack.  The variable of a missing context is left
as it is, so under the solution it may have a value that some other pattern found, or none.
-/

namespace RdfReasoner

open Relation

/-! ## Variables -/

/-- The variable in a slot, if there is one. -/
def Slot.vars : Slot → List String
  | .var name => [name]
  | .const _ => []

/-- The variables in the slots of a pattern. -/
def Pattern.vars (p : Pattern) : List String :=
  Position.all.flatMap fun place => (p.slotAt place).toList.flatMap Slot.vars

/-- The patterns of a query from left to right. -/
def Query.patterns : Query → List Pattern
  | .pattern p => [p]
  | .join left right => left.patterns ++ right.patterns
  | .filter _ child => child.patterns
  | .slice _ _ child => child.patterns

/-- The variables in the patterns of a query. -/
def Query.vars (q : Query) : List String := q.patterns.flatMap Pattern.vars

theorem Pattern.mem_vars {p : Pattern} {place : Position} {name : String}
    (h : p.slotAt place = some (.var name)) : name ∈ p.vars := by
  refine List.mem_flatMap.mpr ⟨place, place.mem_all, ?_⟩
  rw [h]
  exact List.mem_singleton_self name

@[simp] theorem Query.patterns_unsliced (q : Query) : q.unsliced.patterns = q.patterns := by
  induction q with
  | pattern p => rfl
  | join left right ihl ihr => rw [unsliced, patterns, ihl, ihr, patterns]
  | filter f child ih => exact ih
  | slice offset limit child ih => exact ih

/-! ## Extensions of a binding -/

namespace Binding

/-- Some variables are given terms that they did not hold before; all else stays as it is. -/
def Extends (names : List String) (b b' : Binding) : Prop :=
  ∀ v, b'.held? v = b.held? v ∨ (b.held? v = none ∧ v ∈ names ∧ ∃ t, b'.get? v = some t)

namespace Extends

variable {names : List String} {b b' b'' : Binding}

theorem refl (names : List String) (b : Binding) : b.Extends names b := fun _ => .inl rfl

theorem mono {others : List String} (h : b.Extends names b') (hnames : names ⊆ others) :
    b.Extends others b' := by
  intro v
  exact (h v).imp_right fun ⟨hnone, hv, ht⟩ => ⟨hnone, hnames hv, ht⟩

theorem trans (h : b.Extends names b') (h' : b'.Extends names b'') : b.Extends names b'' := by
  intro v
  rcases h' v with hsame | ⟨hnone, hv, ht⟩
  · rcases h v with hsame' | ⟨hnone, hv, t, ht⟩
    · exact .inl (hsame.trans hsame')
    · refine .inr ⟨hnone, hv, t, ?_⟩
      rw [get?, hsame]
      exact ht
  · rcases h v with hsame' | ⟨-, -, t, ht'⟩
    · exact .inr ⟨hsame' ▸ hnone, hv, ht⟩
    · rw [get?, hnone] at ht'
      cases ht'

/-- Terms are kept. -/
theorem get? (h : b.Extends names b') {v : String} {t : Term} (ht : b.get? v = some t) :
    b'.get? v = some t := by
  rcases h v with hsame | ⟨hnone, -, -⟩
  · rw [Binding.get?, hsame]
    exact ht
  · rw [Binding.get?, hnone] at ht
    cases ht

/-- Nothing is held that was not, except by the given variables. -/
theorem contains (h : b.Extends names b') {v : String} (hv : b'.contains v = true) :
    b.contains v = true ∨ v ∈ names := by
  rcases h v with hsame | ⟨-, hmem, -⟩
  · left
    rw [Binding.contains, ← hsame]
    exact hv
  · exact .inr hmem

/-- What a slot resolves to is kept. -/
theorem resolve (h : b.Extends names b') {slot : Slot} {t : Term} (ht : slot.resolve b = some t) :
    slot.resolve b' = some t := by
  cases slot with
  | var name => exact h.get? ht
  | const term => exact ht

end Extends

/-- A variable that is bound with success holds the term, and nothing else has changed. -/
theorem extends_of_bind {b b' : Binding} {name : String} {t : Term}
    (h : b.bind name t = .ok b') : b.Extends [name] b' ∧ b'.get? name = some t := by
  rw [bind, add] at h
  split at h
  · next hnone =>
    obtain rfl := Except.ok.inj h
    have hname : (b.put name (some t)).get? name = some t := by
      rw [get?, held?_put, if_pos rfl]
      rfl
    refine ⟨fun v => ?_, hname⟩
    by_cases hv : v = name
    · subst hv
      exact .inr ⟨hnone, List.mem_singleton_self v, t, hname⟩
    · exact .inl (by rw [held?_put, if_neg hv])
  · next held hheld =>
    split at h
    · next heq =>
      obtain rfl := Except.ok.inj h
      refine ⟨.refl _ b, ?_⟩
      rw [get?, hheld, heq]
      rfl
    · cases h

/-- Leaving out entries of a list sorted by name leaves out the entry of a name, or nothing of
it. -/
theorem lookup_filter {α : Type} {p : α → Bool} {l : List (String × α)}
    (h : l.Pairwise (·.1 < ·.1)) (name : String) :
    (l.filter (p ·.2)).lookup name = (l.lookup name).filter p := by
  induction l with
  | nil => rfl
  | cons e l ih =>
    obtain ⟨n, v⟩ := e
    rw [List.pairwise_cons] at h
    rw [List.filter_cons]
    by_cases hname : name = n
    · -- further entries have other names
      subst hname
      have hrest : l.lookup name = none := lookup_eq_none_of_lt h.1
      rw [List.lookup_cons_self]
      split
      · next hp => rw [List.lookup_cons_self, Option.filter_some, if_pos hp]
      · next hp => rw [ih h.2, hrest, Option.filter_some, if_neg hp, Option.filter_none]
    · rw [lookup_cons_of_ne hname]
      split
      · rw [lookup_cons_of_ne hname, ih h.2]
      · exact ih h.2

theorem held?_sanitized (b : Binding) (v : String) :
    b.sanitized.held? v = (b.held? v).filter Option.isSome :=
  lookup_filter b.sorted v

/-- Leaving out what has no value leaves every value where it is. -/
theorem get?_sanitized (b : Binding) (v : String) : b.sanitized.get? v = b.get? v := by
  rw [get?, held?_sanitized, get?]
  rcases b.held? v with _ | _ | t <;> rfl

/-- Then a variable holds a term or nothing at all. -/
theorem isBound_of_contains_sanitized {b : Binding} {v : String}
    (h : b.sanitized.contains v = true) : b.isBound v = true := by
  rw [contains, held?_sanitized] at h
  rw [isBound, get?]
  rcases hheld : b.held? v with _ | _ | t
  · rw [hheld] at h
    cases h
  · rw [hheld] at h
    cases h
  · rfl

end Binding

/-! ## What a pattern asks for -/

/-- A statement has the terms of the slots of a pattern under a binding.  A slot for the context
that holds a variable admits a statement without a context. -/
structure Pattern.Fits (p : Pattern) (b : Binding) (st : Statement) : Prop where
  subject : p.subject.resolve b = some st.subject
  predicate : p.predicate.resolve b = some st.predicate
  object : p.object.resolve b = some st.object
  context : ∀ slot, p.context = some slot →
    slot.resolve b = st.context ∨ (st.context = none ∧ ∃ v, slot = .var v)

/-- The context that a pattern asks for by itself. -/
def Pattern.ownContext? (p : Pattern) : Option Term :=
  match p.context with
  | some (.const c) => some c
  | _ => none

/-- What a pattern asks for under a binding is there: a statement of the right kind that fits it, or
a path along its predicate from one of its ends to the other. -/
def Pattern.Grounded (S : Set Statement) (p : Pattern) (b : Binding) : Prop :=
  match p.kind with
  | .ordinary => ∃ st ∈ S, p.Fits b st
  | .fixed candidates => ∃ st ∈ candidates, p.Fits b st
  | .transitive => ∃ subject predicate object, p.subject.resolve b = some subject ∧
      p.predicate.resolve b = some predicate ∧ p.object.resolve b = some object ∧
      TransGen (Leads S predicate p.ownContext?) subject object

namespace Pattern

variable {p : Pattern} {b b' : Binding} {st : Statement}

/-- What fits goes on to fit. -/
theorem Fits.mono {names : List String} (h : p.Fits b st) (hb : b.Extends names b') :
    p.Fits b' st := by
  refine ⟨hb.resolve h.subject, hb.resolve h.predicate, hb.resolve h.object, fun slot hslot => ?_⟩
  rcases h.context slot hslot with hsame | hnone
  · rcases hcontext : st.context with _ | c
    · -- only a variable can resolve to nothing
      cases slot with
      | var name => exact .inr ⟨rfl, name, rfl⟩
      | const term =>
        rw [hcontext] at hsame
        cases hsame
    · rw [hcontext] at hsame
      exact .inl (hb.resolve hsame)
  · exact .inr hnone

/-- What is there goes on to be what the pattern asks for. -/
theorem Grounded.mono {S : Set Statement} {names : List String} (h : p.Grounded S b)
    (hb : b.Extends names b') : p.Grounded S b' := by
  unfold Grounded at h ⊢
  split at h
  · obtain ⟨st, hst, hfits⟩ := h
    exact ⟨st, hst, hfits.mono hb⟩
  · obtain ⟨st, hst, hfits⟩ := h
    exact ⟨st, hst, hfits.mono hb⟩
  · obtain ⟨subject, predicate, object, hsubject, hpredicate, hobject, hpath⟩ := h
    exact ⟨subject, predicate, object, hb.resolve hsubject, hb.resolve hpredicate,
      hb.resolve hobject, hpath⟩

/-- A lookup fixes a place to what the slot of the pattern resolves to. -/
theorem termAt_lookup? {l : Lookup} (h : p.lookup? b = some l) (place : Position) :
    l.termAt place = (p.slotAt place).bind (·.resolve b) := by
  rw [lookup?] at h
  split at h
  · obtain rfl := Option.some.inj h
    cases place <;> rfl
  · cases h

/-- A place binds its own variable at most, which then holds the term of the place. -/
theorem extends_of_bindAt {place : Position} (h : p.bindAt st b place = .ok b') :
    b.Extends p.vars b' ∧ ∀ name t, p.slotAt place = some (.var name) →
      st.termAt place = some t → b'.get? name = some t := by
  unfold bindAt at h
  split at h
  · next name term hslot hterm =>
    obtain ⟨hextends, hname⟩ := Binding.extends_of_bind h
    constructor
    · apply hextends.mono
      intro v hv
      obtain rfl := List.mem_singleton.mp hv
      exact mem_vars hslot
    · intro other t hother ht
      obtain rfl : name = other := by simpa using hslot.symm.trans hother
      obtain rfl : term = t := Option.some.inj (hterm.symm.trans ht)
      exact hname
  · next hnot =>
    obtain rfl := Except.ok.inj h
    refine ⟨.refl _ b, ?_⟩
    intro name t hslot ht
    exact absurd ht (hnot name t hslot)

/-- A binding that is extended by a statement holds its terms, place by place. -/
theorem extends_of_bind? (h : p.bind? b st = some b') :
    b.Extends p.vars b' ∧ ∀ place name t, p.slotAt place = some (.var name) →
      st.termAt place = some t → b'.get? name = some t := by
  -- a later place keeps what an earlier one has bound
  have hplaces (places : List Position) {b : Binding}
      (h : places.foldlM (p.bindAt st) b = .ok b') :
      b.Extends p.vars b' ∧ ∀ place ∈ places, ∀ name t, p.slotAt place = some (.var name) →
        st.termAt place = some t → b'.get? name = some t := by
    induction places generalizing b with
    | nil =>
      obtain rfl := Except.ok.inj h
      exact ⟨.refl _ b, by simp⟩
    | cons first places ih =>
      rw [List.foldlM_cons] at h
      rcases hfirst : p.bindAt st b first with conflict | mid
      · rw [hfirst] at h
        cases h
      · rw [hfirst] at h
        obtain ⟨hextends, hrest⟩ := ih h
        obtain ⟨hmid, hplace⟩ := extends_of_bindAt hfirst
        refine ⟨hmid.trans hextends, ?_⟩
        intro place hmem name t hslot ht
        rcases List.mem_cons.mp hmem with rfl | hmem
        · exact hextends.get? (hplace name t hslot ht)
        · exact hrest place hmem name t hslot ht
  rw [bind?, bind] at h
  rcases hbind : Position.all.foldlM (p.bindAt st) b with conflict | b''
  · rw [hbind] at h
    cases h
  · rw [hbind] at h
    obtain rfl := Option.some.inj h
    obtain ⟨hextends, hplace⟩ := hplaces Position.all hbind
    exact ⟨hextends, fun place => hplace place place.mem_all⟩

/-- A statement fits that has the constants in their places and whose terms the variables hold. -/
theorem Fits.of_places
    (hconst : ∀ place c, p.slotAt place = some (.const c) → st.termAt place = some c)
    (hvar : ∀ place v t, p.slotAt place = some (.var v) → st.termAt place = some t →
      b.get? v = some t) : p.Fits b st := by
  have hresolve {place : Position} {slot : Slot} {t : Term} (hslot : p.slotAt place = some slot)
      (ht : st.termAt place = some t) : slot.resolve b = some t := by
    cases slot with
    | var name => exact hvar place name t hslot ht
    | const c => exact (hconst place c hslot).symm.trans ht
  refine ⟨@hresolve .subject p.subject _ rfl rfl, @hresolve .predicate p.predicate _ rfl rfl,
    @hresolve .object p.object _ rfl rfl, fun slot hslot => ?_⟩
  rcases hcontext : st.context with _ | c
  · cases slot with
    | var name => exact .inr ⟨rfl, name, rfl⟩
    | const c =>
      have hc : st.context = some c := hconst .context c hslot
      rw [hcontext] at hc
      cases hc
  · exact .inl (@hresolve .context slot c hslot hcontext)

/-- A statement that a lookup accepts fits the pattern under the binding that it extends. -/
theorem fits_of_bind? {l : Lookup} (hl : p.lookup? b = some l) (haccepts : l.accepts st = true)
    (hbind : p.bind? b st = some b') : p.Fits b' st := by
  -- a constant is what the lookup asked for, a variable holds what was found
  refine .of_places (fun place c hslot => ?_) (extends_of_bind? hbind).2
  apply Lookup.accepts_iff.mp haccepts
  rw [termAt_lookup? hl, hslot]
  rfl

end Pattern

/-- What leads on within a context leads on. -/
theorem Leads.widen {S : Set Statement} {predicate a b : Term} {context other : Option Term}
    (h : Leads S predicate context a b) (hother : other = context ∨ other = none) :
    Leads S predicate other a b := by
  obtain ⟨st, hst, hsubject, hpredicate, hobject, hcontext⟩ := h
  refine ⟨st, hst, hsubject, hpredicate, hobject, ?_⟩
  intro c hc
  rcases hother with rfl | rfl
  · exact hcontext c hc
  · cases hc

/-! ## Solutions -/

/-- What makes a binding a solution of a pattern grounds the pattern. -/
theorem Pattern.grounded_of_solves {S : Set Statement} {p : Pattern} {b b' : Binding}
    (h : (Query.pattern p).Solves S b b') :
    b.Extends p.vars b' ∧ p.Grounded S b' := by
  obtain ⟨l, st, hl, hoffers, haccepts, hbind⟩ := h
  have hfits : p.Fits b' st := fits_of_bind? hl haccepts hbind
  refine ⟨(extends_of_bind? hbind).1, ?_⟩
  unfold Offers at hoffers
  unfold Grounded
  rcases hp : p.kind with _ | candidates | _ <;> simp only [hp] at hoffers ⊢
  · exact ⟨st, hoffers, hfits⟩
  · exact ⟨st, hoffers, hfits⟩
  · -- the path lies in the context of the lookup, which the pattern may have left open
    have hcontext : p.ownContext? = l.context ∨ p.ownContext? = none := by
      have hlookup : l.context = p.context.bind (·.resolve b) := termAt_lookup? hl .context
      rw [hlookup, ownContext?]
      split
      · next c hc => exact .inl (by rw [hc]; rfl)
      · exact .inr rfl
    have hpath : TransGen (Leads S st.predicate p.ownContext?) st.subject st.object :=
      TransGen.mono (fun _ _ hleads => hleads.widen hcontext) _ _ hoffers.2
    exact ⟨st.subject, st.predicate, st.object, hfits.subject, hfits.predicate, hfits.object, hpath⟩

/-- A solution extends what it was started from by variables of the query, and grounds all of its
patterns. -/
theorem Query.Solves.grounded {S : Set Statement} {q : Query} {b b' : Binding}
    (h : q.Solves S b b') : b.Extends q.vars b' ∧ ∀ p ∈ q.patterns, p.Grounded S b' := by
  induction q generalizing b b' with
  | pattern p =>
    obtain ⟨hextends, hgrounded⟩ := Pattern.grounded_of_solves h
    rw [vars, patterns, List.flatMap_singleton]
    refine ⟨hextends, ?_⟩
    intro p' hp'
    obtain rfl := List.mem_singleton.mp hp'
    exact hgrounded
  | join left right ihl ihr =>
    obtain ⟨mid, hleft, hright⟩ := h
    obtain ⟨hmid, hgroundedl⟩ := ihl hleft
    obtain ⟨hextends, hgroundedr⟩ := ihr hright
    have hvars : (join left right).vars = left.vars ++ right.vars := by
      rw [vars, patterns, List.flatMap_append]
      rfl
    rw [hvars]
    refine ⟨(hmid.mono (List.subset_append_left ..)).trans
      (hextends.mono (List.subset_append_right ..)), ?_⟩
    intro p hp
    rcases List.mem_append.mp hp with hp | hp
    · exact (hgroundedl p hp).mono hextends
    · exact hgroundedr p hp
  | filter f child ih => exact ih h.1
  | slice offset limit child => exact h.elim

/-- **Every solution is grounded and consistent.**  Whatever is passed on of a query over a store
keeps all terms that the given binding holds, holds nothing for any other variables but those in the
patterns, and grounds every pattern. -/
theorem Evaluator.grounded_of_mem_passedOn {e : Evaluator} {s : Store} {q : Query}
    {b b' : Binding} (h : .ok b' ∈ e.passedOn s.answer q b) :
    (∀ v t, b.get? v = some t → b'.get? v = some t) ∧
      (∀ v, b'.contains v = true → b.isBound v = true ∨ v ∈ q.vars) ∧
      ∀ p ∈ q.patterns, p.Grounded s.content b' := by
  obtain ⟨hextends, hgrounded⟩ := (solves_of_mem_passedOn h).grounded
  rw [Query.vars, Query.patterns_unsliced] at hextends
  rw [Query.patterns_unsliced] at hgrounded
  refine ⟨?_, ?_, hgrounded⟩
  · intro v t ht
    apply hextends.get?
    rw [b.get?_sanitized]
    exact ht
  · intro v hv
    exact (hextends.contains hv).imp_left Binding.isBound_of_contains_sanitized

namespace Ferry

/-- Ferries that go in summer only, and what is offered at their end. -/
def network : Store :=
  let fact (subject predicate object : String) (context : Option Term) : Fact :=
    ⟨⟨.iri subject, .iri predicate, .iri object, context⟩, {}⟩
  (Store.empty.insertAll .min
    [fact "north" "ferry" "isle" (some (.iri "summer")),
      fact "isle" "ferry" "cape" (some (.iri "summer")), fact "cape" "offers" "rooms" none,
      fact "cape" "offers" "tents" (some (.iri "summer"))]).1

/-- What is offered first where ferries go to in summer from a stop of a tour. -/
def stay : Query :=
  let between (subject predicate object : String) (context : Option Slot) (kind : PatternKind) :
      Query :=
    .pattern ⟨.var subject, .const (.iri predicate), .var object, context, kind⟩
  let stops : List Statement := [⟨.iri "tour", .iri "stops", .iri "north", none⟩]
  .slice none (some 1) <| .join
    (.join (between "t" "stops" "h" none (.fixed stops))
      (between "h" "ferry" "place" (some (.const (.iri "summer"))) .transitive))
    (between "place" "offers" "o" (some (.var "season")) .ordinary)

/-- A tour is given, and explicitly no stop of it. -/
def tour : Binding := (Binding.empty.set "t" (.iri "tour")).setNull "h"

set_option maxRecDepth 100000 in
/-- The rooms are offered in no season. -/
theorem grounded_stay :
    ∃ b, .ok b ∈ (evaluator true 2 (by decide)).passedOn network.answer stay tour ∧
      b.get? "o" = some (.iri "rooms") ∧ b.contains "season" = false ∧
      (∀ v t, tour.get? v = some t → b.get? v = some t) ∧
      (∀ v, b.contains v = true → tour.isBound v = true ∨ v ∈ stay.vars) ∧
      ∀ p ∈ stay.patterns, p.Grounded network.content b := by
  have hmem : .ok (Binding.ofList [("t", .iri "tour"), ("h", .iri "north"),
      ("place", .iri "cape"), ("o", .iri "rooms")]) ∈
        (evaluator true 2 (by decide)).passedOn network.answer stay tour := by decide +kernel
  exact ⟨_, hmem, by decide +kernel, by decide +kernel, Evaluator.grounded_of_mem_passedOn hmem⟩

end Ferry

end RdfReasoner
