import Mathlib.Data.Multiset.Bind
import RdfReasoner.Proofs.Derivation
import RdfReasoner.Proofs.Matching

/-!
# The order of patterns

Evaluation is by substitution: a pattern is looked up with what the patterns before it have bound,
so another order of the patterns asks the storage other questions.  It finds the same solutions all
the same, each as many times (`Evaluator.passedOn_chain_perm`), if only ordinary patterns without a
context slot are joined and every statement of the store is well formed.

The first step takes the substitution away: what a pattern makes of a binding and a well-formed
statement is what comes out when the terms of the statement are put into its slots one by one
(`Pattern.match?_eq_fillAll`).  A binding that is skipped because its term cannot be a subject or a
predicate could not have agreed with a well-formed statement anyway.  Slots are filled in any order
with the same result (`fillAll_perm`), so two patterns change places, and then any list of them.

A slot for the context would spoil this, as a statement may lack a context: its variable is bound or
not by whatever comes first.
-/

namespace RdfReasoner

/-! ## Filling slots -/

namespace Binding

theorem put_comm (b : Binding) {v w : String} (hne : v ≠ w) (s t : Option Term) :
    (b.put v s).put w t = (b.put w t).put v s := by
  apply ext_held?
  intro u
  simp only [held?_put]
  by_cases hv : u = v
  · subst hv
    rw [if_neg hne, if_pos rfl, if_pos rfl]
  · rw [if_neg hv, if_neg hv]

theorem put_eq_self {b : Binding} {v : String} {t : Option Term} (h : b.held? v = some t) :
    b.put v t = b := by
  apply ext_held?
  intro u
  rw [held?_put]
  split
  · next hu => rw [hu, h]
  · rfl

/-- A variable takes a term if it holds nothing, or this term already. -/
def Takes (b : Binding) (v : String) (t : Term) : Prop :=
  b.held? v = none ∨ b.held? v = some (some t)

instance (b : Binding) (v : String) (t : Term) : Decidable (b.Takes v t) :=
  inferInstanceAs (Decidable (_ ∨ _))

theorem toOption_bind (b : Binding) (v : String) (t : Term) :
    (b.bind v t).toOption = if b.Takes v t then some (b.put v (some t)) else none := by
  rw [bind, add]
  split
  · next hnone =>
    rw [if_pos (.inl hnone)]
    rfl
  · next held hheld =>
    split
    · next heq =>
      subst heq
      rw [if_pos (.inr hheld), put_eq_self hheld]
      rfl
    · next hne =>
      rw [if_neg]
      · rfl
      · rintro (hnone | hsome)
        · rw [hheld] at hnone
          cases hnone
        · exact hne (Option.some.inj (hheld.symm.trans hsome))

/-- What one variable holds makes no difference to what another takes. -/
theorem takes_put_of_ne {b : Binding} {v w : String} (hne : w ≠ v) (s : Option Term) (t : Term) :
    (b.put v s).Takes w t ↔ b.Takes w t := by
  rw [Takes, Takes, held?_put, if_neg hne]

end Binding

/-- Puts a term into a slot: a constant has to be this term, a variable is bound to it. -/
def Slot.fill? (slot : Slot) (t : Term) (b : Binding) : Option Binding :=
  match slot with
  | var name => (b.bind name t).toOption
  | const c => if c = t then some b else none

namespace Slot

theorem fill?_of_takes {b : Binding} {v : String} {t : Term} (h : b.Takes v t) :
    (var v).fill? t b = some (b.put v (some t)) :=
  (b.toOption_bind v t).trans (if_pos h)

theorem fill?_of_not_takes {b : Binding} {v : String} {t : Term} (h : ¬b.Takes v t) :
    (var v).fill? t b = none :=
  (b.toOption_bind v t).trans (if_neg h)

/-- A slot that is filled resolves to the term, and all terms that were bound before stay. -/
theorem extends_of_fill? {slot : Slot} {t : Term} {b b' : Binding}
    (h : slot.fill? t b = some b') : b.Extends slot.vars b' ∧ slot.resolve b' = some t := by
  cases slot with
  | const c =>
    rw [fill?] at h
    split at h
    · next hc =>
      obtain rfl := Option.some.inj h
      exact ⟨.refl _ b, congrArg some hc⟩
    · cases h
  | var v =>
    apply Binding.extends_of_bind
    rw [fill?] at h
    rcases hbind : b.bind v t with conflict | b''
    · rw [hbind] at h
      cases h
    · rw [hbind] at h
      exact congrArg Except.ok (Option.some.inj h)

/-- A variable does not take two terms. -/
theorem fill?_var_twice {v : String} {t t' : Term} (hne : t ≠ t') (b : Binding) :
    ((var v).fill? t b).bind ((var v).fill? t') = none := by
  apply Option.bind_eq_none_iff.mpr
  intro b' hb'
  have hheld : (var v).resolve b' = some t := (extends_of_fill? hb').2
  apply Option.eq_none_iff_forall_ne_some.mpr
  intro b'' hb''
  obtain ⟨hextends, ht'⟩ := extends_of_fill? hb''
  exact hne (Option.some.inj ((hextends.resolve hheld).symm.trans ht'))

/-- Two slots are filled in either order. -/
theorem fill?_comm (slot slot' : Slot) (t t' : Term) (b : Binding) :
    (slot.fill? t b).bind (slot'.fill? t') = (slot'.fill? t' b).bind (slot.fill? t) := by
  -- a constant looks at no binding, so it can wait
  have hconst (c u : Term) (other : Slot) (v : Term) :
      ((const c).fill? u b).bind (other.fill? v) = (other.fill? v b).bind ((const c).fill? u) := by
    by_cases hc : c = u
    · have hfill : (const c).fill? u = some := funext fun b => if_pos hc
      rw [hfill, Option.bind_some, Option.bind_fun_some]
    · have hfill : (const c).fill? u = fun _ => none := funext fun b => if_neg hc
      rw [hfill, Option.bind_none, Option.bind_fun_none]
  cases slot with
  | const c => exact hconst c t slot' t'
  | var v =>
    cases slot' with
    | const c => exact (hconst c t' (var v) t).symm
    | var w =>
      by_cases hvw : v = w
      · subst hvw
        by_cases ht : t = t'
        · rw [ht]
        · rw [fill?_var_twice ht, fill?_var_twice (Ne.symm ht)]
      · -- what one variable holds makes no difference to what the other takes
        have hv (u : Option Term) : (b.put w u).Takes v t ↔ b.Takes v t :=
          Binding.takes_put_of_ne hvw u t
        have hw (u : Option Term) : (b.put v u).Takes w t' ↔ b.Takes w t' :=
          Binding.takes_put_of_ne (Ne.symm hvw) u t'
        by_cases htakes : b.Takes v t
        · by_cases htakes' : b.Takes w t'
          · rw [fill?_of_takes htakes, fill?_of_takes htakes', Option.bind_some, Option.bind_some,
              fill?_of_takes ((hw _).mpr htakes'), fill?_of_takes ((hv _).mpr htakes),
              b.put_comm hvw]
          · rw [fill?_of_takes htakes, fill?_of_not_takes htakes', Option.bind_some,
              Option.bind_none, fill?_of_not_takes (mt (hw _).mp htakes')]
        · by_cases htakes' : b.Takes w t'
          · rw [fill?_of_not_takes htakes, fill?_of_takes htakes', Option.bind_none,
              Option.bind_some, fill?_of_not_takes (mt (hv _).mp htakes)]
          · rw [fill?_of_not_takes htakes, fill?_of_not_takes htakes', Option.bind_none,
              Option.bind_none]

end Slot

/-- Puts terms into slots one after the other. -/
def fillAll (places : List (Slot × Term)) (b : Binding) : Option Binding :=
  places.foldlM (fun b place => place.1.fill? place.2 b) b

theorem fillAll_cons (slot : Slot) (t : Term) (places : List (Slot × Term)) (b : Binding) :
    fillAll ((slot, t) :: places) b = (slot.fill? t b).bind (fillAll places) := rfl

theorem fillAll_append (places places' : List (Slot × Term)) (b : Binding) :
    fillAll (places ++ places') b = (fillAll places b).bind (fillAll places') :=
  List.foldlM_append

/-- The order in which slots are filled makes no difference. -/
theorem fillAll_perm {places places' : List (Slot × Term)} (h : places.Perm places')
    (b : Binding) : fillAll places b = fillAll places' b := by
  induction h generalizing b with
  | nil => rfl
  | cons place _ ih =>
    obtain ⟨slot, t⟩ := place
    rw [fillAll_cons, fillAll_cons]
    exact congrArg (Option.bind _) (funext ih)
  | swap place place' places =>
    obtain ⟨slot, t⟩ := place
    obtain ⟨slot', t'⟩ := place'
    have hcons (first second : Slot) (u v : Term) :
        fillAll ((first, u) :: (second, v) :: places) b =
          ((first.fill? u b).bind (second.fill? v)).bind (fillAll places) := by
      rw [Option.bind_assoc]
      rfl
    rw [hcons, hcons, Slot.fill?_comm]
  | trans _ _ ih ih' => exact (ih b).trans (ih' b)

/-! ## Patterns over well-formed statements -/

/-- Where a pattern without a context slot asks for the terms of a statement. -/
def Pattern.places (p : Pattern) (st : Statement) : List (Slot × Term) :=
  [(p.subject, st.subject), (p.predicate, st.predicate), (p.object, st.object)]

/-- Slots that are filled resolved to their terms, or to nothing. -/
theorem resolve_of_fillAll {places : List (Slot × Term)} {b b' : Binding}
    (h : fillAll places b = some b') {slot : Slot} {t u : Term} (hmem : (slot, t) ∈ places)
    (hu : slot.resolve b = some u) : u = t := by
  induction places generalizing b with
  | nil => cases hmem
  | cons first places ih =>
    rw [fillAll_cons] at h
    obtain ⟨mid, hfirst, hrest⟩ := Option.bind_eq_some_iff.mp h
    obtain ⟨hextends, ht⟩ := Slot.extends_of_fill? hfirst
    rcases List.mem_cons.mp hmem with rfl | hmem
    · exact Option.some.inj ((hextends.resolve hu).symm.trans ht)
    · exact ih hrest hmem (hextends.resolve hu)

namespace Pattern

variable {p : Pattern} {st : Statement} {b : Binding}

/-- The places of a statement that a pattern has slots for. -/
theorem mem_places (hcontext : p.context = none) {slot : Slot} {t : Term} :
    (slot, t) ∈ p.places st ↔
      ∃ place, p.slotAt place = some slot ∧ st.termAt place = some t := by
  constructor
  · intro h
    simp only [places, List.mem_cons, List.not_mem_nil, or_false, Prod.mk.injEq] at h
    rcases h with ⟨rfl, rfl⟩ | ⟨rfl, rfl⟩ | ⟨rfl, rfl⟩
    · exact ⟨.subject, rfl, rfl⟩
    · exact ⟨.predicate, rfl, rfl⟩
    · exact ⟨.object, rfl, rfl⟩
  · rintro ⟨place, hslot, ht⟩
    cases place <;> simp only [slotAt, Statement.termAt, hcontext, Option.some.injEq] at hslot ht
    · simp [places, hslot, ht]
    · simp [places, hslot, ht]
    · simp [places, hslot, ht]
    · cases hslot

/-- What is known of the slots of a pattern agrees with a statement. -/
def Agrees (p : Pattern) (b : Binding) (st : Statement) : Prop :=
  ∀ slot t, (slot, t) ∈ p.places st → ∀ u, slot.resolve b = some u → u = t

/-- A pattern turns into a lookup that accepts a well-formed statement exactly if it agrees with the
statement. -/
theorem exists_accepting_iff_agrees (hcontext : p.context = none)
    (hformed : st.isWellFormed = true) :
    (∃ l, p.lookup? b = some l ∧ l.accepts st = true) ↔ p.Agrees b st := by
  rw [exists_accepting_iff hformed]
  constructor
  · intro h slot t hmem u hu
    obtain ⟨place, hslot, ht⟩ := (mem_places hcontext).mp hmem
    exact Option.some.inj ((h place slot u hslot hu).symm.trans ht)
  · intro h place slot u hslot hu
    rcases hterm : st.termAt place with _ | t
    · -- only a context may be missing, and there is no slot for it
      cases place with
      | context =>
        rw [slotAt, hcontext] at hslot
        cases hslot
      | _ => cases hterm
    · rw [h slot t ((mem_places hcontext).mpr ⟨place, hslot, hterm⟩) u hu]

/-- A place binds as its slot is filled, if a constant there was compared before. -/
theorem toOption_bindAt {place : Position} {slot : Slot} {t : Term}
    (hslot : p.slotAt place = some slot) (ht : st.termAt place = some t)
    (hconst : ∀ c, slot = .const c → c = t) (b : Binding) :
    (p.bindAt st b place).toOption = slot.fill? t b := by
  rw [bindAt, hslot, ht]
  cases slot with
  | var name => rfl
  | const c =>
    rw [Slot.fill?, if_pos (hconst c rfl)]
    rfl

/-- A statement that agrees with a pattern extends a binding by filling the slots. -/
theorem Agrees.bind?_eq_fillAll (h : p.Agrees b st) (hcontext : p.context = none) :
    p.bind? b st = fillAll (p.places st) b := by
  have hfill {place : Position} {slot : Slot} {t : Term} (hslot : p.slotAt place = some slot)
      (ht : st.termAt place = some t) (b' : Binding) :
      (p.bindAt st b' place).toOption = slot.fill? t b' := by
    apply toOption_bindAt hslot ht
    rintro c rfl
    exact h (.const c) t ((mem_places hcontext).mpr ⟨place, hslot, ht⟩) c rfl
  have hlast (b' : Binding) : p.bindAt st b' .context = .ok b' := by
    rw [bindAt, slotAt, hcontext]
  have hbind (x : Except Conflict Binding) (f : Binding → Except Conflict Binding) :
      (x >>= f).toOption = x.toOption.bind fun b' => (f b').toOption := by
    cases x <;> rfl
  simp only [bind?, bind, Position.all, List.foldlM_cons, List.foldlM_nil, hbind,
    hlast, @hfill .subject p.subject st.subject rfl rfl,
    @hfill .predicate p.predicate st.predicate rfl rfl,
    @hfill .object p.object st.object rfl rfl]
  rfl

/-- Over well-formed statements a pattern without a context slot matches by filling its slots. -/
theorem match?_eq_fillAll (hcontext : p.context = none) (hformed : st.isWellFormed = true)
    (b : Binding) : p.match? b st = fillAll (p.places st) b := by
  have haccepting := exists_accepting_iff_agrees (b := b) hcontext hformed
  by_cases hagrees : p.Agrees b st
  · obtain ⟨l, hl, haccepts⟩ := haccepting.mpr hagrees
    rw [match?, hl, Option.bind_some, if_pos haccepts, hagrees.bind?_eq_fillAll hcontext]
  · have hmatch : p.match? b st = none := by
      rw [match?]
      rcases hl : p.lookup? b with _ | l
      · rfl
      · exact if_neg fun haccepts => hagrees (haccepting.mp ⟨l, hl, haccepts⟩)
    rw [hmatch, eq_comm, Option.eq_none_iff_forall_ne_some]
    intro b' hb'
    apply hagrees
    intro slot t hmem u hu
    exact resolve_of_fillAll hb' hmem hu

/-- Two patterns match two statements in either order. -/
theorem match?_comm {p' : Pattern} (hcontext : p.context = none) (hcontext' : p'.context = none)
    {st' : Statement} (hformed : st.isWellFormed = true) (hformed' : st'.isWellFormed = true)
    (b : Binding) :
    (p.match? b st).bind (p'.match? · st') = (p'.match? b st').bind (p.match? · st) := by
  simp only [match?_eq_fillAll hcontext hformed, match?_eq_fillAll hcontext' hformed']
  rw [← fillAll_append, ← fillAll_append]
  exact fillAll_perm List.perm_append_comm b

end Pattern

/-! ## Solutions with their number -/

section solutions

variable (facts : List Fact)

/-- What some bindings become by one more pattern. -/
def Pattern.extendAll (p : Pattern) (bs : Multiset Binding) : Multiset Binding :=
  bs.bind fun b => (facts : Multiset Fact).bind fun f => ((p.match? b f.statement).toList : List _)

/-- The solutions of a query, without the facts behind them. -/
def Query.solutions (q : Query) (b : Binding) : List Binding :=
  (q.derivations facts b).map (·.binding)

theorem Query.solutions_pattern (p : Pattern) (b : Binding) :
    ((pattern p).solutions facts b : Multiset Binding) = p.extendAll facts {b} := by
  rw [solutions, derivations_pattern, List.map_filterMap, Pattern.extendAll,
    Multiset.singleton_bind, Multiset.coe_bind, List.filterMap_eq_flatMap_toList]
  simp only [Option.map_map, Function.comp_def, Option.map_id']

/-- A join with a pattern extends the solutions of its left side. -/
theorem Query.solutions_join_pattern (left : Query) (p : Pattern) (b : Binding) :
    ((join left (pattern p)).solutions facts b : Multiset Binding) =
      p.extendAll facts (left.solutions facts b) := by
  have hright (d : Derivation) :
      ((pattern p).derivations facts d.binding).map (fun d' => d'.binding) =
        facts.flatMap fun f => (p.match? d.binding f.statement).toList := by
    rw [derivations_pattern, List.map_filterMap, List.filterMap_eq_flatMap_toList]
    simp only [Option.map_map, Function.comp_def, Option.map_id']
  rw [solutions, derivations_join, List.map_flatMap, solutions, Pattern.extendAll]
  simp only [Multiset.coe_bind, List.flatMap_map, List.map_map, Function.comp_def, hright]

variable {facts}

/-- Two patterns extend bindings in either order. -/
theorem Pattern.extendAll_comm (hformed : ∀ f ∈ facts, f.statement.isWellFormed = true)
    {p p' : Pattern} (hcontext : p.context = none) (hcontext' : p'.context = none)
    (bs : Multiset Binding) :
    p'.extendAll facts (p.extendAll facts bs) = p.extendAll facts (p'.extendAll facts bs) := by
  -- both sides go through all pairs of facts
  have hpairs (first second : Pattern) (b : Binding) :
      ((facts : Multiset Fact).bind fun f =>
          (((first.match? b f.statement).toList : List Binding) : Multiset Binding)).bind
        (fun mid => (facts : Multiset Fact).bind fun f =>
          (((second.match? mid f.statement).toList : List Binding) : Multiset Binding)) =
      (facts : Multiset Fact).bind fun f => (facts : Multiset Fact).bind fun f' =>
        ((((first.match? b f.statement).bind (second.match? · f'.statement)).toList :
          List Binding) : Multiset Binding) := by
    rw [Multiset.bind_assoc]
    apply Multiset.bind_congr
    intro f _
    rcases first.match? b f.statement with _ | mid
    · simp
    · simp
  rw [extendAll, extendAll, extendAll, extendAll, Multiset.bind_assoc, Multiset.bind_assoc]
  apply Multiset.bind_congr
  intro b _
  rw [hpairs, hpairs, Multiset.bind_bind]
  apply Multiset.bind_congr
  intro f' hf'
  apply Multiset.bind_congr
  intro f hf
  rw [match?_comm hcontext hcontext' (hformed f hf) (hformed f' hf')]

end solutions

/-! ## Chains of joins -/

/-- Patterns joined one after the other, the ones before on the left. -/
def Query.chain (first : Pattern) (rest : List Pattern) : Query :=
  rest.foldl (fun left p => .join left (.pattern p)) (.pattern first)

/-- A pattern that is answered from what is stored, whatever the context. -/
def Pattern.IsPlain (p : Pattern) : Prop := p.kind = .ordinary ∧ p.context = none

instance (p : Pattern) : Decidable p.IsPlain := inferInstanceAs (Decidable (_ ∧ _))

/-- The solutions of a chain are those of its first pattern, extended by the others in turn. -/
theorem Query.solutions_chain (facts : List Fact) (first : Pattern) (rest : List Pattern)
    (b : Binding) :
    ((chain first rest).solutions facts b : Multiset Binding) =
      (first :: rest).foldl (fun bs p => p.extendAll facts bs) {b} := by
  have hjoin (ps : List Pattern) (left : Query) :
      ((ps.foldl (fun left p => join left (pattern p)) left).solutions facts b :
        Multiset Binding) =
      ps.foldl (fun bs p => p.extendAll facts bs)
        (left.solutions facts b : Multiset Binding) := by
    induction ps generalizing left with
    | nil => rfl
    | cons p ps ih => rw [List.foldl_cons, ih, solutions_join_pattern, List.foldl_cons]
  rw [chain, hjoin, solutions_pattern, List.foldl_cons]

/-- A chain of ordinary patterns is a body that can be compiled. -/
theorem Query.exists_flatten_chain {first : Pattern} {rest : List Pattern}
    (hplain : ∀ p ∈ first :: rest, p.kind = .ordinary) :
    ∃ steps, (chain first rest).flatten = .ok steps := by
  have hpattern {p : Pattern} (hp : p.kind = .ordinary) : (pattern p).flatten = .ok [.join p] := by
    rw [flatten, hp]
  have hjoin (ps : List Pattern) (hps : ∀ p ∈ ps, p.kind = .ordinary) (left : Query)
      (hleft : ∃ steps, left.flatten = .ok steps) :
      ∃ steps, (ps.foldl (fun left p => join left (pattern p)) left).flatten = .ok steps := by
    induction ps generalizing left with
    | nil => exact hleft
    | cons p ps ih =>
      rw [List.forall_mem_cons] at hps
      obtain ⟨steps, hsteps⟩ := hleft
      rw [List.foldl_cons]
      refine ih hps.2 _ ⟨steps ++ [.join p], ?_⟩
      rw [flatten, hsteps, hpattern hps.1]
      rfl
  rw [List.forall_mem_cons] at hplain
  exact hjoin rest hplain.2 _ ⟨_, hpattern hplain.1⟩

namespace Evaluator

/-- What is passed on of a body that can be compiled are its solutions, and no error. -/
theorem passedOn_eq_solutions (e : Evaluator) (s : Store) {q : Query} {steps : List Step}
    (h : q.flatten = .ok steps) (b : Binding) :
    e.passedOn s.answer q b = (q.solutions s.facts.toList b.sanitized).map .ok := by
  have hfound : e.found s q b.sanitized = (q.solutions s.facts.toList b.sanitized).map .ok := by
    rw [Query.solutions, List.map_map]
    -- a row that starts from the binding; its level and its time play no part
    let r : Row := { ({} : Row) with binding := b.sanitized }
    have hrows := e.found_eq_rows s h r
    rw [Query.rows_eq_derivations, List.map_map] at hrows
    exact hrows
  rw [passedOn_eq]
  show upToError (e.found s q b.sanitized) = _
  rw [hfound, upToError_map_ok]

/-- **The order of patterns makes no difference.**  Over a store of well-formed statements ordinary
patterns without a context slot, joined one after the other in whatever order, have the same
solutions, each as many times, and no errors; nor do the options of evaluation matter. -/
theorem passedOn_chain_perm {s : Store} (hformed : ∀ st ∈ s.statements, st.isWellFormed = true)
    {p p' : Pattern} {ps ps' : List Pattern} (hplain : ∀ q ∈ p :: ps, q.IsPlain)
    (hperm : (p :: ps).Perm (p' :: ps')) (e e' : Evaluator) (b : Binding) :
    ∃ bs bs' : List Binding, e.passedOn s.answer (.chain p ps) b = bs.map .ok ∧
      e'.passedOn s.answer (.chain p' ps') b = bs'.map .ok ∧ bs.Perm bs' := by
  have hplain' : ∀ q ∈ p' :: ps', q.IsPlain := fun q hq => hplain q (hperm.mem_iff.mpr hq)
  obtain ⟨steps, hsteps⟩ := Query.exists_flatten_chain fun q hq => (hplain q hq).1
  obtain ⟨steps', hsteps'⟩ := Query.exists_flatten_chain fun q hq => (hplain' q hq).1
  refine ⟨_, _, e.passedOn_eq_solutions s hsteps b, e'.passedOn_eq_solutions s hsteps' b, ?_⟩
  have hfacts : ∀ f ∈ s.facts.toList, f.statement.isWellFormed = true :=
    fun f hf => hformed f.statement (List.mem_map_of_mem hf)
  rw [← Multiset.coe_eq_coe, Query.solutions_chain, Query.solutions_chain]
  apply hperm.foldl_eq'
  intro q hq q' hq' bs
  exact Pattern.extendAll_comm hfacts (hplain q hq).2 (hplain q' hq').2 bs

end Evaluator

namespace Family

/-- Names are literals, or members of the family; one parent is known twice. -/
def register : Store :=
  let fact (subject relation : String) (object : Term) (context : Option Term) : Fact :=
    ⟨⟨iri subject, iri relation, object, context⟩, {}⟩
  let name (text : String) : Term := .literal text none none
  (Store.empty.insertAll (second 0)
    [fact "p0" "parent" (iri "p1") none, fact "p0" "parent" (iri "p1") (some (iri "census")),
      fact "p3" "parent" (iri "p1") none, fact "p1" "name" (name "Ada") none,
      fact "p1" "name" (iri "p2") none, fact "p2" "name" (name "Bea") none]).1

/-- The pattern of a relation between two that are not known. -/
def relating (subject relation object : String) : Pattern where
  subject := .var subject
  predicate := .const (iri relation)
  object := .var object

set_option maxRecDepth 100000 in
/-- Forwards a literal is found that is no subject of a name; backwards a name of it is found that
is nobody's name.  The solutions are the same three, two of them equal. -/
theorem passedOn_perm_register :
    let e : Evaluator := {}
    let e' : Evaluator := { options := { performant := false }, batching := .oneByOne }
    let parent := relating "x" "parent" "y"
    let named := relating "y" "name" "n"
    let renamed := relating "n" "name" "m"
    ∃ bs bs' : List Binding,
      e.passedOn register.answer (.chain parent [named, renamed]) .empty = bs.map .ok ∧
        e'.passedOn register.answer (.chain renamed [named, parent]) .empty = bs'.map .ok ∧
        bs.Perm bs' ∧ bs.length = 3 := by
  intro e e' parent named renamed
  have hperm : [parent, named, renamed].Perm [renamed, named, parent] := by decide +kernel
  obtain ⟨bs, bs', hbs, hbs', hsame⟩ := Evaluator.passedOn_chain_perm (s := register)
    (by decide +kernel) (by decide +kernel) hperm e e' .empty
  refine ⟨bs, bs', hbs, hbs', hsame, ?_⟩
  have hlength : (e.passedOn register.answer (.chain parent [named, renamed]) .empty).length = 3 :=
    by decide +kernel
  rw [hbs, List.length_map] at hlength
  exact hlength

end Family

end RdfReasoner
