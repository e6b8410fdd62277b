import Mathlib.Order.Bounds.Basic
import RdfReasoner.Proofs.Grounding

/-!
# Matching a single statement

A pattern is matched with a statement in two steps.  Under a binding it turns into a lookup, which
compares what is known already; a statement that the lookup accepts is then bound place by place,
each variable to the term in its place.  Nothing in either step speaks of a solution as a whole.

Taken together the steps find the least extension of the binding under which the pattern fits the
statement, and they fail exactly if there is none (`Pattern.matched_iff_isLeast`).  Extensions are
ordered by their entries.  Binding one variable is the least way to let it hold a term, and what is
least for the places so far is the start for the next one (`Binding.finds_foldlM`).  The lookup adds
what binding does not look at: the constants, and a context that is known of a statement without
one.
-/

namespace RdfReasoner

/-! ## Bindings by their entries -/

namespace Binding

/-- A binding is below another one that has all its entries. -/
instance : PartialOrder Binding where
  le a b := ∀ v x, a.held? v = some x → b.held? v = some x
  le_refl _ _ _ h := h
  le_trans _ _ _ hab hbc v x h := hbc v x (hab v x h)
  le_antisymm a b hab hba := by
    apply ext_held?
    intro v
    rcases ha : a.held? v with _ | x
    · rcases hb : b.held? v with _ | y
      · rfl
      · rw [hba v y hb] at ha
        cases ha
    · exact (hab v x ha).symm

variable {a b : Binding} {v : String} {t : Term}

theorem get?_eq_some : b.get? v = some t ↔ b.held? v = some (some t) := by
  rw [get?, Option.join_eq_some_iff]

/-- What is held below is held above. -/
theorem get?_of_le (h : a ≤ b) (ht : a.get? v = some t) : b.get? v = some t :=
  get?_eq_some.mpr (h v _ (get?_eq_some.mp ht))

theorem resolve_of_le (h : a ≤ b) {slot : Slot} (ht : slot.resolve a = some t) :
    slot.resolve b = some t := by
  cases slot with
  | var name => exact get?_of_le h ht
  | const c => exact ht

/-- The outcome of looking for the least of some bindings: it is found, or there are none. -/
def Finds (S : Set Binding) : Except Conflict Binding → Prop
  | .ok b => IsLeast S b
  | .error _ => S = ∅

/-- What is found is the least of the bindings, and it is found if there are any. -/
theorem Finds.eq_ok_iff {S : Set Binding} {outcome : Except Conflict Binding}
    (h : Finds S outcome) : outcome = .ok b ↔ IsLeast S b := by
  cases outcome with
  | ok b' =>
    rw [Except.ok.injEq]
    exact ⟨fun heq => heq ▸ h, fun hb => IsLeast.unique h hb⟩
  | error conflict =>
    refine ⟨fun heq => (by cases heq), fun hb => ?_⟩
    have hempty : S = ∅ := h
    rw [hempty] at hb
    exact absurd hb.1 (Set.notMem_empty b)

theorem Finds.exists_isLeast {S : Set Binding} {outcome : Except Conflict Binding}
    (h : Finds S outcome) (hne : S.Nonempty) : ∃ b, IsLeast S b := by
  cases outcome with
  | ok b => exact ⟨b, h⟩
  | error conflict =>
    have hempty : S = ∅ := h
    exact absurd hempty hne.ne_empty

/-- From the least of some bindings on one looks for the least of fewer of them. -/
theorem Finds.bind {S T : Set Binding} {outcome : Except Conflict Binding}
    {next : Binding → Except Conflict Binding} (h : Finds S outcome) (hTS : T ⊆ S)
    (hnext : ∀ m, IsLeast S m → Finds T (next m)) : Finds T (outcome >>= next) := by
  cases outcome with
  | ok m => exact hnext m h
  | error conflict =>
    have hempty : S = ∅ := h
    exact Set.subset_eq_empty hTS hempty

/-- Meeting one condition after the other finds the least extension that meets them all, if every
single step does so and extensions go on meeting what is met. -/
theorem finds_foldlM {α : Type} {Meets : α → Binding → Prop}
    {step : Binding → α → Except Conflict Binding}
    (hmono : ∀ x b b', b ≤ b' → Meets x b → Meets x b')
    (hstep : ∀ b x, Finds {b' | b ≤ b' ∧ Meets x b'} (step b x)) (b : Binding) (xs : List α) :
    Finds {b' | b ≤ b' ∧ ∀ x ∈ xs, Meets x b'} (xs.foldlM step b) := by
  induction xs generalizing b with
  | nil => exact ⟨⟨le_refl b, List.forall_mem_nil _⟩, fun b' hb' => hb'.1⟩
  | cons x xs ih =>
    rw [List.foldlM_cons]
    refine (hstep b x).bind ?_ fun m hm => ?_
    · rintro b' ⟨hle, hall⟩
      exact ⟨hle, (List.forall_mem_cons.mp hall).1⟩
    · -- what meets all conditions lies above the least that meets the first
      obtain ⟨⟨hbm, hmeets⟩, hleast⟩ := hm
      have hset : {b' | b ≤ b' ∧ ∀ y ∈ x :: xs, Meets y b'} =
          {b' | m ≤ b' ∧ ∀ y ∈ xs, Meets y b'} := by
        ext b'
        constructor
        · rintro ⟨hle, hall⟩
          rw [List.forall_mem_cons] at hall
          exact ⟨hleast ⟨hle, hall.1⟩, hall.2⟩
        · rintro ⟨hle, hall⟩
          exact ⟨hbm.trans hle, List.forall_mem_cons.mpr ⟨hmono x m b' hle hmeets, hall⟩⟩
      rw [hset]
      exact ih m

/-- A variable that is not held yet is put to a value with one new entry, which every extension needs
in which it holds the value. -/
theorem isLeast_put (hnone : b.held? v = none) (x : Option Term) :
    IsLeast {b' | b ≤ b' ∧ b'.held? v = some x} (b.put v x) := by
  refine ⟨⟨fun w y hw => ?_, ?_⟩, ?_⟩
  · have hne : w ≠ v := by
      rintro rfl
      rw [hnone] at hw
      cases hw
    rw [held?_put, if_neg hne]
    exact hw
  · rw [held?_put, if_pos rfl]
  · rintro b' ⟨hle, hx⟩ w y hw
    rw [held?_put] at hw
    split at hw
    · next heq =>
      subst heq
      exact hw ▸ hx
    · exact hle w y hw

/-- Adding a value finds the least extension in which the variable holds it. -/
theorem finds_add (b : Binding) (v : String) (x : Option Term) :
    Finds {b' | b ≤ b' ∧ b'.held? v = some x} (b.add v x) := by
  rw [add]
  split
  · next hnone => exact isLeast_put hnone x
  · next held hheld =>
    split
    · next heq =>
      subst heq
      exact ⟨⟨le_refl b, hheld⟩, fun b' hb' => hb'.1⟩
    · next hne =>
      apply Set.eq_empty_of_forall_notMem
      rintro b' ⟨hle, hx⟩
      have hheld' := hle v held hheld
      rw [hx, Option.some.injEq] at hheld'
      exact hne hheld'.symm

/-- Binding a variable finds the least extension in which it holds the term. -/
theorem finds_bind (b : Binding) (v : String) (t : Term) :
    Finds {b' | b ≤ b' ∧ b'.get? v = some t} (b.bind v t) := by
  simp only [get?_eq_some]
  exact b.finds_add v (some t)

end Binding

/-! ## Binding the places of a statement -/

namespace Pattern

open Binding

variable {p : Pattern} {st : Statement} {b b' : Binding}

/-- The variable in the slot of a place holds the term of the place, if there are both. -/
def HoldsAt (p : Pattern) (st : Statement) (b : Binding) (place : Position) : Prop :=
  ∀ v t, p.slotAt place = some (.var v) → st.termAt place = some t → b.get? v = some t

theorem HoldsAt.mono {place : Position} (h : p.HoldsAt st b place) (hle : b ≤ b') :
    p.HoldsAt st b' place :=
  fun v t hslot ht => get?_of_le hle (h v t hslot ht)

/-- The extensions of a binding that hold the terms of some places. -/
def holding (p : Pattern) (st : Statement) (b : Binding) (places : List Position) : Set Binding :=
  {b' | b ≤ b' ∧ ∀ place ∈ places, p.HoldsAt st b' place}

/-- A place finds the least extension that holds its term. -/
theorem finds_bindAt (p : Pattern) (st : Statement) (b : Binding) (place : Position) :
    Finds {b' | b ≤ b' ∧ p.HoldsAt st b' place} (p.bindAt st b place) := by
  unfold bindAt
  split
  · next name term hslot hterm =>
    have hset : {b' | b ≤ b' ∧ p.HoldsAt st b' place} =
        {b' | b ≤ b' ∧ b'.get? name = some term} := by
      ext b'
      simp only [HoldsAt, hslot, hterm, Set.mem_ofPred_eq, Option.some.injEq, Slot.var.injEq]
      refine and_congr_right fun _ => ⟨fun h => h name term rfl rfl, ?_⟩
      rintro h _ _ rfl rfl
      exact h
    rw [hset]
    exact finds_bind b name term
  · next hnone =>
    refine ⟨⟨le_refl b, fun v t hslot ht => ?_⟩, fun b' hb' => hb'.1⟩
    exact absurd ht (hnone v t hslot)

/-- Place by place the least extension is found that holds all terms. -/
theorem finds_bindAll (p : Pattern) (st : Statement) (b : Binding) (places : List Position) :
    Finds (p.holding st b places) (places.foldlM (p.bindAt st) b) :=
  finds_foldlM (fun _ _ _ hle h => h.mono hle) (p.finds_bindAt st) b places

/-- The least extension that holds all terms is what a statement makes of a binding. -/
theorem bind?_of_isLeast (h : IsLeast (p.holding st b Position.all) b') :
    p.bind? b st = some b' := by
  have hbind : p.bind b st = .ok b' := (p.finds_bindAll st b Position.all).eq_ok_iff.mpr h
  rw [bind?, hbind]
  rfl

/-- A variable that has no term in any of its places is left as it was. -/
theorem held?_bindAll {places : List Position} {v : String}
    (h : places.foldlM (p.bindAt st) b = .ok b')
    (hv : ∀ place ∈ places, p.slotAt place = some (.var v) → st.termAt place = none) :
    b'.held? v = b.held? v := by
  induction places generalizing b with
  | nil =>
    obtain rfl := Except.ok.inj h
    rfl
  | cons place places ih =>
    rw [List.foldlM_cons] at h
    rw [List.forall_mem_cons] at hv
    rcases hmid : p.bindAt st b place with conflict | m
    · rw [hmid] at h
      cases h
    · rw [hmid] at h
      rw [ih h hv.2]
      unfold bindAt at hmid
      split at hmid
      · next name term hslot hterm =>
        refine ((extends_of_bind hmid).1 v).resolve_right ?_
        rintro ⟨-, hname, -⟩
        obtain rfl := List.mem_singleton.mp hname
        have hnone := hv.1 hslot
        rw [hterm] at hnone
        cases hnone
      · obtain rfl := Except.ok.inj hmid
        rfl

/-! ## What the lookup compares -/

/-- With a well-formed statement a pattern turns into a lookup that accepts the statement exactly if
every slot that is resolved already has the term of its place. -/
theorem exists_accepting_iff (hformed : st.isWellFormed = true) :
    (∃ l, p.lookup? b = some l ∧ l.accepts st = true) ↔
      ∀ place slot t, p.slotAt place = some slot → slot.resolve b = some t →
        st.termAt place = some t := by
  constructor
  · rintro ⟨l, hl, haccepts⟩ place slot t hslot ht
    apply Lookup.accepts_iff.mp haccepts
    rw [termAt_lookup? hl, hslot]
    exact ht
  · intro h
    rw [Statement.isWellFormed, Bool.and_eq_true, Bool.and_eq_true] at hformed
    obtain ⟨⟨hresource, hiri⟩, -⟩ := hformed
    -- a term that a well-formed statement has in a place can stand there
    have hsubject : (p.subject.resolve b).all Term.isResource = true := by
      rw [Option.all_eq_true]
      intro t ht
      obtain rfl := Option.some.inj (h .subject p.subject t rfl ht)
      exact hresource
    have hpredicate : (p.predicate.resolve b).all Term.isIri = true := by
      rw [Option.all_eq_true]
      intro t ht
      obtain rfl := Option.some.inj (h .predicate p.predicate t rfl ht)
      exact hiri
    obtain ⟨l, hl⟩ : ∃ l, p.lookup? b = some l := by
      rw [lookup?, hsubject, hpredicate]
      exact ⟨_, rfl⟩
    refine ⟨l, hl, Lookup.accepts_iff.mpr fun place t ht => ?_⟩
    rw [termAt_lookup? hl, Option.bind_eq_some_iff] at ht
    obtain ⟨slot, hslot, ht⟩ := ht
    exact h place slot t hslot ht

/-! ## The least fit -/

/-- An extension of a binding under which a pattern fits a statement.  The variable of a context
that the statement lacks must not have had a term before. -/
structure FitsAbove (p : Pattern) (b : Binding) (st : Statement) (b' : Binding) : Prop where
  above : b ≤ b'
  fits : p.Fits b' st
  unknown : ∀ v, p.context = some (.var v) → st.context = none → b.get? v = none

/-- A slot has the term of its place, but for the variable of a context that the statement lacks. -/
theorem Fits.resolve_or_missing (h : p.Fits b st) {place : Position} {slot : Slot}
    (hslot : p.slotAt place = some slot) :
    slot.resolve b = st.termAt place ∨
      (st.termAt place = none ∧ place = .context ∧ ∃ v, slot = .var v) := by
  cases place with
  | subject =>
    obtain rfl := Option.some.inj hslot
    exact .inl h.subject
  | predicate =>
    obtain rfl := Option.some.inj hslot
    exact .inl h.predicate
  | object =>
    obtain rfl := Option.some.inj hslot
    exact .inl h.object
  | context => exact (h.context slot hslot).imp_right fun ⟨hnone, hvar⟩ => ⟨hnone, rfl, hvar⟩

/-- What is resolved already has the term of its place, if there is any such extension. -/
theorem FitsAbove.termAt (h : p.FitsAbove b st b') {place : Position} {slot : Slot} {t : Term}
    (hslot : p.slotAt place = some slot) (ht : slot.resolve b = some t) :
    st.termAt place = some t := by
  rcases h.fits.resolve_or_missing hslot with hsame | ⟨hnone, rfl, v, rfl⟩
  · exact hsame.symm.trans (resolve_of_le h.above ht)
  · have hunknown : (Slot.var v).resolve b = none := h.unknown v hslot hnone
    rw [hunknown] at ht
    cases ht

/-- The extension holds the term of every place. -/
theorem FitsAbove.holdsAt (h : p.FitsAbove b st b') (place : Position) :
    p.HoldsAt st b' place := by
  intro v t hslot ht
  rcases h.fits.resolve_or_missing hslot with hsame | ⟨hnone, -⟩
  · exact hsame.trans ht
  · rw [hnone] at ht
    cases ht

/-- A pattern fits under an extension that holds all terms, if what is resolved already has the
terms of its places. -/
theorem fitsAbove_of_holding
    (hknown : ∀ place slot t, p.slotAt place = some slot → slot.resolve b = some t →
      st.termAt place = some t)
    (h : b' ∈ p.holding st b Position.all) : p.FitsAbove b st b' := by
  obtain ⟨hle, hall⟩ := h
  refine ⟨hle, .of_places (fun place c hslot => hknown place (.const c) c hslot rfl)
    (fun place => hall place place.mem_all), fun v hslot hnone => ?_⟩
  apply Option.eq_none_iff_forall_ne_some.mpr
  intro t ht
  have hcontext : st.context = some t := hknown .context (.var v) t hslot ht
  rw [hnone] at hcontext
  cases hcontext

/-- Once the lookup accepts the statement, only its terms are left to be held. -/
theorem fitsAbove_eq_holding {l : Lookup} (hformed : st.isWellFormed = true)
    (hl : p.lookup? b = some l) (haccepts : l.accepts st = true) :
    {b' | p.FitsAbove b st b'} = p.holding st b Position.all := by
  ext b'
  constructor
  · exact fun h => ⟨h.above, fun place _ => h.holdsAt place⟩
  · exact fitsAbove_of_holding ((exists_accepting_iff hformed).mp ⟨l, hl, haccepts⟩)

/-- **Lookup and binding match exactly.**  A pattern turns into a lookup that accepts a well-formed
statement and the statement extends the binding to `b'`, exactly if `b'` is the least extension of
the binding under which the pattern fits the statement: its slots for subject, predicate and object
have the terms of the statement, and its slot for the context, if it has one, has the context of the
statement, or else holds a variable that had no term before while the statement has no context.
There is a least such extension whenever there is one at all.  A variable of several slots stands
for the same term in all of them, and a variable that no place gives a term to is left as it was. -/
theorem matched_iff_isLeast (p : Pattern) (b : Binding) {st : Statement}
    (hformed : st.isWellFormed = true) :
    (∀ b', (∃ l, p.lookup? b = some l ∧ l.accepts st = true ∧ p.bind b st = .ok b') ↔
        IsLeast {b' | p.FitsAbove b st b'} b') ∧
      (∀ b', p.FitsAbove b st b' → ∃ least, IsLeast {b' | p.FitsAbove b st b'} least) ∧
      (∀ b', p.FitsAbove b st b' → ∀ place place' v t t', p.slotAt place = some (.var v) →
        p.slotAt place' = some (.var v) → st.termAt place = some t → st.termAt place' = some t' →
        t = t') ∧
      ∀ b', IsLeast {b' | p.FitsAbove b st b'} b' → ∀ v,
        (∀ place, p.slotAt place = some (.var v) → st.termAt place = none) →
        b'.held? v = b.held? v := by
  have haccepting {b' : Binding} (h : p.FitsAbove b st b') :
      ∃ l, p.lookup? b = some l ∧ l.accepts st = true :=
    (exists_accepting_iff hformed).mpr fun place slot t => h.termAt
  have hfinds {l : Lookup} (hl : p.lookup? b = some l) (haccepts : l.accepts st = true) :
      Finds {b' | p.FitsAbove b st b'} (p.bind b st) := by
    rw [fitsAbove_eq_holding hformed hl haccepts]
    exact p.finds_bindAll st b Position.all
  refine ⟨fun b' => ⟨?_, fun h => ?_⟩, fun b' h => ?_, ?_, fun b' h v hv => ?_⟩
  · rintro ⟨l, hl, haccepts, hbind⟩
    exact (hfinds hl haccepts).eq_ok_iff.mp hbind
  · obtain ⟨l, hl, haccepts⟩ := haccepting h.1
    exact ⟨l, hl, haccepts, (hfinds hl haccepts).eq_ok_iff.mpr h⟩
  · obtain ⟨l, hl, haccepts⟩ := haccepting h
    exact (hfinds hl haccepts).exists_isLeast ⟨b', h⟩
  · intro b' h place place' v t t' hslot hslot' ht ht'
    exact Option.some.inj ((h.holdsAt place v t hslot ht).symm.trans
      (h.holdsAt place' v t' hslot' ht'))
  · obtain ⟨l, hl, haccepts⟩ := haccepting h.1
    exact held?_bindAll ((hfinds hl haccepts).eq_ok_iff.mpr h) fun place _ => hv place

end Pattern

namespace Ferry

/-- Where something leads back to, in whatever season. -/
def returning : Pattern where
  subject := .var "h"
  predicate := .var "by"
  object := .var "h"
  context := some (.var "season")

/-- A trip around the isle, and one from the isle to the cape. -/
def roundTrip : Statement := ⟨.iri "isle", .iri "ferry", .iri "isle", none⟩

@[inherit_doc roundTrip]
def oneWay : Statement := ⟨.iri "isle", .iri "ferry", .iri "cape", none⟩

set_option maxRecDepth 100000 in
/-- A round trip goes in no season; a trip elsewhere does not lead back. -/
theorem matched_returning :
    let tour := Binding.empty.set "t" (.iri "tour")
    let back := (tour.set "h" (.iri "isle")).set "by" (.iri "ferry")
    IsLeast {b | returning.FitsAbove tour roundTrip b} back ∧ back.held? "season" = none ∧
      ∀ b, ¬returning.FitsAbove tour oneWay b := by
  intro tour back
  obtain ⟨hmatched, -, -, hleft⟩ :=
    returning.matched_iff_isLeast tour (show roundTrip.isWellFormed = true by decide +kernel)
  obtain ⟨-, -, hrepeated, -⟩ :=
    returning.matched_iff_isLeast tour (show oneWay.isWellFormed = true by decide +kernel)
  have hleast : IsLeast {b | returning.FitsAbove tour roundTrip b} back :=
    (hmatched back).mp ⟨{}, by decide +kernel, by decide +kernel, by decide +kernel⟩
  have hseason : ∀ place, returning.slotAt place = some (.var "season") →
      roundTrip.termAt place = none := by
    intro place hslot
    cases place with
    | context => rfl
    | _ => simp [returning, Pattern.slotAt] at hslot
  refine ⟨hleast, hleft back hleast "season" hseason, fun b hb => ?_⟩
  have hsame : (Term.iri "isle") = .iri "cape" :=
    hrepeated b hb .subject .object "h" _ _ rfl rfl rfl rfl
  exact absurd hsame (by decide +kernel)

end Ferry

end RdfReasoner
