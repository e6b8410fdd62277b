import RdfReasoner.Proofs.Matching

/-!
# Merging

Bindings are ordered by their entries, where "no value" is an entry like any other.  Merging two of
them finds the least binding above both (`Binding.finds_merge`), and it fails exactly if there is
none, because a variable of both holds different things.  What is above two bindings depends neither
on their order nor on the order of their entries, nor on which two of three are merged first, so
merging does not either.

A statement extends a binding by what it makes of the empty one: the least binding that holds its
terms (`Pattern.bind_eq_merge`).
-/

namespace RdfReasoner

namespace Binding

variable {a b m : Binding}

theorem empty_le (b : Binding) : empty ≤ b := nofun

/-! ## Entries -/

/-- A binding is below the ones that hold its entries. -/
theorem le_iff_entries : b ≤ m ↔ ∀ e ∈ b.entries, m.held? e.1 = some e.2 := by
  constructor
  · exact fun h e he => h e.1 e.2 ((lookup_eq_some_iff_mem b.sorted).mpr he)
  · exact fun h v x hx => h (v, x) ((lookup_eq_some_iff_mem b.sorted).mp hx)

/-- Some binding has the entries of another and those of a list that it lacks. -/
theorem exists_union (a : Binding) (es : List (String × Option Term)) :
    ∃ m : Binding, ∀ v, m.held? v = (a.held? v).or (es.lookup v) := by
  induction es generalizing a with
  | nil => exact ⟨a, fun v => (Option.or_none ..).symm⟩
  | cons e es ih =>
    obtain ⟨n, x⟩ := e
    obtain ⟨m, hm⟩ := ih (if a.held? n = none then a.put n x else a)
    refine ⟨m, fun v => ?_⟩
    rw [hm, Fields.lookup_cons]
    by_cases hv : v = n
    · subst hv
      rcases hheld : a.held? v with _ | y <;> simp [hheld]
    · rw [if_neg hv]
      split
      · rw [held?_put, if_neg hv]
      · rfl

/-! ## Bindings that agree -/

/-- Two bindings hold the same for every variable of both. -/
def Agrees (a b : Binding) : Prop := ∀ v x y, a.held? v = some x → b.held? v = some y → x = y

theorem agrees_of_le (ha : a ≤ m) (hb : b ≤ m) : a.Agrees b := fun v x y hx hy =>
  Option.some.inj ((ha v x hx).symm.trans (hb v y hy))

/-- The entries of two bindings that agree are below their union. -/
theorem Agrees.le_union (h : a.Agrees b) (hm : ∀ v, m.held? v = (a.held? v).or (b.held? v)) :
    a ≤ m ∧ b ≤ m := by
  refine ⟨fun v x hx => by rw [hm, hx]; rfl, fun v y hy => ?_⟩
  rw [hm]
  rcases hx : a.held? v with _ | x
  · exact hy
  · exact congrArg some (h v x y hx hy)

/-- The least binding above two of them is their union, and they agree. -/
theorem isLUB_iff :
    IsLUB {a, b} m ↔ a.Agrees b ∧ ∀ v, m.held? v = (a.held? v).or (b.held? v) := by
  have hleast {u : Binding} (hu : ∀ v, u.held? v = (a.held? v).or (b.held? v)) {m : Binding}
      (ha : a ≤ m) (hb : b ≤ m) : u ≤ m := by
    intro v x hx
    rw [hu, Option.or_eq_some_iff] at hx
    rcases hx with hx | ⟨-, hx⟩
    · exact ha v x hx
    · exact hb v x hx
  constructor
  · intro h
    have ha : a ≤ m := h.1 (Set.mem_insert a {b})
    have hb : b ≤ m := h.1 (Set.mem_insert_of_mem a rfl)
    have hagrees := agrees_of_le ha hb
    obtain ⟨u, hu⟩ := a.exists_union b.entries
    obtain ⟨hau, hbu⟩ := hagrees.le_union hu
    have hmu : m ≤ u := (isLUB_le_iff h).mpr (by simp [hau, hbu])
    obtain rfl := le_antisymm hmu (hleast hu ha hb)
    exact ⟨hagrees, hu⟩
  · rintro ⟨hagrees, hm⟩
    obtain ⟨ha, hb⟩ := hagrees.le_union hm
    refine ⟨by simp [ha, hb], fun u hu => ?_⟩
    simp only [upperBounds_insert, upperBounds_singleton, Set.mem_inter_iff, Set.mem_Ici] at hu
    exact hleast hm hu.1 hu.2

/-! ## Outcomes -/

/-- Looking for the least of the same bindings has the same outcome, apart from the conflict. -/
theorem Finds.toOption_eq {S : Set Binding} {o o' : Except Conflict Binding} (h : Finds S o)
    (h' : Finds S o') : o.toOption = o'.toOption := by
  have hok (m : Binding) : o = .ok m ↔ o' = .ok m := h.eq_ok_iff.trans h'.eq_ok_iff.symm
  cases o with
  | ok m => rw [(hok m).mp rfl]
  | error conflict =>
    cases o' with
    | ok m => exact absurd ((hok m).mpr rfl) nofun
    | error conflict' => rfl

/-- Adds entries in the order of a list. -/
def addAll (a : Binding) (es : List (String × Option Term)) : Except Conflict Binding :=
  es.foldlM (fun m e => m.add e.1 e.2) a

/-- Adding some entries finds the least extension that holds them. -/
theorem finds_addAll (a : Binding) (es : List (String × Option Term)) :
    Finds {m | a ≤ m ∧ ∀ e ∈ es, m.held? e.1 = some e.2} (a.addAll es) :=
  finds_foldlM (fun e _ _ hle h => hle e.1 e.2 h) (fun m e => m.finds_add e.1 e.2) a es

/-- Merging finds the least binding above both. -/
theorem finds_merge (a b : Binding) : Finds {m | a ≤ m ∧ b ≤ m} (a.merge b) := by
  simp only [le_iff_entries (b := b)]
  exact a.finds_addAll b.entries

theorem merge_eq_ok_iff : a.merge b = .ok m ↔ IsLUB {a, b} m := by
  have hset : {m | a ≤ m ∧ b ≤ m} = upperBounds {a, b} := by
    ext m
    simp
  rw [(a.finds_merge b).eq_ok_iff, hset, IsLUB]

/-- From the least of some bindings on, one finds the least of them that is above another one as
well, if whatever is above one of them is one of them. -/
theorem Finds.above {S : Set Binding} {o : Except Conflict Binding}
    {next : Binding → Except Conflict Binding} (h : Finds S o) (hS : IsUpperSet S)
    (hnext : ∀ m, Finds {x | a ≤ x ∧ m ≤ x} (next m)) :
    Finds {x | a ≤ x ∧ x ∈ S} (o >>= next) := by
  refine h.bind (fun x hx => hx.2) fun m hm => ?_
  have hset : {x | a ≤ x ∧ x ∈ S} = {x | a ≤ x ∧ m ≤ x} := by
    ext x
    exact and_congr_right fun _ => ⟨fun hx => hm.2 hx, fun hle => hS hle hm.1⟩
  rw [hset]
  exact hnext m

theorem isUpperSet_above (a b : Binding) : IsUpperSet {x | a ≤ x ∧ b ≤ x} :=
  fun _ _ hle h => ⟨h.1.trans hle, h.2.trans hle⟩

/-- The same is above two bindings whichever comes first. -/
theorem finds_merge_swap (a b : Binding) : Finds {m | a ≤ m ∧ b ≤ m} (b.merge a) := by
  simp only [and_comm (a := a ≤ _)]
  exact b.finds_merge a

theorem merge_assoc (a b c : Binding) :
    (b.merge c >>= a.merge).toOption = (a.merge b >>= (·.merge c)).toOption := by
  have hright : Finds {x | a ≤ x ∧ b ≤ x ∧ c ≤ x} (b.merge c >>= a.merge) :=
    (b.finds_merge c).above (isUpperSet_above b c) a.finds_merge
  have hleft : Finds {x | c ≤ x ∧ a ≤ x ∧ b ≤ x} (a.merge b >>= (·.merge c)) :=
    (a.finds_merge b).above (isUpperSet_above a b) c.finds_merge_swap
  have hset (x : Binding) : (c ≤ x ∧ a ≤ x ∧ b ≤ x) ↔ a ≤ x ∧ b ≤ x ∧ c ≤ x := by
    rw [and_rotate]
  simp only [hset] at hleft
  exact hright.toOption_eq hleft

/-- The entries of a binding can be added in any order. -/
theorem addAll_perm (a : Binding) {es : List (String × Option Term)} (h : es.Perm b.entries) :
    (a.addAll es).toOption = (a.merge b).toOption := by
  have hadded := a.finds_addAll es
  simp only [h.mem_iff] at hadded
  exact hadded.toOption_eq (a.finds_addAll b.entries)

end Binding

/-! ## Statements -/

/-- A statement makes of a binding what it makes of the empty one, merged with the binding. -/
theorem Pattern.bind_eq_merge (p : Pattern) (b : Binding) (st : Statement) :
    (p.bind b st).toOption = (p.bind .empty st >>= b.merge).toOption := by
  have hupper : IsUpperSet (p.holding st .empty Position.all) :=
    fun _ _ hle h => ⟨h.1.trans hle, fun place hplace => (h.2 place hplace).mono hle⟩
  have hset : {x | b ≤ x ∧ x ∈ p.holding st .empty Position.all} = p.holding st b Position.all := by
    ext x
    exact and_congr_right fun _ => and_iff_right x.empty_le
  have hmerged := (p.finds_bindAll st .empty Position.all).above hupper b.finds_merge
  rw [hset] at hmerged
  exact (p.finds_bindAll st b Position.all).toOption_eq hmerged

/-! ## Laws of merging -/

namespace Binding

/-- **Merging is a partial union, commutative, associative and idempotent, and statements bind by
merging.**  Two bindings can be merged exactly if they hold the same for every variable of both,
where "no value" is different from every term, and the result has the entries of either.  Neither
the order in which the entries of the second are added matters, nor the order of the two, nor which
two of three are merged first: all ways have the same result, or all fail.  A binding merged with
itself is itself.  A statement can extend a binding exactly if it can extend the empty one and the
result can be merged with the binding, and this gives the extension. -/
theorem merge_laws (a b c : Binding) :
    ((∃ m, a.merge b = .ok m) ↔ ∀ v x y, a.held? v = some x → b.held? v = some y → x = y) ∧
      (∀ m, a.merge b = .ok m → ∀ v, m.held? v = (a.held? v).or (b.held? v)) ∧
      (∀ es, es.Perm b.entries → (a.addAll es).toOption = (a.merge b).toOption) ∧
      (a.merge b).toOption = (b.merge a).toOption ∧
      (b.merge c >>= a.merge).toOption = (a.merge b >>= (·.merge c)).toOption ∧
      a.merge a = .ok a ∧
      ∀ (p : Pattern) (st : Statement),
        (p.bind b st).toOption = (p.bind .empty st >>= b.merge).toOption := by
  refine ⟨⟨?_, fun h => ?_⟩, fun m hm => (isLUB_iff.mp (merge_eq_ok_iff.mp hm)).2,
    fun es => addAll_perm a, (a.finds_merge b).toOption_eq (a.finds_merge_swap b),
    merge_assoc a b c, ?_, fun p => p.bind_eq_merge b⟩
  · rintro ⟨m, hm⟩
    exact (isLUB_iff.mp (merge_eq_ok_iff.mp hm)).1
  · obtain ⟨m, hm⟩ := a.exists_union b.entries
    exact ⟨m, merge_eq_ok_iff.mpr (isLUB_iff.mpr ⟨h, hm⟩)⟩
  · rw [merge_eq_ok_iff, Set.pair_eq_singleton]
    exact isLUB_singleton

end Binding

namespace Ferry

/-- Rooms are offered, explicitly in no season. -/
def yearRound : Binding := (Binding.empty.set "o" (.iri "rooms")).setNull "season"

/-- A tour is given for the summer. -/
def inSummer : Binding := (Binding.empty.set "t" (.iri "tour")).set "season" (.iri "summer")

/-- A tour goes with what is offered in no season, but this does not go with the summer. -/
theorem merge_tour :
    (∃ m, tour.merge yearRound = .ok m ∧ m.held? "o" = some (some (.iri "rooms")) ∧
        m.held? "h" = some none ∧ (tour.addAll yearRound.entries.reverse).toOption = some m) ∧
      ¬ ∃ m, yearRound.merge inSummer = .ok m := by
  obtain ⟨-, hheld, hadded, -⟩ := tour.merge_laws yearRound inSummer
  obtain ⟨hseason, -⟩ := yearRound.merge_laws inSummer tour
  obtain ⟨m, hm⟩ : ∃ m, tour.merge yearRound = .ok m := ⟨_, rfl⟩
  refine ⟨⟨m, hm, hheld m hm "o", hheld m hm "h", ?_⟩, fun hmerged => ?_⟩
  · rw [hadded _ (List.reverse_perm yearRound.entries), hm]
    rfl
  · have hsame : none = some (Term.iri "summer") :=
      hseason.mp hmerged "season" _ _ (by decide +kernel) (by decide +kernel)
    cases hsame

end Ferry

end RdfReasoner
