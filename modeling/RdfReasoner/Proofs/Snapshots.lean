import Mathlib.Data.List.Forall2
import RdfReasoner.Proofs.AppendOnly
import RdfReasoner.Proofs.Evaluation

/-!
# Lookups are snapshots

A cursor is made of positions at the time of a lookup, and the facts are read when they are pulled.
Between two pulls any facts may enter the store, also some that the lookup would have accepted.
None of this can be seen in what the cursor yields (`Cursor.pulls_eq_snapshot`): the positions were
all found in the store as it was, every one of them has a fact there, and facts stay where they are.

## Shape of the proof

`Cursor.Reads` says of a list of positions that there is a fact at each of them, and which.  It
holds of a cursor when it is made, also where the positions of a lookup are taken over from an equal
one before it (`reads_gather`); it is kept when facts enter (`Reads.enter`); and a pull takes the
first fact and leaves the others (`Reads.pull`).  What a run of all this yields follows by induction
(`Reads.pulls_eq`).
-/

namespace RdfReasoner

/-- The facts that some lookups accept, lookup by lookup in the order in which they came, each with
the position of the lookup in the list. -/
def Store.snapshot (s : Store) (ls : List Lookup) : List (Fact × Nat) :=
  ls.zipIdx.flatMap fun (l, tag) => (s.facts.toList.filter (l.accepts ·.statement)).map (·, tag)

/-- Indexes find the snapshot. -/
theorem Store.lookupAll_eq_snapshot (s : Store) (ls : List Lookup) :
    s.lookupAll ls = s.snapshot ls := by
  simp only [lookupAll, snapshot, lookup_eq_filter]

namespace Cursor

/-! ## Pulls and what happens between them -/

/-- The next fact, if there is one, and the cursor behind it; an exhausted cursor stays empty. -/
def pull (c : Cursor) (s : Store) : Option (Fact × Nat) × Cursor :=
  match c.next? s with
  | some (found, rest) => (some found, rest)
  | none => (none, ⟨[]⟩)

/-- What may happen after a cursor was made. -/
inductive Event
  /-- A call lets facts enter the store. -/
  | enter (now : Timestamp) (call : Entry)
  | pull

/-- Whether the cursor is pulled. -/
def Event.isPull : Event → Bool
  | enter .. => false
  | pull => true

/-- What the pulls among some events yield. -/
def pulls (c : Cursor) (s : Store) : List Event → List (Option (Fact × Nat))
  | [] => []
  | .enter now call :: events => c.pulls (call.run s now).1 events
  | .pull :: events => (c.pull s).1 :: (c.pull s).2.pulls s events

/-! ## Positions that have facts -/

/-- There is a fact at every one of some positions, and with its tag it is read there. -/
def Reads (s : Store) : List (Nat × Nat) → List (Fact × Nat) → Prop :=
  List.Forall₂ fun place found => s.facts[place.1]? = some found.1 ∧ place.2 = found.2

variable {s : Store} {places : List (Nat × Nat)} {found : List (Fact × Nat)}

/-- A lookup finds positions that have facts. -/
theorem reads_positions (s : Store) (l : Lookup) (tag : Nat) :
    Reads s ((s.positions l).map (·, tag)) ((s.lookup l).map (·, tag)) := by
  have hstored : ∀ i ∈ s.positions l, i < s.facts.size := by
    intro i hi
    rw [s.positions_eq_filter] at hi
    exact List.mem_range.mp (List.mem_filter.mp hi).1
  rw [Store.lookup]
  generalize s.positions l = positions at hstored
  induction positions with
  | nil => exact .nil
  | cons i positions ih =>
    obtain ⟨hi, hrest⟩ := List.forall_mem_cons.mp hstored
    have hget : s.facts[i]? = some s.facts[i] := Array.getElem?_eq_getElem hi
    rw [List.filterMap_cons, hget]
    exact .cons ⟨hget, rfl⟩ (ih hrest)

/-- What is known of lookups before is what the indexes would find again. -/
theorem reads_gather {known : List (Lookup × Option (List Nat))}
    (hknown : ∀ l candidates, known.lookup l = some candidates → candidates = s.candidates l)
    (tag : Nat) (ls : List Lookup) :
    Reads s (gather s known tag ls)
      ((ls.zipIdx tag).flatMap fun (l, i) => (s.lookup l).map (·, i)) := by
  induction ls generalizing known tag with
  | nil => exact .nil
  | cons l ls ih =>
    have hhead : Reads s (tagged s tag (s.candidates l)) ((s.lookup l).map (·, tag)) :=
      reads_positions s l tag
    rw [List.zipIdx_cons, List.flatMap_cons, gather]
    split
    · next candidates hl =>
      rw [hknown l candidates hl]
      exact List.rel_append hhead (ih hknown _)
    · refine List.rel_append hhead (ih (fun l' candidates h => ?_) _)
      rw [List.lookup_cons] at h
      split at h
      · next heq =>
        obtain rfl := eq_of_beq heq
        exact (Option.some.inj h).symm
      · exact hknown l' candidates h

namespace Reads

/-- Facts stay where they are when others enter. -/
theorem enter (h : Reads s places found) (now : Timestamp) (call : Entry) :
    Reads (call.run s now).1 places found := by
  refine h.imp fun place f ⟨hget, htag⟩ => ⟨?_, htag⟩
  rw [← Array.getElem?_toList] at hget ⊢
  obtain ⟨hstored, -⟩ := List.getElem?_eq_some_iff.mp hget
  rw [Entry.run_eq_insertAll, (s.facts_insertAll_eq _ _).1, List.getElem?_append_left hstored, hget]

/-- A pull takes the first fact and leaves the others. -/
theorem pull {c : Cursor} (h : Reads s c.remaining found) :
    (c.pull s).1 = found.head? ∧ Reads s (c.pull s).2.remaining found.tail := by
  obtain ⟨places⟩ := c
  cases h with
  | nil => exact ⟨rfl, .nil⟩
  | @cons place f places found hplace hrest =>
    have hnext : next? ⟨place :: places⟩ s = some (f, ⟨places⟩) := by
      obtain ⟨hget, htag⟩ := hplace
      rw [next?, readFirst?, hget, htag]
    rw [Cursor.pull, hnext]
    exact ⟨rfl, hrest⟩

/-- However facts enter in between, the pulls yield one fact after the other, and then none. -/
theorem pulls_eq {c : Cursor} (h : Reads s c.remaining found) (events : List Event) :
    c.pulls s events = (List.range (events.countP Event.isPull)).map (found[·]?) := by
  induction events generalizing s c found with
  | nil => rfl
  | cons event events ih =>
    cases event with
    | enter now call =>
      rw [pulls, ih (h.enter now call)]
      rfl
    | pull =>
      obtain ⟨hfirst, hrest⟩ := h.pull
      rw [pulls, hfirst, ih hrest, List.countP_cons_of_pos rfl, List.range_succ_eq_map,
        List.map_cons, List.map_map, List.head?_eq_getElem?]
      simp only [List.getElem?_tail]
      rfl

end Reads

/-- **Lookups are snapshots.**  Let some lookups be made of a store at once, equal ones among them or
not, and let calls that let facts enter the store come between the pulls in any way.  The pulls
yield, one after the other until nothing is left, the facts that were stored when the lookups were
made: for lookup after lookup those that it accepts, in the order in which they came, each with the
position of the lookup in the list.  A single lookup yields the facts that it accepts in the same
way.  From a store that stays as it is an evaluator pulls these facts as well, however many it
pulls, and whether it puts the lookups as one question or one by one when they are due. -/
theorem pulls_eq_snapshot (s : Store) (ls : List Lookup) (events : List Event) :
    (ofLookups s ls).pulls s events =
        (List.range (events.countP Event.isPull)).map ((s.snapshot ls)[·]?) ∧
      (∀ l, ((ofLookup s l).pulls s events).map (·.map Prod.fst) =
        (List.range (events.countP Event.isPull)).map
          ((s.facts.toList.filter (l.accepts ·.statement))[·]?)) ∧
      ∀ e : Evaluator, ∃ found, (e.lookupAll ls).run Store.responder s = (.ok found, s) ∧
        ∀ n, found.take Store.responder n s = (((s.snapshot ls).take n).map .ok, s) := by
  have hsteady : ∀ q, Store.responder q s = (s.answer q, s) := fun _ => rfl
  refine ⟨?_, fun l => ?_, fun e => ?_⟩
  · have hreads : Reads s (ofLookups s ls).remaining (s.lookupAll ls) :=
      reads_gather (fun _ _ h => (Option.some_ne_none _ h.symm).elim) 0 ls
    rw [hreads.pulls_eq, s.lookupAll_eq_snapshot]
  · have hreads : Reads s (ofLookup s l).remaining ((s.lookup l).map (·, 0)) :=
      reads_positions s l 0
    rw [hreads.pulls_eq, s.lookup_eq_filter, List.map_map]
    refine List.map_congr_left fun i _ => ?_
    rw [Function.comp_apply, ← List.getElem?_map, List.map_map]
    exact congrArg (·[i]?) (List.map_id _)
  · obtain ⟨found, hfound, hitems⟩ := e.items_lookupAll s.resolver s ls
    rw [s.answerWith_resolver] at hfound hitems
    refine ⟨found, by rw [Inquiry.run_eq_result hsteady, hfound], fun n => ?_⟩
    rw [Sequence.take_eq_items hsteady, hitems, s.lookupAll_eq_snapshot, List.map_take]

/-- What enters behind the first pull is not pulled. -/
example :
    let ferry (departure arrival : String) : Fact :=
      ⟨⟨.iri departure, .iri "ferry", .iri arrival, none⟩, {}⟩
    let s := (Store.empty.insert .min (ferry "north" "isle")).1
    let away : Lookup := ⟨some (.iri "north"), some (.iri "ferry"), none, none⟩
    (ofLookups s [away, away]).pulls s
        [.pull, .enter .min (.insert (ferry "north" "cape")), .pull, .pull] =
      [some (ferry "north" "isle", 0), some (ferry "north" "isle", 1), none] := by
  decide +kernel

end Cursor

end RdfReasoner
