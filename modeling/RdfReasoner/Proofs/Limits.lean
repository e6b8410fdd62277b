import RdfReasoner.Proofs.Memory

/-!
# The limit on intermediate results

The records of a plan are made in batches, and where large results are not allowed there is a limit
on how many statements they may tell of.  What is pulled of them does not depend on the batches
(`Sequence.drain_buffered`), and the limit cuts them: it lets pass as many records as it says and
puts an error in the place of the next one (`Plan.records_limited`).

The limit counts the statements that were put out before a record is compared with it, so the record
that exceeds it is lost, but none of those before.  This is carried through the sequence with the set
of these statements: as long as `seen` has room for more, the limited sequence is the cut of the
unlimited one at the room that is left (`Plan.upToError_drain_dropRepeated`).
-/

namespace RdfReasoner

/-- Items with an error in the place of the first value for which there is no room, and nothing
behind it. -/
def cutAt {α : Type} (limit : Nat) : Nat → List (Except Error α) → List (Except Error α)
  | room + 1, .ok a :: rest => .ok a :: cutAt limit room rest
  | 0, .ok _ :: _ => [.error (.tooManyResults limit)]
  | _, items => items

section cutAt

variable {α β : Type} (limit : Nat)

theorem cutAt_map (f : α → β) (room : Nat) (items : List (Except Error α)) :
    cutAt limit room (items.map (·.map f)) = (cutAt limit room items).map (·.map f) := by
  fun_induction cutAt limit room items with
  | case1 room a rest ih => exact congrArg (Except.ok (f a) :: ·) ih
  | case2 a rest => rfl
  | case3 room items hnext hlast =>
    cases items with
    | nil => cases room <;> rfl
    | cons item rest =>
      cases item with
      | error e => cases room <;> rfl
      | ok a =>
        cases room with
        | zero => exact (hlast a rest rfl rfl).elim
        | succ room => exact (hnext room a rest rfl rfl).elim

/-- Values are cut if there are more of them than there is room for. -/
theorem cutAt_map_ok (room : Nat) (as : List α) :
    cutAt limit room (as.map .ok) =
      if room < as.length then (as.take room).map .ok ++ [.error (.tooManyResults limit)]
      else as.map .ok := by
  induction as generalizing room with
  | nil => cases room <;> rfl
  | cons a as ih =>
    cases room with
    | zero => simp [cutAt]
    | succ room =>
      rw [List.map_cons, cutAt, ih, List.length_cons, List.take_succ_cons]
      by_cases hmore : room < as.length
      · rw [if_pos hmore, if_pos (Nat.succ_lt_succ hmore)]
        rfl
      · rw [if_neg hmore, if_neg (fun h => hmore (Nat.lt_of_succ_lt_succ h))]

end cutAt

namespace Plan

open Sequence

/-! ## Records over a storage in memory -/

/-- A step makes rows of rows. -/
theorem exists_items_apply {s : Store} {rows : Rows} {rs : List Row}
    (h : rows.items s.answer = rs.map .ok) (step : Step) :
    ∃ rs' : List Row, (apply rows step).items s.answer = rs'.map .ok := by
  cases step with
  | seed p | join p =>
    refine ⟨rs.flatMap (p.rows s.facts.toList), ?_⟩
    rw [apply, items_flatMapOk, h, List.flatMap_map, List.map_flatMap]
    exact congrArg (List.flatMap · rs) (funext fun r => items_expand s p r)
  | filter f =>
    refine ⟨rs.filter fun r => f.accepts r.binding, ?_⟩
    rw [apply, items_filterOk, h, List.filter_map]
    rfl

/-- Whatever its steps are, a plan puts out documents and no errors. -/
theorem exists_items_outputs (plan : Plan) (s : Store) :
    ∃ ds : List Document, plan.outputs.items s.answer = ds.map .ok := by
  have hsteps (steps : List Step) {rows : Rows} {rs : List Row}
      (h : rows.items s.answer = rs.map .ok) :
      ∃ rs' : List Row, (steps.foldl apply rows).items s.answer = rs'.map .ok := by
    induction steps generalizing rows rs with
    | nil => exact ⟨rs, h⟩
    | cons step steps ih =>
      obtain ⟨rs', h'⟩ := exists_items_apply h step
      exact ih h'
  have hfirst : (single (.ok {}) : Rows).items s.answer = [({} : Row)].map .ok := rfl
  obtain ⟨rs, hrows⟩ := hsteps plan.steps hfirst
  rw [outputs, items_flatMapOk, rows, items_filterOk, hrows, List.filter_map, List.flatMap_map]
  refine ⟨(rs.filter plan.admits).flatMap fun r =>
    (plan.templates.filterMap (·.instantiate? r.binding)).map fun st =>
      ⟨st, r.level + 1, plan.timestamp⟩, ?_⟩
  rw [List.map_flatMap]
  refine congrArg (List.flatMap · _) (funext fun r => ?_)
  simp only [onValue, items_ofList, List.map_map]
  rfl

/-! ## Limits and batches over any storage -/

variable {σ : Type} (responder : Responder σ)

/-- A limit cuts what is put out without it. -/
theorem upToError_drain_dropRepeated {limit : Nat} {seen : Std.TreeSet Statement}
    (hseen : seen.size ≤ limit) (s : Sequence (Except Error Document)) (x : σ) :
    upToError ((dropRepeated (some limit) seen s).drain responder x).1 =
      cutAt limit (limit - seen.size)
        (upToError ((dropRepeated none seen s).drain responder x).1) := by
  induction s generalizing seen x with
  | nil => cases limit - seen.size <;> rfl
  | cons item rest ih =>
    cases item with
    | error e =>
      rw [dropRepeated, dropRepeated]
      cases limit - seen.size <;> rfl
    | ok d =>
      rw [dropRepeated, dropRepeated]
      split
      · exact ih () hseen x
      · next hnew =>
        have hsize : (seen.insert d.statement).size = seen.size + 1 := by
          rw [Std.TreeSet.size_insert, if_neg (by simpa using hnew)]
        dsimp only
        rw [hsize]
        split
        · next hfull =>
          have hroom : limit - seen.size = 0 := by omega
          rw [hroom]
          rfl
        · next hfree =>
          have hroom : limit - seen.size = limit - (seen.insert d.statement).size + 1 := by omega
          rw [drain_cons, drain_cons, upToError, upToError, hroom, cutAt, ih () (by omega) x]
  | ask q next ih => exact ih (responder q x).1 hseen (responder q x).2

/-- The documents from which batches are made: with `cap` as the limit, if there is one. -/
def kept (plan : Plan) (cap : Option Nat) : Sequence (Except Error Document) :=
  if plan.distinct then dropRepeated cap ∅ plan.outputs else plan.outputs

/-- What is pulled of the records does not depend on the size of the batches. -/
theorem drain_records (plan : Plan) (large : Bool) (size limit : Nat) (x : σ) :
    (plan.records ⟨large, size⟩ limit).drain responder x =
      (((plan.kept (if large then none else some limit)).untilError.drain responder x).1.map
          (·.map Document.toJson),
        ((plan.kept (if large then none else some limit)).untilError.drain responder x).2) := by
  rw [records, drain_map, run, drain_buffered, List.nil_append]
  rfl

/-- A limit cuts the records of a plan that puts out every statement only once. -/
theorem upToError_drain_kept (plan : Plan) (limit : Nat) (x : σ) :
    upToError ((plan.kept (some limit)).drain responder x).1 =
      if plan.distinct then cutAt limit limit (upToError ((plan.kept none).drain responder x).1)
      else upToError ((plan.kept none).drain responder x).1 := by
  unfold kept
  cases plan.distinct with
  | false => rfl
  | true => exact upToError_drain_dropRepeated responder (Nat.zero_le limit) plan.outputs x

/-- Over a storage in memory everything that is put out is kept without an error. -/
theorem exists_items_kept (plan : Plan) (s : Store) :
    ∃ ds : List Document, (plan.kept none).items s.answer = ds.map .ok := by
  obtain ⟨ds, hds⟩ := plan.exists_items_outputs s
  unfold kept
  cases plan.distinct with
  | false => exact ⟨ds, hds⟩
  | true => exact ⟨_, eq_map_valuesBefore (firstError?_dropRepeated hds ∅)⟩

/-- **The limit cuts the records, and batches cannot be seen.**  Over a store in memory a plan has
some records `R`, none of them an error, which are pulled where large results are allowed, whatever
the limit and the size of the batches.  Where they are not allowed and the plan puts out every
statement only once, `R` is pulled as well if it has no more records than the limit says, and else as
many of its first records and then an error that names the limit, and nothing more.  A plan that
repeats statements has no limit.

Over any storage, which may fail or change when it is asked, what is pulled is the same for every
size of the batches: some sequence that ends at its first error if it has one, of which whoever stops
early has pulled the beginning.  The storage is left in the same state as well. -/
theorem records_limited (plan : Plan) :
    (∀ s : Store, ∃ R : List Json, ∀ limit size,
      (plan.records ⟨true, size⟩ limit).drain Store.responder s = (R.map .ok, s) ∧
      (plan.records ⟨false, size⟩ limit).drain Store.responder s =
        (if plan.distinct = true ∧ limit < R.length then
          (R.take limit).map .ok ++ [.error (.tooManyResults limit)]
        else R.map .ok, s)) ∧
    ∀ {σ : Type} (responder : Responder σ) (x : σ) (large : Bool) (limit : Nat),
      ∃ (R : List (Except Error Json)) (y : σ), upToError R = R ∧ ∀ size,
        (plan.records ⟨large, size⟩ limit).drain responder x = (R, y) ∧
        ∀ n, ((plan.records ⟨large, size⟩ limit).take responder n x).1 = R.take n := by
  constructor
  · intro s
    obtain ⟨ds, hds⟩ := plan.exists_items_kept s
    have hsteady : ∀ q, Store.responder q s = (s.answer q, s) := fun _ => rfl
    have hstate (cap : Option Nat) :
        ((plan.kept cap).untilError.drain Store.responder s).2 = s := by
      rw [drain_eq_items hsteady]
    have hall : upToError ((plan.kept none).drain Store.responder s).1 = ds.map .ok := by
      rw [drain_eq_items hsteady, hds, upToError_map_ok]
    have hjson : (ds.map .ok).map (Except.map (ε := Error) Document.toJson) =
        (ds.map Document.toJson).map .ok := by
      rw [List.map_map, List.map_map]
      rfl
    refine ⟨ds.map Document.toJson, fun limit size => ?_⟩
    rw [drain_records, drain_records]
    refine ⟨Prod.ext ?_ (hstate _), Prod.ext ?_ (hstate _)⟩
    · dsimp only
      rw [drain_untilError, if_pos rfl, hall, hjson]
    · dsimp only
      rw [drain_untilError, if_neg Bool.false_ne_true, upToError_drain_kept, hall]
      cases plan.distinct with
      | false => rw [if_neg Bool.false_ne_true, if_neg (fun h => Bool.false_ne_true h.1), hjson]
      | true => rw [if_pos rfl, ← cutAt_map, hjson, cutAt_map_ok]; simp
  · intro σ responder x large limit
    have hpulled (size : Nat) := drain_records responder plan large size limit x
    refine ⟨_, _, ?_, fun size => ⟨hpulled size, fun n => ?_⟩⟩
    · rw [drain_untilError, upToError_map, upToError_upToError]
    · rw [take_eq_take_drain, hpulled]

end Plan

end RdfReasoner
