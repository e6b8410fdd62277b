import Mathlib.Data.List.Infix
import Mathlib.Order.Bounds.Basic
import RdfReasoner.Proofs.Sequence

/-!
# Slices of sequences with errors

A slice skips so many values, lets so many values pass, and then ends.  Errors among its items are
not counted.  Whether an item passes depends only on what stands in front of it (`passes`): a value
needs `offset` values in front of it, and an item of either kind needs fewer than `limit` values
behind these.  A slice yields exactly the items that pass
(`Sequence.slice_passes_until_settled`).

Making items may put questions to the storage, so it matters as well how far a slice reads.  It
pulls its child only as long as there is a reason to: the consumer waits for an item, the last value
has not come, and the end was not seen (`Settled`).  The number of these pulls is exact.  As the
storage may be anything whose replies depend on what was asked before, equal states afterwards mean
that the same questions were put.

## Shape of the proof

Both `passing` and `Settled` look at a whole list of items.  What they say of a list is reduced to
what they say of its tail, with one value less to skip, or one less to let pass.  These are the
steps of `Sequence.slice`, and the induction over the child puts them together
(`Sequence.take_slice`).
-/

namespace RdfReasoner

variable {α ε : Type}

/-- The values of a list, in their order. -/
def values (items : List (Except ε α)) : List α := items.filterMap Except.toOption

@[simp] theorem values_nil : values ([] : List (Except ε α)) = [] := rfl

@[simp] theorem values_ok_cons (a : α) (items : List (Except ε α)) :
    values (.ok a :: items) = a :: values items := rfl

@[simp] theorem values_error_cons (e : ε) (items : List (Except ε α)) :
    values (.error e :: items) = values items := rfl

@[simp] theorem values_map_ok (as : List α) : values (as.map (Except.ok (ε := ε))) = as := by
  induction as with
  | nil => rfl
  | cons a as ih => rw [List.map_cons, values_ok_cons, ih]

/-- The first ones of a list, all of them without a limit. -/
def upTo (limit : Option Nat) (as : List α) : List α := limit.elim as (as.take ·)

/-! ## Which items pass -/

/-- Whether an item behind the items `front` passes. -/
def passes (offset : Nat) (limit : Option Nat) (front : List (Except ε α)) (item : Except ε α) :
    Bool :=
  (item.toOption.isNone || offset ≤ (values front).length) &&
    limit.all ((values front).length - offset < ·)

/-- The items of a list that pass, each judged by the items in front of it. -/
def passing (offset : Nat) (limit : Option Nat) (items : List (Except ε α)) :
    List (Except ε α) :=
  ((items.inits.zip items).filter fun place => passes offset limit place.1 place.2).map (·.2)

section passing

variable {offset : Nat} {limit : Option Nat}

/-- Behind an error an item passes as it would without the error. -/
theorem passes_behind_error (e : ε) (front : List (Except ε α)) (item : Except ε α) :
    passes offset limit (.error e :: front) item = passes offset limit front item := rfl

/-- A value in front counts against the offset first. -/
theorem passes_behind_skipped (a : α) (front : List (Except ε α)) (item : Except ε α) :
    passes (offset + 1) limit (.ok a :: front) item = passes offset limit front item := by
  simp [passes]

/-- Without an offset a value in front counts against the limit. -/
theorem passes_behind_passed (a : α) (front : List (Except ε α)) (item : Except ε α) :
    passes 0 limit (.ok a :: front) item = passes 0 (limit.map (· - 1)) front item := by
  cases limit with
  | none => simp [passes]
  | some m =>
    have hcount : (values front).length + 1 < m ↔ (values front).length < m - 1 := by omega
    simp [passes, hcount]

@[simp] theorem passing_nil : passing offset limit ([] : List (Except ε α)) = [] := rfl

/-- Where no value may pass nothing does, not even an error. -/
@[simp] theorem passing_limit_zero (items : List (Except ε α)) :
    passing offset (some 0) items = [] := by
  have hnone : ∀ place : List (Except ε α) × Except ε α,
      passes offset (some 0) place.1 place.2 = false := fun place => by simp [passes]
  simp [passing, hnone]

/-- The first item passes for itself, and the others behind it. -/
theorem passing_cons (item : Except ε α) (items : List (Except ε α)) :
    passing offset limit (item :: items) =
      (if passes offset limit [] item then [item] else []) ++
        ((items.inits.zip items).filter fun place =>
          passes offset limit (item :: place.1) place.2).map (·.2) := by
  rw [passing, List.inits_cons, List.zip_cons_cons, List.filter_cons, List.zip_map_left,
    List.filter_map]
  split <;> simp [Function.comp_def]

theorem passing_error_cons (hlimit : limit ≠ some 0) (e : ε) (items : List (Except ε α)) :
    passing offset limit (.error e :: items) = .error e :: passing offset limit items := by
  have hpasses : passes offset limit [] (.error e : Except ε α) = true := by
    cases limit with
    | none => rfl
    | some m =>
      have hm : 0 < m := Nat.pos_of_ne_zero fun h => hlimit (congrArg some h)
      simpa [passes, Except.toOption] using hm
  simp only [passing_cons, if_pos hpasses, passes_behind_error]
  rfl

theorem passing_skipped_cons (a : α) (items : List (Except ε α)) :
    passing (offset + 1) limit (.ok a :: items) = passing offset limit items := by
  have hskipped : passes (offset + 1) limit [] (.ok a : Except ε α) = false := by
    simp [passes, Except.toOption]
  simp only [passing_cons, hskipped, passes_behind_skipped]
  rfl

theorem passing_passed_cons (hlimit : limit ≠ some 0) (a : α) (items : List (Except ε α)) :
    passing 0 limit (.ok a :: items) = .ok a :: passing 0 (limit.map (· - 1)) items := by
  have hpasses : passes 0 limit [] (.ok a : Except ε α) = true := by
    cases limit with
    | none => rfl
    | some m =>
      have hm : 0 < m := Nat.pos_of_ne_zero fun h => hlimit (congrArg some h)
      simpa [passes] using hm
  simp only [passing_cons, if_pos hpasses, passes_behind_passed]
  rfl

/-- The values that pass are counted off as if there were no errors. -/
theorem values_passing (items : List (Except ε α)) :
    values (passing offset limit items) = upTo limit ((values items).drop offset) := by
  by_cases hlimit : limit = some 0
  · subst hlimit
    simp [upTo]
  induction items generalizing offset limit with
  | nil => cases limit <;> simp [upTo]
  | cons item items ih =>
    rcases item with e | a
    · rw [passing_error_cons hlimit, values_error_cons, values_error_cons, ih hlimit]
    · rcases offset with - | offset
      · rw [passing_passed_cons hlimit, values_ok_cons, values_ok_cons, List.drop_zero]
        rcases limit with - | m
        · exact congrArg (a :: ·) (ih hlimit)
        · obtain ⟨m, rfl⟩ := Nat.exists_eq_succ_of_ne_zero fun h => hlimit (congrArg some h)
          by_cases hm : m = 0
          · subst hm
            simp [upTo]
          · rw [ih (by simpa using hm)]
            simp [upTo]
      · rw [passing_skipped_cons, values_ok_cons, List.drop_succ_cons, ih hlimit]

/-- What passes stands in the order of the list. -/
theorem passing_sublist (items : List (Except ε α)) :
    (passing offset limit items).Sublist items := by
  have hlength : items.length ≤ items.inits.length := by simp
  have hall : (items.inits.zip items).map Prod.snd = items := List.map_snd_zip hlength
  calc
    (passing offset limit items).Sublist ((items.inits.zip items).map Prod.snd) :=
      List.filter_sublist.map Prod.snd
    _ = items := hall

/-- Of values alone those pass that are counted off. -/
theorem passing_map_ok (as : List α) :
    passing offset limit (as.map (Except.ok (ε := ε))) =
      (upTo limit (as.drop offset)).map .ok := by
  obtain ⟨bs, -, hbs⟩ := List.sublist_map_iff.mp (passing_sublist (as.map (Except.ok (ε := ε))))
  have hvalues : values (passing offset limit (as.map (Except.ok (ε := ε)))) = _ :=
    values_passing _
  rw [hbs, values_map_ok, values_map_ok] at hvalues
  rw [hbs, hvalues]

end passing

/-! ## How far a slice reads -/

/-- After `k` pulls of a child with some items there is no reason for another one: `n` items have
passed, or as many values as the limit says, or the end was found. -/
def Settled (offset : Nat) (limit : Option Nat) (n : Nat) (items : List (Except ε α)) (k : Nat) :
    Prop :=
  n ≤ (passing offset limit (items.take k)).length ∨
    (∃ m ∈ limit, m ≤ ((values (items.take k)).drop offset).length) ∨ items.length < k

section settled

variable {offset n k : Nat} {limit : Option Nat} {items : List (Except ε α)}

theorem settled_of_nothing_needed : Settled offset limit 0 items 0 := .inl (Nat.zero_le _)

theorem settled_of_limit_zero : Settled offset (some 0) n items 0 :=
  .inr (.inl ⟨0, rfl, Nat.zero_le _⟩)

theorem not_settled_zero (hn : n ≠ 0) (hlimit : limit ≠ some 0) :
    ¬ Settled offset limit n items 0 := by
  rintro (hpassed | ⟨m, hm, hcounted⟩ | hend)
  · exact hn (Nat.le_zero.mp (by simpa using hpassed))
  · rw [List.take_zero, values_nil, List.drop_nil, List.length_nil, Nat.le_zero] at hcounted
    exact hlimit (by rw [Option.mem_def.mp hm, hcounted])
  · exact Nat.not_lt_zero _ hend

theorem settled_error_cons (hlimit : limit ≠ some 0) (e : ε) :
    Settled offset limit (n + 1) (.error e :: items) (k + 1) ↔ Settled offset limit n items k := by
  simp only [Settled, List.take_succ_cons, passing_error_cons hlimit, values_error_cons,
    List.length_cons, Nat.add_le_add_iff_right, Nat.add_lt_add_iff_right]

theorem settled_skipped_cons (a : α) :
    Settled (offset + 1) limit n (.ok a :: items) (k + 1) ↔ Settled offset limit n items k := by
  simp only [Settled, List.take_succ_cons, passing_skipped_cons, values_ok_cons,
    List.drop_succ_cons, List.length_cons, Nat.add_lt_add_iff_right]

theorem settled_passed_cons (hlimit : limit ≠ some 0) (a : α) :
    Settled 0 limit (n + 1) (.ok a :: items) (k + 1) ↔
      Settled 0 (limit.map (· - 1)) n items k := by
  have hcounted (c : Nat) : (∃ m ∈ limit, m ≤ c + 1) ↔ ∃ m ∈ limit.map (· - 1), m ≤ c := by
    cases limit <;> simp
  simp only [Settled, List.take_succ_cons, passing_passed_cons hlimit, values_ok_cons,
    List.drop_zero, List.length_cons, Nat.add_le_add_iff_right, Nat.add_lt_add_iff_right, hcounted]

/-- The least number from which on there is no reason, one pull earlier. -/
theorem isLeast_succ {P Q : Nat → Prop} (hzero : ¬ P 0) (hsucc : ∀ j, P (j + 1) ↔ Q j)
    (hk : IsLeast {j | Q j} k) : IsLeast {j | P j} (k + 1) := by
  refine ⟨(hsucc k).mpr hk.1, fun j hj => ?_⟩
  cases j with
  | zero => exact absurd hj hzero
  | succ j => exact Nat.succ_le_succ (hk.2 ((hsucc j).mp hj))

end settled

namespace Sequence

variable {σ : Type} (responder : Responder σ)

/-- Where nothing is needed or nothing may pass the child is not pulled. -/
theorem take_slice_idle {offset n : Nat} {limit : Option Nat} (h : n = 0 ∨ limit = some 0)
    (s : Sequence (Except ε α)) (x : σ) :
    ∃ k, IsLeast {j | Settled offset limit n (s.drain responder x).1 j} k ∧
      (s.slice offset limit).take responder n x =
        ((passing offset limit (s.drain responder x).1).take n, (s.take responder k x).2) := by
  have hzero {P : Nat → Prop} (h : P 0) : IsLeast {j | P j} 0 := ⟨h, fun j _ => Nat.zero_le j⟩
  rcases h with rfl | rfl
  · exact ⟨0, hzero settled_of_nothing_needed, by simp⟩
  · exact ⟨0, hzero settled_of_limit_zero, by simp [slice.eq_def]⟩

/-- Pulling some items of a slice is pulling its child until there is no more reason to. -/
theorem take_slice (offset : Nat) (limit : Option Nat) (s : Sequence (Except ε α)) (n : Nat)
    (x : σ) :
    ∃ k, IsLeast {j | Settled offset limit n (s.drain responder x).1 j} k ∧
      (s.slice offset limit).take responder n x =
        ((passing offset limit (s.drain responder x).1).take n, (s.take responder k x).2) := by
  -- An idle slice ends without looking at its child, so the steps below are taken by others only.
  by_cases hidle : n = 0 ∨ limit = some 0
  · exact take_slice_idle responder hidle s x
  induction s generalizing offset limit n x with
  | nil =>
    obtain ⟨hn, hlimit⟩ := not_or.mp hidle
    have hfirst : IsLeast {j | Settled offset limit n ([] : List (Except ε α)) j} 1 := by
      refine ⟨.inr (.inr Nat.zero_lt_one), fun j hj => Nat.pos_of_ne_zero fun hzero => ?_⟩
      subst hzero
      exact not_settled_zero hn hlimit hj
    exact ⟨1, hfirst, by simp [slice.eq_def, hlimit]⟩
  | cons item rest ih =>
    obtain ⟨hn, hlimit⟩ := not_or.mp hidle
    -- What is left to do may be nothing, although there was something to do here.
    have hrest (offset : Nat) (limit : Option Nat) (n : Nat) :
        ∃ k, IsLeast {j | Settled offset limit n ((rest ()).drain responder x).1 j} k ∧
          ((rest ()).slice offset limit).take responder n x =
            ((passing offset limit ((rest ()).drain responder x).1).take n,
              ((rest ()).take responder k x).2) := by
      by_cases h : n = 0 ∨ limit = some 0
      · exact take_slice_idle responder h (rest ()) x
      · exact ih () offset limit n x h
    obtain ⟨n, rfl⟩ := Nat.exists_eq_succ_of_ne_zero hn
    rw [drain_cons, slice.eq_def, if_neg hlimit]
    rcases item with e | a
    · obtain ⟨k, hk, htake⟩ := hrest offset limit n
      refine ⟨k + 1, isLeast_succ (not_settled_zero hn hlimit)
        (fun j => settled_error_cons hlimit e) hk, ?_⟩
      simp [htake, passing_error_cons hlimit]
    rcases offset with - | offset
    · obtain ⟨k, hk, htake⟩ := hrest 0 (limit.map (· - 1)) n
      refine ⟨k + 1, isLeast_succ (not_settled_zero hn hlimit)
        (fun j => settled_passed_cons hlimit a) hk, ?_⟩
      simp [htake, passing_passed_cons hlimit]
    · obtain ⟨k, hk, htake⟩ := hrest offset limit (n + 1)
      refine ⟨k + 1, isLeast_succ (not_settled_zero hn hlimit)
        (fun j => settled_skipped_cons a) hk, ?_⟩
      simp [htake, passing_skipped_cons]
  | ask q next ih =>
    obtain ⟨hn, hlimit⟩ := not_or.mp hidle
    obtain ⟨k, hk, htake⟩ := ih (responder q x).1 offset limit n (responder q x).2 hidle
    -- The question is part of the first pull, so there has to be one.
    have hk0 : k ≠ 0 := by
      rintro rfl
      exact not_settled_zero hn hlimit hk.1
    refine ⟨k, hk, ?_⟩
    rw [slice.eq_def, if_neg hlimit, take_ask responder x hn, take_ask responder x hk0]
    exact htake

/-- **Slices count values only and read no further than they must.**  However many items are pulled
of a slice, they are the first of those that pass among the items of its child, errors included, and
for this the child is pulled until it is settled, and not once more.  With nothing to let pass it is
never pulled.  The values among them are counted off as if there were no errors: the first `offset`
are skipped and at most `limit` of the others are left.  Of a child without errors exactly these
values are left, in their order. -/
theorem slice_passes_until_settled (responder : Responder σ) (x : σ)
    (s : Sequence (Except ε α)) (offset limit : Option Nat) :
    let skipped := offset.getD 0
    let child := (s.drain responder x).1
    (∀ n, ∃ k, IsLeast {j | Settled skipped limit n child j} k ∧
        (s.slice skipped limit).take responder n x =
          ((passing skipped limit child).take n, (s.take responder k x).2)) ∧
      (∀ n, (s.slice skipped (some 0)).take responder n x = ([], x)) ∧
      values (passing skipped limit child) = upTo limit ((values child).drop skipped) ∧
      ∀ as : List α,
        passing skipped limit (as.map (Except.ok (ε := ε))) =
            (upTo limit (as.drop skipped)).map .ok ∧
          (upTo limit (as.drop skipped)).length =
            limit.elim (as.length - skipped) (min · (as.length - skipped)) := by
  refine ⟨fun n => take_slice responder _ limit s n x, fun n => ?_, values_passing _,
    fun as => ⟨passing_map_ok as, ?_⟩⟩
  · rw [slice.eq_def, if_pos rfl, take_nil]
  · cases limit with
    | none => exact List.length_drop
    | some m => exact List.length_take.trans (congrArg (min m) List.length_drop)

/-- A storage that fails to deliver the second fact, and counts what it was asked for. -/
example :
    let responder : Responder Nat := fun
      | .deliver, n => (if n = 1 then .error (.query "gone") else .ok (), n + 1)
      | .lookup _, n | .lookupAll _, n | .reach .., n => (.ok [], n)
      | .holds _, n => (.ok false, n)
    ((delivered ["dawn", "noon", "dusk", "night", "late"]).slice 1 (some 2)).take responder 9 0 =
      ([.error (.query "gone"), .ok "dusk", .ok "night"], 4) := by
  rfl

end Sequence

end RdfReasoner
