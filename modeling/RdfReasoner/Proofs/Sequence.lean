import RdfReasoner.Sequence

/-!
# Sequences over a storage that does not change

A storage that does not change answers a question the same way every time.  `Sequence.items` lists
what is pulled of a sequence over such a storage, and `Inquiry.result` is what an inquiry leads to.
Every operation on sequences comes with a lemma that says what it does to the list of items, so the
order in which things are made on demand can be forgotten.  Whoever stops at the first error sees
the values in front of it (`valuesBefore`).

Where the answers may change, or fail, `Sequence.EveryFor` says that all items that can be pulled
have a property as long as the replies are of some kind, `Sequence.Every` that they have it whatever
the replies are, and `Sequence.Distinct` that they can be told apart.
-/

namespace RdfReasoner

/-- What a storage answers to every question. -/
abbrev Answers := (q : Request) → q.Reply

/-- What may be replied to every question. -/
abbrev ReplyKind := (q : Request) → q.Reply → Prop

/-- The items up to the first error, which is the last of them. -/
def upToError {ε α : Type} : List (Except ε α) → List (Except ε α)
  | [] => []
  | .ok a :: rest => .ok a :: upToError rest
  | .error e :: _ => [.error e]

/-- Without errors nothing is left out. -/
@[simp] theorem upToError_map_ok {ε α : Type} (as : List α) :
    upToError (as.map (Except.ok (ε := ε))) = as.map .ok := by
  induction as with
  | nil => rfl
  | cons a as ih => simp [upToError, ih]

@[simp] theorem upToError_upToError {ε α : Type} (l : List (Except ε α)) :
    upToError (upToError l) = upToError l := by
  induction l with
  | nil => rfl
  | cons item rest ih =>
    cases item with
    | error e => rfl
    | ok a => exact congrArg (Except.ok a :: ·) ih

theorem upToError_map {ε α β : Type} (f : α → β) (l : List (Except ε α)) :
    upToError (l.map (·.map f)) = (upToError l).map (·.map f) := by
  induction l with
  | nil => rfl
  | cons item rest ih =>
    cases item with
    | error e => rfl
    | ok a => exact congrArg (Except.ok (f a) :: ·) ih

/-! ## Consecutive chunks -/

/-- The consecutive chunks of `size` elements, of which the last may be shorter: as many as the
length divided by `size`, rounded up. -/
def consecutive {α : Type} (size : Nat) (as : List α) : List (List α) :=
  (List.range ((as.length + size - 1) / size)).map fun i => (as.drop (i * size)).take size

section consecutive

variable {α : Type} {size : Nat}

theorem consecutive_nil (hsize : 0 < size) : consecutive size ([] : List α) = [] := by
  have hnone : (0 + size - 1) / size = 0 := Nat.div_eq_of_lt (by omega)
  rw [consecutive, List.length_nil, hnone, List.range_zero, List.map_nil]

/-- A full chunk in front is the first one. -/
theorem consecutive_append {chunk : List α} (hchunk : chunk.length = size) (hsize : 0 < size)
    (as : List α) : consecutive size (chunk ++ as) = chunk :: consecutive size as := by
  have hcount : ((chunk ++ as).length + size - 1) / size =
      (as.length + size - 1) / size + 1 := by
    rw [List.length_append, hchunk, ← Nat.add_div_right _ hsize]
    congr 1
    omega
  have hlater (i : Nat) : (chunk ++ as).drop ((i + 1) * size) = as.drop (i * size) := by
    rw [Nat.succ_mul, Nat.add_comm, ← List.drop_drop, ← hchunk, List.drop_left]
  rw [consecutive, hcount, List.range_succ_eq_map, List.map_cons, List.map_map, Nat.zero_mul,
    List.drop_zero, ← hchunk, List.take_left]
  refine congrArg (chunk :: ·) (List.map_congr_left fun i _ => ?_)
  rw [hchunk, Function.comp, hlater]

/-- What is left over makes a chunk that is shorter. -/
theorem consecutive_short {as : List α} (hne : as ≠ []) (hshort : as.length < size) :
    consecutive size as = [as] := by
  have hlength : 0 < as.length := List.length_pos_iff.mpr hne
  have hone : (as.length + size - 1) / size = 1 := by
    rw [show as.length + size - 1 = as.length - 1 + size by omega,
      Nat.add_div_right _ (by omega), Nat.div_eq_of_lt (by omega)]
  rw [consecutive, hone, List.range_one, List.map_singleton, Nat.zero_mul, List.drop_zero,
    List.take_of_length_le (Nat.le_of_lt hshort)]

theorem length_le_of_mem_consecutive {as chunk : List α} (h : chunk ∈ consecutive size as) :
    chunk.length ≤ size := by
  obtain ⟨i, -, rfl⟩ := List.mem_map.mp h
  exact List.length_take_le _ _

/-- Put together again, the chunks are the list. -/
theorem flatten_consecutive (hsize : 0 < size) (as : List α) :
    (consecutive size as).flatten = as := by
  induction hn : as.length using Nat.strongRecOn generalizing as with
  | _ n ih =>
    subst hn
    by_cases hshort : as.length < size
    · by_cases hnil : as = []
      · rw [hnil, consecutive_nil hsize, List.flatten_nil]
      · rw [consecutive_short hnil hshort, List.flatten_singleton]
    · have hchunk : (as.take size).length = size := by
        rw [List.length_take]
        omega
      have hrest : (consecutive size (as.drop size)).flatten = as.drop size := by
        refine ih _ ?_ _ rfl
        rw [List.length_drop]
        omega
      have hsplit := consecutive_append hchunk hsize (as.drop size)
      rw [List.take_append_drop] at hsplit
      rw [hsplit, List.flatten_cons, hrest, List.take_append_drop]

end consecutive

/-! ## Inquiries -/

namespace Inquiry

variable {α β σ : Type}

/-- The result for fixed answers. -/
def result (answer : Answers) : Inquiry α → α
  | done a => a
  | ask q next => (next (answer q)).result answer

@[simp] theorem result_done (answer : Answers) (a : α) : (done a).result answer = a := rfl

@[simp] theorem result_ask (answer : Answers) (q : Request) (next : q.Reply → Inquiry α) :
    (ask q next).result answer = (next (answer q)).result answer := rfl

@[simp] theorem result_map (answer : Answers) (f : α → β) (i : Inquiry α) :
    (i.map f).result answer = f (i.result answer) := by
  induction i with
  | done a => rfl
  | ask q next ih => exact ih (answer q)

/-- A storage whose answers do not change it gives the result for its answers. -/
theorem run_eq_result {responder : Responder σ} {answer : Answers} {s : σ}
    (h : ∀ q, responder q s = (answer q, s)) (i : Inquiry α) :
    i.run responder s = (i.result answer, s) := by
  induction i with
  | done a => rfl
  | ask q next ih =>
    show (next (responder q s).1).run responder (responder q s).2 = _
    rw [h q]
    exact ih (answer q)

/-- Whatever replies of some kind lead to has a property. -/
def EndsIn (R : ReplyKind) (P : α → Prop) : Inquiry α → Prop
  | done a => P a
  | ask q next => ∀ reply, R q reply → EndsIn R P (next reply)

theorem endsIn_of_forall {R : ReplyKind} {P : α → Prop} (h : ∀ a, P a) (i : Inquiry α) :
    i.EndsIn R P := by
  induction i with
  | done a => exact h a
  | ask q next ih => exact fun reply _ => ih reply

theorem endsIn_map {R : ReplyKind} {P : β → Prop} {f : α → β} {i : Inquiry α}
    (hi : i.EndsIn R fun a => P (f a)) : (i.map f).EndsIn R P := by
  induction i with
  | done a => exact hi
  | ask q next ih => exact fun reply hreply => ih reply (hi reply hreply)

theorem endsIn_mono {R : ReplyKind} {P P' : α → Prop} {i : Inquiry α} (hi : i.EndsIn R P)
    (h : ∀ a, P a → P' a) : i.EndsIn R P' := by
  induction i with
  | done a => exact h a hi
  | ask q next ih => exact fun reply hreply => ih reply (hi reply hreply)

end Inquiry

namespace Sequence

variable {α β ε : Type} {answer : Answers}

/-! ## Items -/

/-- The items for fixed answers. -/
def items (answer : Answers) : Sequence α → List α
  | nil => []
  | cons a rest => a :: (rest ()).items answer
  | ask q next => (next (answer q)).items answer

@[simp] theorem items_nil : (nil : Sequence α).items answer = [] := rfl

@[simp] theorem items_cons (a : α) (rest : Unit → Sequence α) :
    (cons a rest).items answer = a :: (rest ()).items answer := rfl

@[simp] theorem items_ask (q : Request) (next : q.Reply → Sequence α) :
    (ask q next).items answer = (next (answer q)).items answer := rfl

@[simp] theorem items_single (a : α) : (single a).items answer = [a] := rfl

@[simp] theorem items_prepend (as : List α) (t : Unit → Sequence α) :
    (prepend as t).items answer = as ++ (t ()).items answer := by
  induction as with
  | nil => rfl
  | cons a as ih => simp [prepend, ih]

@[simp] theorem ofList_nil : ofList ([] : List α) = nil := rfl

@[simp] theorem ofList_cons (a : α) (as : List α) :
    ofList (a :: as) = cons a fun _ => ofList as := rfl

@[simp] theorem items_ofList (as : List α) : (ofList as).items answer = as := by
  simp [ofList]

@[simp] theorem items_append (s : Sequence α) (t : Unit → Sequence α) :
    (s.append t).items answer = s.items answer ++ (t ()).items answer := by
  induction s with
  | nil => rfl
  | cons a rest ih => simp [append, ih]
  | ask q next ih => exact ih (answer q)

@[simp] theorem items_ofInquiry (i : Inquiry (Sequence α)) :
    (ofInquiry i).items answer = (i.result answer).items answer := by
  induction i with
  | done s => rfl
  | ask q next ih => exact ih (answer q)

@[simp] theorem items_map (f : α → β) (s : Sequence α) :
    (s.map f).items answer = (s.items answer).map f := by
  induction s with
  | nil => rfl
  | cons a rest ih => simp [map, ih]
  | ask q next ih => exact ih (answer q)

@[simp] theorem items_flatMap (f : α → Sequence β) (s : Sequence α) :
    (s.flatMap f).items answer = (s.items answer).flatMap fun a => (f a).items answer := by
  induction s with
  | nil => rfl
  | cons a rest ih =>
    rw [flatMap, items_cons, List.flatMap_cons, ← ih ()]
    split
    · next h => rw [h, items_nil, List.nil_append]
    · rw [items_append]
  | ask q next ih => exact ih (answer q)

@[simp] theorem items_filter (p : α → Bool) (s : Sequence α) :
    (s.filter p).items answer = (s.items answer).filter p := by
  induction s with
  | nil => rfl
  | cons a rest ih =>
    rw [filter, items_cons, List.filter_cons, ← ih ()]
    split <;> rfl
  | ask q next ih => exact ih (answer q)

/-- Facts are delivered one by one, each of them. -/
theorem items_delivered (h : answer .deliver = .ok ()) (facts : List α) :
    (delivered facts).items answer = facts.map .ok := by
  induction facts with
  | nil => rfl
  | cons f rest ih => simp [delivered, h, ih, Except.map]

/-! ### Errors among the items -/

@[simp] theorem items_untilError (s : Sequence (Except ε α)) :
    s.untilError.items answer = upToError (s.items answer) := by
  induction s with
  | nil => rfl
  | cons item rest ih =>
    cases item with
    | error e => rfl
    | ok a => simp [untilError, upToError, ih]
  | ask q next ih => exact ih (answer q)

/-- Making items in batches shows only in that nothing comes behind an error. -/
theorem items_buffered (size : Nat) (gathered : List (Except ε α)) (s : Sequence (Except ε α)) :
    (s.buffered size gathered).items answer = gathered ++ upToError (s.items answer) := by
  induction s generalizing gathered with
  | nil => simp [buffered, upToError]
  | cons item rest ih =>
    cases item with
    | error e => simp [buffered, upToError]
    | ok a =>
      rw [buffered]
      split <;> simp [ih, upToError]
  | ask q next ih => exact ih (answer q) gathered

/-- What chunks are made of a sequence depends on its items only. -/
theorem items_chunks (other : Answers) (size : Nat) (gathered : List α)
    (s : Sequence (Except ε α)) :
    (s.chunks size gathered).items answer =
      ((ofList (s.items answer)).chunks size gathered).items other := by
  induction s generalizing gathered with
  | nil => rw [items_nil, ofList_nil, chunks]; split <;> rfl
  | cons item rest ih =>
    rw [items_cons, ofList_cons]
    cases item with
    | error e => simp [chunks, ih ()]
    | ok a =>
      rw [chunks, chunks]
      split
      · simp [ih ()]
      · exact ih () _
  | ask q next ih => exact ih (answer q) gathered

/-- Of values the consecutive chunks are made. -/
theorem items_chunks_ok {size : Nat} (hsize : 0 < size) (gathered as : List α)
    (hgathered : gathered.length < size) {s : Sequence (Except ε α)}
    (hs : s.items answer = as.map .ok) :
    (s.chunks size gathered).items answer = (consecutive size (gathered ++ as)).map .ok := by
  rw [items_chunks answer, hs]
  clear hs
  induction as generalizing gathered with
  | nil =>
    rw [List.map_nil, ofList_nil, chunks, List.append_nil]
    split
    · next h => rw [List.isEmpty_iff.mp h, consecutive_nil hsize, items_nil, List.map_nil]
    · next h =>
      have hne : gathered ≠ [] := fun hnil => h (List.isEmpty_iff.mpr hnil)
      rw [consecutive_short hne hgathered, items_single, List.map_singleton]
  | cons a as ih =>
    have hlength : (gathered ++ [a]).length = gathered.length + 1 := by simp
    rw [List.map_cons, ofList_cons, chunks, List.append_cons gathered a as]
    split
    · next hfull =>
      rw [items_cons, ih [] hsize, List.nil_append, consecutive_append (by omega) hsize,
        List.map_cons]
    · next hfull => exact ih _ (Nat.lt_of_not_le hfull)

/-- What a slice of a sequence is depends on its items only. -/
theorem items_slice (other : Answers) (offset : Nat) (limit : Option Nat)
    (s : Sequence (Except ε α)) :
    (s.slice offset limit).items answer =
      ((ofList (s.items answer)).slice offset limit).items other := by
  by_cases none_left : limit = some 0
  · simp [slice.eq_def, none_left]
  induction s generalizing offset limit with
  | nil => simp [slice.eq_def, none_left]
  | cons item rest ih =>
    have rest_eq (offset : Nat) (limit : Option Nat) :
        ((rest ()).slice offset limit).items answer =
          ((ofList ((rest ()).items answer)).slice offset limit).items other := by
      by_cases h : limit = some 0
      · simp [slice.eq_def, h]
      · exact ih () offset limit h
    rw [items_cons, ofList_cons, slice.eq_def offset limit, slice.eq_def offset limit,
      if_neg none_left, if_neg none_left]
    cases item with
    | error e => simp [rest_eq]
    | ok a => dsimp only; split <;> simp [rest_eq]
  | ask q next ih =>
    rw [slice.eq_def, if_neg none_left]
    exact ih (answer q) offset limit none_left

/-- A slice has no items but those of its list. -/
theorem mem_of_mem_items_slice {offset : Nat} {limit : Option Nat} {l : List (Except ε α)}
    {item : Except ε α} (h : item ∈ ((ofList l).slice offset limit).items answer) : item ∈ l := by
  induction l generalizing offset limit with
  | nil =>
    rw [ofList_nil, slice.eq_def] at h
    split at h <;> cases h
  | cons first l ih =>
    rw [ofList_cons, slice.eq_def] at h
    split at h
    · cases h
    · cases first with
      | error e =>
        rcases List.mem_cons.mp h with rfl | h
        · exact List.mem_cons_self
        · exact List.mem_cons_of_mem _ (ih h)
      | ok a =>
        dsimp only at h
        split at h
        · rcases List.mem_cons.mp h with rfl | h
          · exact List.mem_cons_self
          · exact List.mem_cons_of_mem _ (ih h)
        · exact List.mem_cons_of_mem _ (ih h)

/-! ### Pulling -/

section take

variable {σ : Type} (responder : Responder σ) (x : σ)

@[simp] theorem take_zero (s : Sequence α) : s.take responder 0 x = ([], x) := by
  rw [take.eq_def]
  rfl

@[simp] theorem take_nil (n : Nat) : (nil : Sequence α).take responder n x = ([], x) := by
  rw [take]
  split <;> rfl

@[simp] theorem take_cons_succ (n : Nat) (a : α) (rest : Unit → Sequence α) :
    (cons a rest).take responder (n + 1) x =
      (a :: ((rest ()).take responder n x).1, ((rest ()).take responder n x).2) := rfl

theorem take_ask {n : Nat} (hn : n ≠ 0) (q : Request) (next : q.Reply → Sequence α) :
    (ask q next).take responder n x =
      (next (responder q x).1).take responder n (responder q x).2 := by
  rw [take, if_neg hn]
  rfl

end take

/-- Over a storage that its answers do not change, what is pulled are the first items. -/
theorem take_eq_items {σ : Type} {responder : Responder σ} {x : σ}
    (h : ∀ q, responder q x = (answer q, x)) (n : Nat) (s : Sequence α) :
    s.take responder n x = ((s.items answer).take n, x) := by
  induction s generalizing n with
  | nil => rw [take_nil, items_nil, List.take_nil]
  | cons a rest ih =>
    cases n with
    | zero => rw [take_zero, List.take_zero]
    | succ n => rw [take_cons_succ, ih, items_cons, List.take_succ_cons]
  | ask q next ih =>
    by_cases hn : n = 0
    · rw [hn, take_zero, List.take_zero]
    · rw [take_ask responder x hn, h q]
      exact ih (answer q) n

section drain

variable {σ : Type} (responder : Responder σ) (x : σ)

@[simp] theorem drain_nil : (nil : Sequence α).drain responder x = ([], x) := rfl

@[simp] theorem drain_cons (a : α) (rest : Unit → Sequence α) :
    (cons a rest).drain responder x =
      (a :: ((rest ()).drain responder x).1, ((rest ()).drain responder x).2) := rfl

@[simp] theorem drain_ask (q : Request) (next : q.Reply → Sequence α) :
    (ask q next).drain responder x =
      (next (responder q x).1).drain responder (responder q x).2 := rfl

@[simp] theorem drain_prepend (as : List α) (t : Unit → Sequence α) :
    (prepend as t).drain responder x =
      (as ++ ((t ()).drain responder x).1, ((t ()).drain responder x).2) := by
  induction as with
  | nil => rfl
  | cons a as ih => rw [prepend, drain_cons, ih, List.cons_append]

@[simp] theorem drain_map (f : α → β) (s : Sequence α) :
    (s.map f).drain responder x = ((s.drain responder x).1.map f, (s.drain responder x).2) := by
  induction s generalizing x with
  | nil => rfl
  | cons a rest ih => rw [map, drain_cons, drain_cons, ih, List.map_cons]
  | ask q next ih => exact ih (responder q x).1 (responder q x).2

/-- Whoever stops early has pulled the first of all items. -/
theorem take_eq_take_drain (n : Nat) (s : Sequence α) :
    (s.take responder n x).1 = (s.drain responder x).1.take n := by
  induction s generalizing n x with
  | nil => rw [take_nil, drain_nil, List.take_nil]
  | cons a rest ih =>
    cases n with
    | zero => rw [take_zero, List.take_zero]
    | succ n => rw [take_cons_succ, drain_cons, List.take_succ_cons, ← ih]
  | ask q next ih =>
    by_cases hn : n = 0
    · rw [hn, take_zero, List.take_zero]
    · rw [take_ask responder x hn, drain_ask]
      exact ih (responder q x).1 (responder q x).2 n

theorem drain_untilError (s : Sequence (Except ε α)) :
    (s.untilError.drain responder x).1 = upToError (s.drain responder x).1 := by
  induction s generalizing x with
  | nil => rfl
  | cons item rest ih =>
    cases item with
    | error e => rfl
    | ok a => rw [untilError, drain_cons, drain_cons, upToError, ih]
  | ask q next ih => exact ih (responder q x).1 (responder q x).2

/-- Who pulls everything gets the items up to the first error, whatever the size of the batches, and
puts the questions that lead to them. -/
theorem drain_buffered (size : Nat) (gathered : List (Except ε α)) (s : Sequence (Except ε α)) :
    (s.buffered size gathered).drain responder x =
      (gathered ++ (s.untilError.drain responder x).1, (s.untilError.drain responder x).2) := by
  induction s generalizing gathered x with
  | nil => exact drain_prepend responder x gathered _
  | cons item rest ih =>
    cases item with
    | error e => simp [buffered, untilError, ofList, single]
    | ok a =>
      rw [buffered, untilError]
      split
      · rw [drain_prepend, ih, drain_cons]
        simp
      · rw [ih, drain_cons]
        simp
  | ask q next ih => exact ih (responder q x).1 (responder q x).2 gathered

end drain

/-- Over a storage that its answers do not change, all items are pulled. -/
theorem drain_eq_items {σ : Type} {responder : Responder σ} {x : σ}
    (h : ∀ q, responder q x = (answer q, x)) (s : Sequence α) :
    s.drain responder x = (s.items answer, x) := by
  induction s with
  | nil => rfl
  | cons a rest ih => rw [drain_cons, ih]; rfl
  | ask q next ih => rw [drain_ask, h q]; exact ih (answer q)

/-! ## Items as long as the replies are of some kind -/

/-- All items that can be pulled have a property, as long as the replies are of some kind. -/
def EveryFor (R : ReplyKind) (P : α → Prop) : Sequence α → Prop
  | nil => True
  | cons a rest => P a ∧ EveryFor R P (rest ())
  | ask q next => ∀ reply, R q reply → EveryFor R P (next reply)

section everyFor

variable {R : ReplyKind} {P : α → Prop} {Q : β → Prop}

theorem everyFor_of_forall (h : ∀ a, P a) (s : Sequence α) : EveryFor R P s := by
  induction s with
  | nil => trivial
  | cons a rest ih => exact ⟨h a, ih ()⟩
  | ask q next ih => exact fun reply _ => ih reply

theorem everyFor_mono {P' : α → Prop} {s : Sequence α} (hs : EveryFor R P s)
    (h : ∀ a, P a → P' a) : EveryFor R P' s := by
  induction s with
  | nil => trivial
  | cons a rest ih => exact ⟨h a hs.1, ih () hs.2⟩
  | ask q next ih => exact fun reply hreply => ih reply (hs reply hreply)

theorem everyFor_prepend {as : List α} {t : Unit → Sequence α} (has : ∀ a ∈ as, P a)
    (ht : EveryFor R P (t ())) : EveryFor R P (prepend as t) := by
  induction as with
  | nil => exact ht
  | cons a as ih => exact ⟨has a (by simp), ih fun x hx => has x (by simp [hx])⟩

theorem everyFor_ofList {as : List α} (has : ∀ a ∈ as, P a) : EveryFor R P (ofList as) :=
  everyFor_prepend has trivial

theorem everyFor_append {s : Sequence α} {t : Unit → Sequence α} (hs : EveryFor R P s)
    (ht : EveryFor R P (t ())) : EveryFor R P (s.append t) := by
  induction s with
  | nil => exact ht
  | cons a rest ih => exact ⟨hs.1, ih () hs.2⟩
  | ask q next ih => exact fun reply hreply => ih reply (hs reply hreply)

theorem everyFor_map {f : β → α} {s : Sequence β} (hs : EveryFor R (fun b => P (f b)) s) :
    EveryFor R P (s.map f) := by
  induction s with
  | nil => trivial
  | cons b rest ih => exact ⟨hs.1, ih () hs.2⟩
  | ask q next ih => exact fun reply hreply => ih reply (hs reply hreply)

/-- What is put in place of the items decides. -/
theorem everyFor_flatMap {f : β → Sequence α} {s : Sequence β} (hs : EveryFor R Q s)
    (hf : ∀ b, Q b → EveryFor R P (f b)) : EveryFor R P (s.flatMap f) := by
  induction s with
  | nil => trivial
  | cons b rest ih =>
    rw [flatMap]
    split
    · exact ih () hs.2
    · exact everyFor_append (hf b hs.1) (ih () hs.2)
  | ask q next ih => exact fun reply hreply => ih reply (hs reply hreply)

theorem everyFor_filter {s : Sequence α} (hs : EveryFor R P s) (p : α → Bool) :
    EveryFor R P (s.filter p) := by
  induction s with
  | nil => trivial
  | cons a rest ih =>
    rw [filter]
    split
    · exact ⟨hs.1, ih () hs.2⟩
    · exact ih () hs.2
  | ask q next ih => exact fun reply hreply => ih reply (hs reply hreply)

/-- The questions in front make no items. -/
theorem everyFor_ofInquiry {i : Inquiry (Sequence α)} (hi : i.EndsIn R (EveryFor R P)) :
    EveryFor R P (ofInquiry i) := by
  induction i with
  | done s => exact hi
  | ask q next ih => exact fun reply hreply => ih reply (hi reply hreply)

end everyFor

/-! ### Values among errors -/

/-- An error, or a value that has a property. -/
def ErrorOr (Q : α → Prop) (item : Except ε α) : Prop := ∀ a, item = .ok a → Q a

section errorOr

variable {R : ReplyKind} {P : α → Prop} {Q : β → Prop}

@[simp] theorem errorOr_ok {a : α} : ErrorOr P (.ok a : Except ε α) ↔ P a :=
  ⟨fun h => h a rfl, fun h _ ha => Except.ok.inj ha ▸ h⟩

@[simp] theorem errorOr_error (e : ε) : ErrorOr P (.error e : Except ε α) :=
  fun _ ha => nomatch ha

theorem everyFor_values {as : List α} (has : ∀ a ∈ as, P a) :
    EveryFor R (ErrorOr (ε := ε) P) (ofList (as.map .ok)) :=
  everyFor_ofList fun _ hitem => by
    obtain ⟨a, ha, rfl⟩ := List.mem_map.mp hitem
    exact errorOr_ok.mpr (has a ha)

theorem everyFor_flatMapOk {f : β → Sequence (Except ε α)} {s : Sequence (Except ε β)}
    (hs : EveryFor R (ErrorOr Q) s) (hf : ∀ b, Q b → EveryFor R (ErrorOr P) (f b)) :
    EveryFor R (ErrorOr P) (s.flatMapOk f) := by
  refine everyFor_flatMap hs fun item hitem => ?_
  cases item with
  | ok b => exact hf b (errorOr_ok.mp hitem)
  | error e => exact ⟨errorOr_error e, trivial⟩

/-- What a filter of values keeps has passed it. -/
theorem everyFor_filterOk {s : Sequence (Except ε α)} (hs : EveryFor R (ErrorOr P) s)
    (p : α → Bool) : EveryFor R (ErrorOr fun a => P a ∧ p a = true) (s.filterOk p) := by
  induction s with
  | nil => trivial
  | cons item rest ih =>
    rw [filterOk, filter]
    rcases item with e | a
    · exact ⟨errorOr_error e, ih () hs.2⟩
    · by_cases hp : p a = true
      · rw [if_pos hp]
        exact ⟨errorOr_ok.mpr ⟨errorOr_ok.mp hs.1, hp⟩, ih () hs.2⟩
      · rw [if_neg hp]
        exact ih () hs.2
  | ask q next ih => exact fun reply hreply => ih reply (hs reply hreply)

theorem everyFor_delivered {as : List α} (has : ∀ a ∈ as, P a) :
    EveryFor R (ErrorOr P) (delivered as) := by
  induction as with
  | nil => trivial
  | cons a as ih =>
    obtain ⟨ha, has⟩ := List.forall_mem_cons.mp has
    intro reply _
    refine ⟨?_, ih has⟩
    cases reply with
    | ok _ => exact errorOr_ok.mpr ha
    | error e => exact errorOr_error e

theorem everyFor_untilError {P : Except ε α → Prop} {s : Sequence (Except ε α)}
    (hs : EveryFor R P s) : EveryFor R P s.untilError := by
  induction s with
  | nil => trivial
  | cons item rest ih =>
    cases item with
    | ok a => exact ⟨hs.1, ih () hs.2⟩
    | error e => exact ⟨hs.1, trivial⟩
  | ask q next ih => exact fun reply hreply => ih reply (hs reply hreply)

theorem everyFor_slice {P : Except ε α → Prop} {s : Sequence (Except ε α)} (hs : EveryFor R P s)
    (offset : Nat) (limit : Option Nat) : EveryFor R P (s.slice offset limit) := by
  by_cases none_left : limit = some 0
  · rw [slice.eq_def, if_pos none_left]
    trivial
  induction s generalizing offset limit with
  | nil =>
    rw [slice.eq_def, if_neg none_left]
    trivial
  | cons item rest ih =>
    have hrest (offset : Nat) (limit : Option Nat) :
        EveryFor R P ((rest ()).slice offset limit) := by
      by_cases h : limit = some 0
      · rw [slice.eq_def, if_pos h]
        trivial
      · exact ih () hs.2 offset limit h
    rw [slice.eq_def, if_neg none_left]
    cases item with
    | error e => exact ⟨hs.1, hrest _ _⟩
    | ok a =>
      dsimp only
      split
      · exact ⟨hs.1, hrest _ _⟩
      · exact hrest _ _
  | ask q next ih =>
    rw [slice.eq_def, if_neg none_left]
    exact fun reply hreply => ih reply (hs reply hreply) offset limit none_left

/-- A list of values has what all of them have. -/
theorem everyFor_chunks {size : Nat} {gathered : List α} {s : Sequence (Except ε α)}
    (hgathered : ∀ a ∈ gathered, P a) (hs : EveryFor R (ErrorOr P) s) :
    EveryFor R (ErrorOr fun chunk => ∀ a ∈ chunk, P a) (s.chunks size gathered) := by
  induction s generalizing gathered with
  | nil =>
    rw [chunks]
    split
    · trivial
    · exact ⟨errorOr_ok.mpr hgathered, trivial⟩
  | cons item rest ih =>
    cases item with
    | error e => exact ⟨errorOr_error e, ih () (List.forall_mem_nil _) hs.2⟩
    | ok a =>
      have hall : ∀ x ∈ gathered ++ [a], P x :=
        List.forall_mem_append.mpr ⟨hgathered, List.forall_mem_singleton.mpr (errorOr_ok.mp hs.1)⟩
      rw [chunks]
      split
      · exact ⟨errorOr_ok.mpr hall, ih () (List.forall_mem_nil _) hs.2⟩
      · exact ih () hall hs.2
  | ask q next ih => exact fun reply hreply => ih reply hgathered (hs reply hreply)

/-- Making items in batches makes no others. -/
theorem everyFor_buffered {P : Except ε α → Prop} {size : Nat} {gathered : List (Except ε α)}
    {s : Sequence (Except ε α)} (hgathered : ∀ item ∈ gathered, P item) (hs : EveryFor R P s) :
    EveryFor R P (s.buffered size gathered) := by
  induction s generalizing gathered with
  | nil => exact everyFor_ofList hgathered
  | cons item rest ih =>
    have hall : ∀ x ∈ gathered ++ [item], P x :=
      List.forall_mem_append.mpr ⟨hgathered, List.forall_mem_singleton.mpr hs.1⟩
    cases item with
    | error e => exact everyFor_ofList hall
    | ok a =>
      rw [buffered]
      split
      · exact everyFor_prepend hall (ih () (List.forall_mem_nil _) hs.2)
      · exact ih () hall hs.2
  | ask q next ih => exact fun reply hreply => ih reply hgathered (hs reply hreply)

end errorOr

/-! ## Items whatever the replies are -/

/-- All items that can be pulled have a property, whatever the replies are. -/
def Every (P : α → Prop) : Sequence α → Prop
  | nil => True
  | cons a rest => P a ∧ Every P (rest ())
  | ask _ next => ∀ reply, Every P (next reply)

variable {P : α → Prop}

/-- Whatever the replies are, they are of some kind. -/
theorem everyFor_any {s : Sequence α} : EveryFor (fun _ _ => True) P s ↔ Every P s := by
  induction s with
  | nil => exact Iff.rfl
  | cons a rest ih => exact and_congr_right fun _ => ih ()
  | ask q next ih => exact forall_congr' fun reply => true_imp_iff.trans (ih reply)

theorem every_mono {Q : α → Prop} {s : Sequence α} (hs : Every P s) (h : ∀ a, P a → Q a) :
    Every Q s :=
  everyFor_any.mp (everyFor_mono (everyFor_any.mpr hs) h)

theorem every_ofList {as : List α} (has : ∀ a ∈ as, P a) : Every P (ofList as) :=
  everyFor_any.mp (everyFor_ofList has)

/-- What is put in place of the items decides. -/
theorem every_flatMap {f : β → Sequence α} (hf : ∀ b, Every P (f b)) (s : Sequence β) :
    Every P (s.flatMap f) :=
  everyFor_any.mp (everyFor_flatMap (everyFor_of_forall (fun _ => trivial) s)
    fun b _ => everyFor_any.mpr (hf b))

/-! ## Items told apart whatever the replies are -/

/-- No two items that can be pulled have the same key, and none has a key that was seen, whatever
the replies are. -/
def Distinct {κ : Type} (key : α → Option κ) (seen : List κ) : Sequence α → Prop
  | nil => True
  | cons a rest => (∀ k ∈ key a, k ∉ seen) ∧ Distinct key ((key a).toList ++ seen) (rest ())
  | ask _ next => ∀ reply, Distinct key seen (next reply)

section distinct

variable {κ : Type} {key : α → Option κ} {seen : List κ}

/-- Behind some items one sequence may be put in the place of another. -/
theorem distinct_prepend {as : List α} {t t' : Unit → Sequence α}
    (h : Distinct key seen (prepend as t))
    (ht : ∀ seen, Distinct key seen (t ()) → Distinct key seen (t' ())) :
    Distinct key seen (prepend as t') := by
  induction as generalizing seen with
  | nil => exact ht seen h
  | cons a as ih => exact ⟨h.1, ih h.2⟩

theorem prepend_concat (as : List α) (a : α) (t : Unit → Sequence α) :
    prepend (as ++ [a]) t = prepend as fun _ => cons a t := by
  induction as with
  | nil => rfl
  | cons b as ih => rw [List.cons_append, prepend, prepend, ih]

/-- Making items in batches tells them apart as before. -/
theorem distinct_buffered {key : Except ε α → Option κ} {size : Nat}
    {gathered : List (Except ε α)} {s : Sequence (Except ε α)}
    (h : Distinct key seen (prepend gathered fun _ => s)) :
    Distinct key seen (s.buffered size gathered) := by
  induction s generalizing seen gathered with
  | nil => exact h
  | cons item rest ih =>
    cases item with
    | error e =>
      rw [buffered, ofList, prepend_concat]
      refine distinct_prepend h fun seen hitem => ?_
      exact ⟨And.left hitem, trivial⟩
    | ok a =>
      rw [buffered]
      split
      · rw [prepend_concat]
        refine distinct_prepend h fun seen hitem => ?_
        exact ⟨And.left hitem, ih () (And.right hitem)⟩
      · exact ih () (by rwa [prepend_concat])
  | ask q next ih =>
    intro reply
    refine ih reply (distinct_prepend h fun seen hnext => ?_)
    exact (show ∀ reply, Distinct key seen (next reply) from hnext) reply

/-- Items are told apart by less as well. -/
theorem distinct_map {f : α → β} {key' : β → Option κ} {s : Sequence α} {seen' : List κ}
    (h : Distinct key seen s) (hkey : ∀ a, ∀ k ∈ key' (f a), k ∈ key a)
    (hseen : ∀ k ∈ seen', k ∈ seen) : Distinct key' seen' (s.map f) := by
  induction s generalizing seen seen' with
  | nil => trivial
  | cons a rest ih =>
    refine ⟨fun k hk hmem => h.1 k (hkey a k hk) (hseen k hmem), ih () h.2 fun k hk => ?_⟩
    rcases List.mem_append.mp hk with hnew | hold
    · exact List.mem_append_left _ (Option.mem_toList.mpr (hkey a k (Option.mem_toList.mp hnew)))
    · exact List.mem_append_right _ (hseen k hold)
  | ask q next ih => exact fun reply => ih reply (h reply) hseen

end distinct

end Sequence

/-! ## Values and failures -/

/-- The values in front of the first error. -/
def valuesBefore {ε α : Type} : List (Except ε α) → List α
  | .ok a :: rest => a :: valuesBefore rest
  | _ => []

/-- The first error. -/
def firstError? {ε α : Type} : List (Except ε α) → Option ε
  | [] => none
  | .ok _ :: rest => firstError? rest
  | .error e :: _ => some e

/-- There is no first error exactly if all are values. -/
theorem firstError?_eq_none {ε α : Type} {l : List (Except ε α)} :
    firstError? l = none ↔ ∀ item ∈ l, ∃ a, item = .ok a := by
  induction l with
  | nil => simp [firstError?]
  | cons item rest ih => cases item <;> simp [firstError?, ih]

/-- Without an error the values are all there is. -/
theorem eq_map_valuesBefore {ε α : Type} {l : List (Except ε α)} (h : firstError? l = none) :
    l = (valuesBefore l).map .ok := by
  induction l with
  | nil => rfl
  | cons item rest ih =>
    cases item with
    | error e => cases h
    | ok a => rw [valuesBefore, List.map_cons, ← ih h]

/-- The first error of two lists is that of the first list if it has one. -/
theorem firstError?_append {ε α : Type} (l l' : List (Except ε α)) :
    firstError? (l ++ l') = (firstError? l).or (firstError? l') := by
  induction l with
  | nil => rfl
  | cons item rest ih =>
    cases item with
    | error e => rfl
    | ok a => exact ih

@[simp] theorem firstError?_map_ok {ε α : Type} (as : List α) :
    firstError? (as.map (Except.ok (ε := ε))) = none := by
  induction as with
  | nil => rfl
  | cons a as ih => exact ih

@[simp] theorem valuesBefore_map_ok {ε α : Type} (as : List α) :
    valuesBefore (as.map (Except.ok (ε := ε))) = as := by
  induction as with
  | nil => rfl
  | cons a as ih => rw [List.map_cons, valuesBefore, ih]

@[simp] theorem firstError?_upToError {ε α : Type} (l : List (Except ε α)) :
    firstError? (upToError l) = firstError? l := by
  induction l with
  | nil => rfl
  | cons item rest ih =>
    cases item with
    | error e => rfl
    | ok a => exact ih

@[simp] theorem valuesBefore_upToError {ε α : Type} (l : List (Except ε α)) :
    valuesBefore (upToError l) = valuesBefore l := by
  induction l with
  | nil => rfl
  | cons item rest ih =>
    cases item with
    | error e => rfl
    | ok a => exact congrArg (a :: ·) ih

@[simp] theorem firstError?_map {ε α β : Type} (f : α → β) (l : List (Except ε α)) :
    firstError? (l.map (·.map f)) = firstError? l := by
  induction l with
  | nil => rfl
  | cons item rest ih =>
    cases item with
    | error e => rfl
    | ok a => exact ih

@[simp] theorem valuesBefore_map {ε α β : Type} (f : α → β) (l : List (Except ε α)) :
    valuesBefore (l.map (·.map f)) = (valuesBefore l).map f := by
  induction l with
  | nil => rfl
  | cons item rest ih =>
    cases item with
    | error e => rfl
    | ok a => exact congrArg (f a :: ·) ih

end RdfReasoner
