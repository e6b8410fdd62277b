import RdfReasoner.Proofs.Batching

/-!
# What a batched join asks the storage

A batched join with an ordinary pattern is there to save questions: solutions of its left side are
gathered into chunks, and every chunk is answered by one batched lookup.  Here it is said which
lookups these are (`Evaluator.probes`), and that pulling everything asks them, what the left side
asks by itself, and nothing else (`Evaluator.batchedJoin_asks_probes`).

The left side is pulled while the join is, so its questions come between those of the join.  What is
exact is the order on either side, and `Shuffle` says no more than that.
-/

namespace RdfReasoner

variable {α β ε : Type}

/-! ## Shuffles -/

/-- The third list has the elements of the other two, those of either list in their order. -/
inductive Shuffle : List α → List α → List α → Prop
  | nil : Shuffle [] [] []
  | left (a : α) {l m n : List α} (rest : Shuffle l m n) : Shuffle (a :: l) m (a :: n)
  | right (a : α) {l m n : List α} (rest : Shuffle l m n) : Shuffle l (a :: m) (a :: n)

namespace Shuffle

variable {l m n : List α}

theorem append_left (as : List α) (h : Shuffle l m n) : Shuffle (as ++ l) m (as ++ n) := by
  induction as with
  | nil => exact h
  | cons a as ih => exact .left a ih

theorem append_right (as : List α) (h : Shuffle l m n) : Shuffle l (as ++ m) (as ++ n) := by
  induction as with
  | nil => exact h
  | cons a as ih => exact .right a ih

/-- With nothing to put in between, a list stays what it is. -/
theorem eq_left (h : Shuffle l [] n) : n = l := by
  generalize hm : ([] : List α) = m at h
  induction h with
  | nil => rfl
  | left a _ ih => rw [ih hm]
  | right a _ _ => cases hm

theorem symm (h : Shuffle l m n) : Shuffle m l n := by
  induction h with
  | nil => exact .nil
  | left a _ ih => exact .right a ih
  | right a _ ih => exact .left a ih

theorem filter (h : Shuffle l m n) (p : α → Bool) :
    Shuffle (l.filter p) (m.filter p) (n.filter p) := by
  induction h with
  | nil => exact .nil
  | left a _ ih =>
    rw [List.filter_cons, List.filter_cons]
    split
    · exact .left a ih
    · exact ih
  | right a _ ih =>
    rw [List.filter_cons, List.filter_cons]
    split
    · exact .right a ih
    · exact ih

end Shuffle

/-! ## Calls -/

/-- Whether a question is a call of the storage; the delivery of a found fact is not. -/
def Request.isCall : Request → Bool
  | deliver => false
  | _ => true

/-- Whether a question is about one lookup only. -/
def Request.isLookup : Request → Bool
  | lookup _ => true
  | _ => false

/-- Answers always the same, and notes what it was asked. -/
def noting (answer : Answers) : Responder (List Request) := fun q log => (answer q, log ++ [q])

namespace Sequence

variable {answer : Answers}

/-- The calls of one who pulls everything. -/
def calls (answer : Answers) (s : Sequence α) : List Request :=
  (s.drain (noting answer) []).2.filter Request.isCall

/-- To note what was asked does not change it. -/
theorem drain_noting (log : List Request) (s : Sequence α) :
    s.drain (noting answer) log = (s.items answer, log ++ (s.drain (noting answer) []).2) := by
  induction s generalizing log with
  | nil => simp
  | cons a rest ih =>
    rw [drain_cons, drain_cons, ih () log]
    rfl
  | ask q next ih =>
    have hnext := ih (answer q)
    show (next (answer q)).drain (noting answer) (log ++ [q]) =
      (_, log ++ ((next (answer q)).drain (noting answer) [q]).2)
    rw [hnext (log ++ [q]), hnext [q], items_ask, List.append_assoc]

@[simp] theorem calls_nil : (nil : Sequence α).calls answer = [] := rfl

@[simp] theorem calls_cons (a : α) (rest : Unit → Sequence α) :
    (cons a rest).calls answer = (rest ()).calls answer := rfl

@[simp] theorem calls_ask (q : Request) (next : q.Reply → Sequence α) :
    (ask q next).calls answer =
      [q].filter Request.isCall ++ (next (answer q)).calls answer := by
  show ((next (answer q)).drain (noting answer) [q]).2.filter Request.isCall = _
  rw [drain_noting, List.filter_append]
  rfl

@[simp] theorem calls_ofList (as : List α) : (ofList as).calls answer = [] := by
  induction as with
  | nil => rfl
  | cons a as ih => exact ih

/-- Facts are delivered without another call. -/
@[simp] theorem calls_delivered (facts : List α) : (delivered facts).calls answer = [] := by
  induction facts with
  | nil => rfl
  | cons f rest ih =>
    rw [delivered, calls_ask]
    exact ih

@[simp] theorem calls_append (s : Sequence α) (t : Unit → Sequence α) :
    (s.append t).calls answer = s.calls answer ++ (t ()).calls answer := by
  induction s with
  | nil => rfl
  | cons a rest ih => exact ih ()
  | ask q next ih => rw [append, calls_ask, calls_ask, ih, List.append_assoc]

theorem calls_flatMap_cons (f : α → Sequence β) (a : α) (rest : Unit → Sequence α) :
    ((cons a rest).flatMap f).calls answer =
      (f a).calls answer ++ ((rest ()).flatMap f).calls answer := by
  rw [flatMap]
  split
  · next h => rw [h, calls_nil, List.nil_append]
  · rw [calls_append]

/-- The calls of a sequence go on while those of what is put in place of its items are made. -/
theorem shuffle_calls_flatMap (answer : Answers) (f : α → Sequence β) (s : Sequence α) :
    Shuffle (s.calls answer) ((s.items answer).flatMap fun a => (f a).calls answer)
      ((s.flatMap f).calls answer) := by
  induction s with
  | nil => exact .nil
  | cons a rest ih =>
    rw [calls_flatMap_cons, items_cons, List.flatMap_cons]
    exact (ih ()).append_right _
  | ask q next ih =>
    rw [flatMap, calls_ask, calls_ask]
    exact (ih (answer q)).append_left _

/-- What makes no calls adds none. -/
theorem calls_flatMap_of_quiet {f : α → Sequence β} (hf : ∀ a, (f a).calls answer = [])
    (s : Sequence α) : (s.flatMap f).calls answer = s.calls answer := by
  have h := shuffle_calls_flatMap answer f s
  have hnone : (s.items answer).flatMap (fun a => (f a).calls answer) = [] :=
    List.flatMap_eq_nil_iff.mpr fun a _ => hf a
  rw [hnone] at h
  exact h.eq_left

/-- A list calls for nothing itself. -/
theorem calls_flatMap_ofList (f : α → Sequence β) (as : List α) :
    ((ofList as).flatMap f).calls answer = as.flatMap fun a => (f a).calls answer := by
  have h := shuffle_calls_flatMap answer f (ofList as)
  rw [calls_ofList, items_ofList] at h
  exact h.symm.eq_left

/-- To make chunks all items are pulled, and no call is made that they do not need. -/
@[simp] theorem calls_chunks (size : Nat) (gathered : List α) (s : Sequence (Except ε α)) :
    (s.chunks size gathered).calls answer = s.calls answer := by
  induction s generalizing gathered with
  | nil => rw [chunks]; split <;> rfl
  | cons item rest ih =>
    cases item with
    | error e => exact ih () []
    | ok a =>
      rw [chunks]
      split
      · exact ih () []
      · exact ih () _
  | ask q next ih => rw [chunks, calls_ask, calls_ask, ih]

end Sequence

/-! ## Probes -/

namespace Evaluator

open Sequence

/-- What a batched lookup asks the storage: itself, or every lookup for itself where the storage
knows no batches. -/
def batchCalls (e : Evaluator) (ls : List Lookup) : List Request :=
  match e.batching with
  | .atOnce => [.lookupAll ls]
  | .oneByOne => ls.map .lookup

/-- The lookups that a pattern is to be resolved with for some solutions, chunk by chunk.  Chunks
without any are left out. -/
def probes (p : Pattern) (size : Nat) (bs : List Binding) : List (List Lookup) :=
  ((consecutive size bs).map (·.filterMap p.lookup?)).filter (· ≠ [])

/-- No lookup is lost or made twice. -/
theorem flatten_probes (p : Pattern) {size : Nat} (hsize : 0 < size) (bs : List Binding) :
    (probes p size bs).flatten = bs.filterMap p.lookup? := by
  rw [probes, List.flatten_filter_ne_nil, ← List.filterMap_flatten,
    flatten_consecutive hsize]

/-- A probe has lookups, and not more than a chunk has solutions. -/
theorem length_of_mem_probes {p : Pattern} {size : Nat} {bs : List Binding} {ls : List Lookup}
    (h : ls ∈ probes p size bs) : 0 < ls.length ∧ ls.length ≤ size := by
  obtain ⟨hls, hne⟩ := List.mem_filter.mp h
  obtain ⟨chunk, hchunk, rfl⟩ := List.mem_map.mp hls
  refine ⟨List.length_pos_iff.mpr (by simpa using hne), ?_⟩
  exact (List.length_filterMap_le _ chunk).trans (length_le_of_mem_consecutive hchunk)

variable (e : Evaluator) {answer : Answers}

theorem map_lookup_viable (p : Pattern) (bs : List Binding) :
    (viable p bs).map (·.2) = bs.filterMap p.lookup? := by
  rw [viable, List.map_filterMap]
  refine List.filterMap_congr fun b _ => ?_
  cases p.lookup? b <;> rfl

theorem calls_extend (p : Pattern) (origins : List Binding) (found : Except Error (Fact × Nat)) :
    (extend p origins found).calls answer = [] := by
  cases found with
  | ok found => exact calls_ofList _
  | error err => rfl

/-- The calls of a batched lookup, if nothing is asked for what is found. -/
theorem calls_lookupAll (ls : List Lookup) {f : Except Error (Fact × Nat) → Solutions}
    (hf : ∀ found, (f found).calls answer = []) :
    (ofInquiry ((e.lookupAll ls).map fun
      | .ok found => found.flatMap f
      | .error err => single (.error err))).calls answer = e.batchCalls ls := by
  unfold lookupAll batchCalls
  cases e.batching with
  | atOnce =>
    rw [Inquiry.map, ofInquiry, calls_ask, Inquiry.map, ofInquiry]
    cases answer (.lookupAll ls) with
    | ok found =>
      show [_].filter _ ++ ((delivered found).flatMap f).calls answer = _
      rw [calls_flatMap_of_quiet hf, calls_delivered]
      rfl
    | error err => rfl
  | oneByOne =>
    show ((Sequence.flatMap _ _).flatMap f).calls answer = ls.map .lookup
    rw [calls_flatMap_of_quiet hf, calls_flatMap_ofList]
    -- Every lookup is numbered for its answers, which does not show in the calls.
    have hmap : ls.map Request.lookup = ls.zipIdx.flatMap fun entry => [.lookup entry.1] := by
      conv_lhs => rw [← List.zipIdx_map_fst 0 ls, List.map_map, List.map_eq_flatMap]
      rfl
    rw [hmap]
    refine List.flatMap_congr fun entry _ => ?_
    rw [calls_ask]
    cases answer (.lookup entry.1) with
    | ok facts => exact congrArg (Request.lookup entry.1 :: ·) (calls_delivered _)
    | error err => rfl

/-- A pattern is resolved for several solutions with one batched lookup, or with none where no
solution turns the pattern into a lookup. -/
theorem calls_ordinary (p : Pattern) (bs : List Binding) :
    (ofInquiry (e.ordinary p bs)).calls answer =
      if bs.filterMap p.lookup? ≠ [] then e.batchCalls (bs.filterMap p.lookup?) else [] := by
  rw [← map_lookup_viable, ordinary]
  split
  · next hnone => simp [hnone, ofInquiry]
  · next hsome =>
    rw [if_pos fun h => hsome (List.map_eq_nil_iff.mp h)]
    exact e.calls_lookupAll _ (calls_extend p _)

/-- The calls of a batched join are those of its left side and one batched lookup for every probe,
in the order of the chunks. -/
theorem shuffle_calls_batchedJoin {p : Pattern} (hp : p.kind = .ordinary) {left : Solutions}
    {bs : List Binding} (hleft : left.items answer = bs.map .ok) :
    Shuffle (left.calls answer) ((probes p e.options.joinBatchSize bs).flatMap e.batchCalls)
      ((e.batchedJoin p left).calls answer) := by
  have hsize := e.options.joinBatchSize_pos
  have hjoin : Shuffle _ _ ((e.batchedJoin p left).calls answer) :=
    shuffle_calls_flatMap answer _ (left.chunks e.options.joinBatchSize [])
  rw [calls_chunks, items_chunks_ok hsize [] bs hsize hleft, List.nil_append,
    List.flatMap_map] at hjoin
  simp only [matchPattern, hp, calls_ordinary] at hjoin
  -- A chunk without a lookup is left out of the probes, and makes no call in the join.
  have hprobes (chunks : List (List Binding)) :
      ((chunks.map (·.filterMap p.lookup?)).filter (· ≠ [])).flatMap e.batchCalls =
        chunks.flatMap fun chunk =>
          if chunk.filterMap p.lookup? ≠ [] then e.batchCalls (chunk.filterMap p.lookup?)
          else [] := by
    induction chunks with
    | nil => rfl
    | cons chunk chunks ih =>
      rw [List.flatMap_cons, ← ih, List.map_cons, List.filter_cons]
      split <;> simp_all
  rw [probes, hprobes]
  exact hjoin

/-- Where the storage knows batches, none of the probes is a single lookup. -/
theorem filter_isLookup_batchCalls (hbatching : e.batching = .atOnce)
    (probes : List (List Lookup)) :
    (probes.flatMap e.batchCalls).filter Request.isLookup = [] := by
  rw [List.filter_flatMap]
  refine List.flatMap_eq_nil_iff.mpr fun ls _ => ?_
  rw [batchCalls, hbatching]
  rfl

/-- Pulling all of a batched join asks the storage what the left side asks, and once for every one
of the consecutive chunks of left solutions in which the pattern turns some solution into a lookup.
The lookups of these calls are those of the left solutions, each of them once and in their order,
and a call has no more of them than a chunk has solutions.  Where the storage knows batches, single
lookups are made by the left side only. -/
theorem batchedJoin_asks_probes {p : Pattern} (hp : p.kind = .ordinary) {left : Solutions}
    {bs : List Binding} (hleft : left.items answer = bs.map .ok) :
    let size := e.options.joinBatchSize
    Shuffle (left.calls answer) ((probes p size bs).flatMap e.batchCalls)
        ((e.batchedJoin p left).calls answer) ∧
      (probes p size bs).flatten = bs.filterMap p.lookup? ∧
      (∀ ls ∈ probes p size bs, 0 < ls.length ∧ ls.length ≤ size) ∧
      (e.batching = .atOnce →
        ((e.batchedJoin p left).calls answer).filter Request.isLookup =
          (left.calls answer).filter Request.isLookup) := by
  have hcalls := e.shuffle_calls_batchedJoin hp hleft
  refine ⟨hcalls, flatten_probes p e.options.joinBatchSize_pos bs,
    fun ls hls => length_of_mem_probes hls, fun hbatching => ?_⟩
  have hsingle := hcalls.filter Request.isLookup
  rw [e.filter_isLookup_batchCalls hbatching] at hsingle
  exact hsingle.eq_left

end Evaluator

namespace Ferry

/-- What a place offers. -/
def offers : Pattern := ⟨.var "place", .const (.iri "offers"), .var "o", none, .ordinary⟩

/-- Places on a list, and remarks among them. -/
def stops : List Binding :=
  [.iri "north", .literal "closed" none none, .literal "closed" none none,
    .literal "for ever" none none, .iri "isle"].map fun term => Binding.empty.set "place" term

/-- Of three chunks of two stops at most, that in the middle has only remarks: two calls are made,
with one lookup each. -/
theorem batchedJoin_asks_stops :
    (offers.kind = .ordinary ∧
      (Sequence.ofList (stops.map .ok) : Solutions).items (harbours.answerWith timetable) =
        stops.map .ok) ∧
      ((evaluator true 2 (by decide)).batchedJoin offers
          (Sequence.ofList (stops.map .ok))).calls (harbours.answerWith timetable) =
        [.lookupAll [⟨some (.iri "north"), some (.iri "offers"), none, none⟩],
          .lookupAll [⟨some (.iri "isle"), some (.iri "offers"), none, none⟩]] := by
  have hitems : (Sequence.ofList (stops.map .ok) : Solutions).items
      (harbours.answerWith timetable) = stops.map .ok := Sequence.items_ofList _
  obtain ⟨hcalls, -, -, -⟩ := (evaluator true 2 (by decide)).batchedJoin_asks_probes
    (show offers.kind = .ordinary from rfl) hitems
  rw [Sequence.calls_ofList] at hcalls
  refine ⟨⟨rfl, hitems⟩, hcalls.symm.eq_left.trans ?_⟩
  decide +kernel

end Ferry

end RdfReasoner
