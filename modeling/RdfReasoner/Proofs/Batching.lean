import RdfReasoner.Proofs.Evaluation

/-!
# Batched joins against pairwise ones

A batched join pulls its left side ahead, one chunk at a time, and an error on the left takes the
place of the solutions gathered before it.  So batched evaluation may lose solutions that pairwise
evaluation finds, and a slice above it may end before an error that the batched form runs into.  It
is no different otherwise: what a batched query yields is what the pairwise one yields, up to the
first error (`Evaluator.stopsWithin_pairwise`).

The relation between the two sides is `StopsWithin`.  Every operation on sequences keeps it, also
where both sides go on behind an error; chunks are the only place where it becomes strict.

All of this rests on a pattern itself not caring about batches.  A batch gathers its lookups and
numbers those that are left when some bindings are skipped, and it remembers the paths that it asked
for.  None of this is seen in the items (`Evaluator.resolveAll_flatten`).
-/

namespace RdfReasoner

variable {α β γ ε : Type}

namespace Sequence

/-! ## Items in place of values -/

theorem filter_flatMap_onValue (p : β → Bool) (f : α → List (Except ε β))
    (l : List (Except ε α)) :
    (l.flatMap (onValue f)).filter (staysOk p) =
      l.flatMap (onValue fun a => (f a).filter (staysOk p)) := by
  rw [List.filter_flatMap]
  refine congrArg (List.flatMap · l) (funext fun item => ?_)
  cases item <;> rfl

theorem flatMap_onValue_assoc (f : α → List (Except ε β)) (g : β → List (Except ε γ))
    (l : List (Except ε α)) :
    (l.flatMap (onValue f)).flatMap (onValue g) =
      l.flatMap (onValue fun a => (f a).flatMap (onValue g)) := by
  rw [List.flatMap_assoc]
  refine congrArg (List.flatMap · l) (funext fun item => ?_)
  cases item with
  | ok a => rfl
  | error e => exact List.flatMap_singleton _ _

end Sequence

/-! ## Stopping early -/

/-- The first list is the second one, or leaves it with an error where both agreed so far. -/
inductive StopsWithin : List (Except ε α) → List (Except ε α) → Prop
  | nil : StopsWithin [] []
  | error (e : ε) (l m : List (Except ε α)) : StopsWithin (.error e :: l) m
  | ok (a : α) {l m : List (Except ε α)} (rest : StopsWithin l m) :
      StopsWithin (.ok a :: l) (.ok a :: m)

namespace StopsWithin

open Sequence

variable {l l' m m' n : List (Except ε α)}

@[refl] theorem refl (l : List (Except ε α)) : StopsWithin l l := by
  induction l with
  | nil => exact .nil
  | cons item l ih =>
    cases item with
    | error e => exact .error e l _
    | ok a => exact .ok a ih

theorem trans (h : StopsWithin l m) (h' : StopsWithin m n) : StopsWithin l n := by
  induction h generalizing n with
  | nil => exact h'
  | error e l m => exact .error e l n
  | ok a _ ih =>
    cases h' with
    | ok _ rest => exact .ok a (ih rest)

theorem append (h : StopsWithin l m) (h' : StopsWithin l' m') :
    StopsWithin (l ++ l') (m ++ m') := by
  induction h with
  | nil => exact h'
  | error e l m => exact .error e (l ++ l') (m ++ m')
  | ok a _ ih => exact .ok a ih

/-! ### What is seen of it -/

/-- The values in front of the first error are the first values of the other list. -/
theorem prefix_valuesBefore (h : StopsWithin l m) : valuesBefore l <+: valuesBefore m := by
  induction h with
  | nil => exact List.prefix_refl []
  | error e l m => exact List.nil_prefix
  | ok a _ ih => exact List.cons_prefix_cons.mpr ⟨rfl, ih⟩

/-- Without an error there is no difference. -/
theorem eq_of_firstError? (h : StopsWithin l m) (hl : firstError? l = none) : l = m := by
  induction h with
  | nil => rfl
  | error e l m => cases hl
  | ok a _ ih => rw [ih hl]

/-! ### Operations -/

theorem filter (h : StopsWithin l m) (p : α → Bool) :
    StopsWithin (l.filter (staysOk p)) (m.filter (staysOk p)) := by
  induction h with
  | nil => exact .nil
  | error e l m => exact .error e _ _
  | ok a _ ih =>
    rw [List.filter_cons, List.filter_cons]
    split
    · exact .ok a ih
    · exact ih

theorem flatMap (h : StopsWithin l m) {f g : α → List (Except ε β)}
    (hfg : ∀ a, StopsWithin (f a) (g a)) :
    StopsWithin (l.flatMap (onValue f)) (m.flatMap (onValue g)) := by
  induction h with
  | nil => exact .nil
  | error e l m => exact .error e _ _
  | ok a _ ih => exact (hfg a).append ih

/-- A slice counts values only, so it ends both lists at the same place, or neither. -/
theorem slice (h : StopsWithin l m) (answer : Answers) (offset : Nat) (limit : Option Nat) :
    StopsWithin (((ofList l).slice offset limit).items answer)
      (((ofList m).slice offset limit).items answer) := by
  induction h generalizing offset limit with
  | nil => exact refl _
  | error e l m =>
    by_cases none_left : limit = some 0
    · simp [Sequence.slice.eq_def, none_left, StopsWithin.nil]
    · rw [ofList_cons, slice.eq_def, if_neg none_left]
      exact .error e _ _
  | ok a _ ih =>
    by_cases none_left : limit = some 0
    · simp [Sequence.slice.eq_def, none_left, StopsWithin.nil]
    · rw [ofList_cons, ofList_cons, slice.eq_def, slice.eq_def offset, if_neg none_left,
        if_neg none_left]
      dsimp only
      split
      · exact .ok a (ih 0 _)
      · exact ih _ _

/-- Chunks put an error in the place of the values gathered before it, and change nothing else. -/
theorem chunks (answer : Answers) (size : Nat) (gathered : List α) (l : List (Except ε α))
    (f : α → List (Except ε β)) :
    StopsWithin
      ((((ofList l).chunks size gathered).items answer).flatMap (onValue (·.flatMap f)))
      (gathered.flatMap f ++ l.flatMap (onValue f)) := by
  induction l generalizing gathered with
  | nil =>
    rw [ofList_nil, Sequence.chunks]
    split
    · next h => simp [List.isEmpty_iff.mp h, StopsWithin.nil]
    · simpa [onValue] using refl (gathered.flatMap f)
  | cons item l ih =>
    rw [ofList_cons]
    cases item with
    | error e => exact .error e _ _
    | ok a =>
      have regroup : gathered.flatMap f ++ (Except.ok a :: l).flatMap (onValue f) =
          (gathered ++ [a]).flatMap f ++ l.flatMap (onValue f) := by
        simp [onValue]
      rw [regroup, Sequence.chunks]
      split
      · exact (refl _).append (ih [])
      · exact ih (gathered ++ [a])

end StopsWithin

/-! ## Batches of bindings -/

/-- What leaves the state as it is does so for one element after the other. -/
theorem mapM_eq_map {σ : Type} {f : α → StateM σ β} {g : α → β} {s : σ}
    (h : ∀ a, f a s = (g a, s)) (as : List α) : as.mapM f s = (as.map g, s) := by
  induction as with
  | nil => rfl
  | cons a as ih =>
    rw [List.mapM_cons]
    show ((f a s).1 :: (as.mapM f (f a s).2).1, (as.mapM f (f a s).2).2) = _
    rw [h, ih]
    rfl

/-- Answers questions from a store, but those about paths from a resolver. -/
def Store.responderWith (resolve : Resolver) : Responder Store :=
  fun q s => (s.answerWith resolve q, s)

namespace Evaluator

open Sequence

/-- Resolves a pattern for some bindings and pulls all items. -/
def resolveAll {σ : Type} (e : Evaluator) (responder : Responder σ) (p : Pattern)
    (bs : List Binding) : StateM σ (List (Except Error Binding)) := do
  (← (e.matchPattern p bs).run responder).drain responder

/-- What is pulled for a batch is what there is to pull for its bindings. -/
theorem resolveAll_store (e : Evaluator) (resolve : Resolver) (s : Store) (p : Pattern)
    (bs : List Binding) :
    e.resolveAll (Store.responderWith resolve) p bs s =
      (bs.flatMap (e.resolveOne resolve s p), s) := by
  have hsteady : ∀ q, Store.responderWith resolve q s = (s.answerWith resolve q, s) := fun _ => rfl
  show ((e.matchPattern p bs).run (Store.responderWith resolve) s).1.drain
    (Store.responderWith resolve) ((e.matchPattern p bs).run (Store.responderWith resolve) s).2 = _
  rw [Inquiry.run_eq_result hsteady, drain_eq_items hsteady, items_matchPattern_resolver]

/-- **Resolving a pattern distributes over batches.**  Whatever the kind of a pattern is, whatever
is stored, and whoever answers for paths, with or without errors: the items for some batches put
together are those for the batches one after the other, in the same order and with the same errors
among them.  So it is for two batches and for any number of them, and in the end for batches of one
binding each, where nothing is there to be gathered, numbered or remembered. -/
theorem resolveAll_flatten (e : Evaluator) (resolve : Resolver) (p : Pattern) :
    let resolved := e.resolveAll (Store.responderWith resolve) p
    (∀ xs ys, resolved (xs ++ ys) = do
        let found ← resolved xs
        let more ← resolved ys
        return found ++ more) ∧
      (∀ batches : List (List Binding),
        resolved batches.flatten = List.flatten <$> batches.mapM resolved) ∧
      ∀ bs, resolved bs = List.flatten <$> (bs.map ([·])).mapM resolved := by
  intro resolved
  have hresolved : ∀ s bs, resolved bs s = (bs.flatMap (e.resolveOne resolve s p), s) :=
    fun s bs => e.resolveAll_store resolve s p bs
  have hbatches : ∀ batches : List (List Binding),
      resolved batches.flatten = List.flatten <$> batches.mapM resolved := by
    intro batches
    funext s
    show _ = ((batches.mapM resolved s).1.flatten, (batches.mapM resolved s).2)
    rw [hresolved, mapM_eq_map (hresolved s), List.flatten_eq_flatMap, List.flatMap_assoc,
      ← List.flatMap_def]
    rfl
  refine ⟨fun xs ys => ?_, hbatches, fun bs => ?_⟩
  · funext s
    show _ = ((resolved xs s).1 ++ (resolved ys (resolved xs s).2).1,
      (resolved ys (resolved xs s).2).2)
    rw [hresolved, hresolved, List.flatMap_append, hresolved]
  · have hsingle : (bs.map ([·])).flatten = bs := by
      rw [← List.flatMap_def, List.flatMap_singleton']
    rw [← hbatches, hsingle]

end Evaluator

/-! ## Batched joins -/

namespace Evaluator

open Sequence

section joins

variable (e : Evaluator) (s : Store) (resolve : Resolver)

theorem yields_pattern (p : Pattern) (b : Binding) :
    e.yields (s.answerWith resolve) (.pattern p) b = e.resolveOne resolve s p b := by
  rw [yields, solutions, items_matchPattern_resolver, List.flatMap_singleton]

/-- A batched join with a pattern stops within the pairwise one. -/
theorem stopsWithin_batchedJoin (p : Pattern) (left : Solutions) :
    StopsWithin ((e.batchedJoin p left).items (s.answerWith resolve))
      ((left.items (s.answerWith resolve)).flatMap (onValue (e.resolveOne resolve s p))) := by
  rw [batchedJoin, items_flatMapOk, items_chunks (s.answerWith resolve)]
  simp only [items_ofInquiry, items_matchPattern_resolver]
  exact StopsWithin.chunks _ e.options.joinBatchSize [] _ _

variable {e s resolve} {e' : Evaluator}

/-- The options do not show in how a pattern is resolved for one binding. -/
theorem resolveOne_congr (h : e.reaches = e'.reaches) :
    e.resolveOne resolve s = e'.resolveOne resolve s := by
  funext p b
  rw [resolveOne, resolveOne, h]

/-- Every form of a batched join stops within the join that evaluates its right side for every
solution of its left side. -/
theorem stopsWithin_batched? (hpairwise : e'.options.performant = false)
    (hreaches : e.reaches = e'.reaches) {right : Query} {joined : Solutions → Solutions}
    (hjoined : e.batched? right = some joined) (left : Solutions) :
    StopsWithin ((joined left).items (s.answerWith resolve))
      ((left.items (s.answerWith resolve)).flatMap
        (onValue (e'.yields (s.answerWith resolve) right))) := by
  have hjoin (p : Pattern) (left : Solutions) :
      StopsWithin ((e.batchedJoin p left).items (s.answerWith resolve))
        ((left.items (s.answerWith resolve)).flatMap
          (onValue (e'.yields (s.answerWith resolve) (.pattern p)))) := by
    rw [funext (e'.yields_pattern s resolve p), ← resolveOne_congr hreaches]
    exact e.stopsWithin_batchedJoin s resolve p left
  unfold batched? at hjoined
  split at hjoined
  · next p =>
    cases hjoined
    exact hjoin p left
  · next f p =>
    cases hjoined
    simp only [filtered, items_filterOk]
    rw [funext (e'.yields_filter _ f (.pattern p)), ← filter_flatMap_onValue]
    exact (hjoin p left).filter f.accepts
  · next f first second =>
    cases hjoined
    have hnone : (if e'.options.performant then e'.batched? (.pattern second) else none) = none :=
      if_neg (by simp [hpairwise])
    simp only [filtered, items_filterOk]
    rw [funext (e'.yields_filter _ f (.join (.pattern first) (.pattern second))),
      funext (yields_join _ hnone (.pattern first)), ← filter_flatMap_onValue,
      ← flatMap_onValue_assoc]
    refine StopsWithin.filter ?_ f.accepts
    exact (hjoin second _).trans ((hjoin first left).flatMap fun b => StopsWithin.refl _)
  · cases hjoined

/-- Whatever the options are, a query yields what its pairwise evaluation yields, or stops with an
error where both agreed so far. -/
theorem stopsWithin_pairwise (hpairwise : e'.options.performant = false)
    (hreaches : e.reaches = e'.reaches) (q : Query) (b : Binding) :
    StopsWithin (e.yields (s.answerWith resolve) q b)
      (e'.yields (s.answerWith resolve) q b) := by
  induction q generalizing b with
  | pattern p => rw [yields_pattern, yields_pattern, resolveOne_congr hreaches]
  | filter f child ih =>
    rw [yields_filter, yields_filter]
    exact (ih b).filter f.accepts
  | slice offset limit child ih =>
    rw [yields_slice, yields_slice]
    exact (ih b).slice _ _ limit
  | join left right ihl ihr =>
    have hnone : (if e'.options.performant then e'.batched? right else none) = none :=
      if_neg (by simp [hpairwise])
    rw [yields_join _ hnone]
    cases hb : if e.options.performant then e.batched? right else none with
    | none =>
      rw [yields_join _ hb]
      exact (ihl b).flatMap ihr
    | some joined =>
      rw [yields_join_batched _ hb]
      have hjoined : e.batched? right = some joined := by
        split at hb
        · exact hb
        · cases hb
      exact (stopsWithin_batched? hpairwise hreaches hjoined _).trans
        ((ihl b).flatMap fun solution => StopsWithin.refl _)

end joins

/-! ## Whole queries -/

/-- Evaluated with batched joins a query passes on the first ones of the solutions that its pairwise
evaluation passes on, and exactly the same if it ends without an error.  Where no error ends it, it
makes no difference how joins are evaluated and how many solutions make a chunk. -/
theorem passedOn_prefix_pairwise (s : Store) (resolve : Resolver) (q : Query) (b : Binding)
    {e pairwise : Evaluator} (hpairwise : pairwise.options.performant = false)
    (hreaches : e.reaches = pairwise.reaches) :
    valuesBefore (e.passedOn (s.answerWith resolve) q b) <+:
        valuesBefore (pairwise.passedOn (s.answerWith resolve) q b) ∧
      (firstError? (e.passedOn (s.answerWith resolve) q b) = none →
        firstError? (pairwise.passedOn (s.answerWith resolve) q b) = none ∧
          e.passedOn (s.answerWith resolve) q b =
            pairwise.passedOn (s.answerWith resolve) q b) ∧
      ∀ other : Evaluator, other.reaches = e.reaches →
        firstError? (e.passedOn (s.answerWith resolve) q b) = none →
        firstError? (other.passedOn (s.answerWith resolve) q b) = none →
        other.passedOn (s.answerWith resolve) q b = e.passedOn (s.answerWith resolve) q b := by
  simp only [passedOn_eq, valuesBefore_upToError, firstError?_upToError]
  have hwithin : StopsWithin (e.yields (s.answerWith resolve) q b.sanitized)
      (pairwise.yields (s.answerWith resolve) q b.sanitized) :=
    stopsWithin_pairwise hpairwise hreaches q b.sanitized
  refine ⟨hwithin.prefix_valuesBefore, fun h => ?_, fun other hother h h' => ?_⟩
  · have heq := hwithin.eq_of_firstError? h
    exact ⟨heq ▸ h, congrArg upToError heq⟩
  · have hwithin' : StopsWithin (other.yields (s.answerWith resolve) q b.sanitized)
        (pairwise.yields (s.answerWith resolve) q b.sanitized) :=
      stopsWithin_pairwise hpairwise (hother.trans hreaches) q b.sanitized
    rw [hwithin'.eq_of_firstError? h', hwithin.eq_of_firstError? h]

end Evaluator

namespace Ferry

/-- A tour stops in the north and in the south, and there are rooms on the isle. -/
def harbours : Store :=
  let fact (subject predicate object : String) : Fact :=
    ⟨⟨.iri subject, .iri predicate, .iri object, none⟩, {}⟩
  (Store.empty.insertAll .min
    [fact "tour" "stops" "north", fact "tour" "stops" "south", fact "isle" "offers" "rooms"]).1

/-- A timetable that knows the ferries of the north only. -/
def timetable : Resolver
  | .subject (.iri "north"), predicate, context =>
    .ok [⟨.iri "north", predicate, .iri "isle", context⟩]
  | _, _, _ => .error (.query "no timetable")

/-- What is offered where ferries go to from a stop: the first of it. -/
def offer : Query :=
  let between (subject predicate object : String) (kind : PatternKind) : Query :=
    .pattern ⟨.var subject, .const (.iri predicate), .var object, none, kind⟩
  .slice none (some 1) <| .join
    (.join (between "t" "stops" "h" .ordinary) (between "h" "ferry" "place" .transitive))
    (between "place" "offers" "o" .ordinary)

/-- An evaluator that answers so many left solutions at once, or one by one. -/
def evaluator (performant : Bool) (size : Nat) (size_pos : 0 < size) : Evaluator where
  options := { performant, joinBatchSize := size, joinBatchSize_pos := size_pos }

set_option maxRecDepth 100000 in
/-- In chunks of two the offer is lost to the error behind it; in chunks of one nothing is lost. -/
theorem prefix_pairwise_offer :
    let answer := harbours.answerWith timetable
    let batched := evaluator true 2 (by decide)
    let pairwise := evaluator false 2 (by decide)
    firstError? (batched.passedOn answer offer .empty) = some (.query "no timetable") ∧
      valuesBefore (batched.passedOn answer offer .empty) <+:
        valuesBefore (pairwise.passedOn answer offer .empty) ∧
      (valuesBefore (pairwise.passedOn answer offer .empty)).length = 1 ∧
      firstError? (pairwise.passedOn answer offer .empty) = none ∧
      (evaluator true 1 (by decide)).passedOn answer offer .empty =
        pairwise.passedOn answer offer .empty := by
  have hsingle : firstError? ((evaluator true 1 (by decide)).passedOn
      (harbours.answerWith timetable) offer .empty) = none := by decide +kernel
  obtain ⟨hstarts, -, -⟩ := @Evaluator.passedOn_prefix_pairwise harbours timetable offer .empty
    (evaluator true 2 (by decide)) (evaluator false 2 (by decide)) rfl rfl
  obtain ⟨-, hagree, -⟩ := @Evaluator.passedOn_prefix_pairwise harbours timetable offer .empty
    (evaluator true 1 (by decide)) (evaluator false 2 (by decide)) rfl rfl
  exact ⟨by decide +kernel, hstarts, by decide +kernel, (hagree hsingle).1, (hagree hsingle).2⟩

end Ferry

end RdfReasoner
