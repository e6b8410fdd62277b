import RdfReasoner.Proofs.Sequence
import RdfReasoner.Proofs.Store

/-!
# What queries find in a store

Over a store every pattern is resolved binding by binding, whether one lookup answers for many
bindings or not, and whether reachability is asked for once or again (`items_matchPattern`).  This
needs only that the same question gets the same reply: someone other than the store may answer
questions about reachability, and fail (`Store.answerWith`).

What is found depends on the statements of the store and on their order, and on nothing else:
levels, timestamps and access labels play no part (`Evaluator.answers_congr`).
-/

namespace RdfReasoner

namespace Sequence

variable {α β ε : Type} {answer : Answers}

/-- What comes in place of an item; errors stay. -/
def onValue (f : α → List (Except ε β)) : Except ε α → List (Except ε β)
  | .ok a => f a
  | .error e => [.error e]

/-- Whether an item stays; errors do. -/
def staysOk (p : α → Bool) : Except ε α → Bool
  | .ok a => p a
  | .error _ => true

@[simp] theorem items_flatMapOk (f : α → Sequence (Except ε β)) (s : Sequence (Except ε α)) :
    (s.flatMapOk f).items answer =
      (s.items answer).flatMap (onValue fun a => (f a).items answer) := by
  rw [flatMapOk, items_flatMap]
  refine congrArg (List.flatMap · _) (funext fun item => ?_)
  cases item <;> rfl

@[simp] theorem items_filterOk (p : α → Bool) (s : Sequence (Except ε α)) :
    (s.filterOk p).items answer = (s.items answer).filter (staysOk p) := by
  rw [filterOk, items_filter]
  refine congrArg (List.filter · _) (funext fun item => ?_)
  cases item <;> rfl

end Sequence

/-! ## Answers about reachability -/

/-- Answers a question about reachability, or fails. -/
abbrev Resolver := Endpoint → Term → Option Term → Except Error (List Statement)

namespace Store

/-- The paths through the store itself. -/
def resolver (s : Store) : Resolver := fun e predicate context => .ok (s.reach e predicate context)

/-- What a store answers when someone else answers questions about reachability. -/
def answerWith (s : Store) (resolve : Resolver) : Answers
  | .reach e predicate context => resolve e predicate context
  | q => s.answer q

theorem answerWith_resolver (s : Store) : s.answerWith s.resolver = s.answer := by
  funext q
  cases q <;> rfl

theorem answerWith_deliver (s : Store) (resolve : Resolver) :
    s.answerWith resolve .deliver = .ok () := rfl

end Store

namespace Evaluator

open Sequence

/-! ## Patterns -/

/-- What a pattern is resolved to for one binding when a resolver answers for paths. -/
def resolveOne (e : Evaluator) (resolve : Resolver) (s : Store) (p : Pattern) (b : Binding) :
    List (Except Error Binding) :=
  match p.kind with
  | .ordinary => ((p.lookup? b).map fun l => (extensions p b l s.statements).map .ok).getD []
  | .fixed candidates => ((p.lookup? b).map fun l => (extensions p b l candidates).map .ok).getD []
  | .transitive =>
    if e.reaches then
      ((p.lookup? b).map fun l =>
        match reachKey? l with
        | some key =>
          match resolve key.1 key.2.1 key.2.2 with
          | .ok found => (extensions p b l found).map .ok
          | .error err => [.error err]
        | none => [.error (.unsupported p)]).getD []
    else [.error (.unsupported p)]

/-- What a pattern is resolved to for one binding. -/
def matchOne (e : Evaluator) (s : Store) (p : Pattern) (b : Binding) :
    List (Except Error Binding) :=
  match p.kind with
  | .ordinary => ((p.lookup? b).map fun l => (extensions p b l s.statements).map .ok).getD []
  | .fixed candidates => ((p.lookup? b).map fun l => (extensions p b l candidates).map .ok).getD []
  | .transitive =>
    if e.reaches then
      ((p.lookup? b).map fun l =>
        match reachKey? l with
        | some key => (extensions p b l (s.reach key.1 key.2.1 key.2.2)).map .ok
        | none => [.error (.unsupported p)]).getD []
    else [.error (.unsupported p)]

theorem matchOne_eq_resolveOne (e : Evaluator) (s : Store) :
    e.matchOne s = e.resolveOne s.resolver s := by
  funext p b
  unfold matchOne resolveOne
  cases p.kind <;> rfl

section resolver

variable (e : Evaluator) (resolve : Resolver) (s : Store)

/-- The facts of several lookups are found lookup by lookup, however the storage is asked. -/
theorem items_lookupAll (ls : List Lookup) :
    ∃ found, (e.lookupAll ls).result (s.answerWith resolve) = .ok found ∧
      found.items (s.answerWith resolve) = (s.lookupAll ls).map .ok := by
  have hdeliver := s.answerWith_deliver resolve
  unfold lookupAll
  cases e.batching with
  | atOnce => exact ⟨delivered (s.lookupAll ls), rfl, items_delivered hdeliver _⟩
  | oneByOne =>
    refine ⟨_, rfl, ?_⟩
    rw [items_flatMap, items_ofList, Store.lookupAll, List.map_flatMap]
    refine congrArg (List.flatMap · _) (funext fun ⟨l, tag⟩ => ?_)
    exact items_delivered hdeliver _

/-- The facts of a lookup extend a binding as their statements do. -/
theorem flatMap_lookup (p : Pattern) (b : Binding) (l : Lookup) :
    ((s.lookup l).flatMap fun f => (p.bind? b f.statement).toList) =
      extensions p b l s.statements := by
  rw [extensions, ← Store.map_statement_lookup, List.filterMap_map,
    List.filterMap_eq_flatMap_toList]
  rfl

/-- The facts of several lookups extend the bindings that the lookups were made of. -/
theorem flatMap_lookupAll (answer : Answers) (p : Pattern) (pairs : List (Binding × Lookup)) :
    ((s.lookupAll (pairs.map (·.2))).flatMap fun found =>
        (extend p (pairs.map (·.1)) (.ok found)).items answer) =
      pairs.flatMap fun (b, l) => (extensions p b l s.statements).map .ok := by
  have horigin : ∀ found ∈ pairs.zipIdx,
      ((s.lookup found.1.2).flatMap fun f =>
          (extend p (pairs.map (·.1)) (.ok (f, found.2))).items answer) =
        (extensions p found.1.1 found.1.2 s.statements).map .ok := by
    rintro ⟨⟨b, l⟩, tag⟩ hmem
    have hget : pairs[tag]? = some (b, l) := List.mem_zipIdx_iff_getElem?.mp hmem
    simp only [extend, List.getElem?_map, hget, Option.map_some, Option.bind_some, items_ofList]
    rw [← flatMap_lookup, List.map_flatMap]
  rw [Store.lookupAll, List.zipIdx_map, List.flatMap_map, List.flatMap_assoc]
  simp only [Prod.map, List.flatMap_map, id_eq]
  rw [List.flatMap_congr horigin]
  conv_rhs => rw [← List.zipIdx_map_fst 0 pairs, List.flatMap_map]

theorem items_ordinary (p : Pattern) (bs : List Binding) :
    ((e.ordinary p bs).result (s.answerWith resolve)).items (s.answerWith resolve) =
      bs.flatMap fun b =>
        ((p.lookup? b).map fun l => (extensions p b l s.statements).map .ok).getD [] := by
  have hviable : (viable p bs).flatMap (fun (b, l) =>
        (extensions p b l s.statements).map (Except.ok (ε := Error))) =
      bs.flatMap fun b =>
        ((p.lookup? b).map fun l => (extensions p b l s.statements).map .ok).getD [] := by
    induction bs with
    | nil => rfl
    | cons b bs ih =>
      rw [List.flatMap_cons, ← ih, viable, List.filterMap_cons]
      cases p.lookup? b <;> simp [viable]
  rw [← hviable, ordinary]
  split
  · next h => rw [h]; rfl
  · obtain ⟨found, hfound, hitems⟩ := e.items_lookupAll resolve s ((viable p bs).map (·.2))
    rw [Inquiry.result_map, hfound, items_flatMap, hitems, List.flatMap_map]
    exact flatMap_lookupAll s _ p (viable p bs)

theorem items_fixed (answer : Answers) (p : Pattern) (candidates : List Statement)
    (bs : List Binding) :
    (fixed p candidates bs).items answer =
      bs.flatMap fun b =>
        ((p.lookup? b).map fun l => (extensions p b l candidates).map .ok).getD [] := by
  rw [fixed, items_flatMap, items_ofList]
  refine congrArg (List.flatMap · _) (funext fun b => ?_)
  cases p.lookup? b <;> simp

/-- The answers that are remembered are those that the resolver gives. -/
def CacheExact (cache : ReachCache) : Prop :=
  ∀ key found, cache.lookup key = some found → resolve key.1 key.2.1 key.2.2 = .ok found

variable {resolve s}

theorem CacheExact.cons {cache : ReachCache} (h : CacheExact resolve cache)
    {key : Endpoint × Term × Option Term} {found : List Statement}
    (hfound : resolve key.1 key.2.1 key.2.2 = .ok found) :
    CacheExact resolve ((key, found) :: cache) := by
  intro other others hothers
  rw [List.lookup_cons] at hothers
  split at hothers
  · next heq =>
    obtain rfl := eq_of_beq heq
    rw [hfound, Option.some.inj hothers]
  · exact h other others hothers

theorem items_transitive {p : Pattern} (hp : p.kind = .transitive) {cache : ReachCache}
    (hcache : CacheExact resolve cache) (bs : List Binding) :
    (e.transitive p cache bs).items (s.answerWith resolve) =
      bs.flatMap (e.resolveOne resolve s p) := by
  induction bs generalizing cache with
  | nil => rfl
  | cons b bs ih =>
    rw [List.flatMap_cons, resolveOne, hp, transitive]
    cases e.reaches with
    | false => simp [ih hcache]
    | true =>
      cases p.lookup? b with
      | none => simp [ih hcache]
      | some l =>
        cases hkey : reachKey? l with
        | none => simp [hkey, ih hcache]
        | some key =>
          simp only [Bool.not_true, Bool.false_eq_true, if_false, if_true, Option.map_some,
            Option.getD_some, hkey]
          cases hlookup : cache.lookup key with
          | some found =>
            -- the question was put before, and got the same reply
            simp only [hcache key found hlookup, items_prepend, ih hcache]
          | none =>
            simp only [items_ask, Store.answerWith]
            cases hfound : resolve key.1 key.2.1 key.2.2 with
            | ok found => simp only [items_prepend, ih (hcache.cons hfound)]
            | error err => simp only [items_cons, ih hcache, List.singleton_append]

variable (resolve s)

/-- A pattern is resolved binding by binding, whoever answers for paths. -/
theorem items_matchPattern_resolver (p : Pattern) (bs : List Binding) :
    ((e.matchPattern p bs).result (s.answerWith resolve)).items (s.answerWith resolve) =
      bs.flatMap (e.resolveOne resolve s p) := by
  unfold matchPattern
  split
  · next hp =>
    rw [items_ordinary]
    exact congrArg (List.flatMap · bs) (funext fun b => by rw [resolveOne, hp])
  · next candidates hp =>
    rw [Inquiry.result_done, items_fixed]
    exact congrArg (List.flatMap · bs) (funext fun b => by rw [resolveOne, hp])
  · next hp =>
    exact e.items_transitive hp (fun key found h => by simp at h) bs

end resolver

/-- Over a store a pattern is resolved binding by binding. -/
theorem items_matchPattern (e : Evaluator) (s : Store) (p : Pattern) (bs : List Binding) :
    ((e.matchPattern p bs).result s.answer).items s.answer = bs.flatMap (e.matchOne s p) := by
  rw [← s.answerWith_resolver, items_matchPattern_resolver, matchOne_eq_resolveOne]

/-- The same statements resolve a pattern in the same way. -/
theorem matchOne_congr (e : Evaluator) {s t : Store} (h : s.statements = t.statements) :
    e.matchOne s = e.matchOne t := by
  funext p b
  simp only [matchOne, h, Store.reach_congr h]

/-! ## Trees -/

section answers

variable (e : Evaluator) (answer : Answers)

/-- What a query yields from a binding on, for fixed answers. -/
def yields (q : Query) (b : Binding) : List (Except Error Binding) :=
  ((e.solutions q b).result answer).items answer

/-- What is passed on of a whole query: nothing comes behind the first error. -/
def passedOn (q : Query) (b : Binding) : List (Except Error Binding) :=
  ((e.evaluate q b).result answer).items answer

theorem passedOn_eq (q : Query) (b : Binding) :
    e.passedOn answer q b = upToError (e.yields answer q b.sanitized) := by
  rw [passedOn, evaluate, Inquiry.result_map, items_untilError, yields]

theorem yields_filter (f : Filter) (child : Query) (b : Binding) :
    e.yields answer (.filter f child) b =
      (e.yields answer child b).filter (staysOk f.accepts) := by
  rw [yields, solutions, Inquiry.result_map, filtered, items_filterOk, yields]

theorem yields_slice (offset limit : Option Nat) (child : Query) (b : Binding) :
    e.yields answer (.slice offset limit child) b =
      ((ofList (e.yields answer child b)).slice (offset.getD 0) limit).items answer := by
  rw [yields, solutions, Inquiry.result_map, items_slice answer, yields]

variable {e} {right : Query}

/-- Without the batched form a join evaluates its right side for every solution of its left side. -/
theorem yields_join (h : (if e.options.performant then e.batched? right else none) = none)
    (left : Query) (b : Binding) :
    e.yields answer (.join left right) b =
      (e.yields answer left b).flatMap (onValue (e.yields answer right)) := by
  rw [yields, solutions, h, Inquiry.result_map, items_flatMapOk]
  simp only [items_ofInquiry]
  rfl

/-- With the batched form a join hands the solutions of its left side over. -/
theorem yields_join_batched {joined : Solutions → Solutions}
    (h : (if e.options.performant then e.batched? right else none) = some joined) (left : Query)
    (b : Binding) :
    e.yields answer (.join left right) b =
      (joined ((e.solutions left b).result answer)).items answer := by
  rw [yields, solutions, h, Inquiry.result_map]

end answers

/-- What a query finds in a store from a binding on. -/
def found (e : Evaluator) (s : Store) (q : Query) (b : Binding) : List (Except Error Binding) :=
  ((e.solutions q b).result s.answer).items s.answer

/-- What is passed on of what a query finds: everything up to the first error. -/
def answers (e : Evaluator) (s : Store) (q : Query) : List (Except Error Binding) :=
  ((e.evaluate q .empty).result s.answer).items s.answer

theorem answers_eq (e : Evaluator) (s : Store) (q : Query) :
    e.answers s q = upToError (e.found s q .empty) :=
  e.passedOn_eq s.answer q .empty

theorem found_pattern (e : Evaluator) (s : Store) (p : Pattern) (b : Binding) :
    e.found s (.pattern p) b = e.matchOne s p b := by
  rw [found, solutions, items_matchPattern, List.flatMap_singleton]

theorem found_filter (e : Evaluator) (s : Store) (f : Filter) (child : Query) (b : Binding) :
    e.found s (.filter f child) b = (e.found s child b).filter (staysOk f.accepts) :=
  e.yields_filter s.answer f child b

theorem found_slice (e : Evaluator) (s : Store) (offset limit : Option Nat) (child : Query)
    (b : Binding) :
    e.found s (.slice offset limit child) b =
      ((ofList (e.found s child b)).slice (offset.getD 0) limit).items s.answer :=
  e.yields_slice s.answer offset limit child b

theorem found_join {e : Evaluator} {right : Query}
    (h : (if e.options.performant then e.batched? right else none) = none) (s : Store)
    (left : Query) (b : Binding) :
    e.found s (.join left right) b = (e.found s left b).flatMap (onValue (e.found s right)) :=
  yields_join s.answer h left b

theorem found_join_batched {e : Evaluator} {right : Query} {joined : Solutions → Solutions}
    (h : (if e.options.performant then e.batched? right else none) = some joined) (s : Store)
    (left : Query) (b : Binding) :
    e.found s (.join left right) b =
      (joined ((e.solutions left b).result s.answer)).items s.answer :=
  yields_join_batched s.answer h left b

/-- What a batched join makes depends on the items of the left side and on the statements. -/
theorem batchedJoin_congr (e : Evaluator) (p : Pattern) {s t : Store}
    (h : s.statements = t.statements) {l m : Solutions}
    (hitems : l.items s.answer = m.items t.answer) :
    (e.batchedJoin p l).items s.answer = (e.batchedJoin p m).items t.answer := by
  have hchunks : (l.chunks e.options.joinBatchSize []).items s.answer =
      (m.chunks e.options.joinBatchSize []).items t.answer := by
    rw [items_chunks t.answer, hitems, ← items_chunks]
  simp only [batchedJoin, items_flatMapOk, items_ofInquiry, items_matchPattern, hchunks,
    e.matchOne_congr h]

/-- The same for every form of a batched join. -/
theorem batched?_congr {e : Evaluator} {right : Query} {joined : Solutions → Solutions}
    (hjoined : e.batched? right = some joined) {s t : Store} (h : s.statements = t.statements)
    {l m : Solutions} (hitems : l.items s.answer = m.items t.answer) :
    (joined l).items s.answer = (joined m).items t.answer := by
  unfold batched? at hjoined
  split at hjoined
  · cases hjoined
    exact e.batchedJoin_congr _ h hitems
  · cases hjoined
    simp only [filtered, items_filterOk, e.batchedJoin_congr _ h hitems]
  · cases hjoined
    simp only [filtered, items_filterOk,
      e.batchedJoin_congr _ h (e.batchedJoin_congr _ h hitems)]
  · cases hjoined

/-- The same statements let a query find the same. -/
theorem found_congr (e : Evaluator) {s t : Store} (h : s.statements = t.statements) (q : Query)
    (b : Binding) : e.found s q b = e.found t q b := by
  induction q generalizing b with
  | pattern p => rw [found_pattern, found_pattern, e.matchOne_congr h]
  | filter f child ih => rw [found_filter, found_filter, ih]
  | slice offset limit child ih =>
    rw [found, found, solutions, Inquiry.result_map, Inquiry.result_map, items_slice t.answer,
      items_slice t.answer (s := (e.solutions child b).result t.answer)]
    exact congrArg (fun l => ((ofList l).slice (offset.getD 0) limit).items t.answer) (ih b)
  | join left right ihl ihr =>
    cases hb : if e.options.performant then e.batched? right else none with
    | none =>
      rw [found_join hb, found_join hb, ihl, funext ihr]
    | some joined =>
      rw [found_join_batched hb, found_join_batched hb]
      have hb : e.batched? right = some joined := by
        split at hb
        · exact hb
        · cases hb
      exact batched?_congr hb h (ihl b)

/-- The same statements give the same answers. -/
theorem answers_congr (e : Evaluator) {s t : Store} (h : s.statements = t.statements) (q : Query) :
    e.answers s q = e.answers t q := by
  rw [answers_eq, answers_eq, e.found_congr h]

end Evaluator

end RdfReasoner
