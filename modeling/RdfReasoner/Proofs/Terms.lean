import RdfReasoner.Proofs.Reachability
import RdfReasoner.Proofs.Rows
import RdfReasoner.Session

/-!
# Terms that evaluation brings in

Evaluation invents no terms.  What a variable holds stood in a statement that the storage answered
with, in a candidate of a pattern, or in a question; a statement that a template makes has the terms
of its slots and what its variables hold.  So if all that the storage is asked about and answers
with is made of some terms, and the rule mentions no others, then every solution and every derived
statement is made of these terms (`Evaluator.evaluate_formed`, `Plan.outputs_formed`).

The storage may change between two answers, as it does when a batch of new facts is written before
the execution that made them is over.  That is why this is said of sequences and not of the items
that they have over one store.
-/

namespace RdfReasoner

open Sequence

variable {T : Set Term}

/-! ## What is made of some terms -/

/-- All terms of a statement are among some. -/
def Statement.Over (T : Set Term) (st : Statement) : Prop := ∀ t ∈ st.terms, t ∈ T

/-- All that variables hold is among some terms. -/
def Binding.Over (T : Set Term) (b : Binding) : Prop := ∀ name t, b.get? name = some t → t ∈ T

/-- All fixed places of a lookup have one of some terms. -/
def Lookup.Over (T : Set Term) (l : Lookup) : Prop := ∀ place t, l.termAt place = some t → t ∈ T

theorem Statement.over_iff {st : Statement} :
    st.Over T ↔ ∀ place t, st.termAt place = some t → t ∈ T := by
  have hterms (t : Term) : t ∈ st.terms ↔ ∃ place, st.termAt place = some t := by
    rw [terms, List.mem_filterMap]
    exact exists_congr fun place => and_iff_right place.mem_all
  unfold Over
  simp only [hterms]
  constructor
  · intro h place t ht
    exact h t ⟨place, ht⟩
  · rintro h t ⟨place, ht⟩
    exact h place t ht

theorem Statement.Over.of_places {st : Statement} (hsubject : st.subject ∈ T)
    (hpredicate : st.predicate ∈ T) (hobject : st.object ∈ T)
    (hcontext : ∀ t, st.context = some t → t ∈ T) : st.Over T := by
  refine over_iff.mpr fun place t ht => ?_
  cases place with
  | subject => exact Option.some.inj ht ▸ hsubject
  | predicate => exact Option.some.inj ht ▸ hpredicate
  | object => exact Option.some.inj ht ▸ hobject
  | context => exact hcontext t ht

theorem Binding.over_empty : Binding.empty.Over T := by
  intro name t ht
  cases ht

/-- A variable may hold one more of the terms. -/
theorem Binding.Over.put {b : Binding} (h : b.Over T) {name : String} {t : Term} (ht : t ∈ T) :
    (b.put name (some t)).Over T := by
  intro other u hu
  rw [get?, held?_put] at hu
  split at hu
  · obtain rfl := Option.some.inj hu
    exact ht
  · exact h other u hu

/-- A slot resolves to its own term or to what its variable holds. -/
theorem Slot.mem_of_resolve {slot : Slot} (hslot : ∀ t ∈ slot.terms, t ∈ T) {b : Binding}
    (hb : b.Over T) {t : Term} (h : slot.resolve b = some t) : t ∈ T := by
  cases slot with
  | var name => exact hb name t h
  | const term =>
    obtain rfl := Option.some.inj h
    exact hslot term (List.mem_singleton_self _)

/-! ## Patterns and templates -/

namespace Pattern

variable {p : Pattern} (hp : ∀ t ∈ p.terms, t ∈ T)
include hp

/-- The terms in the slots of a pattern are among its terms. -/
theorem mem_of_slotAt {place : Position} {slot : Slot} (h : p.slotAt place = some slot) :
    ∀ t ∈ slot.terms, t ∈ T := by
  intro t ht
  refine hp t (List.mem_append_left _ (List.mem_flatMap.mpr ⟨place, place.mem_all, ?_⟩))
  rw [h]
  simpa using ht

/-- So are those of its candidates. -/
theorem over_of_mem_candidates {candidates : List Statement} (hkind : p.kind = .fixed candidates) :
    ∀ st ∈ candidates, st.Over T := by
  intro st hst t ht
  refine hp t (List.mem_append_right _ ?_)
  rw [hkind]
  exact List.mem_flatMap.mpr ⟨st, hst, ht⟩

/-- A pattern turns into a lookup of terms that it or the binding brings in. -/
theorem over_of_lookup? {b : Binding} (hb : b.Over T) {l : Lookup} (h : p.lookup? b = some l) :
    l.Over T := by
  have hresolve {place : Position} {slot : Slot} (hslot : p.slotAt place = some slot) {t : Term}
      (ht : slot.resolve b = some t) : t ∈ T :=
    Slot.mem_of_resolve (mem_of_slotAt hp hslot) hb ht
  rw [lookup?] at h
  split at h
  · obtain rfl := Option.some.inj h
    intro place t ht
    cases place with
    | subject => exact @hresolve .subject p.subject rfl t ht
    | predicate => exact @hresolve .predicate p.predicate rfl t ht
    | object => exact @hresolve .object p.object rfl t ht
    | context =>
      obtain ⟨slot, hslot, ht⟩ := Option.bind_eq_some_iff.mp ht
      exact @hresolve .context slot hslot t ht
  · cases h

omit hp in
/-- A statement extends a binding by its own terms, place by place. -/
theorem over_of_bindAt {b b' : Binding} (hb : b.Over T) {st : Statement} (hst : st.Over T)
    {place : Position} (h : p.bindAt st b place = .ok b') : b'.Over T := by
  unfold bindAt at h
  split at h
  · next name term _ hterm =>
    rw [Binding.bind, Binding.add] at h
    split at h
    · obtain rfl := Except.ok.inj h
      exact hb.put (Statement.over_iff.mp hst place term hterm)
    · split at h
      · obtain rfl := Except.ok.inj h
        exact hb
      · cases h
  · obtain rfl := Except.ok.inj h
    exact hb

omit hp in
theorem over_of_bind? {b b' : Binding} (hb : b.Over T) {st : Statement} (hst : st.Over T)
    (h : p.bind? b st = some b') : b'.Over T := by
  have hplaces (places : List Position) {b : Binding} (hb : b.Over T)
      (h : places.foldlM (p.bindAt st) b = .ok b') : b'.Over T := by
    induction places generalizing b with
    | nil =>
      obtain rfl := Except.ok.inj h
      exact hb
    | cons place places ih =>
      rw [List.foldlM_cons] at h
      rcases hplace : p.bindAt st b place with conflict | mid
      · rw [hplace] at h
        cases h
      · rw [hplace] at h
        exact ih (over_of_bindAt hb hst hplace) h
  rw [bind?, bind] at h
  rcases hbind : Position.all.foldlM (p.bindAt st) b with conflict | mid
  · rw [hbind] at h
    cases h
  · rw [hbind] at h
    obtain rfl := Option.some.inj h
    exact hplaces Position.all hb hbind

omit hp in
theorem over_of_mem_extensions {b b' : Binding} (hb : b.Over T) {l : Lookup}
    {statements : List Statement} (hstatements : ∀ st ∈ statements, st.Over T)
    (h : b' ∈ Evaluator.extensions p b l statements) : b'.Over T := by
  obtain ⟨st, hst, hbind⟩ := List.mem_filterMap.mp h
  exact over_of_bind? hb (hstatements st (List.mem_of_mem_filter hst)) hbind

end Pattern

/-- A statement that may be derived: it is well formed and made of some terms. -/
def Statement.Formed (T : Set Term) (st : Statement) : Prop := st.isWellFormed = true ∧ st.Over T

/-- What a template makes is well formed, and each place of it comes from the slot there. -/
theorem Template.of_instantiate? {template : Template} {b : Binding} {st : Statement}
    (h : template.instantiate? b = some st) :
    st.isWellFormed = true ∧ template.subject.resolve b = some st.subject ∧
      template.predicate.resolve b = some st.predicate ∧
      template.object.resolve b = some st.object ∧
      ∀ t, st.context = some t → ∃ slot ∈ template.context, slot.resolve b = some t := by
  rcases hcontext : template.context with _ | slot
  · simp only [instantiate?, hcontext, Option.bind_eq_bind, Option.bind_eq_some_iff,
      Option.some.injEq, exists_eq_left'] at h
    obtain ⟨subject, hsubject, predicate, hpredicate, object, hobject, h⟩ := h
    split at h
    · next hformed =>
      obtain rfl := Option.some.inj h
      exact ⟨hformed, hsubject, hpredicate, hobject, fun _ ht => nomatch ht⟩
    · cases h
  · simp only [instantiate?, hcontext, Option.bind_eq_bind, Option.bind_eq_some_iff,
      Option.map_eq_some_iff, exists_exists_and_eq_and] at h
    obtain ⟨context, hslot, subject, hsubject, predicate, hpredicate, object, hobject, h⟩ := h
    split at h
    · next hformed =>
      obtain rfl := Option.some.inj h
      refine ⟨hformed, hsubject, hpredicate, hobject, fun t ht => ⟨slot, rfl, ?_⟩⟩
      exact hslot.trans ht
    · cases h

/-- So it is made of terms that the template or the binding brings in. -/
theorem Template.formed_of_instantiate? {template : Template}
    (htemplate : ∀ t ∈ template.terms, t ∈ T) {b : Binding} (hb : b.Over T) {st : Statement}
    (h : template.instantiate? b = some st) : st.Formed T := by
  have hresolve {slot : Slot} (hslot : slot ∈ [template.subject, template.predicate,
      template.object] ++ template.context.toList) {t : Term} (ht : slot.resolve b = some t) :
      t ∈ T :=
    Slot.mem_of_resolve (fun u hu => htemplate u (List.mem_flatMap.mpr ⟨slot, hslot, hu⟩)) hb ht
  obtain ⟨hformed, hsubject, hpredicate, hobject, hcontext⟩ := of_instantiate? h
  refine ⟨hformed, .of_places (hresolve (by simp) hsubject) (hresolve (by simp) hpredicate)
    (hresolve (by simp) hobject) fun t ht => ?_⟩
  obtain ⟨slot, hslot, ht⟩ := hcontext t ht
  have hslot : slot ∈ template.context.toList := Option.mem_toList.mpr hslot
  exact hresolve (List.mem_append_right _ hslot) ht

/-! ## Questions and answers -/

/-- What is answered to a question that is made of some terms is made of these terms. -/
def Request.Over (T : Set Term) : ReplyKind
  | .lookup _, reply => ErrorOr (fun facts => ∀ f ∈ facts, f.statement.Over T) reply
  | .lookupAll _, reply => ErrorOr (fun found => ∀ f ∈ found, f.1.statement.Over T) reply
  | .reach e predicate context, reply =>
    e.term ∈ T → predicate ∈ T → (∀ c, context = some c → c ∈ T) →
      ErrorOr (fun statements => ∀ st ∈ statements, st.Over T) reply
  | .deliver, _ | .holds _, _ => True

namespace Store

variable {s : Store} (hs : ∀ st ∈ s.statements, st.Over T)
include hs

theorem over_of_mem_lookup {l : Lookup} {f : Fact} (hf : f ∈ s.lookup l) : f.statement.Over T := by
  rw [lookup_eq_filter] at hf
  exact hs _ (List.mem_map_of_mem (List.mem_of_mem_filter hf))

/-- Paths lead along terms of the store. -/
theorem over_of_mem_reach {e : Endpoint} {predicate : Term} {context : Option Term}
    (he : e.term ∈ T) (hpredicate : predicate ∈ T) (hcontext : ∀ c, context = some c → c ∈ T)
    {st : Statement} (hst : st ∈ s.reach e predicate context) : st.Over T := by
  have hleads {a b : Term} (h : Relation.TransGen (Leads s.content predicate context) a b) :
      a ∈ T ∧ b ∈ T := by
    have hstep {a b : Term} (h : Leads s.content predicate context a b) : a ∈ T ∧ b ∈ T := by
      obtain ⟨st, hmem, rfl, -, rfl, -⟩ := h
      have hst := Statement.over_iff.mp (hs st hmem)
      exact ⟨hst .subject _ rfl, hst .object _ rfl⟩
    induction h with
    | single h => exact hstep h
    | tail _ h ih => exact ⟨ih.1, (hstep h).2⟩
  cases e with
  | subject start =>
    obtain ⟨rfl, rfl, rfl, hpath⟩ := mem_reach_subject.mp hst
    exact .of_places (hleads hpath).1 hpredicate (hleads hpath).2 hcontext
  | object goal =>
    obtain ⟨rfl, rfl, rfl, hpath⟩ := mem_reach_object.mp hst
    exact .of_places (hleads hpath).1 hpredicate (hleads hpath).2 hcontext

/-- A store whose statements are made of some terms answers with these terms. -/
theorem over_answer (q : Request) : Request.Over T q (s.answer q) := by
  cases q with
  | lookup l => exact errorOr_ok.mpr fun f hf => over_of_mem_lookup hs hf
  | lookupAll ls =>
    refine errorOr_ok.mpr fun found hfound => ?_
    obtain ⟨⟨l, tag⟩, -, hmem⟩ := List.mem_flatMap.mp hfound
    obtain ⟨f, hf, rfl⟩ := List.mem_map.mp hmem
    exact over_of_mem_lookup hs hf
  | deliver => trivial
  | holds st => trivial
  | reach e predicate context =>
    exact fun he hpredicate hcontext =>
      errorOr_ok.mpr fun st hst => over_of_mem_reach hs he hpredicate hcontext hst

end Store

/-! ## Evaluation -/

/-- All solutions are made of some terms, as long as the answers are. -/
def SolutionsOver (T : Set Term) (s : Solutions) : Prop :=
  s.EveryFor (Request.Over T) (ErrorOr (Binding.Over T))

namespace Evaluator

variable (e : Evaluator)

/-- What lookups find is made of these terms, however they are put. -/
theorem lookupAll_over (ls : List Lookup) :
    (e.lookupAll ls).EndsIn (Request.Over T) (ErrorOr fun found =>
      found.EveryFor (Request.Over T) (ErrorOr fun (x : Fact × Nat) => x.1.statement.Over T)) := by
  rcases hbatching : e.batching with _ | _
  · simp only [lookupAll, hbatching]
    intro reply hreply
    cases reply with
    | ok found => exact errorOr_ok.mpr (everyFor_delivered (errorOr_ok.mp hreply))
    | error err => exact errorOr_error err
  · simp only [lookupAll, hbatching]
    have hlookups : (Sequence.ofList ls.zipIdx).EveryFor (Request.Over T) fun _ => True :=
      everyFor_of_forall (fun _ => trivial) _
    refine errorOr_ok.mpr (everyFor_flatMap hlookups ?_)
    rintro ⟨l, tag⟩ - reply hreply
    cases reply with
    | ok facts =>
      refine everyFor_delivered fun x hx => ?_
      obtain ⟨f, hf, rfl⟩ := List.mem_map.mp hx
      exact errorOr_ok.mp hreply f hf
    | error err => exact ⟨errorOr_error err, trivial⟩

/-- The question that a lookup comes down to is made of its terms. -/
theorem over_of_reachKey? {l : Lookup} (hl : l.Over T) {key : Endpoint × Term × Option Term}
    (h : reachKey? l = some key) :
    key.1.term ∈ T ∧ key.2.1 ∈ T ∧ ∀ c, key.2.2 = some c → c ∈ T := by
  unfold reachKey? at h
  split at h
  · next predicate subject hpredicate hsubject =>
    obtain rfl := Option.some.inj h
    exact ⟨hl .subject subject hsubject, hl .predicate predicate hpredicate, hl .context⟩
  · next predicate object hpredicate _ hobject =>
    obtain rfl := Option.some.inj h
    exact ⟨hl .object object hobject, hl .predicate predicate hpredicate, hl .context⟩
  · cases h

section pattern

variable {p : Pattern}

/-- A found fact extends the binding that it was found for. -/
theorem extend_over {origins : List Binding} (horigins : ∀ b ∈ origins, b.Over T)
    {item : Except Error (Fact × Nat)} (hitem : ErrorOr (fun x => x.1.statement.Over T) item) :
    SolutionsOver T (extend p origins item) := by
  rcases item with err | ⟨f, tag⟩
  · exact ⟨errorOr_error err, trivial⟩
  · refine everyFor_values fun b' hb' => ?_
    obtain ⟨b, hb, hbind⟩ := Option.bind_eq_some_iff.mp (Option.mem_toList.mp hb')
    exact Pattern.over_of_bind? (horigins b (List.mem_of_getElem? hb)) (hitem _ rfl) hbind

variable (hp : ∀ t ∈ p.terms, t ∈ T) {bindings : List Binding}
  (hbindings : ∀ b ∈ bindings, b.Over T)
include hp hbindings

omit hp in
theorem ordinary_over :
    (e.ordinary p bindings).EndsIn (Request.Over T) (SolutionsOver T) := by
  have horigins : ∀ b ∈ (viable p bindings).map (·.1), b.Over T := by
    intro origin horigin
    obtain ⟨pair, hpair, rfl⟩ := List.mem_map.mp horigin
    obtain ⟨b, hb, hl⟩ := List.mem_filterMap.mp hpair
    obtain ⟨l, -, rfl⟩ := Option.map_eq_some_iff.mp hl
    exact hbindings b hb
  rw [ordinary]
  split
  · trivial
  · refine Inquiry.endsIn_map (Inquiry.endsIn_mono (e.lookupAll_over _) fun found hfound => ?_)
    cases found with
    | ok found =>
      exact everyFor_flatMap (errorOr_ok.mp hfound) fun item hitem => extend_over horigins hitem
    | error err => exact ⟨errorOr_error err, trivial⟩

theorem fixed_over {candidates : List Statement} (hkind : p.kind = .fixed candidates) :
    SolutionsOver T (fixed p candidates bindings) := by
  refine everyFor_flatMap (everyFor_ofList hbindings) fun b hb => ?_
  split
  · exact everyFor_values fun b' hb' =>
      Pattern.over_of_mem_extensions hb (Pattern.over_of_mem_candidates hp hkind) hb'
  · trivial

/-- Answers that are remembered are made of these terms as well. -/
theorem transitive_over {cache : ReachCache}
    (hcache : ∀ key statements, cache.lookup key = some statements →
      ∀ st ∈ statements, st.Over T) :
    SolutionsOver T (e.transitive p cache bindings) := by
  induction bindings generalizing cache with
  | nil => trivial
  | cons b rest ih =>
    obtain ⟨hb, hrest⟩ := List.forall_mem_cons.mp hbindings
    have hvalues {l : Lookup} {statements : List Statement}
        (hstatements : ∀ st ∈ statements, st.Over T) :
        ∀ item ∈ (extensions p b l statements).map Except.ok,
          ErrorOr (ε := Error) (Binding.Over T) item := by
      intro item hitem
      obtain ⟨b', hb', rfl⟩ := List.mem_map.mp hitem
      exact errorOr_ok.mpr (Pattern.over_of_mem_extensions hb hstatements hb')
    rw [transitive]
    split
    · exact ⟨errorOr_error _, ih hrest hcache⟩
    · split
      · exact ih hrest hcache
      · next l hl =>
        have hlookup := Pattern.over_of_lookup? hp hb hl
        split
        · exact ⟨errorOr_error _, ih hrest hcache⟩
        · next key hkey =>
          split
          · next statements hcached =>
            exact everyFor_prepend (hvalues (hcache key statements hcached)) (ih hrest hcache)
          · obtain ⟨hend, hpredicate, hcontext⟩ := over_of_reachKey? hlookup hkey
            intro reply hreply
            have hreply := hreply hend hpredicate hcontext
            cases reply with
            | error err => exact ⟨errorOr_error err, ih hrest hcache⟩
            | ok statements =>
              have hstatements := errorOr_ok.mp hreply
              refine everyFor_prepend (hvalues hstatements) (ih hrest fun other others h => ?_)
              rw [List.lookup_cons] at h
              split at h
              · exact Option.some.inj h ▸ hstatements
              · exact hcache other others h

/-- However a pattern is resolved, it brings in no terms but its own. -/
theorem matchPattern_over :
    (e.matchPattern p bindings).EndsIn (Request.Over T) (SolutionsOver T) := by
  rw [matchPattern]
  split
  · exact e.ordinary_over hbindings
  · next candidates hkind => exact fixed_over hp hbindings hkind
  · refine e.transitive_over hp hbindings fun key statements h => ?_
    cases h

end pattern

theorem filtered_over {f : Filter} {s : Solutions} (hs : SolutionsOver T s) :
    SolutionsOver T (filtered f s) := everyFor_filter hs _

theorem batchedJoin_over {p : Pattern} (hp : ∀ t ∈ p.terms, t ∈ T) {left : Solutions}
    (hleft : SolutionsOver T left) : SolutionsOver T (e.batchedJoin p left) :=
  everyFor_flatMapOk (everyFor_chunks (List.forall_mem_nil _) hleft) fun _ hchunk =>
    everyFor_ofInquiry (e.matchPattern_over hp hchunk)

/-- So do joins in batches. -/
theorem batched?_over {right : Query} (hright : ∀ t ∈ right.terms, t ∈ T)
    {joined : Solutions → Solutions} (h : e.batched? right = some joined) {left : Solutions}
    (hleft : SolutionsOver T left) : SolutionsOver T (joined left) := by
  unfold batched? at h
  split at h
  · obtain rfl := Option.some.inj h
    exact e.batchedJoin_over hright hleft
  · obtain rfl := Option.some.inj h
    exact filtered_over (e.batchedJoin_over hright hleft)
  · obtain rfl := Option.some.inj h
    obtain ⟨hfirst, hsecond⟩ := List.forall_mem_append.mp hright
    exact filtered_over (e.batchedJoin_over hsecond (e.batchedJoin_over hfirst hleft))
  · cases h

/-- Evaluation brings in no terms but those of the query and of the answers. -/
theorem solutions_over {q : Query} (hq : ∀ t ∈ q.terms, t ∈ T) {b : Binding} (hb : b.Over T) :
    (e.solutions q b).EndsIn (Request.Over T) (SolutionsOver T) := by
  induction q generalizing b with
  | pattern p => exact e.matchPattern_over hq (List.forall_mem_singleton.mpr hb)
  | filter f child ih =>
    exact Inquiry.endsIn_map (Inquiry.endsIn_mono (ih hq hb) fun _ hs => filtered_over hs)
  | slice offset limit child ih =>
    exact Inquiry.endsIn_map (Inquiry.endsIn_mono (ih hq hb) fun _ hs => everyFor_slice hs _ _)
  | join left right ihl ihr =>
    obtain ⟨hleft, hright⟩ := List.forall_mem_append.mp hq
    rw [solutions]
    split
    · next joined hjoined =>
      have hbatched : e.batched? right = some joined := by
        split at hjoined
        · exact hjoined
        · cases hjoined
      exact Inquiry.endsIn_map (Inquiry.endsIn_mono (ihl hleft hb) fun _ hs =>
        e.batched?_over hright hbatched hs)
    · exact Inquiry.endsIn_map (Inquiry.endsIn_mono (ihl hleft hb) fun _ hs =>
        everyFor_flatMapOk hs fun _ hsolution => everyFor_ofInquiry (ihr hright hsolution))

/-- What a rule makes of the solutions of its body is well formed and made of these terms. -/
theorem evaluate_formed {rule : Rule} (hrule : ∀ t ∈ rule.terms, t ∈ T) :
    (e.evaluate rule.body .empty).EndsIn (Request.Over T) fun s =>
      s.EveryFor (Request.Over T)
        (ErrorOr fun solution => ∀ st ∈ rule.instances solution, st.Formed T) := by
  obtain ⟨hbody, hhead⟩ := List.forall_mem_append.mp hrule
  have hinstances (solution : Binding) (hsolution : solution.Over T) :
      ∀ st ∈ rule.instances solution, st.Formed T := by
    intro st hst
    obtain ⟨template, htemplate, hmade⟩ := List.mem_filterMap.mp hst
    exact template.formed_of_instantiate?
      (fun t ht => hhead t (List.mem_flatMap.mpr ⟨template, htemplate, ht⟩)) hsolution hmade
  refine Inquiry.endsIn_map (Inquiry.endsIn_mono (e.solutions_over hbody Binding.over_empty) ?_)
  intro s hs
  refine everyFor_untilError (everyFor_mono hs fun item hitem solution hok => ?_)
  exact hinstances solution (hitem solution hok)

end Evaluator

/-! ## Plans -/

/-- All rows are made of some terms, as long as the answers are. -/
def RowsOver (T : Set Term) (rows : Rows) : Prop :=
  rows.EveryFor (Request.Over T) (ErrorOr fun r => r.binding.Over T)

namespace Plan

/-- A row is joined with facts that the storage answers with. -/
theorem expand_over (p : Pattern) {r : Row} (hr : r.binding.Over T) :
    RowsOver T (expand p r) := by
  rw [expand]
  split
  · trivial
  · intro reply hreply
    cases reply with
    | error err => exact ⟨errorOr_error err, trivial⟩
    | ok facts =>
      refine everyFor_flatMapOk (everyFor_delivered (errorOr_ok.mp hreply)) fun f hf => ?_
      refine everyFor_values fun row hrow => ?_
      obtain ⟨b, hbind, rfl⟩ := Option.map_eq_some_iff.mp (Option.mem_toList.mp hrow)
      exact Pattern.over_of_bind? hr hf hbind

/-- The steps of a body bring in no terms but its own. -/
theorem foldl_apply_over {q : Query} {steps : List Step} (h : q.flatten = .ok steps) {rows : Rows}
    (hrows : RowsOver T rows) : RowsOver T (steps.foldl apply rows) := by
  induction q generalizing steps rows with
  | pattern p =>
    obtain ⟨-, rfl⟩ := Query.flatten_pattern h
    exact everyFor_flatMapOk hrows fun _ hr => expand_over p hr
  | join left right ihl ihr =>
    obtain ⟨first, second, hl, hr, rfl⟩ := Query.flatten_join h
    rw [List.foldl_append]
    exact ihr hr (ihl hl hrows)
  | filter f child ih =>
    obtain ⟨below, hbelow, rfl⟩ := Query.flatten_filter h
    rw [List.foldl_append]
    exact everyFor_filter (ih hbelow hrows) _
  | slice offset limit child => cases h

/-- What a plan puts out is well formed and made of these terms. -/
theorem outputs_formed {rule : Rule} (hrule : ∀ t ∈ rule.terms, t ∈ T) {level : Nat}
    {time : Timestamp} {watermark : Option Timestamp} {plan : Plan}
    (h : rule.compile level time watermark = .ok plan) :
    plan.outputs.EveryFor (Request.Over T) (ErrorOr fun d => d.statement.Formed T) := by
  obtain ⟨steps, hsteps, rfl⟩ := Rule.compile_eq_ok h
  obtain ⟨-, hhead⟩ := List.forall_mem_append.mp hrule
  have hfirst : RowsOver T (single (.ok {})) := ⟨errorOr_ok.mpr Binding.over_empty, trivial⟩
  have hrows := foldl_apply_over hsteps hfirst
  rw [← foldl_apply_seedFirst] at hrows
  refine everyFor_flatMapOk (everyFor_filter hrows _) fun r hr => ?_
  refine everyFor_ofList fun item hitem => ?_
  obtain ⟨st, hst, rfl⟩ := List.mem_map.mp hitem
  obtain ⟨template, htemplate, hmade⟩ := List.mem_filterMap.mp hst
  exact errorOr_ok.mpr (template.formed_of_instantiate?
    (fun t ht => hhead t (List.mem_flatMap.mpr ⟨template, htemplate, ht⟩)) hr hmade)

end Plan

end RdfReasoner
