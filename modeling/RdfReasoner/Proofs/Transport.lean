import RdfReasoner.Proofs.Document
import RdfReasoner.Proofs.JsonText

/-!
# Documents in transit

On its way between the storage and whoever ran a plan, a document is JSON, and JSON does not keep
the order of fields: `Json.Reordered` relates two values if only the order of fields differs,
however deep they are.  What is read of a document does not depend on it (`Document.ofJson?_congr`).
So every document arrives as it was sent, also as a text, and no JSON stands for two documents
(`Document.arrives`).
-/

namespace RdfReasoner

/-! ## The order of fields -/

/-- What is held under a name does not depend on the order of fields with different names. -/
theorem Fields.lookup_perm {α : Type} {fields fields' : List (String × α)}
    (h : fields.Perm fields') (hnames : (fields.map (·.1)).Nodup) (name : String) :
    fields.lookup name = fields'.lookup name := by
  induction h with
  | nil => rfl
  | cons field h ih =>
    obtain ⟨n, v⟩ := field
    rw [lookup_cons, lookup_cons, ih (List.nodup_cons.mp hnames).2]
  | swap field field' rest =>
    obtain ⟨n, v⟩ := field
    obtain ⟨n', v'⟩ := field'
    have hne : n' ≠ n := fun heq => (List.nodup_cons.mp hnames).1 (heq ▸ List.mem_cons_self)
    simp only [lookup_cons]
    by_cases hn : name = n
    · rw [if_neg fun hn' => hne (hn'.symm.trans hn), if_pos hn, if_pos hn]
    · rw [if_neg hn, if_neg hn]
  | trans h _ ih ih' => rw [ih hnames, ih' ((h.map _).nodup_iff.mp hnames)]

namespace Json

/-- Two values that differ in the order of fields only, in objects at any depth. -/
inductive Reordered : Json → Json → Prop
  | refl (j : Json) : Reordered j j
  | perm {fields fields' : List (String × Json)} (h : fields.Perm fields')
    (hnames : (fields.map (·.1)).Nodup) : Reordered (.obj fields) (.obj fields')
  | field (front rest : List (String × Json)) (name : String) {v v' : Json} (h : Reordered v v') :
    Reordered (.obj (front ++ (name, v) :: rest)) (.obj (front ++ (name, v') :: rest))
  | trans {j j' j'' : Json} (h : Reordered j j') (h' : Reordered j' j'') : Reordered j j''

namespace Reordered

variable {j j' : Json}

/-- Only objects have fields to be put into another order. -/
theorem eq_or_obj (h : Reordered j j') :
    j = j' ∨ ∃ fields fields', j = .obj fields ∧ j' = .obj fields' := by
  induction h with
  | refl => exact .inl rfl
  | perm => exact .inr ⟨_, _, rfl, rfl⟩
  | field => exact .inr ⟨_, _, rfl, rfl⟩
  | trans _ _ ih ih' =>
    rcases ih with rfl | ⟨_, _, rfl, rfl⟩
    · exact ih'
    · rcases ih' with rfl | ⟨_, _, -, rfl⟩
      · exact .inr ⟨_, _, rfl, rfl⟩
      · exact .inr ⟨_, _, rfl, rfl⟩

/-- The same fields are there, with the same values up to the order of fields. -/
theorem field? (h : Reordered j j') (name : String) :
    Option.Rel Reordered (j.field? name) (j'.field? name) := by
  have hrefl (v : Option Json) : Option.Rel Reordered v v := by
    cases v with
    | none => exact .none
    | some v => exact .some (.refl v)
  induction h with
  | refl j => exact hrefl _
  | perm h hnames =>
    rw [Json.field?, Json.field?, Fields.lookup_perm h hnames]
    exact hrefl _
  | field front rest n h _ =>
    rw [Json.field?, Json.field?, List.lookup_append, List.lookup_append]
    cases front.lookup name with
    | some v => exact hrefl _
    | none =>
      rw [Option.none_or, Option.none_or, Fields.lookup_cons, Fields.lookup_cons]
      split
      · exact .some h
      · exact hrefl _
  | @trans j j' j'' _ _ ih ih' =>
    generalize j.field? name = v, j'.field? name = v', j''.field? name = v'' at ih ih'
    cases ih with
    | none => exact ih'
    | some h =>
      cases ih' with
      | some h' => exact .some (h.trans h')

theorem str?_eq (h : Reordered j j') : j.str? = j'.str? := by
  rcases h.eq_or_obj with rfl | ⟨_, _, rfl, rfl⟩
  · rfl
  · rfl

end Reordered

end Json

/-! ## Reading in any order -/

section congr

open Json (Reordered)

variable {j j' : Json}

/-- What is made of two fields is the same if it is for the values that they may hold. -/
theorem bind_eq_of_rel {α β γ : Type} {R : α → β → Prop} {x : Option α} {y : Option β}
    {f : α → Option γ} {g : β → Option γ} (h : Option.Rel R x y)
    (hfg : ∀ a b, R a b → f a = g b) : x.bind f = y.bind g := by
  cases h with
  | none => rfl
  | some h => exact hfg _ _ h

namespace Term

theorem optionalField?_congr (h : Reordered j j') (name : String) :
    optionalField? j name = optionalField? j' name := by
  have hfield := h.field? name
  rw [optionalField?, optionalField?, Json.optional?, Json.optional?]
  generalize j.field? name = x, j'.field? name = y at hfield
  cases hfield with
  | none => rfl
  | some h =>
    rcases h.eq_or_obj with rfl | ⟨_, _, rfl, rfl⟩
    · rfl
    · rfl

/-- Nothing but an object with a single field is a term. -/
theorem ofJson?_obj_eq_none {fields : List (String × Json)} (h : fields.length ≠ 1) :
    ofJson? (.obj fields) = none := by
  rw [ofJson?]
  rintro kind content heq
  obtain rfl := Json.obj.inj heq
  exact h rfl

/-- The content of a term may be reordered. -/
theorem ofJson?_single_congr (h : Reordered j j') (kind : String) :
    ofJson? (.obj [(kind, j)]) = ofJson? (.obj [(kind, j')]) := by
  rcases h.eq_or_obj with rfl | ⟨fields, fields', rfl, rfl⟩
  · rfl
  · by_cases hkind : kind = "Literal"
    · subst hkind
      refine bind_eq_of_rel (h.field? "lexical") fun v v' hv => ?_
      rw [hv.str?_eq, optionalField?_congr h, optionalField?_congr h]
    · have hnone (fields : List (String × Json)) : ofJson? (.obj [(kind, .obj fields)]) = none := by
        simp [ofJson?, hkind]
      rw [hnone, hnone]

/-- How a term is read does not depend on the order of fields. -/
theorem ofJson?_congr (h : Reordered j j') : ofJson? j = ofJson? j' := by
  induction h with
  | refl => rfl
  | @perm fields fields' h hnames =>
    -- A single field has no other order, and several of them are no term in any order.
    by_cases hone : fields.length = 1
    · obtain ⟨field, rfl⟩ := List.length_eq_one_iff.mp hone
      rw [List.singleton_perm.mp h]
    · rw [ofJson?_obj_eq_none hone, ofJson?_obj_eq_none (h.length_eq ▸ hone)]
  | @field front rest name v v' h _ =>
    -- With other fields beside it there is no term, whatever this one holds.
    by_cases hone : front = [] ∧ rest = []
    · obtain ⟨rfl, rfl⟩ := hone
      exact ofJson?_single_congr h name
    · have hlength (v : Json) : (front ++ (name, v) :: rest).length ≠ 1 := by
        simp only [List.length_append, List.length_cons, ← List.length_eq_zero_iff] at hone ⊢
        omega
      rw [ofJson?_obj_eq_none (hlength v), ofJson?_obj_eq_none (hlength v')]
  | trans _ _ ih ih' => exact ih.trans ih'

end Term

namespace Document

theorem context?_congr (h : Reordered j j') : context? j = context? j' := by
  rcases h.eq_or_obj with rfl | ⟨_, _, rfl, rfl⟩
  · rfl
  · show (Term.ofJson? _).map some = (Term.ofJson? _).map some
    rw [Term.ofJson?_congr h]

theorem level?_congr (h : Reordered j j') : level? j = level? j' := by
  rcases h.eq_or_obj with rfl | ⟨_, _, rfl, rfl⟩
  · rfl
  · rfl

theorem timestamp?_congr (h : Reordered j j') : timestamp? j = timestamp? j' := by
  rcases h.eq_or_obj with rfl | ⟨_, _, rfl, rfl⟩
  · rfl
  · rfl

/-- A context that is missing is `null`, in any order of fields. -/
theorem context?_getD_congr {x y : Option Json} (h : Option.Rel Reordered x y) :
    context? (x.getD .null) = context? (y.getD .null) := by
  cases h with
  | none => rfl
  | some h => exact context?_congr h

/-- How a document is read does not depend on the order of fields. -/
theorem ofJson?_congr (h : Reordered j j') : ofJson? j = ofJson? j' := by
  rcases h.eq_or_obj with rfl | ⟨fields, fields', rfl, rfl⟩
  · rfl
  · refine bind_eq_of_rel (h.field? "subject") fun s s' hs => ?_
    refine bind_eq_of_rel (h.field? "predicate") fun p p' hp => ?_
    refine bind_eq_of_rel (h.field? "object") fun o o' ho => ?_
    refine bind_eq_of_rel (h.field? "derivation_level") fun l l' hl => ?_
    refine bind_eq_of_rel (h.field? "timestamp") fun t t' ht => ?_
    rw [ofParts?, ofParts?, Term.ofJson?_congr hs, Term.ofJson?_congr hp, Term.ofJson?_congr ho,
      context?_getD_congr (h.field? "context"), level?_congr hl, timestamp?_congr ht]

end Document

end congr

/-! ## Texts of documents -/

/-- Every term can be written. -/
theorem Term.exists_text (t : Term) (depth : Nat) :
    ∃ cs, Json.ValueText (depth + 2) t.toJson cs := by
  have hoptional (s : Option String) : ∃ cs, Json.ValueText depth (optionalText s) cs := by
    cases s with
    | none => exact ⟨_, .null depth⟩
    | some s => exact Json.exists_str s depth
  cases t with
  | iri text =>
    refine Json.exists_obj (by simp) fun field hfield => ?_
    rw [List.mem_singleton.mp hfield]
    exact Json.exists_str text _
  | blank label =>
    refine Json.exists_obj (by simp) fun field hfield => ?_
    rw [List.mem_singleton.mp hfield]
    exact Json.exists_str label _
  | literal lexical datatype language =>
    refine Json.exists_obj (by simp) fun field hfield => ?_
    rw [List.mem_singleton.mp hfield]
    refine Json.exists_obj (by simp) fun field hfield => ?_
    simp only [List.mem_cons, List.not_mem_nil, or_false] at hfield
    rcases hfield with rfl | rfl | rfl
    · exact Json.exists_str lexical depth
    · exact hoptional datatype
    · exact hoptional language

namespace Document

/-- Every document that can carry its level can be written. -/
theorem exists_text {d : Document} (hlevel : d.level ≤ maxLevel) :
    ∃ text, Json.Spells d.toJson text := by
  obtain ⟨⟨s, p, o, c⟩, level, time⟩ := d
  have hterm (t : Term) : ∃ cs, Json.ValueText 126 t.toJson cs := t.exists_text 124
  have hlevelWord : Json.isWord level = true := by
    have hmax : (level : Int) ≤ 0xffffffff := Int.ofNat_le.mpr hlevel
    exact Json.isWord_iff.mpr (by omega)
  have htimeWord : Json.isWord time.millis = true := by
    have hfits := time.fits
    exact Json.isWord_iff.mpr (by omega)
  have hobj : ∃ cs, Json.ValueText (126 + 1) (toJson ⟨⟨s, p, o, c⟩, level, time⟩) cs := by
    refine Json.exists_obj (by cases c <;> simp) ?_
    simp only [List.forall_mem_append, List.forall_mem_map, List.forall_mem_cons]
    exact ⟨⟨⟨hterm s, hterm p, hterm o, List.forall_mem_nil _⟩, fun c _ => hterm c⟩,
      Json.exists_int hlevelWord _, Json.exists_int htimeWord _, List.forall_mem_nil _⟩
  obtain ⟨cs, h⟩ := hobj
  refine ⟨String.ofList cs, ?_⟩
  rw [Json.Spells, String.toList_ofList]
  exact h.padded

/-- A document arrives as it was sent.  There is a text for its JSON form; whatever the order of
its fields is, every text is read as what it spells, from which the statement is made again, with
its level, its timestamp and the access label of whoever reads it; and what another document stands
for is something else. -/
theorem arrives (t : Statement) {level : Nat} (hlevel : level ≤ maxLevel) (time : Timestamp) :
    let d : Document := ⟨t, level, time⟩
    (∃ text, Json.Spells d.toJson text) ∧
      ∀ j, Json.Reordered d.toJson j →
        (∀ text, Json.Spells j text → Json.parse? text = some j) ∧
        (∀ visibility, (ofJson j).map (·.toFact visibility) = .ok ⟨t, ⟨level, time, visibility⟩⟩) ∧
        ∀ d' : Document, d'.level ≤ maxLevel → Json.Reordered d'.toJson j → d' = d := by
  intro d
  refine ⟨exists_text hlevel, fun j hj => ?_⟩
  have hread {d' : Document} (hlevel : d'.level ≤ maxLevel)
      (hj : Json.Reordered d'.toJson j) : ofJson? j = some d' := by
    rw [← ofJson?_congr hj, ofJson?_toJson, if_pos hlevel]
  have hd : ofJson? j = some d := hread hlevel hj
  refine ⟨fun text htext => Json.parse?_of_spells htext, fun visibility => ?_, ?_⟩
  · rw [ofJson, hd]
    rfl
  · intro d' hlevel' hj'
    exact Option.some.inj ((hread hlevel' hj').symm.trans hd)

end Document

namespace Bottle

/-- A message with empty names, and with signs that no text may hold as they are. -/
def message : Statement :=
  ⟨.blank "", .iri "", .literal "\x00\n\"\\" (some "") (some "\x1f"), some (.iri "sea")⟩

/-- It arrives under the largest level and the least timestamp. -/
theorem arrives_message :
    Document.maxLevel ≤ Document.maxLevel ∧
      (∃ text, Json.Spells (Document.toJson ⟨message, Document.maxLevel, .min⟩) text) ∧
      (Document.ofJson (Document.toJson ⟨message, Document.maxLevel, .min⟩)).map
          (·.toFact "crew") = .ok ⟨message, ⟨Document.maxLevel, .min, "crew"⟩⟩ := by
  obtain ⟨htext, hread⟩ := Document.arrives message (Nat.le_refl Document.maxLevel) .min
  obtain ⟨-, hfact, -⟩ := hread _ (.refl _)
  exact ⟨Nat.le_refl _, htext, hfact "crew"⟩

end Bottle

end RdfReasoner
