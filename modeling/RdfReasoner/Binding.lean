import RdfReasoner.Fields
import RdfReasoner.Term

/-!
# Bindings

A binding says what is known of some variables: a term, or explicitly that there is no value.  Its
entries are kept in the order of the variables' names, one for each variable, so two bindings with
the same knowledge are equal (`Binding.ext_held?`).

A variable that holds "no value" conflicts with every term (`Binding.bind`), which is why queries
start from a binding without such entries (`Binding.sanitized`).
-/

namespace RdfReasoner

/-- Two pieces of knowledge disagree on a variable. -/
structure Conflict where
  name : String
deriving DecidableEq

/-- The wording of a conflict. -/
def Conflict.message (c : Conflict) : String :=
  "variable ?" ++ c.name ++ " is already bound to a different value"

/-- Puts an entry into a list sorted by name, in place of one of the same name. -/
def putSorted {α : Type} (name : String) (value : α) : List (String × α) → List (String × α)
  | [] => [(name, value)]
  | (n, v) :: rest =>
    if name < n then (name, value) :: (n, v) :: rest
    else if name = n then (name, value) :: rest
    else (n, v) :: putSorted name value rest

section putSorted

variable {α : Type} {name m : String} {value : α} {l : List (String × α)}

theorem mem_putSorted {e : String × α} (h : e ∈ putSorted name value l) :
    e = (name, value) ∨ e ∈ l := by
  fun_induction putSorted name value l <;> grind

theorem pairwise_putSorted (h : l.Pairwise (·.1 < ·.1)) :
    (putSorted name value l).Pairwise (·.1 < ·.1) := by
  fun_induction putSorted name value l with
  | case1 => simp
  | case2 n v rest hlt => grind [List.pairwise_cons]
  | case3 v rest _ => grind [List.pairwise_cons]
  | case4 n v rest hlt hne ih =>
    have hn : n < name := by grind
    rw [List.pairwise_cons] at h ⊢
    refine ⟨fun e he => ?_, ih h.2⟩
    rcases mem_putSorted he with rfl | he
    · exact hn
    · exact h.1 e he

theorem lookup_putSorted :
    (putSorted name value l).lookup m = if m = name then some value else l.lookup m := by
  fun_induction putSorted name value l with
  | case1 => exact Fields.lookup_cons name m value []
  | case2 n v rest hlt => grind
  | case3 v rest _ => grind
  | case4 n v rest hlt hne ih => grind

theorem lookup_cons_of_ne {n : String} (h : m ≠ n) (v : α) :
    ((n, v) :: l).lookup m = l.lookup m := by
  rw [Fields.lookup_cons, if_neg h]

/-- A name before all names of a list is not in it. -/
theorem lookup_eq_none_of_lt (h : ∀ e ∈ l, m < e.1) : l.lookup m = none := by
  induction l with
  | nil => rfl
  | cons e l ih =>
    have hne : m ≠ e.1 := by have := h e (by simp); grind
    rw [lookup_cons_of_ne hne, ih fun y hy => h y (by simp [hy])]

/-- A list sorted by name holds the values of its entries. -/
theorem lookup_eq_some_iff_mem (h : l.Pairwise (·.1 < ·.1)) :
    l.lookup name = some value ↔ (name, value) ∈ l := by
  rw [List.lookup_eq_some_iff]
  constructor
  · rintro ⟨before, after, rfl, -⟩
    exact List.mem_append_right before List.mem_cons_self
  · intro hmem
    obtain ⟨before, after, rfl⟩ := List.append_of_mem hmem
    refine ⟨before, after, rfl, fun e he => bne_iff_ne.mpr ?_⟩
    have hlt : e.1 < name :=
      (List.pairwise_append.mp h).2.2 e he (name, value) List.mem_cons_self
    rintro rfl
    exact String.lt_irrefl e.1 hlt

/-- A list sorted by name is determined by what it holds under each name. -/
theorem eq_of_lookup_eq {as bs : List (String × α)} (ha : as.Pairwise (·.1 < ·.1))
    (hb : bs.Pairwise (·.1 < ·.1)) (h : ∀ n, as.lookup n = bs.lookup n) : as = bs := by
  induction as generalizing bs with
  | nil =>
    obtain _ | ⟨⟨k, w⟩, bs⟩ := bs
    · rfl
    · have := (h k).trans List.lookup_cons_self
      simp at this
  | cons d as ih =>
    obtain ⟨n, v⟩ := d
    obtain _ | ⟨⟨k, w⟩, bs⟩ := bs
    · have := (h n).symm.trans List.lookup_cons_self
      simp at this
    · rw [List.pairwise_cons] at ha hb
      have hnk : n = k := by
        rcases Std.lt_trichotomy n k with hlt | heq | hlt
        · have := h n
          rw [List.lookup_cons_self, lookup_eq_none_of_lt (by grind)] at this
          simp at this
        · exact heq
        · have := h k
          rw [List.lookup_cons_self, lookup_eq_none_of_lt (by grind)] at this
          simp at this
      subst hnk
      have hval := h n
      rw [List.lookup_cons_self, List.lookup_cons_self, Option.some.injEq] at hval
      subst hval
      congr
      refine ih ha.2 hb.2 fun x => ?_
      by_cases hx : x = n
      · subst hx; rw [lookup_eq_none_of_lt ha.1, lookup_eq_none_of_lt hb.1]
      · simpa [lookup_cons_of_ne hx] using h x

end putSorted

/-- What is known of some variables. -/
structure Binding where
  /-- The variables and what they hold; `none` is "no value". -/
  entries : List (String × Option Term) := []
  sorted : entries.Pairwise (·.1 < ·.1) := by simp
deriving DecidableEq

namespace Binding

/-- The binding that knows nothing. -/
def empty : Binding := {}

/-- What a variable holds, where the inner `none` is "no value". -/
def held? (b : Binding) (name : String) : Option (Option Term) := b.entries.lookup name

/-- The term that a variable holds. -/
def get? (b : Binding) (name : String) : Option Term := (b.held? name).join

/-- Whether a variable holds a term. -/
def isBound (b : Binding) (name : String) : Bool := (b.get? name).isSome

/-- Whether a variable holds a term or "no value". -/
def contains (b : Binding) (name : String) : Bool := (b.held? name).isSome

/-- The number of entries. -/
def size (b : Binding) : Nat := b.entries.length

/-- Whether there are no entries. -/
def isEmpty (b : Binding) : Bool := b.entries.isEmpty

/-- Sets what a variable holds, whatever it held before. -/
def put (b : Binding) (name : String) (value : Option Term) : Binding :=
  ⟨putSorted name value b.entries, pairwise_putSorted b.sorted⟩

/-- Lets a variable hold a term, whatever it held before. -/
def set (b : Binding) (name : String) (term : Term) : Binding := b.put name (some term)

/-- Lets a variable hold "no value", whatever it held before. -/
def setNull (b : Binding) (name : String) : Binding := b.put name none

/-- The binding of a list of variables and terms, of which the last one counts. -/
def ofList (pairs : List (String × Term)) : Binding :=
  pairs.foldl (fun b p => b.set p.1 p.2) empty

/-- Adds one piece of knowledge, which must not disagree with what is known. -/
def add (b : Binding) (name : String) (value : Option Term) : Except Conflict Binding :=
  match b.held? name with
  | none => .ok (b.put name value)
  | some held => if held = value then .ok b else .error ⟨name⟩

/-- Lets a variable hold a term unless it holds anything else. -/
def bind (b : Binding) (name : String) (term : Term) : Except Conflict Binding :=
  b.add name (some term)

/-- What either binding knows, provided that they agree on every variable of both. -/
def merge (a b : Binding) : Except Conflict Binding :=
  b.entries.foldlM (fun acc e => acc.add e.1 e.2) a

/-- The binding without the variables that hold "no value". -/
def sanitized (b : Binding) : Binding :=
  ⟨b.entries.filter (·.2.isSome), b.sorted.filter _⟩

/-- The text form: the entries in the order of the variables. -/
def render (b : Binding) : String :=
  "\x7b" ++ ", ".intercalate (b.entries.map fun e =>
    "?" ++ e.1 ++ "=" ++ ((e.2.map Term.render).getD "UNDEF")) ++ "\x7d"

/-! ## Entries of the results -/

@[simp] theorem held?_empty (v : String) : empty.held? v = none := rfl

@[simp] theorem held?_put (b : Binding) (v w : String) (t : Option Term) :
    (b.put v t).held? w = if w = v then some t else b.held? w :=
  lookup_putSorted

/-- Bindings with the same entries are equal. -/
theorem ext_held? {a b : Binding} (h : ∀ v, a.held? v = b.held? v) : a = b := by
  obtain ⟨as, ha⟩ := a
  obtain ⟨bs, hb⟩ := b
  simp only [held?] at h
  congr
  exact eq_of_lookup_eq ha hb h

end Binding

end RdfReasoner
