import RdfReasoner.Filter

/-!
# The logic of filters

A filter answers yes, no, or not at all, and only a yes lets a binding pass.  The laws of Boolean
logic that ask for no third value carry over: double negation, the laws of De Morgan, commutativity
and associativity.  As they hold of the answers and not only of what passes, they hold wherever a
filter stands in another one (`Filter.eval_fill`).

What is missing is the excluded middle.  In its place there is monotonicity (`Filter.eval_mono`): an
answer, yes or no, is never taken back when more variables are bound.  An absent answer may become
any, and every connective respects this.  Only the question whether a variable is bound does not.
-/

namespace RdfReasoner

namespace Filter

/-! ## Three values -/

/-- An answer is kept; where there was none there may be any. -/
def Persists (before after : Option Bool) : Prop := ∀ v, before = some v → after = some v

theorem persists_none (after : Option Bool) : Persists none after := nofun

theorem persists_refl (x : Option Bool) : Persists x x := fun _ h => h

theorem and3_comm (x y : Option Bool) : and3 x y = and3 y x := by
  rcases x with _ | _ | _ <;> rcases y with _ | _ | _ <;> rfl

theorem and3_assoc (x y z : Option Bool) : and3 (and3 x y) z = and3 x (and3 y z) := by
  rcases x with _ | _ | _ <;> rcases y with _ | _ | _ <;> rcases z with _ | _ | _ <;> rfl

/-- A conjunction is the negation of the disjunction of the negated parts. -/
theorem map_not_or3 (x y : Option Bool) :
    (or3 x y).map Bool.not = and3 (x.map Bool.not) (y.map Bool.not) := by
  rcases x with _ | _ | _ <;> rcases y with _ | _ | _ <;> rfl

theorem map_not_map_not (x : Option Bool) : (x.map Bool.not).map Bool.not = x := by
  rcases x with _ | _ | _ <;> rfl

/-- Negation loses nothing. -/
theorem map_not_inj {x y : Option Bool} (h : x.map Bool.not = y.map Bool.not) : x = y := by
  rw [← map_not_map_not x, h, map_not_map_not]

theorem map_not_and3 (x y : Option Bool) :
    (and3 x y).map Bool.not = or3 (x.map Bool.not) (y.map Bool.not) := by
  apply map_not_inj
  rw [map_not_or3, map_not_map_not, map_not_map_not, map_not_map_not]

theorem or3_comm (x y : Option Bool) : or3 x y = or3 y x := by
  apply map_not_inj
  rw [map_not_or3, map_not_or3, and3_comm]

theorem or3_assoc (x y z : Option Bool) : or3 (or3 x y) z = or3 x (or3 y z) := by
  apply map_not_inj
  simp only [map_not_or3, and3_assoc]

/-! ### Answers that persist -/

section persists

variable {x x' y y' : Option Bool}

theorem Persists.not (h : Persists x x') : Persists (x.map Bool.not) (x'.map Bool.not) := by
  intro v hv
  obtain ⟨w, hw, rfl⟩ := Option.map_eq_some_iff.mp hv
  rw [h w hw, Option.map_some]

/-- Where a part has an answer it stays; a part without one leaves the conjunction open, or a false
part decides it for good. -/
theorem Persists.and3 (hx : Persists x x') (hy : Persists y y') :
    Persists (and3 x y) (and3 x' y') := by
  rcases x with _ | v
  · rcases y with _ | _ | _
    · exact persists_none _
    · rw [hy false rfl, and3_comm x']
      exact persists_refl _
    · exact persists_none _
  · rw [hx v rfl]
    rcases y with _ | w
    · rcases v with _ | _
      · exact persists_refl _
      · exact persists_none _
    · rw [hy w rfl]
      exact persists_refl _

theorem Persists.or3 (hx : Persists x x') (hy : Persists y y') :
    Persists (or3 x y) (or3 x' y') := by
  have hnot := (hx.not.and3 hy.not).not
  rwa [← map_not_or3, ← map_not_or3, map_not_map_not, map_not_map_not] at hnot

end persists

/-! ## Filters within filters -/

/-- A filter with a place left open in it. -/
inductive Nesting
  | here
  | andLeft (inner : Nesting) (right : Filter)
  | andRight (left : Filter) (inner : Nesting)
  | orLeft (inner : Nesting) (right : Filter)
  | orRight (left : Filter) (inner : Nesting)
  | not (inner : Nesting)

/-- Puts a filter in the open place. -/
def Nesting.fill (f : Filter) : Nesting → Filter
  | here => f
  | andLeft inner right => .and (inner.fill f) right
  | andRight left inner => .and left (inner.fill f)
  | orLeft inner right => .or (inner.fill f) right
  | orRight left inner => .or left (inner.fill f)
  | not inner => .not (inner.fill f)

/-- Filters with the same answer may stand for each other anywhere. -/
theorem eval_fill {f g : Filter} {b : Binding} (h : f.eval b = g.eval b) (n : Nesting) :
    (n.fill f).eval b = (n.fill g).eval b := by
  induction n with
  | here => exact h
  | andLeft inner right ih => exact congrArg (Filter.and3 · (right.eval b)) ih
  | andRight left inner ih => exact congrArg (Filter.and3 (left.eval b)) ih
  | orLeft inner right ih => exact congrArg (Filter.or3 · (right.eval b)) ih
  | orRight left inner ih => exact congrArg (Filter.or3 (left.eval b)) ih
  | not inner ih => exact congrArg (Option.map Bool.not) ih

theorem accepts_fill {f g : Filter} {b : Binding} (h : f.eval b = g.eval b) (n : Nesting) :
    (n.fill f).accepts b = (n.fill g).accepts b :=
  congrArg (· == some true) (eval_fill h n)

/-! ## More variables -/

/-- Whether some test asks if a variable is bound. -/
def testsBound : Filter → Bool
  | bound _ => true
  | and a b | or a b => a.testsBound || b.testsBound
  | not a => a.testsBound
  | _ => false

section extension

variable {b b' : Binding} (hext : ∀ v t, b.get? v = some t → b'.get? v = some t)
include hext

/-- A slot with a term keeps it. -/
theorem resolve_mono {a : Slot} {t : Term} (h : a.resolve b = some t) : a.resolve b' = some t := by
  cases a with
  | var name => exact hext name t h
  | const term => exact h

/-- What is asked of the term of a slot keeps its answer if the test does. -/
theorem bind_resolve_mono (a : Slot) {test test' : Term → Option Bool}
    (htest : ∀ t, Persists (test t) (test' t)) :
    Persists ((a.resolve b).bind test) ((a.resolve b').bind test') := by
  intro v hv
  obtain ⟨t, ht, hv⟩ := Option.bind_eq_some_iff.mp hv
  rw [resolve_mono hext ht]
  exact htest t v hv

theorem map_resolve_mono (a : Slot) (test : Term → Bool) :
    Persists ((a.resolve b).map test) ((a.resolve b').map test) := by
  rw [Option.map_eq_bind, Option.map_eq_bind]
  exact bind_resolve_mono hext a fun t => persists_refl _

/-- Without a test that asks if a variable is bound, answers persist. -/
theorem eval_mono {f : Filter} (hf : f.testsBound = false) : Persists (f.eval b) (f.eval b') := by
  -- Only `bound` gives an answer for an unbound variable, and it is excluded.
  induction f with
  | equal a c | notEqual a c =>
    exact bind_resolve_mono hext a fun t => bind_resolve_mono hext c fun u => persists_refl _
  | bound name => cases hf
  | isIri a => exact map_resolve_mono hext a Term.isIri
  | isLiteral a => exact map_resolve_mono hext a Term.isLiteral
  | regex a pattern => exact bind_resolve_mono hext a fun t => persists_refl _
  | and a c iha ihc =>
    obtain ⟨ha, hc⟩ := Bool.or_eq_false_iff.mp hf
    exact (iha ha).and3 (ihc hc)
  | or a c iha ihc =>
    obtain ⟨ha, hc⟩ := Bool.or_eq_false_iff.mp hf
    exact (iha ha).or3 (ihc hc)
  | not a ih => exact (ih hf).not

end extension

/-! ## Laws -/

/-- **The logic of filters is three-valued and monotone.**  No binding passes a filter and its
negation.  Wherever a filter stands within another one, a double negation may be left out, the
negation of a conjunction or of a disjunction may be drawn into its parts, and conjunctions and
disjunctions may be reordered and regrouped: the same bindings pass.  If the filter does not test
whether a variable is bound, then a binding that passes it, or passes its negation, still does when
it is extended so that it binds more variables. -/
theorem accepts_laws (n : Nesting) (e e₁ e₂ e₃ : Filter) (b : Binding) :
    ¬ (e.accepts b = true ∧ e.not.accepts b = true) ∧
      (n.fill e.not.not).accepts b = (n.fill e).accepts b ∧
      (n.fill (e₁.and e₂).not).accepts b = (n.fill (e₁.not.or e₂.not)).accepts b ∧
      (n.fill (e₁.or e₂).not).accepts b = (n.fill (e₁.not.and e₂.not)).accepts b ∧
      (n.fill (e₁.and e₂)).accepts b = (n.fill (e₂.and e₁)).accepts b ∧
      (n.fill (e₁.or e₂)).accepts b = (n.fill (e₂.or e₁)).accepts b ∧
      (n.fill ((e₁.and e₂).and e₃)).accepts b = (n.fill (e₁.and (e₂.and e₃))).accepts b ∧
      (n.fill ((e₁.or e₂).or e₃)).accepts b = (n.fill (e₁.or (e₂.or e₃))).accepts b ∧
      ∀ b' : Binding, e.testsBound = false →
        (∀ v t, b.get? v = some t → b'.get? v = some t) →
          (e.accepts b = true → e.accepts b' = true) ∧
            (e.not.accepts b = true → e.not.accepts b' = true) := by
  have hdouble : e.not.not.eval b = e.eval b := map_not_map_not (e.eval b)
  have hnotAnd : (e₁.and e₂).not.eval b = (e₁.not.or e₂.not).eval b := map_not_and3 _ _
  have hnotOr : (e₁.or e₂).not.eval b = (e₁.not.and e₂.not).eval b := map_not_or3 _ _
  have handComm : (e₁.and e₂).eval b = (e₂.and e₁).eval b := and3_comm _ _
  have horComm : (e₁.or e₂).eval b = (e₂.or e₁).eval b := or3_comm _ _
  have handAssoc : ((e₁.and e₂).and e₃).eval b = (e₁.and (e₂.and e₃)).eval b := and3_assoc _ _ _
  have horAssoc : ((e₁.or e₂).or e₃).eval b = (e₁.or (e₂.or e₃)).eval b := or3_assoc _ _ _
  refine ⟨?_, accepts_fill hdouble n, accepts_fill hnotAnd n, accepts_fill hnotOr n,
    accepts_fill handComm n, accepts_fill horComm n, accepts_fill handAssoc n,
    accepts_fill horAssoc n, ?_⟩
  · rintro ⟨hyes, hno⟩
    rw [accepts, beq_iff_eq] at hyes hno
    rw [eval, hyes] at hno
    cases hno
  · intro b' he hext
    have hkeeps {f : Filter} (hf : f.testsBound = false) (hb : f.accepts b = true) :
        f.accepts b' = true := by
      rw [accepts, beq_iff_eq] at hb ⊢
      exact eval_mono hext hf true hb
    exact ⟨hkeeps he, hkeeps (f := e.not) he⟩

end Filter

namespace Ferry

/-- A passage that does not end where it starts, or stops at a place that has a name. -/
def passage : Filter :=
  .or (.notEqual (.var "from") (.var "to")) (.not (.not (.isIri (.var "via"))))

/-- From the north to the isle, explicitly without a stop. -/
def nonstop : Binding :=
  ((Binding.empty.set "from" (.iri "north")).set "to" (.iri "isle")).setNull "via"

/-- A stop that is known later changes nothing, even if its name was asked for. -/
theorem accepts_later_stop :
    passage.testsBound = false ∧
      (∀ v t, nonstop.get? v = some t → (nonstop.set "via" (.blank "buoy")).get? v = some t) ∧
      passage.accepts nonstop = true ∧
      passage.accepts (nonstop.set "via" (.blank "buoy")) = true := by
  have hext : ∀ v t, nonstop.get? v = some t →
      (nonstop.set "via" (.blank "buoy")).get? v = some t := by
    intro v t ht
    have hv : v ≠ "via" := by
      rintro rfl
      have hnone : nonstop.get? "via" = none := by decide +kernel
      rw [hnone] at ht
      cases ht
    rw [Binding.get?, Binding.set, Binding.held?_put, if_neg hv]
    exact ht
  have haccepts : passage.accepts nonstop = true := by decide +kernel
  obtain ⟨-, -, -, -, -, -, -, -, hkeeps⟩ :=
    Filter.accepts_laws .here passage passage passage passage nonstop
  exact ⟨rfl, hext, haccepts, (hkeeps _ rfl hext).1 haccepts⟩

/-- Who asks whether there is a stop gets another answer. -/
example :
    (Filter.not (.bound "via")).accepts nonstop = true ∧
      (Filter.not (.bound "via")).accepts (nonstop.set "via" (.blank "buoy")) = false := by
  decide +kernel

end Ferry

end RdfReasoner
