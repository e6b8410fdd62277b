import RdfReasoner.Plan

/-!
# What plans can express

Steps can express patterns over what is stored, joins, and filters that match nothing against a
regular expression.  `Query.parts` lists a tree from its root on, every operator before what is
below it.  The first operator on this list that no step can express is what compiling a rule names
(`Query.findSome?_parts`), so a rule is compiled exactly if there is none
(`Rule.expressible_iff`).
-/

namespace RdfReasoner

/-! ## Filters -/

namespace Filter

/-- The tests that a filter is made of, from left to right. -/
def tests : Filter → List Filter
  | and a b | or a b => a.tests ++ b.tests
  | not a => a.tests
  | test => [test]

/-- A filter contains a regular expression if one of its tests has one, however deep. -/
theorem containsRegex_iff {f : Filter} :
    f.containsRegex = true ↔ ∃ a pattern, regex a pattern ∈ f.tests := by
  induction f with
  | and a b iha ihb | or a b iha ihb =>
    simp only [containsRegex, tests, Bool.or_eq_true, List.mem_append, iha, ihb, exists_or]
  | not a ih => exact ih
  | regex a pattern => exact iff_of_true rfl ⟨a, pattern, List.mem_singleton_self _⟩
  | equal _ _ | notEqual _ _ | bound _ | isIri _ | isLiteral _ =>
    simp [containsRegex, tests]

end Filter

/-! ## Operators -/

namespace Query

/-- The parts of a tree: the whole of it, then the parts of its children from left to right. -/
def parts : Query → List Query
  | pattern p => [pattern p]
  | join left right => join left right :: (left.parts ++ right.parts)
  | filter f child => filter f child :: child.parts
  | slice offset limit child => slice offset limit child :: child.parts

/-- No step can express the operator at the root of a tree. -/
inductive Inexpressible : Query → Prop
  | slice (offset limit : Option Nat) (child : Query) : Inexpressible (.slice offset limit child)
  | fixed {p : Pattern} (candidates : List Statement) (h : p.kind = .fixed candidates) :
    Inexpressible (.pattern p)
  | transitive {p : Pattern} (h : p.kind = .transitive) : Inexpressible (.pattern p)
  | regex {f : Filter} {a : Slot} {pattern : Regex} (h : .regex a pattern ∈ f.tests)
    (child : Query) : Inexpressible (.filter f child)

/-- What keeps the operator at the root of a tree from being expressed. -/
def rootObstacle? : Query → Option Obstacle
  | pattern p =>
    match p.kind with
    | .ordinary => none
    | .fixed _ => some (.fixed p)
    | .transitive => some (.transitive p)
  | join .. => none
  | filter f _ => if f.containsRegex then some (.regex f) else none
  | slice .. => some .slice

theorem rootObstacle?_eq_none {q : Query} : q.rootObstacle? = none ↔ ¬ q.Inexpressible := by
  cases q with
  | pattern p =>
    rw [rootObstacle?]
    split
    · next h => exact iff_of_true rfl (by rintro (_ | ⟨_, h'⟩ | h') <;> simp [h] at h')
    · next candidates h => exact iff_of_false nofun (not_not_intro (.fixed candidates h))
    · next h => exact iff_of_false nofun (not_not_intro (.transitive h))
  | join left right => exact iff_of_true rfl nofun
  | filter f child =>
    rw [rootObstacle?]
    split
    · next h =>
      obtain ⟨a, pattern, h⟩ := Filter.containsRegex_iff.mp h
      exact iff_of_false nofun (not_not_intro (.regex h child))
    · next h =>
      refine iff_of_true rfl ?_
      rintro (_ | _ | _ | ⟨hregex, _⟩)
      exact h (Filter.containsRegex_iff.mpr ⟨_, _, hregex⟩)
  | slice offset limit child => exact iff_of_false nofun (not_not_intro (.slice offset limit child))

/-- Flattening a tree stops at the first operator that no step can express. -/
theorem findSome?_parts (q : Query) :
    q.parts.findSome? rootObstacle? =
      match q.flatten with
      | .ok _ => none
      | .error obstacle => some obstacle := by
  induction q with
  | pattern p =>
    rw [parts, flatten, List.findSome?_singleton, rootObstacle?]
    cases p.kind <;> rfl
  | join left right ihl ihr =>
    rw [parts, flatten, List.findSome?_cons_of_isNone rfl, List.findSome?_append, ihl, ihr]
    cases left.flatten with
    | error obstacle => rfl
    | ok first => cases right.flatten <;> rfl
  | filter f child ih =>
    rw [parts, flatten]
    cases hregex : f.containsRegex with
    | true => rw [List.findSome?_cons, rootObstacle?, hregex]; rfl
    | false =>
      rw [List.findSome?_cons, rootObstacle?, hregex]
      show child.parts.findSome? rootObstacle? = _
      rw [ih]
      cases child.flatten <;> rfl
  | slice offset limit child => rfl

end Query

/-! ## Rules -/

/-- Steps can express every operator in the body of a rule. -/
def Rule.Expressible (rule : Rule) : Prop := ∀ part ∈ rule.body.parts, ¬ part.Inexpressible

namespace Rule

variable {rule : Rule}

theorem expressible_iff : rule.Expressible ↔ ∃ steps, rule.body.flatten = .ok steps := by
  have hfirst := rule.body.findSome?_parts
  have hnone : rule.Expressible ↔ rule.body.parts.findSome? Query.rootObstacle? = none := by
    simp only [Expressible, List.findSome?_eq_none_iff, Query.rootObstacle?_eq_none]
  rw [hnone, hfirst]
  cases rule.body.flatten <;> simp

theorem not_expressible_iff :
    ¬ rule.Expressible ↔ ∃ obstacle, rule.body.flatten = .error obstacle := by
  rw [expressible_iff]
  cases rule.body.flatten <;> simp

/-- Such a rule has a plan, with the level asked for as its guard unless that is 0. -/
theorem Expressible.compile (h : rule.Expressible) (level : Nat) (time : Timestamp)
    (watermark : Option Timestamp) : ∃ plan, rule.compile level time watermark = .ok plan ∧
      plan.minLevel = if level = 0 then none else some level := by
  obtain ⟨steps, hsteps⟩ := expressible_iff.mp h
  rw [Rule.compile, hsteps]
  exact ⟨_, rfl, rfl⟩

/-- Any other rule has none. -/
theorem compile_of_not_expressible (h : ¬ rule.Expressible) (level : Nat) (time : Timestamp)
    (watermark : Option Timestamp) :
    ∃ obstacle, rule.compile level time watermark = .error obstacle := by
  obtain ⟨obstacle, hbody⟩ := not_expressible_iff.mp h
  exact ⟨obstacle, by rw [Rule.compile, hbody]; rfl⟩

end Rule

end RdfReasoner
