import RdfReasoner.Proofs.Execution
import RdfReasoner.Proofs.Expressible

/-!
# The order of steps

A rule is compiled as a whole or not at all.  Compiling looks at every operator before what is below
it, so what it names is the first operator of `Query.parts` that no step can express.  Steps are put
out the other way round: `Query.listing` lists the patterns and filters of a tree with every
operator behind what is below it, and these are the steps of a plan (`Rule.compile_listing`).

Every tree ends in a pattern on its left.  So the first step of a plan is a pattern, which seeds the
rows, and no other step does.
-/

namespace RdfReasoner

namespace Query

/-! ## Listings -/

/-- The parts of a tree from left to right, the whole of it behind the parts of its children. -/
def postorder : Query → List Query
  | pattern p => [pattern p]
  | join left right => left.postorder ++ right.postorder ++ [join left right]
  | filter f child => child.postorder ++ [filter f child]
  | slice offset limit child => child.postorder ++ [slice offset limit child]

/-- The step of the operator at the root of a tree, if it is a pattern or a filter. -/
def rootStep? : Query → Option Step
  | pattern p => some (.join p)
  | filter f _ => some (.filter f)
  | join .. | slice .. => none

/-- The patterns and filters of a tree as steps that join rows or drop them, in postorder. -/
def listing (q : Query) : List Step := q.postorder.filterMap rootStep?

@[simp] theorem listing_join (left right : Query) :
    (join left right).listing = left.listing ++ right.listing := by
  simp [listing, postorder, rootStep?]

@[simp] theorem listing_filter (f : Filter) (child : Query) :
    (filter f child).listing = child.listing ++ [.filter f] := by
  simp [listing, postorder, rootStep?]

@[simp] theorem listing_slice (offset limit : Option Nat) (child : Query) :
    (slice offset limit child).listing = child.listing := by
  simp [listing, postorder, rootStep?]

/-- The first step of a listing is the pattern at the left end of the tree. -/
theorem exists_listing_eq_cons (q : Query) : ∃ p rest, q.listing = .join p :: rest := by
  induction q with
  | pattern p => exact ⟨p, [], rfl⟩
  | join left right ihl ihr =>
    obtain ⟨p, rest, hleft⟩ := ihl
    exact ⟨p, rest ++ right.listing, by rw [listing_join, hleft, List.cons_append]⟩
  | filter f child ih =>
    obtain ⟨p, rest, hchild⟩ := ih
    exact ⟨p, rest ++ [.filter f], by rw [listing_filter, hchild, List.cons_append]⟩
  | slice offset limit child ih => simpa using ih

/-- No operator has a step of its own that seeds the rows. -/
theorem seed_notMem_listing (q : Query) (p : Pattern) : .seed p ∉ q.listing := by
  intro hseed
  obtain ⟨part, -, hstep⟩ := List.mem_filterMap.mp hseed
  cases part <;> cases hstep

/-- The steps of every part of a tree stand together. -/
theorem listing_infix_of_mem_parts {q part : Query} (h : part ∈ q.parts) :
    part.listing <:+: q.listing := by
  induction q with
  | pattern p =>
    obtain rfl := List.mem_singleton.mp h
    exact List.infix_rfl
  | join left right ihl ihr =>
    rw [parts, List.mem_cons, List.mem_append] at h
    rcases h with rfl | hleft | hright
    · exact List.infix_rfl
    · rw [listing_join]
      exact (ihl hleft).trans (List.prefix_append ..).isInfix
    · rw [listing_join]
      exact (ihr hright).trans (List.suffix_append ..).isInfix
  | filter f child ih =>
    rw [parts, List.mem_cons] at h
    rcases h with rfl | hchild
    · exact List.infix_rfl
    · rw [listing_filter]
      exact (ih hchild).trans (List.prefix_append ..).isInfix
  | slice offset limit child ih =>
    rw [parts, List.mem_cons] at h
    rcases h with rfl | hchild
    · exact List.infix_rfl
    · rw [listing_slice]
      exact ih hchild

/-! ## Flattening -/

/-- The steps that a tree is flattened to are its listing. -/
theorem flatten_eq_listing {q : Query} {steps : List Step} (h : q.flatten = .ok steps) :
    steps = q.listing := by
  induction q generalizing steps with
  | pattern p => exact (flatten_pattern h).2
  | join left right ihl ihr =>
    obtain ⟨first, second, hleft, hright, rfl⟩ := flatten_join h
    rw [listing_join, ihl hleft, ihr hright]
  | filter f child ih =>
    obtain ⟨below, hchild, rfl⟩ := flatten_filter h
    rw [listing_filter, ih hchild]
  | slice offset limit child => cases h

/-- A tree that cannot be flattened has a first part that no step can express. -/
theorem exists_first_obstacle {q : Query} {obstacle : Obstacle} (h : q.flatten = .error obstacle) :
    ∃ before part after, q.parts = before ++ part :: after ∧
      (∀ earlier ∈ before, ¬ earlier.Inexpressible) ∧ part.Inexpressible ∧
      part.rootObstacle? = some obstacle := by
  have hfirst := q.findSome?_parts
  rw [h] at hfirst
  obtain ⟨before, part, after, hparts, hpart, hbefore⟩ := List.findSome?_eq_some_iff.mp hfirst
  refine ⟨before, part, after, hparts, fun earlier hearlier => ?_, ?_, hpart⟩
  · exact rootObstacle?_eq_none.mp (hbefore earlier hearlier)
  · by_contra hexpressible
    rw [rootObstacle?_eq_none.mpr hexpressible] at hpart
    cases hpart

end Query

/-! ## Rules -/

namespace Rule

theorem exists_compile_eq_ok_iff {rule : Rule} {level : Nat} {time : Timestamp}
    {watermark : Option Timestamp} :
    (∃ plan, rule.compile level time watermark = .ok plan) ↔ rule.Expressible := by
  constructor
  · rintro ⟨plan, hplan⟩
    obtain ⟨steps, hsteps, -⟩ := compile_eq_ok hplan
    exact expressible_iff.mpr ⟨steps, hsteps⟩
  · intro h
    obtain ⟨plan, hplan, -⟩ := h.compile level time watermark
    exact ⟨plan, hplan⟩

/-- **Compiling is all or nothing, and it keeps the order.**  A rule has a plan exactly if no part of
its body is a slice, a fixed or transitive pattern or a filter with a regular expression in it.  The
steps of the plan are the patterns and filters of the body from left to right, each filter directly
behind the steps of its child.  The first of them is a pattern, which seeds the rows; all patterns
behind it join them.  A rule without a plan names the first part of its body that is to blame, where
a filter comes before its child. -/
theorem compile_listing (rule : Rule) (level : Nat) (time : Timestamp)
    (watermark : Option Timestamp) :
    ((∃ plan, rule.compile level time watermark = .ok plan) ↔
        ∀ part ∈ rule.body.parts, ¬ part.Inexpressible) ∧
      (∀ plan, rule.compile level time watermark = .ok plan →
        ∃ first rest, rule.body.listing = .join first :: rest ∧
          plan.steps = .seed first :: rest ∧ ∀ p, .seed p ∉ rest) ∧
      (∀ f child, .filter f child ∈ rule.body.parts →
        child.listing ++ [.filter f] <:+: rule.body.listing) ∧
      ∀ obstacle, rule.compile level time watermark = .error obstacle →
        ∃ before part after, rule.body.parts = before ++ part :: after ∧
          (∀ earlier ∈ before, ¬ earlier.Inexpressible) ∧ part.Inexpressible ∧
          part.rootObstacle? = some obstacle := by
  refine ⟨exists_compile_eq_ok_iff, fun plan hplan => ?_, fun f child hfilter => ?_,
    fun obstacle hobstacle => Query.exists_first_obstacle (compile_eq_error hobstacle)⟩
  · obtain ⟨steps, hsteps, rfl⟩ := compile_eq_ok hplan
    obtain rfl := Query.flatten_eq_listing hsteps
    obtain ⟨first, rest, hlisting⟩ := rule.body.exists_listing_eq_cons
    refine ⟨first, rest, hlisting, congrArg seedFirst hlisting, fun p hp => ?_⟩
    have hseed := rule.body.seed_notMem_listing p
    rw [hlisting] at hseed
    exact hseed (List.mem_cons_of_mem _ hp)
  · rw [← Query.listing_filter]
    exact Query.listing_infix_of_mem_parts hfilter

end Rule

namespace Voyage

/-- The pattern of the rides between two stops by some means. -/
def ride (means source target : String) : Pattern where
  subject := .var source
  predicate := .const (.iri means)
  object := .var target

/-- One does not come back to where one started from. -/
def onward : Filter := .notEqual (.var "from") (.var "to")

/-- One does not go south by way of some stop. -/
def northward : Filter :=
  .and (.bound "via") (.not (.regex (.var "to") ((Regex.ofSource? "^S").get (by decide +kernel))))

/-- From a ferry one changes to a train at a stop with a name, and goes on. -/
def change : Rule where
  id := "change"
  body := .filter onward <| .join
    (.filter (.isIri (.var "via")) (.pattern (ride "ferry" "from" "via")))
    (.pattern (ride "train" "via" "to"))
  head := []

/-- From a ferry one changes to the first train, unless it goes south. -/
def firstTrain : Rule where
  id := "first train"
  body := .join (.pattern (ride "ferry" "from" "via"))
    (.filter northward (.slice none (some 1) (.pattern (ride "train" "via" "to"))))
  head := []

/-- The filter over the ferries stands before the trains.  The regular expression is named, and not
the slice below it. -/
theorem compile_change :
    (∃ plan, change.compile 0 .min none = .ok plan ∧
        plan.steps = [.seed (ride "ferry" "from" "via"), .filter (.isIri (.var "via")),
          .join (ride "train" "via" "to"), .filter onward]) ∧
      ∃ before part after, firstTrain.body.parts = before ++ part :: after ∧
        (∀ earlier ∈ before, ¬ earlier.Inexpressible) ∧
        part.rootObstacle? = some (.regex northward) := by
  constructor
  · obtain ⟨plan, hplan⟩ : ∃ plan, change.compile 0 .min none = .ok plan := ⟨_, rfl⟩
    obtain ⟨-, hsteps, -, -⟩ := change.compile_listing 0 .min none
    obtain ⟨first, rest, hlisting, hplanned, -⟩ := hsteps plan hplan
    have hbody : change.body.listing = [.join (ride "ferry" "from" "via"),
        .filter (.isIri (.var "via")), .join (ride "train" "via" "to"), .filter onward] := rfl
    rw [hbody] at hlisting
    cases hlisting
    exact ⟨plan, hplan, hplanned⟩
  · have hregex : firstTrain.compile 0 .min none = .error (.regex northward) := by decide +kernel
    obtain ⟨-, -, -, hfirst⟩ := firstTrain.compile_listing 0 .min none
    obtain ⟨before, part, after, hparts, hbefore, -, hobstacle⟩ := hfirst _ hregex
    exact ⟨before, part, after, hparts, hbefore, hobstacle⟩

end Voyage

end RdfReasoner
