import RdfReasoner.Proofs.History

/-!
# What plans put out, read off the facts

A solution of a body is joined from a tuple of facts, one for every pattern of the body from left to
right.  `Query.derive?` says what a body makes of such a tuple, and `Query.derivations` lists the
solutions together with the tuples that they are joined from: it goes through all tuples of stored
facts, the last place changing fastest.  This is the order in which evaluation finds the solutions,
and a row of a plan is a derivation of which only the highest level and the latest time are
remembered (`Query.rows_eq_derivations`).

So a plan can be read without its steps: its records are what the templates make of the derivations
that the guards admit, each statement once (`Plan.items_records_consequences`).
-/

namespace RdfReasoner

/-! ## Tuples -/

section tuples

variable {α : Type} {as : List α}

/-- The tuples of so many members of a list; the last place changes fastest. -/
def tuples (as : List α) : Nat → List (List α)
  | 0 => [[]]
  | n + 1 => as.flatMap fun a => (tuples as n).map (a :: ·)

theorem mem_tuples {n : Nat} {t : List α} : t ∈ tuples as n ↔ t.length = n ∧ ∀ a ∈ t, a ∈ as := by
  induction n generalizing t with
  | zero =>
    rw [tuples, List.mem_singleton, List.length_eq_zero_iff]
    exact ⟨fun h => ⟨h, by simp [h]⟩, (·.1)⟩
  | succ n ih =>
    cases t with
    | nil => simp [tuples]
    | cons a t => simp [tuples, ih, and_left_comm]

/-- A longer tuple is a shorter one and what follows on it. -/
theorem tuples_add (m n : Nat) :
    tuples as (m + n) = (tuples as m).flatMap fun t => (tuples as n).map (t ++ ·) := by
  induction m with
  | zero => simp [tuples]
  | succ m ih =>
    rw [Nat.add_right_comm, tuples, tuples, ih, List.flatMap_assoc]
    simp only [List.map_flatMap, List.flatMap_map, List.map_map]
    rfl

end tuples

/-! ## Derivations -/

/-- What a binding becomes by a statement that a pattern matches. -/
def Pattern.match? (p : Pattern) (b : Binding) (st : Statement) : Option Binding :=
  (p.lookup? b).bind fun l => if l.accepts st then p.bind? b st else none

/-- A solution with the facts that it is joined from. -/
structure Derivation where
  binding : Binding
  sources : List Fact

namespace Derivation

/-- The highest level of the sources. -/
def level (d : Derivation) : Nat := (d.sources.map Fact.level).foldl max 0

/-- Whether some source has a level or above, and some source is not older than a watermark.  Level
0 and a missing watermark ask for nothing. -/
def Admitted (level : Nat) (watermark : Option Timestamp) (d : Derivation) : Prop :=
  (0 < level → ∃ f ∈ d.sources, level ≤ f.level) ∧
    ∀ w ∈ watermark, ∃ f ∈ d.sources, w ≤ f.timestamp

instance (level : Nat) (watermark : Option Timestamp) (d : Derivation) :
    Decidable (d.Admitted level watermark) :=
  inferInstanceAs (Decidable (_ ∧ _))

end Derivation

namespace Query

variable (facts : List Fact)

/-- The number of patterns. -/
def leaves : Query → Nat
  | pattern _ => 1
  | join left right => left.leaves + right.leaves
  | filter _ child => child.leaves
  | slice _ _ child => child.leaves

theorem leaves_pos (q : Query) : 0 < q.leaves := by
  induction q with
  | pattern p => exact Nat.one_pos
  | join left right ihl _ => exact Nat.add_pos_left ihl _
  | filter f child ih => exact ih
  | slice offset limit child ih => exact ih

/-- What a binding becomes by a tuple with a fact for every pattern of a body.  A slice is not a
matter of single tuples. -/
def derive? : Query → Binding → List Fact → Option Binding
  | pattern p, b, [f] => p.match? b f.statement
  | pattern _, _, _ => none
  | join left right, b, fs =>
    (left.derive? b (fs.take left.leaves)).bind fun mid =>
      right.derive? mid (fs.drop left.leaves)
  | filter f child, b, fs => (child.derive? b fs).filter f.accepts
  | slice .., _, _ => none

/-- The solutions that extend a binding, each with the facts that it is joined from, in the order of
the facts. -/
def derivations (q : Query) (b : Binding) : List Derivation :=
  (tuples facts q.leaves).filterMap fun fs => (q.derive? b fs).map (⟨·, fs⟩)

variable {facts}

theorem mem_derivations {q : Query} {b : Binding} {d : Derivation} :
    d ∈ q.derivations facts b ↔ d.sources.length = q.leaves ∧ (∀ f ∈ d.sources, f ∈ facts) ∧
      q.derive? b d.sources = some d.binding := by
  rw [derivations, List.mem_filterMap]
  constructor
  · rintro ⟨fs, hfs, hd⟩
    obtain ⟨b', hb', rfl⟩ := Option.map_eq_some_iff.mp hd
    exact ⟨(mem_tuples.mp hfs).1, (mem_tuples.mp hfs).2, hb'⟩
  · rintro ⟨hlength, hfacts, hd⟩
    exact ⟨d.sources, mem_tuples.mpr ⟨hlength, hfacts⟩, by rw [hd]; rfl⟩

theorem derivations_pattern (p : Pattern) (b : Binding) :
    (pattern p).derivations facts b =
      facts.filterMap fun f => (p.match? b f.statement).map (⟨·, [f]⟩) := by
  simp only [derivations, leaves, tuples, List.map_cons, List.map_nil]
  rw [← List.map_eq_flatMap, List.filterMap_map]
  rfl

/-- The facts of a join are those of its left side, and then those of its right side. -/
theorem derivations_join (left right : Query) (b : Binding) :
    (join left right).derivations facts b =
      (left.derivations facts b).flatMap fun d =>
        (right.derivations facts d.binding).map fun d' =>
          ⟨d'.binding, d.sources ++ d'.sources⟩ := by
  rw [derivations, leaves, tuples_add, List.filterMap_flatMap, derivations,
    List.filterMap_eq_flatMap_toList, List.flatMap_assoc]
  refine List.flatMap_congr fun fs hfs => ?_
  have hlength : fs.length = left.leaves := (mem_tuples.mp hfs).1
  simp only [List.filterMap_map, Function.comp_def, derive?, List.take_left' hlength,
    List.drop_left' hlength]
  cases left.derive? b fs with
  | none => simp
  | some mid => simp [derivations, List.map_filterMap, Function.comp_def]

theorem derivations_filter (f : Filter) (child : Query) (b : Binding) :
    (filter f child).derivations facts b =
      (child.derivations facts b).filter fun d => f.accepts d.binding := by
  rw [derivations, leaves, derivations, List.filter_filterMap]
  refine List.filterMap_congr fun fs _ => ?_
  rw [derive?]
  cases child.derive? b fs with
  | none => rfl
  | some b' => by_cases h : f.accepts b' <;> simp [Option.filter, h]

theorem derivations_slice (offset limit : Option Nat) (child : Query) (b : Binding) :
    (slice offset limit child).derivations facts b = [] := by
  simp [derivations, derive?]

end Query

/-! ## Rows -/

namespace Row

/-- The row after some more facts. -/
def through (r : Row) (d : Derivation) : Row :=
  ⟨d.binding, (d.sources.map Fact.level).foldl max r.level,
    (d.sources.map Fact.timestamp).foldl max r.timestamp⟩

theorem through_single (r : Row) (b : Binding) (f : Fact) : r.through ⟨b, [f]⟩ = r.joined b f := rfl

theorem through_through (r : Row) (d d' : Derivation) :
    (r.through d).through d' = r.through ⟨d'.binding, d.sources ++ d'.sources⟩ := by
  simp only [through, List.map_append, List.foldl_append]

end Row

/-- The rows of a body are its derivations. -/
theorem Query.rows_eq_derivations (facts : List Fact) (q : Query) (r : Row) :
    q.rows facts r = (q.derivations facts r.binding).map r.through := by
  induction q generalizing r with
  | pattern p =>
    rw [rows, derivations_pattern, Pattern.rows, List.map_filterMap]
    cases hl : p.lookup? r.binding with
    | none => simp [Pattern.match?, hl]
    | some l =>
      rw [Option.map_some, Option.getD_some, List.filterMap_filter]
      refine List.filterMap_congr fun f _ => ?_
      by_cases h : l.accepts f.statement <;>
        simp [Pattern.match?, hl, h, Row.through_single, Function.comp_def]
  | join left right ihl ihr =>
    rw [rows, derivations_join, ihl, List.flatMap_map, List.map_flatMap]
    refine List.flatMap_congr fun d _ => ?_
    rw [ihr, List.map_map]
    exact List.map_congr_left fun d' _ => r.through_through d d'
  | filter f child ih =>
    rw [rows, derivations_filter, ih, List.filter_map]
    rfl
  | slice offset limit child => rw [rows, derivations_slice, List.map_nil]

/-! ## Guards -/

/-- A bound is below the greatest of some values exactly if it is below one of them. -/
theorem le_foldl_max {α β : Type} [LE β] [Max β]
    (hmax : ∀ {a b c : β}, a ≤ max b c ↔ a ≤ b ∨ a ≤ c) {f : α → β} {bound start : β}
    {as : List α} :
    bound ≤ (as.map f).foldl max start ↔ bound ≤ start ∨ ∃ a ∈ as, bound ≤ f a := by
  induction as generalizing start with
  | nil => simp
  | cons a as ih => simp [ih, hmax, or_assoc]

namespace Derivation

theorem le_level {d : Derivation} {level : Nat} (h : 0 < level) :
    level ≤ d.level ↔ ∃ f ∈ d.sources, level ≤ f.level := by
  rw [Derivation.level, le_foldl_max (by omega)]
  exact or_iff_right (Nat.not_le.mpr h)

theorem le_time {d : Derivation} (h : d.sources ≠ []) {w : Timestamp} :
    w ≤ (d.sources.map Fact.timestamp).foldl max .min ↔ ∃ f ∈ d.sources, w ≤ f.timestamp := by
  rw [le_foldl_max Timestamp.le_max_iff]
  refine or_iff_right_of_imp fun hw => ?_
  obtain ⟨f, hf⟩ := List.exists_mem_of_ne_nil _ h
  exact ⟨f, hf, Timestamp.le_trans hw (Timestamp.min_le f.timestamp)⟩

end Derivation

namespace Plan

open Sequence

variable {rule : Rule} {level : Nat} {time : Timestamp} {watermark : Option Timestamp} {plan : Plan}

/-- The guards of a plan ask about the facts behind a row. -/
theorem admits_through (h : rule.compile level time watermark = .ok plan) {d : Derivation}
    (hd : d.sources ≠ []) :
    plan.admits (({} : Row).through d) = true ↔ d.Admitted level watermark := by
  obtain ⟨steps, -, rfl⟩ := Rule.compile_eq_ok h
  rw [admits, Bool.and_eq_true, Derivation.Admitted]
  refine and_congr ?_ ?_
  · by_cases hzero : level = 0
    · simp [hzero]
    · have hpos : 0 < level := Nat.pos_of_ne_zero hzero
      rw [if_neg hzero, Option.all_some, decide_eq_true_iff]
      exact (d.le_level hpos).trans ⟨fun hsome _ => hsome, fun hsome => hsome hpos⟩
  · cases watermark with
    | none => simp
    | some w =>
      rw [Option.all_some, decide_eq_true_iff]
      exact (d.le_time hd).trans (by simp)

/-- What the templates make of the derivations that the guards admit. -/
def consequences (rule : Rule) (level : Nat) (time : Timestamp) (watermark : Option Timestamp)
    (facts : List Fact) : List Document :=
  ((rule.body.derivations facts .empty).filter (·.Admitted level watermark)).flatMap fun d =>
    (rule.instances d.binding).map fun st => ⟨st, 1 + d.level, time⟩

theorem documents_eq_consequences (h : rule.compile level time watermark = .ok plan)
    (facts : List Fact) :
    plan.documents rule facts = consequences rule level time watermark facts := by
  have htime : plan.timestamp = time := by
    obtain ⟨steps, -, rfl⟩ := Rule.compile_eq_ok h
    rfl
  have hadmits : ∀ d ∈ rule.body.derivations facts .empty,
      (plan.admits ∘ ({} : Row).through) d = decide (d.Admitted level watermark) := by
    intro d hd
    refine Bool.eq_iff_iff.mpr <| (admits_through h fun hnil => ?_).trans decide_eq_true_iff.symm
    have hlength := (Query.mem_derivations.mp hd).1
    rw [hnil, List.length_nil] at hlength
    exact absurd rule.body.leaves_pos (by omega)
  rw [documents, Query.rows_eq_derivations, List.filter_map, List.filter_congr hadmits,
    List.flatMap_map, htime, consequences]
  refine congrArg (List.flatMap · _) (funext fun d => ?_)
  exact congrArg (List.map · _) (funext fun st => by rw [Nat.add_comm]; rfl)

/-- Leaving out the statements that were seen keeps the first document of every other. -/
theorem firstOnly_eq (seen : Std.TreeSet Statement) (docs : List Document) :
    firstOnly seen docs =
      (docs.filter fun d => !seen.contains d.statement).eraseDupsBy
        (·.statement == ·.statement) := by
  induction docs generalizing seen with
  | nil => rfl
  | cons d docs ih =>
    have hinsert : (docs.filter fun d' => !(seen.insert d.statement).contains d'.statement) =
        docs.filter fun d' => decide ((d'.statement == d.statement) = false) &&
          !seen.contains d'.statement := by
      refine List.filter_congr fun d' _ => ?_
      rw [Statement.contains_insert, Bool.not_or]
      by_cases hsame : d'.statement = d.statement
      · simp [hsame]
      · simp [hsame]
    rw [firstOnly]
    split
    · next hseen => rw [ih, List.filter_cons_of_neg (by simp [hseen])]
    · next hseen =>
      rw [List.filter_cons_of_pos (by simp [hseen]), List.eraseDupsBy_cons, List.filter_filter,
        ← hinsert, ih]

/-- A plan whose results are not limited puts out, without an error, what the templates make of the
derivations that the guards admit, of each statement the first; and the solutions of these
derivations are those that evaluation finds, in the same order. -/
theorem items_records_consequences (s : Store) (h : rule.compile level time watermark = .ok plan)
    {options : PlanOptions} (hlarge : options.allowLargeResults = true) (limit : Nat) :
    (∀ e : Evaluator, e.answers s rule.body =
        (rule.body.derivations s.facts.toList .empty).map (.ok ·.binding)) ∧
      (plan.records options limit).items s.answer =
        ((consequences rule level time watermark s.facts.toList).eraseDupsBy
          (·.statement == ·.statement)).map (.ok ·.toJson) := by
  obtain ⟨steps, hsteps, -⟩ := Rule.compile_eq_ok h
  constructor
  · intro e
    rw [e.answers_eq_rows s hsteps, Query.rows_eq_derivations, List.map_map, List.map_map]
    rfl
  · have hnone : firstError? ((plan.records options limit).items s.answer) = none :=
      firstError?_records h hlarge limit
    rw [eq_map_valuesBefore hnone, valuesBefore_records h hnone, documents_eq_consequences h,
      firstOnly_eq, List.map_map]
    simp [Function.comp_def]

end Plan

namespace Family

/-- Ancestors that are known to different degrees, some of them only lately. -/
def lineage : Store :=
  (Store.empty.insertAll (second 0)
    [⟨said "p0" "ancestor" "p1", ⟨1, second 1, ""⟩⟩, ⟨said "p1" "ancestor" "p3", ⟨1, second 1, ""⟩⟩,
      ⟨said "p0" "ancestor" "p2", ⟨4, second 5, ""⟩⟩,
      ⟨said "p2" "ancestor" "p3", ⟨2, second 1, ""⟩⟩,
      ⟨said "p0" "ancestor" "p4", ⟨7, second 6, ""⟩⟩,
      ⟨said "p4" "ancestor" "p3", ⟨1, second 1, ""⟩⟩]).1

set_option maxRecDepth 100000 in
/-- The guards admit two of three ways to the same ancestor; the first of these two counts. -/
theorem records_lineage :
    ∃ plan, ancestors.compile 2 (second 9) (some (second 4)) = .ok plan ∧
      (plan.records {} 1000).items lineage.answer =
        [.ok (Document.toJson ⟨said "p0" "ancestor" "p3", 5, second 9⟩)] := by
  have hconsequences : (Plan.consequences ancestors 2 (second 9) (some (second 4))
      lineage.facts.toList).eraseDupsBy (·.statement == ·.statement) =
        [⟨said "p0" "ancestor" "p3", 5, second 9⟩] := by decide +kernel
  obtain ⟨plan, hplan⟩ : ∃ plan,
      ancestors.compile 2 (second 9) (some (second 4)) = .ok plan := ⟨_, rfl⟩
  have hlarge : ({} : PlanOptions).allowLargeResults = true := rfl
  obtain ⟨-, hrecords⟩ := Plan.items_records_consequences lineage hplan hlarge 1000
  exact ⟨plan, hplan, by rw [hrecords, hconsequences]; rfl⟩

end Family

end RdfReasoner
