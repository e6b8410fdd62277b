import RdfReasoner.Proofs.Currency

/-!
# Rules that are executed on their own

A run leaves behind the level that its last pass asked for, and a rule that is executed on its own
afterwards is still guarded by it.  No execution of a run vouches for the rows below that level: the
facts that they stand on may have come in the meantime.  Such an execution is complete exactly if
all that those rows make holds already or is made by another row as well (`Execution.Covered`).

If it is not, the watermark of the rule moves on all the same, and the rows are not looked at again.

All this is about executions that write at their flush.  What is written before that is seen by the
lookups still to come, and then a slice may cut its solutions off at another place.
-/

namespace RdfReasoner

namespace Execution

variable {limit : Nat} {named : String → Rule} {e : Execution Memory}

/-- Whatever a row makes holds already, or a row that the level guard lets through makes it too. -/
def Covered (e : Execution Memory) : Prop :=
  ∀ row ∈ e.rows, ∀ t ∈ e.rule.instances row.binding, e.start.store.holds t = true ∨
    ∃ other ∈ e.rows, e.guard ≤ other.level ∧
      ∃ t' ∈ e.rule.instances other.binding, t'.covers t = true

instance (e : Execution Memory) : Decidable e.Covered :=
  inferInstanceAs (Decidable (∀ row ∈ e.rows, _))

/-- A guard of 0 lets all rows through. -/
theorem covered_of_guard (h : e.guard = 0) : e.Covered := by
  intro row hrow t ht
  refine .inr ⟨row, hrow, ?_, t, ht, t.covers_self⟩
  rw [h]
  exact Nat.zero_le _

/-- What holds after an execution held before it or was derived. -/
theorem Done.holds_stop (h : e.Done limit) {t : Statement}
    (ht : (e.stop (Memory.backend limit)).store.holds t = true) :
    e.start.store.holds t = true ∨ ∃ f ∈ e.derived, f.statement.covers t = true := by
  rw [Store.holds_eq_any, List.any_eq_true, h.statements] at ht
  obtain ⟨kept, hmem, hcovers⟩ := ht
  rcases List.mem_append.mp hmem with hold | hnew
  · left
    rw [Store.holds_eq_any, List.any_eq_true]
    exact ⟨kept, hold, hcovers⟩
  · right
    obtain ⟨f, hf, rfl⟩ := List.mem_map.mp hnew
    exact ⟨f, hf, hcovers⟩

/-- If its rule is up to date but for the level, an execution is complete exactly if it is
covered. -/
theorem Regular.complete_iff_covered (h : e.Regular limit named)
    (hready : e.start.strategy.Ready limit) (hcurrent : e.start.Current named fun _ => 0) :
    e.Complete limit ↔ e.Covered := by
  obtain ⟨herror, hdone⟩ := h.done hready
  rcases hplan : e.plan? with _ | plan
  · have hguard : e.guard = 0 := by
      rw [guard, hplan]
      rfl
    exact ⟨fun _ => covered_of_guard hguard, fun _ => hdone.complete_of_byRow herror hplan⟩
  · obtain ⟨steps, hsteps⟩ := exists_flatten hplan
    have hup := hcurrent e.rule h.named_id steps hsteps
    rw [Session.trusted_zero] at hup
    rw [complete_iff hsteps]
    constructor
    · intro hcomplete row hrow t ht
      rcases hdone.holds_stop (hcomplete row hrow t ht) with hheld | ⟨f, hf, hcovers⟩
      · exact .inl hheld
      · obtain ⟨other, hother, hadmits, hmade, -⟩ := mem_derived_plan hplan hf
        exact .inr ⟨other, hother, ((admits_iff hplan).mp hadmits).1, f.statement, hmade, hcovers⟩
    · intro hcovered row hrow t ht
      rcases hcovered row hrow t ht with hheld | ⟨other, hother, hlevel, t', ht', hcovers⟩
      · exact hdone.holds_of_holds hheld
      · refine Store.holds_of_covers ?_ hcovers
        by_cases hadmits : plan.admits other = true
        · exact hdone.holds_of_admits hplan h.levelsFit hother hadmits ht'
        · -- the level guard lets the row through, so it is the watermark that does not
          refine hdone.holds_of_holds (hup.holds_of_skipped hother ?_ ht')
          rintro ⟨-, htime⟩
          exact hadmits ((admits_iff hplan).mpr ⟨hlevel, htime⟩)

end Execution

namespace Session

variable {limit : Nat} {named : String → Rule} {s s₀ : Session Memory} {calls : List Call}
  {settings : EvaluationOptions × PlanOptions × Bool}

/-- The executions that a call asks for itself are complete exactly if they are covered. -/
theorem Steady.direct_complete_iff {c : Call} (h : s.Steady limit named settings)
    (hregular : ∀ e ∈ c.executions (Memory.backend limit) s, e.Regular limit named) :
    (∀ e ∈ c.direct s, e.Complete limit) ↔ ∀ e ∈ c.direct s, e.Covered := by
  rcases c with ⟨time, facts⟩ | ⟨rules, rounds⟩ | ⟨rule, p⟩
  · exact Iff.rfl.trans (by simp [Call.direct])
  · exact Iff.rfl.trans (by simp [Call.direct])
  · have hthis := hregular ⟨rule, p, s⟩ (List.mem_singleton.mpr rfl)
    have hiff := hthis.complete_iff_covered h.ready h.current
    simpa only [Call.direct, List.forall_mem_singleton] using hiff

/-- So are those of all calls, one after the other. -/
theorem Steady.directs_covered_iff (h : s.Steady limit named settings)
    (hstamps : ∀ c ∈ calls, c.StampsFacts)
    (hregular : ∀ e ∈ s.executions Memory.view (Memory.backend limit) calls, e.Regular limit named)
    (ht : s.OnTime (s.times Memory.view (Memory.backend limit) calls)) :
    (∀ e ∈ s.directs Memory.view (Memory.backend limit) calls, e.Complete limit) ↔
      ∀ e ∈ s.directs Memory.view (Memory.backend limit) calls, e.Covered := by
  induction calls generalizing s with
  | nil => simp [directs]
  | cons c rest ih =>
    simp only [executions_cons, directs_cons, List.forall_mem_append, List.forall_mem_cons]
      at hstamps hregular ⊢
    have hfirst := h.direct_complete_iff hregular.1
    -- complete up to here, the session is steady before the next call
    have hrest : (∀ e ∈ c.direct s, e.Complete limit) →
        ((∀ e ∈ (c.perform Memory.view (Memory.backend limit) s).directs Memory.view
            (Memory.backend limit) rest, e.Complete limit) ↔
          ∀ e ∈ (c.perform Memory.view (Memory.backend limit) s).directs Memory.view
            (Memory.backend limit) rest, e.Covered) := by
      intro hcomplete
      obtain ⟨-, hsteady, htimes⟩ := h.perform hstamps.1 hregular.1 hcomplete ht
      exact ih hsteady hstamps.2 hregular.2 htimes
    rw [← hfirst]
    exact and_congr_right hrest

/-- Over any history of insertions, runs and direct executions, the direct executions are complete
exactly if each of them is covered. -/
theorem directs_complete_iff (hfresh : s₀.Fresh limit) (hstamps : ∀ c ∈ calls, c.StampsFacts)
    (hregular : ∀ e ∈ s₀.executions Memory.view (Memory.backend limit) calls,
      e.Regular limit named)
    (hsorted : (s₀.times Memory.view (Memory.backend limit) calls).Pairwise (· ≤ ·)) :
    (∀ e ∈ s₀.directs Memory.view (Memory.backend limit) calls, e.Complete limit) ↔
      ∀ e ∈ s₀.directs Memory.view (Memory.backend limit) calls, e.Covered :=
  (hfresh.steady named).directs_covered_iff hstamps hregular (hfresh.onTime hsorted)

end Session

namespace Family

open Session

/-- A rule is executed on its own before anything was run. -/
def early : List Call :=
  [.insert (second 0) [⟨said "p0" "parent" "p1", {}⟩], .execute parents ⟨1, second 1, ""⟩,
    .run [parents, ancestors] 9]

set_option maxRecDepth 100000 in
/-- Then it misses nothing. -/
theorem complete_early :
    (session {}).directs Memory.view (Memory.backend 1000) early ≠ [] ∧
      ∀ e ∈ (session {}).directs Memory.view (Memory.backend 1000) early, e.Complete 1000 := by
  have hregular : ∀ e ∈ (session {}).executions Memory.view (Memory.backend 1000) early,
      e.Regular 1000 named := by decide +kernel
  have hfresh : (session {}).Fresh 1000 := fresh_ofSettings {} 1000 (memory [])
  have hcovered : ∀ e ∈ (session {}).directs Memory.view (Memory.backend 1000) early,
      e.Covered := by decide +kernel
  refine ⟨List.cons_ne_nil _ _, ?_⟩
  exact (directs_complete_iff hfresh (by decide) hregular (by decide +kernel)).mpr hcovered

/-- A child is born after a run, and the rule for parents is executed on its own. -/
def late : List Call :=
  [.insert (second 0) [⟨said "p0" "parent" "p1", {}⟩], .run [parents] 9,
    .insert (second 2) [⟨said "p1" "parent" "p2", {}⟩], .execute parents ⟨1, second 3, ""⟩]

set_option maxRecDepth 100000 in
/-- Then it misses the child, and so does every later run. -/
theorem incomplete_late :
    (∀ e ∈ (session {}).executions Memory.view (Memory.backend 1000) (late ++ [.run [parents] 9]),
        e.Regular 1000 named) ∧
      ((session {}).times Memory.view (Memory.backend 1000) (late ++ [.run [parents] 9])).Pairwise
        (· ≤ ·) ∧
      ¬ (∀ e ∈ (session {}).directs Memory.view (Memory.backend 1000) late, e.Complete 1000) ∧
      ((session {}).performAll Memory.view (Memory.backend 1000)
        (late ++ [.run [parents] 9])).store.holds (said "p1" "ancestor" "p2") = false := by
  have hregular : ∀ e ∈ (session {}).executions Memory.view (Memory.backend 1000)
      (late ++ [.run [parents] 9]), e.Regular 1000 named := by decide +kernel
  have hregular' : ∀ e ∈ (session {}).executions Memory.view (Memory.backend 1000) late,
      e.Regular 1000 named := by
    rw [executions_append, List.forall_mem_append] at hregular
    exact hregular.1
  have hfresh : (session {}).Fresh 1000 := fresh_ofSettings {} 1000 (memory [])
  have hsteady := hfresh.steady named
  have huncovered : ¬ ∀ e ∈ (session {}).directs Memory.view (Memory.backend 1000) late,
      e.Covered := by decide +kernel
  refine ⟨hregular, by decide +kernel, fun hcomplete => huncovered ?_, by decide +kernel⟩
  exact (hsteady.directs_covered_iff (by decide) hregular' (hfresh.onTime (by decide +kernel))).mp
    hcomplete

/-- The first three friends of somebody's children become friends of the second child. -/
def sharing : Rule where
  id := "sharing"
  body := .slice none (some 3) (.join (related "x" "parent" "y") (related "y" "friend" "z"))
  head := [⟨.const (iri "c2"), .const (iri "friend"), .var "z", none⟩]

/-- Three children with a friend each. -/
def children : Memory :=
  memory <| [said "p" "parent" "c1", said "p" "parent" "c2", said "p" "parent" "c3",
    said "c1" "friend" "f1", said "c2" "friend" "f2", said "c3" "friend" "f3"].map (⟨·, {}⟩)

/-- The rule is executed with batches of some size. -/
def sharingBy (batchSize : Nat) : Execution Memory where
  rule := sharing
  provenance := ⟨1, second 1, ""⟩
  start := .ofSettings (Memory.backend 1000)
    { evaluation := { joinBatchSize := 1 }, writer := { batchSize } } children

set_option maxRecDepth 100000 in
/-- For completeness it cannot be dropped that facts are written at the flush only.  If the first
fact is written at once, the second child has two friends when it is looked at, and the third child
does not count any more. -/
theorem missed_of_early_write :
    (sharingBy 9).WritesAtFlush (Memory.backend 1000) ∧
      ((sharingBy 9).stop (Memory.backend 1000)).store.holds (said "c2" "friend" "f3") = true ∧
      (sharingBy 1).Succeeds (Memory.backend 1000) ∧ (sharingBy 1).Covered ∧
      ((sharingBy 1).stop (Memory.backend 1000)).store.holds (said "c2" "friend" "f3") = false := by
  decide +kernel

end Family

end RdfReasoner
