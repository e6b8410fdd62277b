import RdfReasoner.Session
import RdfReasoner.Settings

/-!
# Sessions from settings

The options that settings stand for, and the session that they ask for on a given storage: plans are
run in bulk if that is enabled and the storage can run them, with row-by-row evaluation to fall back
to; otherwise every rule is evaluated row by row.
-/

namespace RdfReasoner

/-- The options of evaluation.  A batch has at least one solution. -/
def EvaluationSettings.options (s : EvaluationSettings) : EvaluationOptions where
  performant := s.performant
  displayQueryPlan := s.displayQueryPlan
  joinBatchSize := Nat.max s.joinBatchSize 1
  joinBatchSize_pos := by grind

/-- What there is to say about the settings of evaluation. -/
def EvaluationSettings.notices (s : EvaluationSettings) : List Notice :=
  if 1 < s.numThreads then [.singleWorker] else []

/-- The options of running plans. -/
def PipelineSettings.options (s : PipelineSettings) : PlanOptions :=
  ⟨s.allowLargeResults, s.batchSize⟩

/-- Evaluation row by row. -/
def Rowwise.ofSettings (s : Settings) : Rowwise where
  options := s.evaluation.options
  batchSize := s.writer.batchSize

/-- Execution in bulk, with something to fall back to or without. -/
def Bulk.ofSettings {σ : Type} (executor : Executor σ) (s : Settings)
    (fallback : Option Rowwise) : Bulk σ where
  executor := executor
  options := s.pipeline.options
  writer := .start s.writer.batchSize
  fallback := fallback

/-- The way that settings ask for on a storage. -/
def Strategy.ofSettings {σ : Type} (b : Backend σ) (s : Settings) : Strategy σ :=
  match b.executor with
  | some executor =>
    if s.pipeline.enabled then .bulk (.ofSettings executor s (some (.ofSettings s)))
    else .rowwise (.ofSettings s)
  | none => .rowwise (.ofSettings s)

/-- A session at its start. -/
def Session.ofSettings {σ : Type} (b : Backend σ) (s : Settings) (storage : σ) : Session σ where
  strategy := .ofSettings b s
  work := { storage, notices := s.evaluation.notices.toArray }
  visibility := s.scheduler.visibility
  maxPasses := s.scheduler.maxPasses

end RdfReasoner
