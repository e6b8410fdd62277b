import RdfReasoner.Query

/-!
# Notices

What the reasoner tells whoever runs it, apart from results.  The wording is in `Notice.message`.
-/

namespace RdfReasoner

/-- A message for whoever runs the reasoner. -/
inductive Notice
  /-- The query that is about to be evaluated, and what is known of its variables. -/
  | queryPlan (q : Query) (b : Binding)
  /-- More than one worker was asked for. -/
  | singleWorker
  /-- A record of the storage is no document. -/
  | unreadableRecord
  /-- The statement of a document is not well formed. -/
  | illFormedRecord
  /-- The passes of a session were used up. -/
  | stoppedEarly
  /-- A writer was given up and its last batches were refused. -/
  | writerLost
deriving DecidableEq

/-- The wording of a notice. -/
def Notice.message : Notice → String
  | queryPlan q b => "query plan:\n" ++ q.render ++ " bindings=" ++ b.render
  | singleWorker => "parallel evaluation is not available, using a single worker"
  | unreadableRecord => "skipping unreadable pipeline record"
  | illFormedRecord => "skipping ill-formed pipeline record"
  | stoppedEarly => "stopped before reaching a fixpoint"
  | writerLost => "batch writer dropped with a failed write"

end RdfReasoner
