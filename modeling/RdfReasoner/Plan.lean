import RdfReasoner.Error

/-!
# Plans

A plan is a rule whose body is a list of steps, so that the storage can run it in bulk.
`Rule.compile` makes a plan of a rule, or names the first part of the body that no step can
express.

The steps of a body are the patterns and filters of its tree from left to right, each filter behind
the steps of its child.  The first step seeds the rows; it is always a pattern.
-/

namespace RdfReasoner

/-- One step over rows of bindings. -/
inductive Step
  /-- Makes the rows of the facts that match a pattern. -/
  | seed (p : Pattern)
  /-- Joins every row with the facts that match a pattern under its binding. -/
  | join (p : Pattern)
  /-- Drops the rows that do not pass a filter. -/
  | filter (f : Filter)
deriving DecidableEq

/-- The text form of a step. -/
def Step.render : Step → String
  | seed p => "$match " ++ p.render
  | join p => "$lookup " ++ p.render
  | filter f => "$filter " ++ f.render

/-- A rule in the form of steps. -/
structure Plan where
  rule : String
  steps : List Step
  templates : List Template
  /-- A row needs a source of this derivation level or above. -/
  minLevel : Option Nat := none
  /-- A row needs a source of this time or later. -/
  minTimestamp : Option Timestamp := none
  /-- Whether every statement is put out only once. -/
  distinct : Bool := true
  /-- The time of every output. -/
  timestamp : Timestamp
deriving DecidableEq

/-- The patterns and filters of a tree from left to right, each filter behind those of its child.  A
filter is looked at before its child. -/
def Query.flatten : Query → Except Obstacle (List Step)
  | .pattern p =>
    match p.kind with
    | .ordinary => .ok [.join p]
    | .fixed _ => .error (.fixed p)
    | .transitive => .error (.transitive p)
  | .join left right => do
    let first ← left.flatten
    let second ← right.flatten
    return first ++ second
  | .filter f child =>
    if f.containsRegex then .error (.regex f)
    else do
      let steps ← child.flatten
      return steps ++ [.filter f]
  | .slice .. => .error .slice

/-- Lets the first step seed the rows. -/
def seedFirst : List Step → List Step
  | .join p :: rest => .seed p :: rest
  | steps => steps

/-- The plan of a rule.  A least level of 0 and a missing watermark are no guards. -/
def Rule.compile (r : Rule) (minLevel : Nat) (timestamp : Timestamp)
    (watermark : Option Timestamp) : Except Obstacle Plan := do
  let steps ← r.body.flatten
  return {
    rule := r.id
    steps := seedFirst steps
    templates := r.head
    minLevel := if minLevel = 0 then none else some minLevel
    minTimestamp := watermark
    timestamp := timestamp }

end RdfReasoner
