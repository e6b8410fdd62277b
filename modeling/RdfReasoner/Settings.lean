import RdfReasoner.Document
import RdfReasoner.Settings.LogFilter

/-!
# Settings

The settings of the reasoner, in five sections, with their defaults.  `Settings.validate` says what
is wrong with them, `Settings.toJson` writes them, and `Settings.read` reads them from values of any
format that a `Reading` knows how to look into: a section or a setting that is not given keeps its
default, and what is not known is ignored.
-/

namespace RdfReasoner

/-- How queries are evaluated. -/
structure EvaluationSettings where
  performant : Bool := true
  displayQueryPlan : Bool := false
  /-- More than one is not available. -/
  numThreads : Nat := 1
  joinBatchSize : Nat := 1000
deriving DecidableEq

/-- How plans are run. -/
structure PipelineSettings where
  enabled : Bool := true
  batchSize : Nat := 1000
  allowLargeResults : Bool := true
deriving DecidableEq

/-- How facts are written. -/
structure WriterSettings where
  batchSize : Nat := 1000
  queueCapacity : Nat := 10000
  flushIntervalMillis : Nat := 100
deriving DecidableEq

/-- How sessions go. -/
structure SchedulerSettings where
  maxPasses : Option Nat := none
  visibility : String := ""
deriving DecidableEq

/-- What is logged. -/
structure LoggingSettings where
  filter : String := "info"
deriving DecidableEq

/-- All settings. -/
structure Settings where
  evaluation : EvaluationSettings := {}
  pipeline : PipelineSettings := {}
  writer : WriterSettings := {}
  scheduler : SchedulerSettings := {}
  logging : LoggingSettings := {}
deriving DecidableEq

namespace Settings

/-! ## Validity -/

/-- The sizes that have to be positive, by name. -/
def sizes (s : Settings) : List (String × Nat) :=
  [("evaluation.join_batch_size", s.evaluation.joinBatchSize),
    ("pipeline.batch_size", s.pipeline.batchSize), ("writer.batch_size", s.writer.batchSize),
    ("writer.queue_capacity", s.writer.queueCapacity)]

/-- The first fault of the settings. -/
def fault? (s : Settings) : Option SettingsFault :=
  match s.sizes.find? (·.2 == 0) with
  | some (name, _) => some (.zero name)
  | none =>
    if LogFilter.isValid s.logging.filter then none else some (.logFilter s.logging.filter)

/-- The settings, if nothing is wrong with them. -/
def validate (s : Settings) : Except Error Settings :=
  match s.fault? with
  | some fault => .error (.settings fault)
  | none => .ok s

/-- Whether the filter that is in force is valid: that of the environment, or else, if that is
missing or invalid, that of the settings. -/
def checkLogging (s : LoggingSettings) (override : Option String) : Except Error Unit :=
  if override.any LogFilter.isValid || LogFilter.isValid s.filter then .ok ()
  else .error (.settings (.logFilter s.filter))

/-! ## Writing -/

/-- The JSON form. -/
def toJson (s : Settings) : Json :=
  .obj [
    ("evaluation", .obj [("performant", .bool s.evaluation.performant),
      ("display_query_plan", .bool s.evaluation.displayQueryPlan),
      ("num_threads", .int s.evaluation.numThreads),
      ("join_batch_size", .int s.evaluation.joinBatchSize)]),
    ("pipeline", .obj [("enabled", .bool s.pipeline.enabled),
      ("batch_size", .int s.pipeline.batchSize),
      ("allow_large_intermediate_results", .bool s.pipeline.allowLargeResults)]),
    ("writer", .obj [("batch_size", .int s.writer.batchSize),
      ("queue_capacity", .int s.writer.queueCapacity),
      ("flush_interval_ms", .int s.writer.flushIntervalMillis)]),
    ("scheduler", .obj [
      ("max_passes", (s.scheduler.maxPasses.map fun n => Json.int n).getD .null),
      ("visibility", .str s.scheduler.visibility)]),
    ("logging", .obj [("filter", .str s.logging.filter)])]

/-! ## Reading -/

/-- How the values of a format are looked into. -/
structure Reading (α : Type) where
  isNull : α → Bool
  bool? : α → Option Bool
  size? : α → Option Nat
  text? : α → Option String
  fields? : α → Option (List (String × α))
  /-- The parts of a value may also stand in a list, in their order. -/
  items? : α → Option (List α)
  /-- Whether such a list may be longer than needed. -/
  allowsMore : Bool

namespace Reading

variable {α β : Type}

/-- The parts of a value by name. -/
def parts? (r : Reading α) (names : List String) (v : α) : Option (List (String × α)) :=
  match r.fields? v with
  | some fields => some fields
  | none => do
    let items ← r.items? v
    if items.length ≤ names.length || r.allowsMore then some (names.zip items) else none

/-- A part of a value, or its default where it is not given. -/
def part (parts : List (String × α)) (name : String) (default : β) (read : α → Option β) :
    Option β :=
  match parts.lookup name with
  | some v => read v
  | none => some default

/-- Reads the section on evaluation. -/
def evaluation? (r : Reading α) (v : α) : Option EvaluationSettings := do
  let parts ← r.parts? ["performant", "display_query_plan", "num_threads", "join_batch_size"] v
  some ⟨← part parts "performant" true r.bool?, ← part parts "display_query_plan" false r.bool?,
    ← part parts "num_threads" 1 r.size?, ← part parts "join_batch_size" 1000 r.size?⟩

/-- Reads the section on plans. -/
def pipeline? (r : Reading α) (v : α) : Option PipelineSettings := do
  let parts ← r.parts? ["enabled", "batch_size", "allow_large_intermediate_results"] v
  some ⟨← part parts "enabled" true r.bool?, ← part parts "batch_size" 1000 r.size?,
    ← part parts "allow_large_intermediate_results" true r.bool?⟩

/-- Reads the section on writing. -/
def writer? (r : Reading α) (v : α) : Option WriterSettings := do
  let parts ← r.parts? ["batch_size", "queue_capacity", "flush_interval_ms"] v
  some ⟨← part parts "batch_size" 1000 r.size?, ← part parts "queue_capacity" 10000 r.size?,
    ← part parts "flush_interval_ms" 100 r.size?⟩

/-- Reads a number that may be missing. -/
def optionalSize? (r : Reading α) (v : α) : Option (Option Nat) :=
  if r.isNull v then some none else (r.size? v).map some

/-- Reads the section on sessions. -/
def scheduler? (r : Reading α) (v : α) : Option SchedulerSettings := do
  let parts ← r.parts? ["max_passes", "visibility"] v
  some ⟨← part parts "max_passes" none r.optionalSize?, ← part parts "visibility" "" r.text?⟩

/-- Reads the section on logging. -/
def logging? (r : Reading α) (v : α) : Option LoggingSettings := do
  let parts ← r.parts? ["filter"] v
  some ⟨← part parts "filter" "info" r.text?⟩

/-- Reads all settings. -/
def settings? (r : Reading α) (v : α) : Option Settings := do
  let parts ← r.parts? ["evaluation", "pipeline", "writer", "scheduler", "logging"] v
  some ⟨← part parts "evaluation" {} r.evaluation?, ← part parts "pipeline" {} r.pipeline?,
    ← part parts "writer" {} r.writer?, ← part parts "scheduler" {} r.scheduler?,
    ← part parts "logging" {} r.logging?⟩

/-- Looks into JSON values, which have to be of the type that is asked for. -/
def ofJson : Reading Json where
  isNull
    | .null => true
    | _ => false
  bool?
    | .bool b => some b
    | _ => none
  size? v := (v.intIn? 0 Word.maxSize).map Int.toNat
  text? := Json.str?
  fields?
    | .obj fields => some fields
    | _ => none
  items?
    | .arr items => some items
    | _ => none
  allowsMore := false

end Reading

/-- Reads the JSON form, in which whatever is missing keeps its default. -/
def ofJson (v : Json) : Except Error Settings :=
  match Reading.ofJson.settings? v with
  | some s => .ok s
  | none => .error (.malformed .settings)

end Settings

end RdfReasoner
