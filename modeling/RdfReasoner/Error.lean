import RdfReasoner.Query
import RdfReasoner.Term.Parser

/-!
# Errors

What can go wrong, as causes.  The wording of each cause is in the `message` functions.
-/

namespace RdfReasoner

/-- What keeps the body of a rule from being compiled into a plan. -/
inductive Obstacle
  | slice
  | fixed (p : Pattern)
  | transitive (p : Pattern)
  | regex (f : Filter)
deriving DecidableEq

/-- The wording of an obstacle. -/
def Obstacle.message : Obstacle → String
  | slice => "slice"
  | fixed p => "fixed pattern " ++ p.render
  | transitive p => "transitive pattern " ++ p.render
  | regex f => "regular expression in filter " ++ f.render

/-- What a text or a value was expected to be and is not. -/
inductive Malformed
  | term (text : String)
  | regex (source : String)
  | document
  | settings
deriving DecidableEq

/-- The wording of a malformed text or value. -/
def Malformed.message : Malformed → String
  | term text => "not an RDF term: " ++ text
  | regex source => "not a regular expression: " ++ source
  | document => "not a document of a statement"
  | settings => "not a value of the settings"

/-- What is wrong with the settings. -/
inductive SettingsFault
  /-- A size that has to be positive is zero. -/
  | zero (name : String)
  /-- The filter of log messages is none. -/
  | logFilter (text : String)
  /-- A file or a variable of the environment cannot be made settings of. -/
  | source
deriving DecidableEq

/-- The wording of a fault of the settings. -/
def SettingsFault.message : SettingsFault → String
  | zero name => name ++ " must be greater than zero"
  | logFilter text => "logging.filter: invalid filter directive in " ++ text
  | source => "the settings cannot be read"

/-- Why an operation failed. -/
inductive Error
  | settings (fault : SettingsFault)
  | malformed (what : Malformed)
  /-- A pattern over paths that no end or no predicate is known of, or that nothing can answer. -/
  | unsupported (p : Pattern)
  | notExpressible (obstacle : Obstacle)
  /-- What was asked of the storage failed. -/
  | query (detail : String)
  /-- A plan made more distinct results than the storage admits. -/
  | tooManyResults (limit : Nat)
  /-- The storage did not take what was written. -/
  | write (detail : String)
  | writerStopped
  | rule (id : String) (cause : Error)
deriving DecidableEq

/-- The wording of an error. -/
def Error.message : Error → String
  | settings fault => "Config error: " ++ fault.message
  | malformed what => "Parse error: " ++ what.message
  | unsupported p => "Unsupported pattern shape: " ++ p.render
  | notExpressible obstacle => "Pipeline not expressible: " ++ obstacle.message
  | query detail => "Backend query failed: " ++ detail
  | tooManyResults limit =>
    "Backend query failed: more than " ++ toString limit ++
      " intermediate results and large intermediate results are not allowed"
  | write detail => "Write failed: " ++ detail
  | writerStopped => "Write failed: writer is shut down"
  | rule id cause => "Rule " ++ id ++ " failed: " ++ cause.message

/-- Reads a term, or says that the text, blanks at its ends aside, is none. -/
def Term.parse (text : String) : Except Error Term :=
  match Term.parse? text with
  | some t => .ok t
  | none => .error (.malformed (.term (String.ofList (Text.trim text.toList))))

/-- A filter that matches a term against the source of a pattern. -/
def Filter.ofSource (a : Slot) (source : String) : Except Error Filter :=
  match Regex.ofSource? source with
  | some r => .ok (.regex a r)
  | none => .error (.malformed (.regex source))

end RdfReasoner
