import RdfReasoner.Settings.Value

/-!
# Sources of settings

Settings come from a file and from variables of the environment.  The variables are laid over the
file, and both over the defaults; what comes out has to be valid.
-/

namespace RdfReasoner.Settings

/-- The values of a TOML document. -/
def tomlSource? (text : String) : Option (List (String × Value)) :=
  match (Toml.parse? text).bind Value.ofTomlTable? with
  | some (.table fields) => some fields
  | _ => none

/-- The values of a JSON text, which has to be an object. -/
def jsonSource? (text : String) : Option (List (String × Value)) :=
  match Json.parse? text with
  | some (.obj fields) => some (Value.ofJsonFields fields)
  | _ => none

/-! ## Files -/

/-- A file that settings are read from. -/
structure File where
  name : String
  /-- What is in the file, if there is one of that name. -/
  text : Option String

/-- What follows the last dot of the name, which must not be the first character. -/
def File.extension? (f : File) : Option String :=
  let base := (f.name.toList.reverse.takeWhile (· != '/')).reverse
  match base.reverse.span (· != '.') with
  | (last, _ :: _ :: _) => some (String.ofList last.reverse)
  | _ => none

example : (File.mk "s.json" none).extension? = some "json" := by decide +kernel
example : (File.mk ".toml" none).extension? = none := by decide +kernel

/-- The values in a file, whose format its name tells.  A mark of the byte order is skipped. -/
def File.source? (f : File) : Option (List (String × Value)) := do
  let text ← f.text
  let text := match text.toList with
    | '\uFEFF' :: cs => String.ofList cs
    | _ => text
  match f.extension? with
  | some "toml" => tomlSource? text
  | some "json" => jsonSource? text
  | _ => none

/-! ## Variables of the environment -/

/-- What the names of the variables of interest start with, in small letters. -/
def variableStart : List Char := "chainstore__".toList

/-- Two underscores stand for a dot. -/
def dotted : List Char → List Char
  | '_' :: '_' :: rest => '.' :: dotted rest
  | c :: rest => c :: dotted rest
  | [] => []

/-- The name at the root that a variable sets.  Large and small letters are the same; all names of
settings are of ASCII, and so is their reading. -/
def settingOfVariable? (name : String) : Option String :=
  let cs := name.toList.map Char.toLower
  if variableStart.isPrefixOf cs then
    some (String.ofList (dotted (cs.drop variableStart.length)))
  else none

example : settingOfVariable? "CHAINSTORE__WRITER__BATCH_SIZE" = some "writer.batch_size" := by
  decide +kernel

/-- The value that a variable holds: a truth value, an integer of 64 bits, a number, or else a
text. -/
def valueOfVariable (text : String) : Value :=
  match String.ofList (text.toList.map Char.toLower) with
  | "true" => .bool true
  | "false" => .bool false
  | _ =>
    match Decimal.int? text.toList with
    | some n =>
      if Word.Fits n then .int n
      else .real (Double.ofDecimal ⟨n < 0, n.natAbs, 0⟩)
    | none =>
      match Double.parse? text.toList with
      | some x => .real x
      | none => .text text

/-- The values in the variables of an environment. -/
def environmentSource (entries : List (String × String)) : List (String × Value) :=
  entries.filterMap fun (name, text) =>
    (settingOfVariable? name).map fun setting => (setting, valueOfVariable text)

/-! ## Settings -/

/-- The settings that sources give, if all of them could be read; a later source is laid over the
earlier ones. -/
def ofSources (sources : List (Option (List (String × Value)))) : Except Error Settings :=
  match sources.mapM id with
  | none => .error (.settings .source)
  | some sources =>
    match Reading.ofValue.settings? (sources.foldl Value.addSource (.table [])) with
    | none => .error (.settings .source)
    | some s => s.validate

/-- The settings in a TOML document. -/
def ofToml (text : String) : Except Error Settings := ofSources [tomlSource? text]

/-- The settings of a file, if one is given, and of the environment. -/
def load (file : Option File) (environment : List (String × String)) : Except Error Settings :=
  ofSources (file.toList.map File.source? ++ [some (environmentSource environment)])

end RdfReasoner.Settings
