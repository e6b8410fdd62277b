import RdfReasoner.Error
import RdfReasoner.Json

/-!
# Documents

A document is one output of a plan as it travels between the storage and whoever ran the plan: a
statement, its derivation level and its timestamp.  `Document.toJson` writes it and
`Document.ofJson?` reads it.

A term is an object with its kind as the only key.  A document is an object with a field for every
part; a missing context is left out.  When a document is read, fields that are not asked for are
ignored, a missing field and `null` mean the same where a part may be missing, and the parts may
also stand in an array in their order.
-/

namespace RdfReasoner

namespace Term

/-- A text that may be missing. -/
def optionalText : Option String → Json
  | some s => .str s
  | none => .null

/-- The JSON form of a term. -/
def toJson : Term → Json
  | iri text => .obj [("Iri", .str text)]
  | blank label => .obj [("Blank", .str label)]
  | literal lexical datatype language =>
    .obj [("Literal", .obj [("lexical", .str lexical), ("datatype", optionalText datatype),
      ("language", optionalText language)])]

/-- The text of a field that may be missing. -/
def optionalField? (j : Json) (name : String) : Option (Option String) :=
  match j.optional? name with
  | none => some none
  | some v => v.str?.map some

/-- Reads the JSON form of a term. -/
def ofJson? : Json → Option Term
  | .obj [(kind, content)] =>
    match kind, content with
    | "Iri", .str text => some (iri text)
    | "Blank", .str label => some (blank label)
    | "Literal", .obj fields => do
      some (literal (← (← (Json.obj fields).field? "lexical").str?)
        (← optionalField? (.obj fields) "datatype") (← optionalField? (.obj fields) "language"))
    | _, _ => none
  | _ => none

end Term

/-- An output of a plan. -/
structure Document where
  statement : Statement
  level : Nat
  timestamp : Timestamp
deriving DecidableEq

namespace Document

/-- The JSON form of a document. -/
def toJson (d : Document) : Json :=
  .obj <|
    [("subject", d.statement.subject.toJson), ("predicate", d.statement.predicate.toJson),
      ("object", d.statement.object.toJson)] ++
    d.statement.context.toList.map (fun c => ("context", c.toJson)) ++
    [("derivation_level", .int d.level), ("timestamp", .int d.timestamp.millis)]

/-- The largest derivation level that a document can carry. -/
def maxLevel : Nat := 0xffffffff

/-- Reads a derivation level. -/
def level? (j : Json) : Option Nat := (j.intIn? 0 maxLevel).map Int.toNat

/-- Reads a timestamp. -/
def timestamp? : Json → Option Timestamp
  | .int n => Timestamp.ofMillis? n
  | _ => none

/-- Reads a context that may be `null`. -/
def context? : Json → Option (Option Term)
  | .null => some none
  | j => (Term.ofJson? j).map some

/-- Puts a document together from the JSON forms of its parts. -/
def ofParts? (subject predicate object context level timestamp : Json) : Option Document := do
  some ⟨⟨← Term.ofJson? subject, ← Term.ofJson? predicate, ← Term.ofJson? object,
    ← context? context⟩, ← level? level, ← timestamp? timestamp⟩

/-- Reads the JSON form of a document. -/
def ofJson? : Json → Option Document
  | .arr [subject, predicate, object, context, level, timestamp] =>
    ofParts? subject predicate object context level timestamp
  | .obj fields => do
    let j := Json.obj fields
    ofParts? (← j.field? "subject") (← j.field? "predicate") (← j.field? "object")
      ((j.field? "context").getD .null) (← j.field? "derivation_level") (← j.field? "timestamp")
  | _ => none

/-- Reads the JSON form of a document, or says that it is none. -/
def ofJson (j : Json) : Except Error Document :=
  match ofJson? j with
  | some d => .ok d
  | none => .error (.malformed .document)

/-- The fact that a document tells, under an access label. -/
def toFact (d : Document) (visibility : String) : Fact :=
  ⟨d.statement, ⟨d.level, d.timestamp, visibility⟩⟩

end Document

end RdfReasoner
