import RdfReasoner.Document

/-!
# Documents read back

A document that was written is read back as it was, unless its derivation level is larger than a
document can carry: then it is not read at all (`Document.ofJson?_toJson`).
-/

namespace RdfReasoner

/-- A term that was written is read back as it was. -/
theorem Term.ofJson?_toJson (t : Term) : Term.ofJson? t.toJson = some t := by
  cases t with
  | iri text => rfl
  | blank label => rfl
  | literal lexical datatype language => cases datatype <;> cases language <;> rfl

namespace Document

/-- A context that was written is read back as it was; one that is missing reads as `null`. -/
theorem context?_toJson (c : Option Term) : context? ((c.map Term.toJson).getD .null) = some c := by
  cases c with
  | none => rfl
  | some t =>
    have hread : context? t.toJson = (Term.ofJson? t.toJson).map some := by cases t <;> rfl
    rw [Option.map_some, Option.getD_some, hread, Term.ofJson?_toJson, Option.map_some]

/-- A derivation level is read back if a document can carry it. -/
theorem level?_toJson (n : Nat) : level? (.int n) = if n ≤ maxLevel then some n else none := by
  by_cases h : n ≤ maxLevel <;> simp [level?, Json.intIn?, h]

/-- A timestamp is read back as it was. -/
theorem timestamp?_toJson (t : Timestamp) : timestamp? (.int t.millis) = some t := by
  rw [timestamp?, Timestamp.ofMillis?, dif_pos t.fits]

/-- A document that was written is read back as it was if it can carry its level, and not at all
otherwise. -/
theorem ofJson?_toJson (d : Document) :
    ofJson? d.toJson = if d.level ≤ maxLevel then some d else none := by
  have hparts : ofJson? d.toJson =
      ofParts? d.statement.subject.toJson d.statement.predicate.toJson d.statement.object.toJson
        ((d.statement.context.map Term.toJson).getD .null) (.int d.level)
        (.int d.timestamp.millis) := by
    obtain ⟨⟨s, p, o, c⟩, level, timestamp⟩ := d
    cases c <;> rfl
  rw [hparts, ofParts?]
  simp only [Term.ofJson?_toJson, context?_toJson, level?_toJson, timestamp?_toJson]
  split <;> rfl

end Document

end RdfReasoner
