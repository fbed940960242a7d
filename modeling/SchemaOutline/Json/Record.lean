import SchemaOutline.Json.Fault

/-!
# Reading records

A record is read from an object, whose unknown keys are passed over, or from a list that gives the
fields by their places. Fields are read in the order in which they stand; only then is it looked
whether one is missing.

* `Json.FieldRule`, `Json.RecordRule` — the fields of a record, and which of them may be missing.
* `RecordRule.missing?`, `RecordRule.shortfall?` — the first field that is missing but may not be.
* `RecordRule.read` — reading a record whose fields hold no records of the same kind.
-/

namespace SchemaOutline.Json

/-- A field of a record: whether it may be missing in an object, and at the end of a list. -/
structure FieldRule where
  name : String
  optional : Bool
  trailing : Bool
  deriving DecidableEq

namespace FieldRule

/-- A field that has to be there. -/
def required (name : String) : FieldRule :=
  ⟨name, false, false⟩

/-- A field that may be missing in an object. -/
def optionalKey (name : String) : FieldRule :=
  ⟨name, true, false⟩

/-- A field that may be missing in an object and at the end of a list. -/
def defaulted (name : String) : FieldRule :=
  ⟨name, true, true⟩

end FieldRule

/-- The name of a record, and its fields in order. -/
structure RecordRule where
  name : String
  fields : List FieldRule
  deriving DecidableEq

namespace RecordRule

/-- Whether a key is that of a field. -/
def knows (rule : RecordRule) (key : String) : Bool :=
  rule.fields.any (·.name == key)

/-- The first field that an object does not have but must have. -/
def missing? (rule : RecordRule) (entries : List (String × Json)) : Option String :=
  (rule.fields.find? fun field =>
    !field.optional && !entries.any (·.1 == field.name)).map FieldRule.name

/-- The place of the first field that a list ends before but must have, given the fields that are
left at its end. -/
def shortfall? (rule : RecordRule) (left : List FieldRule) : Option Nat :=
  (left.findIdx? fun field => !field.trailing).map (· + (rule.fields.length - left.length))

/-- The end of an object. -/
def endObject {α : Type} (rule : RecordRule) (entries : List (String × Json)) (a : α) : Reading α :=
  match rule.missing? entries with
  | some name => .error (.missingField name)
  | none => .ok a

/-- The end of a list, with the given fields left. -/
def endList {α : Type} (rule : RecordRule) (left : List FieldRule) (a : α) : Reading α :=
  match rule.shortfall? left with
  | some place => .error (.tooShort place rule.name rule.fields.length)
  | none => .ok a

section Flat

variable {α : Type} (rule : RecordRule) (put : α → String → Json → Reading α)

/-- Reads the fields among the entries of an object. -/
def readEntries (a : α) (entries : List (String × Json)) : Reading α :=
  entries.foldlM (fun a (key, value) => if rule.knows key then put a key value else .ok a) a

/-- Reads the elements of a list of the given length as the fields that are left. -/
def readElements (length : Nat) : α → List FieldRule → List Json → Reading α
  | a, left, [] => rule.endList left a
  | a, field :: left, value :: rest => do
    readElements length (← put a field.name value) left rest
  | _, [], _ :: _ => .error (.tooLong length)

/-- **Reading a record**, given how a field is put into it and the record to start from. -/
def read (start : α) : Json → Reading α
  | .object entries => do rule.endObject entries (← readEntries rule put start entries)
  | .list elements => readElements rule put elements.length start rule.fields elements
  | other => .error (.wrongKind other (.record rule.name))

end Flat

end RecordRule

end SchemaOutline.Json
