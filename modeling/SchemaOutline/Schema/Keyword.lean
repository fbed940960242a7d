import SchemaOutline.Json.Fault
import SchemaOutline.Schema.Basic

/-!
# Schemas as JSON

A schema is read from an object of keywords, unknown ones being passed over, or from a list that
gives the values of the keywords by their places. `null` stands for a keyword that is not there.
Three keywords have values of several forms, which are tried in order: whatever the fault of each
form, the fault of the whole is that none fits.

* `Keyword` — the ten keywords in their order.
* `Schema.read` — the schema of a JSON value.
* `Schema.toJson` — a schema as an object of its keywords.
* `Schema.readNamed` — schemas under names.
-/

namespace SchemaOutline

/-- The keywords, in the order in which a list gives their values. -/
inductive Keyword where
  | types
  | literals
  | required
  | properties
  | elements
  | values
  | anyOf
  | allOf
  | oneOf
  | ref
  deriving DecidableEq

namespace Keyword

/-- All keywords in order. -/
def all : List Keyword :=
  [types, literals, required, properties, elements, values, anyOf, allOf, oneOf, ref]

/-- The key of a keyword. -/
def key : Keyword → String
  | types => "type"
  | literals => "enum"
  | required => "required"
  | properties => "properties"
  | elements => "items"
  | values => "additionalProperties"
  | anyOf => "anyOf"
  | allOf => "allOf"
  | oneOf => "oneOf"
  | ref => "$ref"

/-- The keyword of a key. -/
def ofKey? (key : String) : Option Keyword :=
  all.find? fun k => k.key == key

/-- The fault of a value that no form of the keyword fits. -/
def misfit (value : Json) : Keyword → Json.DataFault
  | types => .noForm "TypeDecl"
  | elements => .noForm "Items"
  | values => .noForm "AdditionalProperties"
  | properties => .wrongKind value .map
  | ref => .wrongKind value .text
  | literals | required | anyOf | allOf | oneOf => .wrongKind value .sequence

end Keyword

namespace Schema

open Json (Reading)

mutual

/-- **Reading a schema.** -/
def read : Json → Reading Schema
  | .object entries => readEntries blank entries
  | .list elements => readElements Keyword.all elements.length blank elements
  | other => .error (.wrongKind other (.record "SchemaNode"))

/-- Reads the keywords among the entries of an object into a schema. -/
def readEntries (schema : Schema) : List (String × Json) → Reading Schema
  | [] => .ok schema
  | (key, value) :: rest =>
    match Keyword.ofKey? key with
    | some keyword => do readEntries (← readKeyword schema keyword value) rest
    | none => readEntries schema rest

/-- Reads the values of the given keywords, in their order, into a schema; `length` is the length
of the whole list. -/
def readElements (keywords : List Keyword) (length : Nat) (schema : Schema) :
    List Json → Reading Schema
  | [] => .ok schema
  | value :: rest =>
    match keywords with
    | keyword :: others => do
      readElements others length (← readKeyword schema keyword value) rest
    | [] => .error (.tooLong length)

/-- Reads the value of a keyword into a schema. -/
def readKeyword (schema : Schema) (keyword : Keyword) : Json → Reading Schema
  | .null => .ok schema
  | .text s =>
    match keyword with
    | .types => .ok { schema with types := some (.single s) }
    | .ref => .ok { schema with ref := some s }
    | _ => .error (keyword.misfit (.text s))
  | .bool b =>
    match keyword with
    | .elements => .ok { schema with elements := some (.flag b) }
    | .values => .ok { schema with values := some (.flag b) }
    | _ => .error (keyword.misfit (.bool b))
  | .object entries =>
    match keyword with
    | .properties => do return { schema with properties := some (← readNamed entries) }
    | .elements =>
      match readEntries blank entries with
      | .ok each => .ok { schema with elements := some (.each each) }
      | .error _ => .error (keyword.misfit (.object entries))
    | .values =>
      match readEntries blank entries with
      | .ok each => .ok { schema with values := some (.each each) }
      | .error _ => .error (keyword.misfit (.object entries))
    | _ => .error (keyword.misfit (.object entries))
  | .list elements =>
    match keyword with
    | .types =>
      match elements.mapM Json.readText with
      | .ok names => .ok { schema with types := some (.several names) }
      | .error _ => .error (keyword.misfit (.list elements))
    | .literals => .ok { schema with literals := some elements }
    | .required => do return { schema with required := some (← elements.mapM Json.readText) }
    | .elements =>
      match readAll elements with
      | .ok schemas => .ok { schema with elements := some (.tuple schemas) }
      | .error _ =>
        match readElements Keyword.all elements.length blank elements with
        | .ok each => .ok { schema with elements := some (.each each) }
        | .error _ => .error (keyword.misfit (.list elements))
    | .values =>
      match readElements Keyword.all elements.length blank elements with
      | .ok each => .ok { schema with values := some (.each each) }
      | .error _ => .error (keyword.misfit (.list elements))
    | .anyOf => do return { schema with anyOf := some (← readAll elements) }
    | .allOf => do return { schema with allOf := some (← readAll elements) }
    | .oneOf => do return { schema with oneOf := some (← readAll elements) }
    | _ => .error (keyword.misfit (.list elements))
  | other => .error (keyword.misfit other)

/-- Reads schemas one after another. -/
def readAll : List Json → Reading (List Schema)
  | [] => .ok []
  | value :: rest => do return (← read value) :: (← readAll rest)

/-- Reads schemas under their names. -/
def readNamed : List (String × Json) → Reading (List (String × Schema))
  | [] => .ok []
  | (name, value) :: rest => do return (name, ← read value) :: (← readNamed rest)

end

/-- Reads an object of schemas under their names. -/
def readMap : Json → Reading (List (String × Schema))
  | .object entries => readNamed entries
  | other => .error (.wrongKind other .map)

/-- An entry for a keyword that is there. -/
def entry {α : Type} (keyword : Keyword) (write : α → Json) : Option α → List (String × Json)
  | some a => [(keyword.key, write a)]
  | none => []

/-- The value of `type`. -/
def typesJson : TypeChoice → Json
  | .single name => .text name
  | .several names => .texts names

mutual

/-- The entries of the keywords that are there, in their order. -/
def toEntries : Schema → List (String × Json)
  | ⟨types, literals, required, properties, elements, values, anyOf, allOf, oneOf, ref⟩ =>
    entry .types typesJson types ++
    entry .literals Json.list literals ++
    entry .required Json.texts required ++
    entry .properties id (namedJson? properties) ++
    entry .elements id (elementsJson? elements) ++
    entry .values id (valuesJson? values) ++
    entry .anyOf id (branchesJson? anyOf) ++
    entry .allOf id (branchesJson? allOf) ++
    entry .oneOf id (branchesJson? oneOf) ++
    entry .ref Json.text ref

/-- The value of `properties`. -/
def namedJson? : Option (List (String × Schema)) → Option Json
  | some named => some (.object (toNamed named))
  | none => none

/-- The value of `items`. -/
def elementsJson? : Option (ElementRule Schema) → Option Json
  | some (.tuple schemas) => some (.list (toJsons schemas))
  | some (.each schema) => some (.object schema.toEntries)
  | some (.flag allowed) => some (.bool allowed)
  | none => none

/-- The value of `additionalProperties`. -/
def valuesJson? : Option (ValueRule Schema) → Option Json
  | some (.each schema) => some (.object schema.toEntries)
  | some (.flag allowed) => some (.bool allowed)
  | none => none

/-- The value of a keyword with branches. -/
def branchesJson? : Option (List Schema) → Option Json
  | some schemas => some (.list (toJsons schemas))
  | none => none

/-- Schemas as JSON, one after another. -/
def toJsons : List Schema → List Json
  | [] => []
  | schema :: rest => .object schema.toEntries :: toJsons rest

/-- Schemas under their names as JSON. -/
def toNamed : List (String × Schema) → List (String × Json)
  | [] => []
  | (name, schema) :: rest => (name, .object schema.toEntries) :: toNamed rest

end

/-- **A schema as JSON**: an object of the keywords that are there. -/
def toJson (schema : Schema) : Json :=
  .object schema.toEntries

end Schema

end SchemaOutline
