import SchemaOutline.Json.Record
import SchemaOutline.Outline.Basic

/-!
# Outlines as JSON

The records of an outline are written as objects and read back from objects or lists. The type of
the elements of a property and the type of a variant are left out when they are absent; the tag of
a variant and the top-level property of a definition are then written as `null`.

* `PropertyTree.toJson`, `PropertyTree.read` — properties.
* `Field`, `Variant`, `Definition`, `MainProperty` — the same for each of them.
* `VariantFields.toJson`, `Outline.toJson` — answers that are only written.
-/

namespace SchemaOutline

open Json (Reading RecordRule FieldRule)

/-- An entry that is left out when its value is absent. -/
def Json.entryOf {α : Type} (key : String) (write : α → Json) : Option α → List (String × Json)
  | some a => [(key, write a)]
  | none => []

namespace TypeName

/-- The fields of a type. -/
def rule : RecordRule := ⟨"Type", [.required "name"]⟩

/-- A type as JSON. -/
def toJson (t : TypeName) : Json :=
  .object [("name", .text t.name)]

/-- Reads a type. -/
def read : Json → Reading TypeName :=
  rule.read (fun _ _ value => do return ⟨← Json.readText value⟩) ⟨""⟩

end TypeName

namespace PropertyTree

/-- The fields of a property. -/
def rule : RecordRule where
  name := "Prop"
  fields := [.required "name", .required "types", .defaulted "typeForArray",
    .required "propsForItems", .required "enums", .required "requiredProperties",
    .required "properties", .required "oneOfProperties"]

mutual

/-- **A property as JSON.** -/
def toJson : PropertyTree → Json
  | ⟨name, types, elementType, elementProperties, literals, required, properties, variants⟩ =>
    .object (
      [("name", .text name), ("types", .list (types.map TypeName.toJson))] ++
      Json.entryOf "typeForArray" .text elementType ++
      [("propsForItems", .list (toJsons elementProperties)),
        ("enums", .list literals),
        ("requiredProperties", .texts required),
        ("properties", .list (toJsons properties)),
        ("oneOfProperties", .list (toJsons variants))])

/-- Properties as JSON, one after another. -/
def toJsons : List PropertyTree → List Json
  | [] => []
  | p :: rest => p.toJson :: toJsons rest

end

/-- Reads the value of a field that holds no properties; a field of properties that is no list is
at fault. -/
def readOwnField (p : PropertyTree) (key : String) (value : Json) : Reading PropertyTree :=
  if key = "name" then do
    return { p with name := ← Json.readText value }
  else if key = "types" then do
    return { p with types := ← Json.readList TypeName.read value }
  else if key = "typeForArray" then do
    return { p with elementType := ← Json.readOption Json.readText value }
  else if key = "enums" then do
    return { p with literals := ← Json.readList .ok value }
  else if key = "requiredProperties" then do
    return { p with required := ← Json.readList Json.readText value }
  else if rule.knows key then
    .error (.wrongKind value .sequence)
  else
    .ok p

mutual

/-- **Reading a property.** -/
def read : Json → Reading PropertyTree
  | .object entries => do rule.endObject entries (← readEntries (.named "") entries)
  | .list elements => readElements elements.length rule.fields (.named "") elements
  | other => .error (.wrongKind other (.record rule.name))

/-- Reads the fields among the entries of an object into a property. -/
def readEntries (p : PropertyTree) : List (String × Json) → Reading PropertyTree
  | [] => .ok p
  | (key, value) :: rest => do readEntries (← readField p key value) rest

/-- Reads the elements of a list of the given length, as the fields that are left, into a
property. -/
def readElements (length : Nat) (left : List FieldRule) (p : PropertyTree) :
    List Json → Reading PropertyTree
  | [] => rule.endList left p
  | value :: rest =>
    match left with
    | field :: left => do readElements length left (← readField p field.name value) rest
    | [] => .error (.tooLong length)

/-- Reads the value of a field into a property. -/
def readField (p : PropertyTree) (key : String) : Json → Reading PropertyTree
  | .list elements =>
    if key = "propsForItems" then do
      return { p with elementProperties := ← readAll elements }
    else if key = "properties" then do
      return { p with properties := ← readAll elements }
    else if key = "oneOfProperties" then do
      return { p with variants := ← readAll elements }
    else
      p.readOwnField key (.list elements)
  | other => p.readOwnField key other

/-- Reads properties one after another. -/
def readAll : List Json → Reading (List PropertyTree)
  | [] => .ok []
  | value :: rest => do return (← read value) :: (← readAll rest)

end

end PropertyTree

namespace Field

/-- The fields of the record. -/
def rule : RecordRule := ⟨"Property", [.required "name", .required "types"]⟩

/-- A field as JSON. -/
def toJson (f : Field) : Json :=
  .object [("name", .text f.name), ("types", .list (f.types.map TypeName.toJson))]

/-- Puts the value of a key into a field. -/
def put (f : Field) (key : String) (value : Json) : Reading Field :=
  if key = "name" then do return { f with name := ← Json.readText value }
  else do return { f with types := ← Json.readList TypeName.read value }

/-- Reads a field. -/
def read : Json → Reading Field :=
  rule.read put default

end Field

namespace Variant

/-- The fields of the record. -/
def rule : RecordRule where
  name := "OneOfProperty"
  fields := [.optionalKey "enumName", .required "requiredProperties", .required "properties",
    .defaulted "type"]

/-- A variant as JSON. -/
def toJson (v : Variant) : Json :=
  .object (
    [("enumName", .option .text v.tag),
      ("requiredProperties", .texts v.required),
      ("properties", .list (v.fields.map Field.toJson))] ++
    Json.entryOf "type" TypeName.toJson v.type)

/-- Puts the value of a key into a variant. -/
def put (v : Variant) (key : String) (value : Json) : Reading Variant :=
  if key = "enumName" then do return { v with tag := ← Json.readOption Json.readText value }
  else if key = "requiredProperties" then do
    return { v with required := ← Json.readList Json.readText value }
  else if key = "properties" then do
    return { v with fields := ← Json.readList Field.read value }
  else do return { v with type := ← Json.readOption TypeName.read value }

/-- Reads a variant. -/
def read : Json → Reading Variant :=
  rule.read put {}

end Variant

namespace Definition

/-- The fields of the record. -/
def rule : RecordRule where
  name := "Definition"
  fields := [.required "name", .optionalKey "mainPropertyName", .required "properties",
    .required "oneOfProperties"]

/-- A definition as JSON. -/
def toJson (d : Definition) : Json :=
  .object
    [("name", .text d.name),
      ("mainPropertyName", .option .text d.mainProperty),
      ("properties", .list (d.fields.map Field.toJson)),
      ("oneOfProperties", .list (d.variants.map Variant.toJson))]

/-- Puts the value of a key into a definition. -/
def put (d : Definition) (key : String) (value : Json) : Reading Definition :=
  if key = "name" then do return { d with name := ← Json.readText value }
  else if key = "mainPropertyName" then do
    return { d with mainProperty := ← Json.readOption Json.readText value }
  else if key = "properties" then do
    return { d with fields := ← Json.readList Field.read value }
  else do return { d with variants := ← Json.readList Variant.read value }

/-- Reads a definition. -/
def read : Json → Reading Definition :=
  rule.read put default

end Definition

namespace MainProperty

/-- The fields of the record. -/
def rule : RecordRule := ⟨"MainProperty", [.required "name", .required "isObject"]⟩

/-- A top-level property as JSON. -/
def toJson (p : MainProperty) : Json :=
  .object [("name", .text p.name), ("isObject", .bool p.isObject)]

/-- Puts the value of a key into a top-level property. -/
def put (p : MainProperty) (key : String) (value : Json) : Reading MainProperty :=
  if key = "name" then do return { p with name := ← Json.readText value }
  else do return { p with isObject := ← Json.readBool value }

/-- Reads a top-level property. -/
def read : Json → Reading MainProperty :=
  rule.read put default

end MainProperty

/-- The fields of a variant as JSON. -/
def VariantFields.toJson (f : VariantFields) : Json :=
  .object [("required", .texts f.required), ("optional", .texts f.optional)]

namespace Outline

/-- A forest of properties as JSON. -/
def propertiesJson (trees : List PropertyTree) : Json :=
  .list (trees.map PropertyTree.toJson)

/-- An index of definitions as JSON. -/
def definitionsJson (definitions : List Definition) : Json :=
  .list (definitions.map Definition.toJson)

/-- **An outline as JSON.** -/
def toJson (o : Outline) : Json :=
  .object
    [("props", propertiesJson o.properties),
      ("main_properties", .list (o.mainProperties.map MainProperty.toJson)),
      ("definitions", definitionsJson o.definitions)]

end Outline

end SchemaOutline
