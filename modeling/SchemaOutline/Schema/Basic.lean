import SchemaOutline.Json.Printer

/-!
# Schemas

A JSON Schema reduced to the ten keywords the outline is made from. A keyword that is not there is
told apart from one whose value is empty.

* `Schema` — the keywords of one schema, with the schemas inside it.
* `Schema.form` — which keyword decides how a schema is outlined.
* `Schema.typeNames`, `Schema.literalValues`, `Schema.requiredNames` — what `type`, `enum` and
  `required` declare, empty where the keyword is not there.
* `Schema.tag` — the literal that tells one variant of a tagged union from the others.
-/

namespace SchemaOutline

/-- What `type` declares: one name, or names in order. -/
inductive TypeChoice where
  | single (name : String)
  | several (names : List String)
  deriving DecidableEq

/-- The declared names in order. -/
def TypeChoice.names : TypeChoice → List String
  | single name => [name]
  | several names => names

/-- What `items` says of the elements of a list: a schema for each place, one schema for every
element, or only whether there may be any. -/
inductive ElementRule (α : Type) where
  | tuple (schemas : List α)
  | each (schema : α)
  | flag (allowed : Bool)

/-- What `additionalProperties` says of the values under names that are not declared: one schema
for all of them, or only whether there may be any. -/
inductive ValueRule (α : Type) where
  | each (schema : α)
  | flag (allowed : Bool)

/-- **A schema.** -/
structure Schema where
  types : Option TypeChoice := none
  literals : Option (List Json) := none
  required : Option (List String) := none
  properties : Option (List (String × Schema)) := none
  elements : Option (ElementRule Schema) := none
  values : Option (ValueRule Schema) := none
  anyOf : Option (List Schema) := none
  allOf : Option (List Schema) := none
  oneOf : Option (List Schema) := none
  ref : Option String := none

namespace Schema

/-- The schema without keywords. -/
def blank : Schema := {}

instance : Inhabited Schema := ⟨blank⟩

/-- The keyword that decides how a schema is outlined. -/
inductive Form where
  | anyOf
  | map
  | allOf
  | oneOf
  | plain
  deriving DecidableEq

/-- **The form of a schema**, by the first of `anyOf`, `additionalProperties`, `allOf` and `oneOf`
that is there. -/
def form (s : Schema) : Form :=
  if s.anyOf.isSome then .anyOf
  else if s.values.isSome then .map
  else if s.allOf.isSome then .allOf
  else if s.oneOf.isSome then .oneOf
  else .plain

/-- The declared type names in order. -/
def typeNames (s : Schema) : List String :=
  (s.types.map TypeChoice.names).getD []

/-- The enumerated literals in order. -/
def literalValues (s : Schema) : List Json :=
  s.literals.getD []

/-- The required names in order. -/
def requiredNames (s : Schema) : List String :=
  s.required.getD []

/-- The declared properties in order. -/
def namedProperties (s : Schema) : List (String × Schema) :=
  s.properties.getD []

/-- Whether `object` is among the declared types. -/
def declaresObject (s : Schema) : Bool :=
  s.typeNames.any (· == "object")

/-- The literal that tags a variant: a variant with properties has it as the first literal of its
property `type`, any other one as its own first literal. -/
def tagLiteral (s : Schema) : Option Json :=
  match s.properties with
  | some properties => (properties.lookup "type").bind fun tag => tag.literalValues.head?
  | none => s.literalValues.head?

/-- The text of the tag of a variant. -/
def tag (s : Schema) : Option String :=
  s.tagLiteral.map Json.literalText

end Schema

end SchemaOutline
