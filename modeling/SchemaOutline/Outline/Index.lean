import SchemaOutline.Outline.Resolve
import SchemaOutline.Text.Search

/-!
# Indexing definitions

The definitions of a document become a flat index, and its top-level properties a list. A
definition belongs to the first top-level property whose JSON text contains its name; the text of
another name may contain it too.

* `Document.mainProperties` — the top-level properties.
* `Document.indexDefinitions` — the index.
* `Outline.ofDocument` — the whole outline.
-/

namespace SchemaOutline

namespace Schema

/-- The properties a schema declares itself. -/
def fields (s : Schema) : List Field :=
  s.namedProperties.map fun (name, child) => ⟨name, child.declaredTypes⟩

/-- The record of a variant. A variant with properties has fields, any other one with literals has
a type, and one with neither has nothing, a tag included. -/
def variant (s : Schema) : Variant :=
  if s.properties.isSome then
    { tag := s.tag, required := s.requiredNames, fields := s.fields }
  else if s.literals.isSome then
    { tag := s.tag, type := s.declaredTypes.head? }
  else
    {}

/-- The records of the variants in order. -/
def variants (s : Schema) : List Variant :=
  (s.oneOf.getD []).map variant

end Schema

namespace Document

/-- The texts of the top-level properties. -/
def propertyTexts (document : Document) : List (String × List Char) :=
  document.rawProperties.map fun (name, value) => (name, value.chars .compact 0)

/-- The first of the properties whose text contains the name of a definition. -/
def owner? (texts : List (String × List Char)) (definition : String) : Option String :=
  (texts.find? fun (_, text) => Text.occursIn definition.toList text).map Prod.fst

/-- **The index of the definitions**, in declaration order. -/
def indexDefinitions (document : Document) : List Definition :=
  let texts := document.propertyTexts
  document.definitions.map fun (name, schema) =>
    { name
      mainProperty := owner? texts name
      fields := schema.fields
      variants := schema.variants }

/-- The top-level properties, in declaration order. -/
def mainProperties (document : Document) : List MainProperty :=
  document.properties.map fun (name, schema) => ⟨name, schema.declaresObject⟩

end Document

/-- **The outline of a document.** -/
def Outline.ofDocument (document : Document) : Outline where
  properties := document.outlineProperties
  mainProperties := document.mainProperties
  definitions := document.indexDefinitions

end SchemaOutline
