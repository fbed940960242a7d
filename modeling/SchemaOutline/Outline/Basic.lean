import SchemaOutline.Json.Basic

/-!
# Outlines

What an editor asks of a schema, in records that need no knowledge of schemas: a forest of
properties, an index of the definitions, and the list of top-level properties.

* `PropertyTree` — a property with everything below it.
* `Definition`, `Variant`, `Field` — a definition with its own properties and its variants.
* `MainProperty` — a top-level property.
* `VariantFields` — the required and the other fields of a variant.
* `Outline` — all of it.
-/

namespace SchemaOutline

/-- The name of a type, such as `string` or `object`. -/
structure TypeName where
  name : String
  deriving DecidableEq, Inhabited

/-- **A property with everything below it.** A list has the type of its elements or, if they are
objects, the properties of one. A map has one property, which stands for all its values. A variant
of a tagged union has its tag for a name. -/
structure PropertyTree where
  name : String
  types : List TypeName := []
  elementType : Option String := none
  elementProperties : List PropertyTree := []
  literals : List Json := []
  required : List String := []
  properties : List PropertyTree := []
  variants : List PropertyTree := []
  deriving Inhabited

namespace PropertyTree

/-- A property of which only the name is known. -/
def named (name : String) : PropertyTree where
  name

/-- The name of the property that stands for the values of a map. -/
def valuesName : String := "additionalProperties"

/-- Whether a type is among the types of a property. -/
def hasType (p : PropertyTree) (name : String) : Bool :=
  p.types.any (·.name == name)

/-- The property of a name directly below. -/
def property? (p : PropertyTree) (name : String) : Option PropertyTree :=
  p.properties.find? (·.name == name)

/-- Whether the property is a map: one property stands for all its values. -/
def isMap (p : PropertyTree) : Bool :=
  match p.properties with
  | [only] => only.name == valuesName
  | _ => false

end PropertyTree

/-- A property declared by a definition or a variant itself. -/
structure Field where
  name : String
  types : List TypeName
  deriving DecidableEq, Inhabited

/-- A variant of a definition: the literal that selects it, the fields it requires, the fields it
declares, and the type of a variant that is a literal. -/
structure Variant where
  tag : Option String := none
  required : List String := []
  fields : List Field := []
  type : Option TypeName := none
  deriving DecidableEq, Inhabited

/-- A named definition: the top-level property it belongs to, its own fields and its variants. -/
structure Definition where
  name : String
  mainProperty : Option String
  fields : List Field
  variants : List Variant
  deriving DecidableEq, Inhabited

/-- A top-level property, and whether its declared types include `object`. -/
structure MainProperty where
  name : String
  isObject : Bool
  deriving DecidableEq, Inhabited

/-- The fields of a variant, the required ones apart from the others. -/
structure VariantFields where
  required : List String
  optional : List String
  deriving DecidableEq, Inhabited

/-- The fields of a variant: those it requires, and the declared ones that are not among them. -/
def Variant.split (v : Variant) : VariantFields where
  required := v.required
  optional := (v.fields.map (·.name)).filter fun name => !v.required.contains name

/-- **The outline of a schema document.** -/
structure Outline where
  properties : List PropertyTree
  mainProperties : List MainProperty
  definitions : List Definition
  deriving Inhabited

/-! ## Looking up by name

Each look-up gives the first match in the order of the list. -/

/-- The top-level property of a name. -/
def MainProperty.find? (all : List MainProperty) (name : String) : Option MainProperty :=
  List.find? (fun p => p.name == name) all

/-- The definition of a name. -/
def Definition.find? (all : List Definition) (name : String) : Option Definition :=
  List.find? (fun d => d.name == name) all

/-- The definition that belongs to a top-level property. -/
def Definition.findFor? (all : List Definition) (mainProperty : String) : Option Definition :=
  List.find? (fun d => d.mainProperty == some mainProperty) all

/-- The variant that a tag selects. -/
def Variant.find? (all : List Variant) (tag : String) : Option Variant :=
  List.find? (fun v => v.tag == some tag) all

namespace Outline

/-- The top-level property of a name, with everything below it. -/
def property? (o : Outline) (name : String) : Option PropertyTree :=
  o.properties.find? (·.name == name)

/-- The names of the top-level properties, and whether each is an object. -/
def mainPropertyNames (o : Outline) : List (String × Bool) :=
  o.mainProperties.map fun p => (p.name, p.isObject)

/-- The top-level property of a name. -/
def mainProperty? (o : Outline) (name : String) : Option MainProperty :=
  MainProperty.find? o.mainProperties name

/-- The definition of a name. -/
def definition? (o : Outline) (name : String) : Option Definition :=
  Definition.find? o.definitions name

/-- The definition that belongs to a top-level property. -/
def definitionFor? (o : Outline) (mainProperty : String) : Option Definition :=
  Definition.findFor? o.definitions mainProperty

/-- The fields of the variant with the given tag of the definition that belongs to a top-level
property. -/
def variantFields? (o : Outline) (mainProperty tag : String) : Option VariantFields := do
  let definition ← o.definitionFor? mainProperty
  let variant ← Variant.find? definition.variants tag
  return variant.split

end Outline

end SchemaOutline
