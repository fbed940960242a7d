import SchemaOutline.Outline.Basic
import SchemaOutline.Schema.Document

/-!
# Resolving properties

The properties of a schema become trees. How a property is resolved depends on the form of its
schema; references are followed into the definitions. Three steps go one level deeper: from a
schema to its properties, from a list to the definition of its elements, and from a map to the map
that its values are. Definitions may refer to each other in a circle, so there is a last level;
a step beyond it is skipped, and what it would have added stays empty.

The steps of a level are built from the steps of the level below it, so resolving is recursion on
the number of levels left. It is written once, for any account of what going deeper means:

* `Descent.plain` — going deeper is nothing but going deeper;
* `Descent.strict` — a step that would be skipped makes the whole result absent;
* `Descent.counted` — a counter holds the level, and a step is skipped once it is at the limit.

The main definitions:

* `Steps` — the three steps, and `Steps.ofRoom` — those with a number of levels left.
* `Steps.resolveProperty` — the tree of one property.
* `Document.propertiesWithin`, `Document.outlineProperties` — the forest of a schema or document.
* `Resolver` — a document with a counter, for one question after another.
-/

namespace SchemaOutline

/-- What going one level deeper means: how a step on the next level runs, and what stands for a
step when no level is left. Either may put `skipped` in the place of its result. -/
structure Descent (m : Type → Type) where
  deeper : {α : Type} → (skipped : α) → m α → m α
  beyond : {α : Type} → (skipped : α) → m α

namespace Descent

/-- A step runs, and when no level is left it is skipped. -/
def plain : Descent Id where
  deeper _ step := step
  beyond skipped := skipped

/-- A step runs, and when no level is left there is no result at all. -/
def strict : Descent Option where
  deeper _ step := step
  beyond _ := none

/-- A counter is one higher while a step runs; a step is skipped when the counter is at the
limit. -/
def counted (limit : Nat) : Descent (StateM Nat) where
  deeper skipped step := do
    let level ← get
    if limit ≤ level then
      return skipped
    else
      set (level + 1)
      let result ← step
      set level
      return result
  beyond skipped := pure skipped

end Descent

/-- The steps that go one level deeper: the properties of a schema, the elements of a list (given
their definition and the property of the list), and the properties of the map that the values of a
map are. -/
structure Steps (m : Type → Type) where
  properties : Schema → m (List PropertyTree)
  elements : Schema → PropertyTree → m PropertyTree
  values : Schema → m (List PropertyTree)

/-- Adds a property to another. The shape of elements is replaced where the added property has
one. -/
def PropertyTree.absorb (p union : PropertyTree) : PropertyTree where
  name := p.name
  types := p.types ++ union.types
  elementType := if union.elementType.isSome then union.elementType else p.elementType
  elementProperties :=
    if union.elementProperties.isEmpty then p.elementProperties else union.elementProperties
  literals := p.literals ++ union.literals
  required := p.required ++ union.required
  properties := p.properties ++ union.properties
  variants := p.variants ++ union.variants

/-- The declared types of a schema. -/
def Schema.declaredTypes (s : Schema) : List TypeName :=
  s.typeNames.map TypeName.mk

namespace Steps

section Forms

variable {m : Type → Type} [Monad m] (below : Steps m) (target? : Schema → Option Schema)

/-- Adds to a property what the `items` of a schema say of its elements: the first type they
declare or, if they declare none, what the definition they refer to says. -/
def withElements (s : Schema) (p : PropertyTree) : m PropertyTree :=
  match s.elements with
  | some (.each element) =>
    if element.types.isSome then
      pure { p with elementType := element.typeNames.head? }
    else
      match target? element with
      | some target => below.elements target p
      | none => pure p
  | _ => pure p

/-- The property of a list, given the definition of its elements. A list of lists has the elements
of the inner list. An element that is neither a list nor has properties gives its type, unless it
is an object. -/
def ofElements (target : Schema) (p : PropertyTree) : m PropertyTree := do
  let p ← below.withElements target? target p
  let children ← below.properties target
  let p := { p with
    elementProperties := children
    literals := p.literals ++ target.literalValues
    required := p.required ++ target.requiredNames }
  if children.isEmpty && p.elementType.isNone && !target.declaresObject then
    return { p with elementType := target.typeNames.head? }
  else
    return p

/-- A property that takes everything from its own keywords. -/
def resolvePlain (name : String) (s : Schema) : m PropertyTree := do
  let p ← below.withElements target? s { PropertyTree.named name with
    types := s.declaredTypes
    literals := s.literalValues
    required := s.requiredNames }
  let children ← below.properties s
  return { p with properties := children }

/-- The variants of a schema, each named by its tag. -/
def resolveVariants (s : Schema) : m (List PropertyTree) :=
  (s.oneOf.getD []).mapM fun variant =>
    below.resolvePlain target? (variant.tag.getD "") variant

/-- Adds everything a definition declares to a property. -/
def mergeDefinition (target : Schema) (p : PropertyTree) : m PropertyTree := do
  let children ← below.properties target
  below.withElements target? target { p with
    types := p.types ++ target.declaredTypes
    properties := p.properties ++ children
    literals := p.literals ++ target.literalValues
    required := p.required ++ target.requiredNames }

/-- Adds the types a branch declares itself to a property. -/
def mergeTypes (branch : Schema) (p : PropertyTree) : m PropertyTree :=
  if branch.types.isSome then
    below.withElements target? branch { p with types := p.types ++ branch.declaredTypes }
  else
    pure p

/-- Adds a branch of `anyOf` to a property. -/
def mergeAlternative (p : PropertyTree) (branch : Schema) : m PropertyTree := do
  let p ← below.mergeTypes target? branch p
  match target? branch with
  | some target => below.mergeDefinition target? target p
  | none => pure p

/-- The union of the branches of `anyOf`, in order. -/
def resolveAnyOf (name : String) (s : Schema) : m PropertyTree :=
  (s.anyOf.getD []).foldlM (below.mergeAlternative target?) (.named name)

/-- Adds a branch of `allOf` to a property. A definition with `anyOf` is resolved as the union
that it is, with its variants, and any other definition is merged. -/
def mergePart (p : PropertyTree) (branch : Schema) : m PropertyTree := do
  let p ← below.mergeTypes target? branch p
  match target? branch with
  | some target =>
    if target.anyOf.isSome then
      let union ← below.resolveAnyOf target? p.name target
      let variants ← below.resolveVariants target? target
      return p.absorb { union with variants }
    else
      below.mergeDefinition target? target p
  | none => pure p

/-- The branches of `allOf`, merged in order. -/
def resolveAllOf (name : String) (s : Schema) : m PropertyTree :=
  (s.allOf.getD []).foldlM (below.mergePart target?) (.named name)

/-- The property that stands for the values of a map, given their definition. If they are maps
themselves, the property for their values is the last one. -/
def resolveValues (target : Schema) : m PropertyTree := do
  let children ← below.properties target
  let variants ← below.resolveVariants target? target
  let inner ← match target.values with
    | some (.each _) => below.values target
    | _ => pure []
  return { PropertyTree.named PropertyTree.valuesName with
    types := target.declaredTypes
    literals := target.literalValues
    required := target.requiredNames
    properties := children ++ inner
    variants }

/-- A map: an object with one property for all values. The types its values declare themselves are
types of the map. -/
def resolveMap (name : String) (s : Schema) : m PropertyTree :=
  match s.values with
  | some (.each values) => do
    let p := { PropertyTree.named name with types := ⟨"object"⟩ :: values.declaredTypes }
    match target? values with
    | some target =>
      let child ← below.resolveValues target? target
      let p ← below.withElements target? target p
      return { p with properties := [child] }
    | none => return { p with properties := [.named PropertyTree.valuesName] }
  | _ =>
    return { PropertyTree.named name with
      types := [⟨"object"⟩]
      properties := [.named PropertyTree.valuesName] }

/-- **The tree of a property**, by the form of its schema. -/
def resolveProperty (name : String) (s : Schema) : m PropertyTree :=
  match s.form with
  | .anyOf => below.resolveAnyOf target? name s
  | .map => below.resolveMap target? name s
  | .allOf => below.resolveAllOf target? name s
  | .oneOf => do
    let p ← below.resolvePlain target? name s
    let variants ← below.resolveVariants target? s
    return { p with variants }
  | .plain => below.resolvePlain target? name s

end Forms

section Levels

variable {m : Type → Type} [Monad m] (d : Descent m)

/-- The steps when no level is left. A schema without `properties` needs none. -/
def exhausted : Steps m where
  properties s := if s.properties.isSome then d.beyond [] else pure []
  elements _ p := d.beyond p
  values _ := d.beyond []

/-- The steps of a level, given the steps of the level below it. -/
def above (target? : Schema → Option Schema) (below : Steps m) : Steps m where
  properties s :=
    match s.properties with
    | some named =>
      d.deeper [] (named.mapM fun (name, child) => below.resolveProperty target? name child)
    | none => pure []
  elements target p := d.deeper p (below.ofElements target? target p)
  values target :=
    d.deeper [] (PropertyTree.properties <$>
      below.resolveMap target? PropertyTree.valuesName target)

/-- **The steps of a level** with the given number of levels left. -/
def ofRoom (target? : Schema → Option Schema) : (room : Nat) → Steps m
  | 0 => exhausted d
  | room + 1 => above d target? (ofRoom target? room)

end Levels

end Steps

/-- How many levels there are. -/
def maxLevels : Nat := 64

namespace Document

/-- The trees of the properties of a schema, with the given number of levels. -/
def propertiesWithin (document : Document) (levels : Nat) (s : Schema) : List PropertyTree :=
  ((Steps.ofRoom .plain document.referenced? levels).properties s).run

/-- The trees of the properties of a schema, absent if a step would be skipped. -/
def strictPropertiesWithin (document : Document) (levels : Nat) (s : Schema) :
    Option (List PropertyTree) :=
  (Steps.ofRoom .strict document.referenced? levels).properties s

/-- The trees of the properties of a schema. -/
def propertiesOf (document : Document) (s : Schema) : List PropertyTree :=
  document.propertiesWithin maxLevels s

/-- **The forest of a document**: the trees of its top-level properties. -/
def outlineProperties (document : Document) : List PropertyTree :=
  document.propertiesOf document.root

end Document

/-- A document with the level at which its next question is resolved. -/
structure Resolver where
  document : Document
  level : Nat := 0

namespace Resolver

/-- The trees of the properties of a schema, and the resolver after it. -/
def propertiesOf (r : Resolver) (s : Schema) : List PropertyTree × Resolver :=
  let counted := Steps.ofRoom (.counted maxLevels) r.document.referenced? maxLevels
  let (trees, level) := (counted.properties s).run r.level
  (trees, { r with level })

/-- The forest of the document, and the resolver after it. -/
def forest (r : Resolver) : List PropertyTree × Resolver :=
  r.propertiesOf r.document.root

end Resolver

end SchemaOutline
