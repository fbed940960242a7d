import SchemaOutline.Proofs.Outline.BareReferences
import SchemaOutline.Proofs.Outline.MapsOfMaps

/-!
# The values of a map beside a part

A definition may describe the values of a map, and it may be a part of a property, as a branch of
`allOf`. Both take over the types, the required names and the properties of the definition. As a
part, a union is what its branches make of it: the types they declare, and all of the definitions
they refer to. As the values of a map it is what it declares beside its branches, which need not be
anything. So the two have the same of every definition that is neither a union nor a list, and of a
union only if its branches add up to what it declares itself.

* `Schema.constituents` — the schemas that a definition is made of.
* `Steps.extends_resolveAnyOf` — a union has what its constituents have as plain schemas.
* `PropertyTree.DeclaredBy` — a property has what some schemas declare, one after another.
* `Document.declaredBy_part` — a part has what the constituents of its definition declare.
* `Document.sameDeclared_values_part` — the values of a map beside a part of the same definition.
-/

namespace SchemaOutline

namespace Schema

/-- What a branch says beside its reference: its types and, if it declares any, its elements. -/
def besideReference (branch : Schema) : Schema where
  types := branch.types
  elements := branch.types.bind fun _ => branch.elements

/-- **The schemas that a definition is made of**: for a union, what each branch says beside its
reference and the definition that it refers to, and otherwise the definition itself. -/
def constituents (target? : Schema → Option Schema) (s : Schema) : List Schema :=
  match s.anyOf with
  | some branches =>
    branches.flatMap fun branch => branch.besideReference :: (target? branch).toList
  | none => [s]

theorem constituents_of_single (target? : Schema → Option Schema) {s : Schema}
    (single : s.anyOf = none) : s.constituents target? = [s] := by
  rw [constituents, single]

theorem constituents_of_union (target? : Schema → Option Schema) {s : Schema}
    {branches : List Schema} (union : s.anyOf = some branches) :
    s.constituents target? =
      branches.flatMap fun branch => branch.besideReference :: (target? branch).toList := by
  rw [constituents, union]

/-- What a schema has of its own and, behind it, what it takes over as a list from the definitions
that describe its elements, their elements and so on. -/
def withTaken {α : Type} (own : Schema → List α) (target? : Schema → Option Schema) (room : Nat)
    (s : Schema) : List α :=
  own s ++ (s.elementChain target? room).flatMap own

/-- A schema takes nothing over if no definition describes its elements. -/
theorem withTaken_eq_own {α : Type} (own : Schema → List α) {target? : Schema → Option Schema}
    {s : Schema} (last : s.elementTarget? target? = none) (room : Nat) :
    s.withTaken own target? room = own s := by
  rw [withTaken, elementChain_eq_nil last]
  exact List.append_nil _

end Schema

/-! ## What a union is made of -/

namespace Steps

variable (target? : Schema → Option Schema) (room : Nat) (name : String)

/-- A branch without a reference is the plain schema of what it says. -/
theorem run_mergeTypes_named (branch : Schema) :
    ((ofRoom .plain target? room).mergeTypes target? branch (.named name)).run =
      ((ofRoom .plain target? room).resolvePlain target? name branch.besideReference).run := by
  let said := branch.besideReference
  have own := withElements_same (ofRoom_keepsOwn target? room) target? said (said.bare name)
  have noProperties : ((ofRoom .plain target? room).properties said).run = [] := by
    cases room <;> rfl
  have plain : ((ofRoom .plain target? room).resolvePlain target? name said).run =
      ((ofRoom .plain target? room).withElements target? said (said.bare name)).run := by
    rw [run_resolvePlain, noProperties]
    exact PropertyTree.with_properties own.properties
  rw [plain]
  unfold mergeTypes
  -- without types the elements of a branch are not looked at
  cases types : branch.types with
  | none =>
      have nothing : said = {} := by simp [said, Schema.besideReference, types]
      rw [nothing]
      rfl
  | some choice =>
      have all : said = { types := branch.types, elements := branch.elements } := by
        simp [said, Schema.besideReference, types]
      rw [all]
      rfl

/-- A branch of a union adds what its constituents have as plain schemas. -/
theorem extends_mergeAlternative (branch : Schema) {p : PropertyTree} (named : p.name = name) :
    let steps := ofRoom .plain target? room
    (steps.mergeAlternative target? p branch).run.Extends p
      ((branch.besideReference :: (target? branch).toList).map fun s =>
        (steps.resolvePlain target? name s).run) := by
  intro steps
  have typed := (adds_mergeTypes target? room name branch).extends_named named
  rw [run_mergeTypes_named] at typed
  unfold mergeAlternative
  cases target? branch with
  | none => exact typed
  | some target =>
      have merged := (adds_mergeDefinition target? room name target).extends_named
        (typed.name.trans named)
      rw [run_mergeDefinition_named (ofRoom_ignoresProperties target? room)] at merged
      exact typed.trans merged

/-- **A union has what its constituents have as plain schemas**, one after another. -/
theorem extends_resolveAnyOf {s : Schema} {branches : List Schema}
    (union : s.anyOf = some branches) :
    let steps := ofRoom .plain target? room
    (steps.resolveAnyOf target? name s).run.Extends (.named name)
      ((s.constituents target?).map fun part => (steps.resolvePlain target? name part).run) := by
  intro steps
  have each := fun branch p => @extends_mergeAlternative target? room name branch p
  rw [resolveAnyOf, union, s.constituents_of_union target? union, List.map_flatMap]
  exact extends_foldlM each branches rfl

end Steps

/-! ## What schemas declare -/

namespace PropertyTree

/-- **A property has what some schemas declare**, one after another: their types and properties, and
their literals and required names together with those that they take over as lists. -/
structure DeclaredBy (p : PropertyTree) (d : Document) (room : Nat) (schemas : List Schema) :
    Prop where
  types : p.types = schemas.flatMap Schema.declaredTypes
  literals : p.literals =
    schemas.flatMap (Schema.withTaken Schema.literalValues d.referenced? room)
  required : p.required =
    schemas.flatMap (Schema.withTaken Schema.requiredNames d.referenced? room)
  properties : p.properties = schemas.flatMap (d.propertiesWithin room)

/-- Two properties have the same types, required names and properties. -/
@[mk_iff]
structure SameDeclared (p q : PropertyTree) : Prop where
  types : p.types = q.types
  required : p.required = q.required
  properties : p.properties = q.properties

/-- A plain schema has what it declares. -/
theorem declaredBy_resolvePlain (d : Document) (room : Nat) (name : String) (s : Schema) :
    ((Steps.ofRoom .plain d.referenced? room).resolvePlain d.referenced? name s).run.DeclaredBy d
      room [s] where
  types := by
    rw [List.flatMap_singleton]
    exact (Steps.withElements_same (Steps.ofRoom_keepsOwn d.referenced? room) _ s _).types
  literals := by
    rw [List.flatMap_singleton]
    exact Steps.run_withElements_literals d.referenced? room s _
  required := by
    rw [List.flatMap_singleton]
    exact Steps.run_withElements_required d.referenced? room s _
  properties := by
    rw [List.flatMap_singleton]
    rfl

/-- A property to which schemas are added as plain ones has what they declare. -/
theorem Extends.declaredBy {p : PropertyTree} {d : Document} {room : Nat} {name : String}
    {schemas : List Schema}
    (extended : p.Extends (.named name) (schemas.map fun s =>
      ((Steps.ofRoom .plain d.referenced? room).resolvePlain d.referenced? name s).run)) :
    p.DeclaredBy d room schemas := by
  let plain (s : Schema) :=
    ((Steps.ofRoom .plain d.referenced? room).resolvePlain d.referenced? name s).run
  have each (s : Schema) : (plain s).DeclaredBy d room [s] := declaredBy_resolvePlain d room name s
  have total {α : Type} {field : PropertyTree → List α} {own : Schema → List α}
      (alone : ∀ s, field (plain s) = [s].flatMap own) :
      (schemas.map plain).flatMap field = schemas.flatMap own := by
    rw [List.flatMap_map]
    exact List.flatMap_congr fun s _ => (alone s).trans (List.flatMap_singleton own s)
  exact {
    types := extended.types.trans (total fun s => (each s).types)
    literals := extended.literals.trans (total fun s => (each s).literals)
    required := extended.required.trans (total fun s => (each s).required)
    properties := extended.properties.trans (total fun s => (each s).properties) }

/-- The shape of a definition beside a property that has what some schemas declare. -/
theorem StandsForValues.sameDeclared_iff {child part : PropertyTree} {d : Document} {room : Nat}
    {s : Schema} {schemas : List Schema} (shape : child.StandsForValues s)
    (own : child.properties = d.propertiesWithin room s)
    (declared : part.DeclaredBy d room schemas) :
    child.SameDeclared part ↔
      s.declaredTypes = schemas.flatMap Schema.declaredTypes ∧
      s.requiredNames =
        schemas.flatMap (Schema.withTaken Schema.requiredNames d.referenced? room) ∧
      d.propertiesWithin room s = schemas.flatMap (d.propertiesWithin room) := by
  rw [PropertyTree.sameDeclared_iff, shape.types, shape.required, own, declared.types,
    declared.required, declared.properties]

end PropertyTree

namespace Document

variable (d : Document)

/-- **A part has what the constituents of its definition declare.** -/
theorem declaredBy_part {target : Schema} {ref : String}
    (found : d.referenced? (.reference ref) = some target) (name : String) (room : Nat) :
    ((Steps.ofRoom .plain d.referenced? room).mergePart d.referenced? (.named name)
      (.reference ref)).run.DeclaredBy d room (target.constituents d.referenced?) := by
  let steps := Steps.ofRoom .plain d.referenced? room
  cases union : target.anyOf with
  | none =>
      have merged : steps.mergePart d.referenced? (.named name) (.reference ref) =
          steps.mergeDefinition d.referenced? target (.named name) :=
        Steps.mergeBranch_reference found union .allOf _
      have ignores := Steps.ofRoom_ignoresProperties d.referenced? room
      rw [merged, Steps.run_mergeDefinition_named ignores,
        target.constituents_of_single d.referenced? union]
      exact PropertyTree.declaredBy_resolvePlain d room name target
  | some branches =>
      have added := Steps.extends_resolveAnyOf d.referenced? room name union
      rw [Steps.run_mergePart_reference_union d.referenced? room name found (by rw [union]; rfl)]
      exact { added.declaredBy with }

/-- **The values of a map beside a part of the same definition.** On every level, the property for
the values has what the definition declares itself, and the part has what its constituents declare.
So they have the same types, required names and properties exactly if its constituents add up to
what it declares itself, as they do if it is no union and no definition describes its elements. -/
theorem sameDeclared_values_part {definition : String} {target s t : Schema}
    (plain : '/' ∉ definition.toList) (defined : d.definition? definition = some target)
    (noMap : ∀ values, ¬ target.IsMapOf values) (alone : s.anyOf = none)
    (map : s.IsMapOfDefinition definition)
    (single : t.HasBranches .allOf [.reference (reference definition)])
    (key other : String) (room : Nat) :
    let constituents := target.constituents d.referenced?
    ∃ tree child part,
      d.propertyWithin? key s (room + 1) = some tree ∧ tree.properties = [child] ∧
      d.propertyWithin? other t (room + 1) = some part ∧
      child.StandsForValues target ∧ child.properties = d.propertiesWithin room target ∧
      part.DeclaredBy d room constituents ∧
      (target.anyOf = none → target.elementTarget? d.referenced? = none →
        child.SameDeclared part) ∧
      (child.SameDeclared part ↔
        target.declaredTypes = constituents.flatMap Schema.declaredTypes ∧
        target.requiredNames =
          constituents.flatMap (Schema.withTaken Schema.requiredNames d.referenced? room) ∧
        d.propertiesWithin room target = constituents.flatMap (d.propertiesWithin room)) := by
  intro constituents
  let steps := Steps.ofRoom .plain d.referenced? room
  obtain ⟨values, isMap, ref⟩ := map
  have valuesFound : d.referenced? values = some target :=
    (referenced?_of_ref plain ref).trans defined
  have partFound : d.referenced? (.reference (reference definition)) = some target :=
    (referenced?_of_ref plain rfl).trans defined
  have shape := steps.standsForValues_resolveValues d.referenced? target
    (Steps.ofRoom_keepsOwn d.referenced? room)
  have own : (steps.resolveValues d.referenced? target).run.properties =
      d.propertiesWithin room target :=
    steps.run_resolveValues_properties_last d.referenced? target noMap
  have declared := d.declaredBy_part partFound other room
  have agree := shape.sameDeclared_iff own declared
  refine ⟨_, _, _, rfl, ?_, d.propertyWithin?_of_hasBranches single other room, shape, own,
    declared, fun noUnion noList => agree.mpr ?_, agree⟩
  · rw [steps.resolveProperty_map d.referenced? key alone (by rw [isMap]; rfl),
      steps.run_resolveMap_values d.referenced? isMap valuesFound]
  · rw [target.constituents_of_single d.referenced? noUnion]
    simp only [List.flatMap_singleton, Schema.withTaken_eq_own _ noList, and_self]

end Document

namespace Garden

/-- A tree has a height. -/
def tree : Schema where
  types := some (.single "object")
  required := some ["height"]
  properties := some [("height", { types := some (.single "number") })]

/-- A herb has a season. -/
def herb : Schema where
  types := some (.single "object")
  properties := some [("season", { types := some (.single "string") })]

def branches : List Schema :=
  [.reference (Document.reference "Tree"), .reference (Document.reference "Herb")]

/-- A plant is a tree or a herb, and declares nothing itself. -/
def plant : Schema := BranchKeyword.anyOf.only branches

/-- A map whose values a definition describes. -/
def mapOf (name : String) : Schema where
  values := some (.each (.reference (Document.reference name)))

/-- A property with a definition as its only part. -/
def partOf (name : String) : Schema :=
  BranchKeyword.allOf.only [.reference (Document.reference name)]

def json : Json :=
  let reference (name : String) := Json.object [("$ref", .text (Document.reference name))]
  let object (required : List (String × Json)) (name type : String) := Json.object
    (("type", .text "object") :: required ++
      [("properties", .object [(name, .object [("type", .text type)])])])
  .object
    [("properties", .object
        [("beds", .object [("additionalProperties", reference "Plant")]),
          ("gift", .object [("allOf", .list [reference "Plant"])])]),
      ("definitions", .object
        [("Plant", .object [("anyOf", .list [reference "Tree", reference "Herb"])]),
          ("Tree", object [("required", .list [.text "height"])] "height" "number"),
          ("Herb", object [] "season" "string")])]

/-- A garden with a plant in each of its beds, and one to give away. -/
def document : Document where
  raw := json
  root := { properties := some [("beds", mapOf "Plant"), ("gift", partOf "Plant")] }
  definitions := [("Plant", plant), ("Tree", tree), ("Herb", herb)]

theorem ofJson_json : Document.ofJson json = .ok document := rfl

theorem mapOf_isMapOfDefinition (name : String) : (mapOf name).IsMapOfDefinition name :=
  ⟨_, rfl, rfl⟩

theorem partOf_hasBranches (name : String) :
    (partOf name).HasBranches .allOf [.reference (Document.reference name)] :=
  BranchKeyword.allOf.hasBranches_only _

end Garden

/-- A tree in a bed is the tree that is given away, and a plant is not. -/
theorem Document.sameDeclared_values_part_garden :
    '/' ∉ "Tree".toList ∧ Garden.document.definition? "Tree" = some Garden.tree ∧
    (∀ values, ¬ Garden.tree.IsMapOf values) ∧ Garden.tree.anyOf = none ∧
    Garden.tree.elementTarget? Garden.document.referenced? = none ∧
    '/' ∉ "Plant".toList ∧ Garden.document.definition? "Plant" = some Garden.plant ∧
    (∀ values, ¬ Garden.plant.IsMapOf values) ∧
    (∀ name, (Garden.mapOf name).anyOf = none ∧ (Garden.mapOf name).IsMapOfDefinition name ∧
      (Garden.partOf name).HasBranches .allOf [.reference (reference name)]) ∧
    (∃ trees child gift,
      Garden.document.propertyWithin? "trees" (Garden.mapOf "Tree") maxLevels = some trees ∧
      trees.properties = [child] ∧
      Garden.document.propertyWithin? "gift" (Garden.partOf "Tree") maxLevels = some gift ∧
      child.SameDeclared gift ∧ child.required = ["height"]) ∧
    ∃ beds child gift,
      Garden.document.propertyWithin? "beds" (Garden.mapOf "Plant") maxLevels = some beds ∧
      beds.properties = [child] ∧
      Garden.document.propertyWithin? "gift" (Garden.partOf "Plant") maxLevels = some gift ∧
      ¬ child.SameDeclared gift ∧ child.required = [] ∧ gift.required = ["height"] := by
  have noTreeMap : ∀ values, ¬ Garden.tree.IsMapOf values := nofun
  have noPlantMap : ∀ values, ¬ Garden.plant.IsMapOf values := nofun
  have isTree : Garden.document.definition? "Tree" = some Garden.tree := rfl
  have isPlant : Garden.document.definition? "Plant" = some Garden.plant := rfl
  obtain ⟨trees, one, treeGift, isTrees, isOne, isTreeGift, shapeTree, -, -, same, -⟩ :=
    Garden.document.sameDeclared_values_part (by decide) isTree noTreeMap rfl
      (Garden.mapOf_isMapOfDefinition "Tree") (Garden.partOf_hasBranches "Tree") "trees" "gift" 63
  obtain ⟨beds, child, gift, isBeds, isChild, isGift, shape, -, declared, -, agree⟩ :=
    Garden.document.sameDeclared_values_part (by decide) isPlant noPlantMap rfl
      (Garden.mapOf_isMapOfDefinition "Plant") (Garden.partOf_hasBranches "Plant") "beds" "gift" 63
  refine ⟨by decide, isTree, noTreeMap, rfl, rfl, by decide, isPlant, noPlantMap,
    fun name => ⟨rfl, Garden.mapOf_isMapOfDefinition name, Garden.partOf_hasBranches name⟩,
    ⟨trees, one, treeGift, isTrees, isOne, isTreeGift, same rfl rfl, shapeTree.required⟩,
    beds, child, gift, isBeds, isChild, isGift, ?_, shape.required, declared.required⟩
  intro sameDeclared
  obtain ⟨-, required, -⟩ := agree.mp sameDeclared
  cases required

/-- The beds of a garden have nothing of what a plant is, though the gift has all of it. -/
theorem Document.not_sameDeclared_garden :
    ofJson Garden.json = .ok Garden.document ∧
    Garden.document.properties =
      [("beds", Garden.mapOf "Plant"), ("gift", Garden.partOf "Plant")] ∧
    Garden.mapOf "Plant" = { values := some (.each (.reference (reference "Plant"))) } ∧
    Garden.partOf "Plant" = { allOf := some [.reference (reference "Plant")] } ∧
    '/' ∉ "Plant".toList ∧ Garden.document.definition? "Plant" = some Garden.plant ∧
    Garden.plant.values.isNone ∧ Garden.plant.elements.isNone ∧
    Garden.plant.anyOf = some Garden.branches ∧
    Garden.branches.map Garden.document.referenced? = [some Garden.tree, some Garden.herb] ∧
    (∀ s ∈ Garden.branches ++ [Garden.tree, Garden.herb], s.elements.isNone) ∧
    ∃ beds child gift, (Outline.ofDocument Garden.document).properties = [beds, gift] ∧
      beds.properties = [child] ∧ child.name = PropertyTree.valuesName ∧
      child.types = [] ∧ child.required = [] ∧ child.properties = [] ∧
      gift.types = [⟨"object"⟩, ⟨"object"⟩] ∧ gift.required = ["height"] ∧
      gift.properties.map (·.name) = ["height", "season"] ∧ ¬ child.SameDeclared gift := by
  refine ⟨Garden.ofJson_json, rfl, rfl, rfl, by decide, rfl, rfl, rfl, rfl, rfl, ?_, _, _, _, rfl,
    rfl, rfl, rfl, rfl, rfl, rfl, rfl, rfl, ?_⟩
  · simp [Garden.branches, Garden.tree, Garden.herb, Schema.reference]
  · intro same
    cases same.required

end SchemaOutline
