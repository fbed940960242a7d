import SchemaOutline.Proofs.Outline.Index
import SchemaOutline.Proofs.Outline.Questions
import SchemaOutline.Proofs.Schema.Reference

/-!
# Variants in the forest and in the index

The variants of a definition are described twice: as trees where a property refers to the
definition, and as records in the index. Both take a variant for what it declares itself. The tree
has one thing more: a variant that is a list takes over the required names of the definitions that
describe its elements, and its record does not.

* `Document.VariantsAgree` — the trees and the records of the variants of a definition.
* `variantsAgree_resolveVariants` — they agree wherever the variants are resolved.
* `index_variantsAgree` — so they do under a map and under `allOf`.
-/

namespace SchemaOutline

/-! ## The record of a variant -/

namespace Schema

/-- A variant is selected by its tag, whatever else its record has. -/
theorem tag_variant (s : Schema) : s.variant.tag = s.tag := by
  unfold variant
  by_cases fields : s.properties.isSome
  · rw [if_pos fields]
  · rw [if_neg fields]
    by_cases literals : s.literals.isSome
    · rw [if_pos literals]
    · rw [if_neg literals]
      rw [Option.not_isSome_iff_eq_none] at fields literals
      simp [tag, tagLiteral, literalValues, fields, literals]

theorem map_name_variant_fields (s : Schema) :
    s.variant.fields.map (·.name) = s.namedProperties.map Prod.fst := by
  unfold variant
  by_cases fields : s.properties.isSome
  · rw [if_pos fields]
    exact s.map_name_fields
  · rw [if_neg fields]
    rw [Option.not_isSome_iff_eq_none] at fields
    simp only [namedProperties, fields]
    split <;> rfl

theorem required_variant {s : Schema} (fields : s.properties.isSome) :
    s.variant.required = s.requiredNames := by
  rw [variant, if_pos fields]

end Schema

/-! ## Agreement -/

namespace Document

/-- The steps that resolve a top-level property. -/
def topSteps (document : Document) : Steps Id :=
  Steps.ofRoom .plain document.referenced? (maxLevels - 1)

/-- The required names that a variant takes over from the definitions of its elements. -/
def carriedNames (document : Document) (variant : Schema) : List String :=
  (variant.elementChain document.referenced? (maxLevels - 1)).flatMap Schema.requiredNames

/-- **The tree of a variant and its record agree**: in the tag, which is the name of the tree, in
the names of the fields and, for a variant with fields, in the required names, but for those that
its elements carry over. -/
structure VariantAgrees (document : Document) (variant : Schema) (tree : PropertyTree)
    (record : Variant) : Prop where
  name : tree.name = record.tag.getD ""
  fields : tree.properties.map (·.name) = record.fields.map (·.name)
  required : variant.properties.isSome →
    tree.required = record.required ++ document.carriedNames variant
  required_eq : variant.properties.isSome →
    variant.elementTarget? document.referenced? = none → tree.required = record.required

/-- The trees and the records of the variants of a schema agree, one by one and in order. -/
structure VariantsAgree (document : Document) (s : Schema) (trees : List PropertyTree)
    (records : List Variant) : Prop where
  length_trees : trees.length = (s.oneOf.getD []).length
  length_records : records.length = (s.oneOf.getD []).length
  at_each : ∀ (i : Nat) (variant : Schema), (s.oneOf.getD [])[i]? = some variant →
    ∃ tree record, trees[i]? = some tree ∧ records[i]? = some record ∧
      document.VariantAgrees variant tree record

theorem variantAgrees_resolvePlain (document : Document) (variant : Schema) :
    document.VariantAgrees variant
      (document.topSteps.resolvePlain document.referenced? (variant.tag.getD "") variant).run
      variant.variant := by
  have keeps : document.topSteps.KeepsOwn := Steps.ofRoom_keepsOwn _ _
  have required : (document.topSteps.resolvePlain document.referenced? (variant.tag.getD "")
      variant).run.required = variant.requiredNames ++ document.carriedNames variant := by
    rw [Steps.run_resolvePlain]
    exact Steps.run_withElements_required document.referenced? _ variant _
  refine ⟨?_, ?_, ?_, ?_⟩
  · rw [Steps.resolvePlain_name keeps, Schema.tag_variant]
  · rw [Steps.run_resolvePlain, Schema.map_name_variant_fields]
    exact Steps.map_name_ofRoom_properties document.referenced? _ variant
  · intro fields
    rw [required, Schema.required_variant fields]
  · intro fields last
    rw [required, Schema.required_variant fields, carriedNames, Schema.elementChain_eq_nil last]
    exact List.append_nil _

/-- **Wherever the variants of a schema are resolved, they agree with their records.** -/
theorem variantsAgree_resolveVariants (document : Document) (s : Schema) :
    document.VariantsAgree s (document.topSteps.resolveVariants document.referenced? s).run
      s.variants := by
  rw [Steps.run_resolveVariants]
  refine ⟨List.length_map _, List.length_map _, ?_⟩
  intro i variant here
  refine ⟨_, _, ?_, ?_, document.variantAgrees_resolvePlain variant⟩
  · rw [List.getElem?_map, here]
    rfl
  · rw [Schema.variants, List.getElem?_map, here]
    rfl

/-! ## Under a map and under `allOf` -/

theorem getElem?_outlineProperties {document : Document} {i : Nat} {name : String} {s : Schema}
    (here : document.properties[i]? = some (name, s)) :
    document.outlineProperties[i]? =
      some (document.topSteps.resolveProperty document.referenced? name s).run := by
  have entry : document.root.namedProperties[i]? = some (name, s) := here
  rw [outlineProperties, propertiesOf, getElem?_propertiesWithin, entry]
  rfl

/-- The property that stands for the values of a map has the variants of their definition. -/
theorem variantsAgree_map (document : Document) {name : String} {s value target : Schema}
    (alone : s.anyOf = none) (map : s.values = some (.each value))
    (found : document.referenced? value = some target) :
    ∃ child, (document.topSteps.resolveProperty document.referenced? name s).run.properties =
        [child] ∧ document.VariantsAgree target child.variants target.variants := by
  refine ⟨(document.topSteps.resolveValues document.referenced? target).run, ?_, ?_⟩
  · rw [Steps.resolveProperty_map _ _ _ alone (by rw [map]; rfl),
      Steps.run_resolveMap_values _ _ map found]
  · rw [Steps.run_resolveValues_variants]
    exact document.variantsAgree_resolveVariants target

/-- A single branch of `allOf` that refers to a union has the variants of the definition. -/
theorem variantsAgree_allOf (document : Document) {name : String} {s branch target : Schema}
    (alone : s.anyOf = none) (noMap : s.values = none) (parts : s.allOf = some [branch])
    (found : document.referenced? branch = some target) (union : target.anyOf.isSome) :
    document.VariantsAgree target
      (document.topSteps.resolveProperty document.referenced? name s).run.variants
      target.variants := by
  have form : s.form = .allOf := by simp [Schema.form, alone, noMap, parts]
  have keeps : document.topSteps.KeepsOwn := Steps.ofRoom_keepsOwn _ _
  have merged : (document.topSteps.resolveProperty document.referenced? name s).run =
      (document.topSteps.mergePart document.referenced? (.named name) branch).run := by
    rw [Steps.resolveProperty, form]
    simp [Steps.resolveAllOf, parts]
  have variants : (document.topSteps.resolveProperty document.referenced? name s).run.variants =
      (document.topSteps.resolveVariants document.referenced? target).run := by
    rw [merged, Steps.run_mergePart_union _ _ found union]
    show (document.topSteps.mergeTypes document.referenced? branch (.named name)).run.variants ++
      _ = _
    -- the property starts without variants, and declared types bring none
    rw [Steps.mergeTypes_variants keeps]
    rfl
  rw [variants]
  exact document.variantsAgree_resolveVariants target

end Document

/-- **The index and the forest describe the same variants.** A top-level property that is a map of
a definition, or a single branch of `allOf` that refers to a union, has the variants of the
definition: as many as the record of the definition, in its order, and each one agrees with its
record. -/
theorem index_variantsAgree {document : Document} {definition name : String} {i : Nat}
    {s target : Schema} (plain : '/' ∉ definition.toList)
    (defined : document.definition? definition = some target)
    (here : document.properties[i]? = some (name, s)) (alone : s.anyOf = none) :
    ∃ tree record,
      (Outline.ofDocument document).properties[i]? = some tree ∧ tree.name = name ∧
      (Outline.ofDocument document).definition? definition = some record ∧
      (∀ value, s.values = some (.each value) →
        value.ref = some (Document.reference definition) →
        ∃ child, tree.properties = [child] ∧
          document.VariantsAgree target child.variants record.variants) ∧
      (∀ branch, s.values = none → s.allOf = some [branch] →
        branch.ref = some (Document.reference definition) → target.anyOf.isSome →
        document.VariantsAgree target tree.variants record.variants) := by
  have keeps : document.topSteps.KeepsOwn := Steps.ofRoom_keepsOwn _ _
  have recorded : (Outline.ofDocument document).definition? definition =
      some (document.record definition target) := by
    rw [Outline.definition?_ofDocument, defined]
    rfl
  have found : ∀ part : Schema, part.ref = some (Document.reference definition) →
      document.referenced? part = some target := by
    intro part ref
    rw [Document.referenced?_of_ref plain ref, defined]
  refine ⟨_, _, Document.getElem?_outlineProperties here, Steps.resolveProperty_name keeps _ _ _,
    recorded, ?_, ?_⟩
  · intro value map ref
    exact document.variantsAgree_map alone map (found value ref)
  · intro branch noMap parts ref union
    exact document.variantsAgree_allOf alone noMap parts (found branch ref) union

/-! ## A variant that is a list -/

namespace Drawing

/-- A path has a tag and is a list of points. -/
def path : Schema where
  required := some ["type"]
  properties := some [("type", { literals := some [.text "path"] })]
  elements := some (.each { ref := some "#/definitions/Point" })

def shape : Schema where
  anyOf := some []
  oneOf := some [path]

def someShape : Schema where
  ref := some "#/definitions/Shape"

def shapes : Schema where
  values := some (.each someShape)

def cover : Schema where
  allOf := some [someShape]

def json : Json :=
  let someShape := Json.object [("$ref", .text "#/definitions/Shape")]
  let path := Json.object
    [("required", .list [.text "type"]),
      ("properties", .object [("type", .object [("enum", .list [.text "path"])])]),
      ("items", .object [("$ref", .text "#/definitions/Point")])]
  .object
    [("properties", .object
        [("shapes", .object [("additionalProperties", someShape)]),
          ("cover", .object [("allOf", .list [someShape])])]),
      ("definitions", .object
        [("Shape", .object [("anyOf", .list []), ("oneOf", .list [path])]),
          ("Point", .object [("required", .list [.text "x"])])])]

/-- A document whose paths take over the required names of a point. -/
def document : Document where
  raw := json
  root := { properties := some [("shapes", shapes), ("cover", cover)] }
  definitions := [("Shape", shape), ("Point", { required := some ["x"] })]

theorem ofJson_json : Document.ofJson json = .ok document := rfl

end Drawing

/-- The shapes of a drawing, as a map and under `allOf`, agree with their records. -/
theorem index_variantsAgree_shapes :
    Document.ofJson Drawing.json = .ok Drawing.document ∧
    '/' ∉ "Shape".toList ∧
    Drawing.document.definition? "Shape" = some Drawing.shape ∧
    Drawing.document.properties[0]? = some ("shapes", Drawing.shapes) ∧
    Drawing.document.properties[1]? = some ("cover", Drawing.cover) ∧
    Drawing.shapes.anyOf = none ∧ Drawing.cover.anyOf = none ∧
    ∃ shapes child cover record,
      (Outline.ofDocument Drawing.document).properties[0]? = some shapes ∧
      (Outline.ofDocument Drawing.document).properties[1]? = some cover ∧
      (Outline.ofDocument Drawing.document).definition? "Shape" = some record ∧
      shapes.properties = [child] ∧
      Drawing.document.VariantsAgree Drawing.shape child.variants record.variants ∧
      Drawing.document.VariantsAgree Drawing.shape cover.variants record.variants := by
  have plain : '/' ∉ "Shape".toList := by decide
  have defined : Drawing.document.definition? "Shape" = some Drawing.shape := rfl
  obtain ⟨shapes, record, first, -, recorded, map, -⟩ :=
    index_variantsAgree plain defined (i := 0) rfl rfl
  obtain ⟨cover, again, second, -, same, -, part⟩ :=
    index_variantsAgree plain defined (i := 1) rfl rfl
  rw [recorded] at same
  cases same
  obtain ⟨child, only, agree⟩ := map Drawing.someShape rfl rfl
  exact ⟨Drawing.ofJson_json, plain, defined, rfl, rfl, rfl, rfl, shapes, child, cover, record,
    first, second, recorded, only, agree, part Drawing.someShape rfl rfl rfl rfl⟩

/-- A path requires the names of a point, and its record does not. -/
theorem required_path_ne_record :
    Document.ofJson Drawing.json = .ok Drawing.document ∧
    Drawing.document.properties[0]? = some ("shapes", Drawing.shapes) ∧
    Drawing.shapes.anyOf = none ∧ Drawing.shapes.values = some (.each Drawing.someShape) ∧
    Drawing.someShape.ref = some (Document.reference "Shape") ∧
    Drawing.document.definition? "Shape" = some Drawing.shape ∧
    Drawing.shape.oneOf = some [Drawing.path] ∧ Drawing.path.properties.isSome ∧
    ∃ shapes child path record pathRecord,
      (Outline.ofDocument Drawing.document).properties[0]? = some shapes ∧
      (Outline.ofDocument Drawing.document).definition? "Shape" = some record ∧
      shapes.properties = [child] ∧ child.variants = [path] ∧ record.variants = [pathRecord] ∧
      path.required = ["type", "x"] ∧ pathRecord.required = ["type"] ∧
      path.required ≠ pathRecord.required :=
  ⟨Drawing.ofJson_json, rfl, rfl, rfl, rfl, rfl, rfl, rfl, _, _, _, _, _, rfl, rfl, rfl, rfl, rfl,
    rfl, rfl, by decide⟩

end SchemaOutline
