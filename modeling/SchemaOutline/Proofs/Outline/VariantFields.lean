import SchemaOutline.Proofs.Outline.Variants
import SchemaOutline.Proofs.Schema.Everywhere

/-!
# The fields of a variant

The fields of a variant are looked up by the name of a top-level property and a tag. The property
has to have a definition, and the variants of the definition are searched in the index for the first
one of that tag. The index holds records of them, made from the schemas of the document, so the
answer is described by these: it is there if one of the schemas has the tag, and it is split into
what the first one of them requires and what else it declares.

* `Schema.HasTag` — a literal of that text selects a variant.
* `Schema.IsSplit` — the fields of a variant, the required ones apart from the others.
* `Outline.variantFields?_eq` — a look-up in the index is one among the schemas.
* `Document.AnswersVariants` — what is answered, for every property and every tag.
* `Document.answersVariants_of_load` — every document that loads answers so.
-/

namespace SchemaOutline

/-! ## Variants -/

namespace Schema

variable {s : Schema} {text : String}

/-- **A literal of the given text selects a variant**: the first literal of its property `type` or,
if it has no properties, its own first literal. -/
def HasTag (s : Schema) (text : String) : Prop :=
  (∃ fields type literal, s.properties = some fields ∧ fields.lookup "type" = some type ∧
      type.literalValues.head? = some literal ∧ literal.literalText = text) ∨
  ∃ literal, s.properties = none ∧ s.literalValues.head? = some literal ∧
    literal.literalText = text

theorem tag_beq_iff : (s.tag == some text) = true ↔ s.HasTag text := by
  rw [beq_iff_eq]
  unfold tag tagLiteral HasTag
  cases s.properties with
  | none => simp
  | some fields => simp [Option.bind_eq_some_iff]

/-- The first of several variants that has a tag. -/
theorem find?_tag_eq_some_iff {variants : List Schema} {variant : Schema} :
    variants.find? (fun other => other.tag == some text) = some variant ↔
      variant.HasTag text ∧ ∃ before after, variants = before ++ variant :: after ∧
        ∀ other ∈ before, ¬ other.HasTag text := by
  simp only [List.find?_eq_some_iff_append, tag_beq_iff, Bool.not_eq_true', ← Bool.not_eq_true]

/-- **The fields of a variant, split**: those that it requires, whether it declares them or not, and
those that it declares and does not require, in their order. Every declared field is in one of the
two and none in both. A variant without properties has no fields. -/
structure IsSplit (s : Schema) (fields : VariantFields) : Prop where
  required : s.properties.isSome → fields.required = s.requiredNames
  optional : s.properties.isSome → fields.optional =
    (s.namedProperties.map Prod.fst).filter fun name => name ∉ s.requiredNames
  covered : ∀ name ∈ s.namedProperties.map Prod.fst,
    name ∈ fields.required ∨ name ∈ fields.optional
  apart : ∀ name ∈ fields.required, name ∉ fields.optional
  nodup : fields.optional.Nodup
  noFields : s.properties = none → fields.required = [] ∧ fields.optional = []

theorem required_variant_eq_nil (absent : s.properties = none) : s.variant.required = [] := by
  unfold variant
  rw [absent]
  cases s.literals <;> rfl

theorem mem_optional_iff {name : String} : name ∈ s.variant.split.optional ↔
    name ∈ s.namedProperties.map Prod.fst ∧ name ∉ s.variant.required := by
  rw [Variant.split, map_name_variant_fields, List.mem_filter, Bool.not_eq_true',
    List.contains_eq_mem, decide_eq_false_iff_not]

/-- The record of a variant is split as the variant is. -/
theorem isSplit_variant (distinct : s.DistinctNames) : s.IsSplit s.variant.split where
  required := required_variant
  optional := by
    intro fields
    rw [Variant.split, map_name_variant_fields, required_variant fields]
    simp
  covered := by
    intro name declared
    rw [mem_optional_iff]
    by_cases mem : name ∈ s.variant.required
    · exact .inl mem
    · exact .inr ⟨declared, mem⟩
  apart := fun _ mem other => (mem_optional_iff.mp other).2 mem
  nodup := by
    rw [Variant.split, map_name_variant_fields]
    exact List.Pairwise.filter _ distinct
  noFields := by
    intro absent
    refine ⟨required_variant_eq_nil absent, ?_⟩
    rw [Variant.split, map_name_variant_fields, namedProperties, absent]
    rfl

end Schema

/-! ## The index -/

/-- The record that a tag selects is that of the first schema that it selects. -/
theorem Variant.find?_variants (s : Schema) (tag : String) :
    Variant.find? s.variants tag =
      ((s.oneOf.getD []).find? fun variant => variant.tag == some tag).map Schema.variant := by
  rw [Variant.find?, Schema.variants, List.find?_map]
  simp only [Function.comp_def, Schema.tag_variant]

namespace Document

variable {d : Document}

/-- A definition in the index is the record of the definition of its name. -/
theorem exists_of_definitionFor? {name : String} {record : Definition}
    (distinct : (d.definitions.map Prod.fst).Nodup)
    (found : (Outline.ofDocument d).definitionFor? name = some record) :
    ∃ s, d.definition? record.name = some s ∧ record = d.record record.name s := by
  have mem : record ∈ d.indexDefinitions := List.mem_of_find?_eq_some found
  obtain ⟨⟨definition, s⟩, inside, rfl⟩ := List.mem_map.mp mem
  exact ⟨s, Json.lookup_of_mem distinct inside, rfl⟩

/-- **What is answered for a property and a tag**: there is an answer if the property has a
definition with a variant of that tag, and it is the split of the first such variant. -/
structure AnswersVariants (d : Document) : Prop where
  isSome_iff : ∀ name tag, ((Outline.ofDocument d).variantFields? name tag).isSome ↔
    ∃ record s, (Outline.ofDocument d).definitionFor? name = some record ∧
      d.definition? record.name = some s ∧ ∃ variant ∈ s.oneOf.getD [], variant.HasTag tag
  isSplit : ∀ name tag record s before variant after,
    (Outline.ofDocument d).definitionFor? name = some record →
    d.definition? record.name = some s → s.oneOf = some (before ++ variant :: after) →
    variant.HasTag tag → (∀ other ∈ before, ¬ other.HasTag tag) →
    ∃ fields, (Outline.ofDocument d).variantFields? name tag = some fields ∧
      variant.IsSplit fields

/-- A look-up of the fields of a variant in the index is one among the schemas of the variants. -/
theorem variantFields?_eq {name tag : String} {record : Definition} {s : Schema}
    (distinct : (d.definitions.map Prod.fst).Nodup)
    (found : (Outline.ofDocument d).definitionFor? name = some record)
    (defined : d.definition? record.name = some s) :
    (Outline.ofDocument d).variantFields? name tag =
      ((s.oneOf.getD []).find? fun variant => variant.tag == some tag).map
        fun variant => variant.variant.split := by
  obtain ⟨other, same, made⟩ := exists_of_definitionFor? distinct found
  rw [defined] at same
  cases same
  have variants : record.variants = s.variants := by rw [made]; rfl
  rw [Outline.variantFields?, found]
  show ((Variant.find? record.variants tag).bind fun variant => some variant.split) = _
  rw [variants, Variant.find?_variants]
  cases (s.oneOf.getD []).find? fun variant => variant.tag == some tag <;> rfl

theorem answersVariants_of_loadedFrom {value : Json} (loaded : LoadedFrom value d)
    (distinct : value.keysDistinct) : d.AnswersVariants := by
  have names : (d.definitions.map Prod.fst).Nodup := by
    rw [names_definitions loaded]
    exact Json.nodup_namesUnder distinct "definitions"
  have isSome_iff {name tag record s}
      (found : (Outline.ofDocument d).definitionFor? name = some record)
      (defined : d.definition? record.name = some s) :
      ((Outline.ofDocument d).variantFields? name tag).isSome ↔
        ∃ variant ∈ s.oneOf.getD [], variant.HasTag tag := by
    simp only [variantFields?_eq names found defined, Option.isSome_map, List.find?_isSome,
      Schema.tag_beq_iff]
  constructor
  · intro name tag
    constructor
    · intro answered
      cases found : (Outline.ofDocument d).definitionFor? name with
      | none =>
          rw [Outline.variantFields?, found] at answered
          cases answered
      | some record =>
          obtain ⟨s, defined, -⟩ := exists_of_definitionFor? names found
          exact ⟨record, s, rfl, defined, (isSome_iff found defined).mp answered⟩
    · rintro ⟨record, s, found, defined, selected⟩
      exact (isSome_iff found defined).mpr selected
  · intro name tag record s before variant after found defined variants hasTag others
    have first : (s.oneOf.getD []).find? (fun other => other.tag == some tag) = some variant := by
      rw [variants]
      exact Schema.find?_tag_eq_some_iff.mpr ⟨hasTag, before, after, rfl, others⟩
    have part : variant ∈ s.parts :=
      Schema.mem_parts_of_oneOf (List.mem_of_find?_eq_some first)
    have distinctNames : variant.DistinctNames :=
      ((distinctNames_of_loadedFrom distinct loaded).2 _ (Json.mem_of_lookup defined)).part _ part
        |>.own
    rw [variantFields?_eq names found defined, first]
    exact ⟨_, rfl, Schema.isSplit_variant distinctNames⟩

/-- **Every document that loads answers for every property and every tag** as its schemas say, from
a value that repeats no key and from any text. -/
theorem answersVariants_of_load :
    (∀ value d, value.keysDistinct → ofJson value = .ok d → d.AnswersVariants) ∧
    ∀ text d, ofText text = .ok d → d.AnswersVariants := by
  constructor
  · intro value d distinct loaded
    exact answersVariants_of_loadedFrom (loadedFrom_of_ofJson loaded) distinct
  · intro text d loaded
    obtain ⟨value, parsed, loaded⟩ := ofText_eq_ok loaded
    exact answersVariants_of_loadedFrom (loadedFrom_of_ofJson loaded)
      (Json.keysDistinct_of_parse parsed)

end Document

namespace Pantry

def tagged (text : String) : Schema where
  literals := some [.text text]

/-- Tea has a size, maybe milk, and a note that it requires and does not declare. -/
def tea : Schema where
  required := some ["type", "note"]
  properties := some [("type", tagged "tea"), ("size", {}), ("milk", {})]

def drink : Schema where
  oneOf := some [tagged "water", tea, tagged "tea"]

def json : Json :=
  let tagged := fun text => Json.object [("enum", .list [.text text])]
  .object
    [("properties", .object [("drink", .object [("$ref", .text "#/definitions/Drink")])]),
      ("definitions", .object
        [("Drink", .object
          [("oneOf", .list
            [tagged "water",
              .object
                [("required", .list [.text "type", .text "note"]),
                  ("properties", .object
                    [("type", tagged "tea"), ("size", .object []), ("milk", .object [])])],
              tagged "tea"])])])]

/-- A pantry with a drink of three kinds, two of which have one tag. -/
def document : Document where
  raw := json
  root := { properties := some [("drink", { ref := some "#/definitions/Drink" })] }
  definitions := [("Drink", drink)]

theorem ofJson_json : Document.ofJson json = .ok document := rfl

theorem keysDistinct_json : json.keysDistinct := by decide

theorem ofText_compact : Document.ofText json.compact = .ok document := by
  rw [Document.ofText_compact keysDistinct_json rfl]
  exact ofJson_json

end Pantry

/-- The fields of the first tea of a pantry, loaded from its value and from its text. -/
theorem Document.answersVariants_of_load_pantry :
    Pantry.json.keysDistinct ∧ ofJson Pantry.json = .ok Pantry.document ∧
    ofText Pantry.json.compact = .ok Pantry.document ∧ Pantry.document.AnswersVariants ∧
    ∃ record fields,
      (Outline.ofDocument Pantry.document).definitionFor? "drink" = some record ∧
      Pantry.document.definition? record.name = some Pantry.drink ∧
      Pantry.tea.HasTag "tea" ∧ ¬ (Pantry.tagged "water").HasTag "tea" ∧
      (Outline.ofDocument Pantry.document).variantFields? "drink" "tea" = some fields ∧
      Pantry.tea.IsSplit fields := by
  obtain ⟨fromValue, fromText⟩ := answersVariants_of_load
  have answers := fromValue _ _ Pantry.keysDistinct_json Pantry.ofJson_json
  have record : (Outline.ofDocument Pantry.document).definitionFor? "drink" =
      some (Pantry.document.record "Drink" Pantry.drink) := rfl
  have isTea : Pantry.tea.HasTag "tea" := Schema.tag_beq_iff.mp (by decide)
  have noTea : ¬ (Pantry.tagged "water").HasTag "tea" := fun has =>
    absurd (Schema.tag_beq_iff.mpr has) (by decide)
  obtain ⟨fields, found, split⟩ := answers.isSplit "drink" "tea" _ Pantry.drink
    [Pantry.tagged "water"] Pantry.tea [Pantry.tagged "tea"] record rfl rfl isTea
    (List.forall_mem_singleton.mpr noTea)
  exact ⟨Pantry.keysDistinct_json, Pantry.ofJson_json, Pantry.ofText_compact,
    fromText _ _ Pantry.ofText_compact, _, fields, record, rfl, isTea, noTea, found, split⟩

end SchemaOutline
