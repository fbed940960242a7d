import SchemaOutline.Outline.Data
import SchemaOutline.Outline.Index
import SchemaOutline.Proofs.Json.Record

/-!
# Writing an outline and reading it

Every record of an outline is written as an object of its fields, and reading takes the fields one
after another: each one that is written is put back where it came from, one that is left out keeps
the absence it stands for, and nothing that has to be there is left out. So every record is read
back as it was, with everything inside it, and so are the three lists of an outline.

* `Variant.read_toJson`, `Definition.read_toJson` and so on — each record is read back.
* `PropertyTree.read_toJson` — a property is read back with everything below it.
* `Outline.ReadsBack` — the lists of an outline are read back.
* `Outline.records_read_toJson` — every record is read back, and so is every outline.
-/

namespace SchemaOutline

open Json (Reading RecordRule)

/-! ## Records -/

theorem TypeName.read_toJson (t : TypeName) : TypeName.read t.toJson = .ok t := rfl

theorem TypeName.readList_toJson (types : List TypeName) :
    Json.readList TypeName.read (.list (types.map TypeName.toJson)) = .ok types :=
  Json.readList_map fun t _ => t.read_toJson

theorem Field.read_toJson (f : Field) : Field.read f.toJson = .ok f := by
  obtain ⟨name, types⟩ := f
  have first : put default "name" (.text name) = .ok ⟨name, []⟩ := rfl
  have second : put ⟨name, []⟩ "types" (.list (types.map TypeName.toJson)) = .ok ⟨name, types⟩ :=
    Json.map_read (TypeName.readList_toJson types) (Field.mk name)
  apply RecordRule.read_object rfl
  apply RecordRule.readEntries_cons rfl first
  exact RecordRule.readEntries_cons rfl second rfl

theorem Field.readList_toJson (fields : List Field) :
    Json.readList Field.read (.list (fields.map Field.toJson)) = .ok fields :=
  Json.readList_map fun f _ => f.read_toJson

theorem Variant.read_toJson (v : Variant) : Variant.read v.toJson = .ok v := by
  obtain ⟨tag, required, fields, type⟩ := v
  have first : put {} "enumName" (.option .text tag) = .ok ⟨tag, [], [], none⟩ :=
    Json.map_read (Json.readOption_option_text tag) fun tag => Variant.mk tag [] [] none
  have second : put ⟨tag, [], [], none⟩ "requiredProperties" (.texts required) =
      .ok ⟨tag, required, [], none⟩ :=
    Json.map_read (Json.readList_texts required) fun required => Variant.mk tag required [] none
  have third : put ⟨tag, required, [], none⟩ "properties" (.list (fields.map Field.toJson)) =
      .ok ⟨tag, required, fields, none⟩ :=
    Json.map_read (Field.readList_toJson fields) fun fields => Variant.mk tag required fields none
  -- the type is left out when it is absent
  cases type with
  | none =>
      apply RecordRule.read_object rfl
      apply RecordRule.readEntries_cons rfl first
      apply RecordRule.readEntries_cons rfl second
      exact RecordRule.readEntries_cons rfl third rfl
  | some type =>
      have last : put ⟨tag, required, fields, none⟩ "type" type.toJson =
          .ok ⟨tag, required, fields, some type⟩ := rfl
      apply RecordRule.read_object rfl
      apply RecordRule.readEntries_cons rfl first
      apply RecordRule.readEntries_cons rfl second
      apply RecordRule.readEntries_cons rfl third
      exact RecordRule.readEntries_cons rfl last rfl

theorem Variant.readList_toJson (variants : List Variant) :
    Json.readList Variant.read (.list (variants.map Variant.toJson)) = .ok variants :=
  Json.readList_map fun v _ => v.read_toJson

theorem Definition.read_toJson (d : Definition) : Definition.read d.toJson = .ok d := by
  obtain ⟨name, owner, fields, variants⟩ := d
  have first : put default "name" (.text name) = .ok ⟨name, none, [], []⟩ := rfl
  have second : put ⟨name, none, [], []⟩ "mainPropertyName" (.option .text owner) =
      .ok ⟨name, owner, [], []⟩ :=
    Json.map_read (Json.readOption_option_text owner) fun owner => Definition.mk name owner [] []
  have third : put ⟨name, owner, [], []⟩ "properties" (.list (fields.map Field.toJson)) =
      .ok ⟨name, owner, fields, []⟩ :=
    Json.map_read (Field.readList_toJson fields) fun fields => Definition.mk name owner fields []
  have fourth : put ⟨name, owner, fields, []⟩ "oneOfProperties"
      (.list (variants.map Variant.toJson)) = .ok ⟨name, owner, fields, variants⟩ :=
    Json.map_read (Variant.readList_toJson variants) (Definition.mk name owner fields)
  apply RecordRule.read_object rfl
  apply RecordRule.readEntries_cons rfl first
  apply RecordRule.readEntries_cons rfl second
  apply RecordRule.readEntries_cons rfl third
  exact RecordRule.readEntries_cons rfl fourth rfl

theorem MainProperty.read_toJson (p : MainProperty) : MainProperty.read p.toJson = .ok p := rfl

/-! ## Properties -/

namespace PropertyTree

/-- A field of a property is put into it before the others. -/
theorem readEntries_cons {p q r : PropertyTree} {key : String} {value : Json}
    {rest : List (String × Json)} (first : readField p key value = .ok q)
    (others : readEntries q rest = .ok r) : readEntries p ((key, value) :: rest) = .ok r := by
  rw [readEntries, first]
  exact others

/-- An object that lacks nothing is the property that its fields make. -/
theorem read_object {entries : List (String × Json)} (complete : rule.missing? entries = none)
    {p : PropertyTree} (fields : readEntries (.named "") entries = .ok p) :
    read (.object entries) = .ok p := by
  rw [read, fields]
  show rule.endObject entries p = _
  rw [RecordRule.endObject, complete]

/-- The fields from the list of the properties of an element on are read back. -/
theorem readEntries_lists (name : String) (types : List TypeName) (elementType : Option String)
    {elementProperties properties variants : List PropertyTree}
    (elementsBack : readAll (toJsons elementProperties) = .ok elementProperties)
    (literals : List Json) (required : List String)
    (propertiesBack : readAll (toJsons properties) = .ok properties)
    (variantsBack : readAll (toJsons variants) = .ok variants) :
    readEntries ⟨name, types, elementType, [], [], [], [], []⟩
        [("propsForItems", .list (toJsons elementProperties)),
          ("enums", .list literals),
          ("requiredProperties", .texts required),
          ("properties", .list (toJsons properties)),
          ("oneOfProperties", .list (toJsons variants))] =
      .ok ⟨name, types, elementType, elementProperties, literals, required, properties,
        variants⟩ := by
  have first : readField ⟨name, types, elementType, [], [], [], [], []⟩ "propsForItems"
      (.list (toJsons elementProperties)) =
        .ok ⟨name, types, elementType, elementProperties, [], [], [], []⟩ := by
    rw [readField]
    exact Json.map_read elementsBack fun trees =>
      PropertyTree.mk name types elementType trees [] [] [] []
  have second : readField ⟨name, types, elementType, elementProperties, [], [], [], []⟩ "enums"
      (.list literals) =
        .ok ⟨name, types, elementType, elementProperties, literals, [], [], []⟩ := by
    rw [readField]
    exact Json.map_read (Json.readList_ok literals) fun literals =>
      PropertyTree.mk name types elementType elementProperties literals [] [] []
  have third : readField ⟨name, types, elementType, elementProperties, literals, [], [], []⟩
      "requiredProperties" (.texts required) =
        .ok ⟨name, types, elementType, elementProperties, literals, required, [], []⟩ := by
    rw [Json.texts, readField]
    exact Json.map_read (Json.readList_texts required) fun required =>
      PropertyTree.mk name types elementType elementProperties literals required [] []
  have fourth : readField ⟨name, types, elementType, elementProperties, literals, required, [], []⟩
      "properties" (.list (toJsons properties)) =
        .ok ⟨name, types, elementType, elementProperties, literals, required, properties, []⟩ := by
    rw [readField]
    exact Json.map_read propertiesBack fun trees =>
      PropertyTree.mk name types elementType elementProperties literals required trees []
  have fifth : readField
      ⟨name, types, elementType, elementProperties, literals, required, properties, []⟩
      "oneOfProperties" (.list (toJsons variants)) =
        .ok ⟨name, types, elementType, elementProperties, literals, required, properties,
          variants⟩ := by
    rw [readField]
    exact Json.map_read variantsBack
      (PropertyTree.mk name types elementType elementProperties literals required properties)
  apply readEntries_cons first
  apply readEntries_cons second
  apply readEntries_cons third
  apply readEntries_cons fourth
  exact readEntries_cons fifth rfl

mutual

/-- **A property is read back** with everything below it. -/
theorem read_toJson : (p : PropertyTree) → read p.toJson = .ok p
  | ⟨name, types, elementType, elementProperties, literals, required, properties, variants⟩ => by
    have first : readField (.named "") "name" (.text name) = .ok (.named name) := rfl
    have second : readField (.named name) "types" (.list (types.map TypeName.toJson)) =
        .ok ⟨name, types, none, [], [], [], [], []⟩ := by
      rw [readField]
      exact Json.map_read (TypeName.readList_toJson types) fun types =>
        PropertyTree.mk name types none [] [] [] [] []
    have lists := fun elementType => readEntries_lists name types elementType
      (readAll_toJsons elementProperties) literals required (readAll_toJsons properties)
      (readAll_toJsons variants)
    rw [toJson]
    -- the type of the elements is left out when it is absent
    cases elementType with
    | none =>
        apply read_object rfl
        apply readEntries_cons first
        exact readEntries_cons second (lists none)
    | some type =>
        have third : readField ⟨name, types, none, [], [], [], [], []⟩ "typeForArray" (.text type) =
            .ok ⟨name, types, some type, [], [], [], [], []⟩ := rfl
        apply read_object rfl
        apply readEntries_cons first
        apply readEntries_cons second
        exact readEntries_cons third (lists (some type))

/-- Properties are read back one after another. -/
theorem readAll_toJsons : (trees : List PropertyTree) → readAll (toJsons trees) = .ok trees
  | [] => rfl
  | p :: rest => by
    rw [toJsons, readAll, read_toJson p, readAll_toJsons rest]
    rfl

end

end PropertyTree

/-! ## Outlines -/

namespace Outline

/-- **An outline is read back**: the list under each of its keys, by the records that stand in
it. -/
structure ReadsBack (o : Outline) : Prop where
  properties : (o.toJson.get? "props").map (Json.readList PropertyTree.read) =
    some (.ok o.properties)
  mainProperties : (o.toJson.get? "main_properties").map (Json.readList MainProperty.read) =
    some (.ok o.mainProperties)
  definitions : (o.toJson.get? "definitions").map (Json.readList Definition.read) =
    some (.ok o.definitions)

theorem readsBack (o : Outline) : o.ReadsBack where
  properties := congrArg some (Json.readList_map fun p _ => p.read_toJson)
  mainProperties := congrArg some (Json.readList_map fun p _ => p.read_toJson)
  definitions := congrArg some (Json.readList_map fun d _ => d.read_toJson)

/-- **Writing a record of an outline loses nothing.** Every record is read back from the JSON that
is written for it, and so is the outline of every document. -/
theorem records_read_toJson :
    (∀ t : TypeName, TypeName.read t.toJson = .ok t) ∧
    (∀ p : PropertyTree, PropertyTree.read p.toJson = .ok p) ∧
    (∀ f : Field, Field.read f.toJson = .ok f) ∧
    (∀ v : Variant, Variant.read v.toJson = .ok v) ∧
    (∀ d : Definition, Definition.read d.toJson = .ok d) ∧
    (∀ p : MainProperty, MainProperty.read p.toJson = .ok p) ∧
    ∀ document : Document, (ofDocument document).ReadsBack := by
  refine ⟨TypeName.read_toJson, PropertyTree.read_toJson, Field.read_toJson, Variant.read_toJson,
    Definition.read_toJson, MainProperty.read_toJson, ?_⟩
  intro document
  exact (ofDocument document).readsBack

end Outline

end SchemaOutline
