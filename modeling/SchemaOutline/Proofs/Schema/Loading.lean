import SchemaOutline.Proofs.Json.ReadBack
import SchemaOutline.Proofs.Schema.Format
import SchemaOutline.Proofs.Schema.Keyword
import SchemaOutline.Schema.Document

/-!
# Loading a document

Loading removes the keyword `format`, reads the root, and then the definitions once more on their
own. Both readings keep the names and their order, and under each name stands what the value of
that name reads as.

* `Document.ofJson_eq_ok_iff`, `Document.ofStripped_eq_ok_iff` — what a document is loaded as.
* `Schema.map_read_of_readAll`, `Schema.lookup_of_readNamed` — lists of schemas and schemas under
  names, read one by one.
* `Schema.gives_properties`, `Schema.gives_literals` — the values of `properties` and `enum`.
* `Json.namesUnder`, `Json.under` — the names in the object of a key, and what stands under one.
* `Schema.gives_of_read` — the keywords of a schema that is written as an object.
* `Document.names_properties`, `Document.names_definitions` — the properties and the definitions of
  a loaded document have the names of its value, in their order.
* `Document.exists_property`, `Document.exists_definition` — and they are what stands there.
-/

namespace SchemaOutline

open Json (Reading)

/-! ## Schemas one by one -/

namespace Schema

theorem map_read_of_readAll {elements : List Json} {schemas : List Schema}
    (all : readAll elements = .ok schemas) : elements.map read = schemas.map .ok := by
  induction elements generalizing schemas with
  | nil =>
      cases all
      rfl
  | cons value rest ih =>
      obtain ⟨s, first, others⟩ := bind_eq_ok_iff.mp all
      obtain ⟨tail, later, made⟩ := bind_eq_ok_iff.mp others
      cases made
      rw [List.map_cons, List.map_cons, first, ih later]

/-- The schema at a place in a list is what the value there reads as. -/
theorem getElem?_of_readAll {elements : List Json} {schemas : List Schema}
    (all : readAll elements = .ok schemas) {i : Nat} {value : Json}
    (here : elements[i]? = some value) : ∃ s, schemas[i]? = some s ∧ read value = .ok s := by
  have same := congrArg (·[i]?) (map_read_of_readAll all)
  simp only [List.getElem?_map, here, Option.map_some] at same
  obtain ⟨s, there, equal⟩ := Option.map_eq_some_iff.mp same.symm
  exact ⟨s, there, equal.symm⟩

/-- The schema under a name is what the value of that name reads as. -/
theorem lookup_of_readNamed {entries : List (String × Json)} {named : List (String × Schema)}
    (all : readNamed entries = .ok named) (name : String) :
    (entries.lookup name).map read = (named.lookup name).map .ok := by
  induction entries generalizing named with
  | nil =>
      cases all
      rfl
  | cons entry rest ih =>
      obtain ⟨first, value⟩ := entry
      obtain ⟨s, own, others⟩ := bind_eq_ok_iff.mp all
      obtain ⟨tail, later, made⟩ := bind_eq_ok_iff.mp others
      cases made
      rw [List.lookup_cons, List.lookup_cons]
      cases name == first with
      | true => exact congrArg some own
      | false => exact ih later

/-- Schemas under names keep the names, in their order. -/
theorem map_fst_of_readNamed {entries : List (String × Json)} {named : List (String × Schema)}
    (all : readNamed entries = .ok named) : named.map Prod.fst = entries.map Prod.fst := by
  induction entries generalizing named with
  | nil =>
      cases all
      rfl
  | cons entry rest ih =>
      obtain ⟨s, own, others⟩ := bind_eq_ok_iff.mp all
      obtain ⟨tail, later, made⟩ := bind_eq_ok_iff.mp others
      cases made
      rw [List.map_cons, List.map_cons, ih later]

/-! ## The values of keywords -/

end Schema

namespace Json

/-- The elements of a list; other values have none. -/
def list? : Json → Option (List Json)
  | list elements => some elements
  | _ => none

/-- The entries of an object; other values have none. -/
def entries : Json → List (String × Json)
  | object entries => entries
  | _ => []

/-- The entries of the object under a key. -/
def entriesUnder (key : String) (value : Json) : List (String × Json) :=
  ((value.get? key).map entries).getD []

end Json

namespace Schema

/-- `properties` is an object of schemas, or is not there. -/
theorem gives_properties {s : Schema} {value? : Option Json}
    (given : Gives .properties blank s value?) :
    readNamed ((value?.map Json.entries).getD []) = .ok s.namedProperties := by
  cases value? with
  | none =>
      have absent : s.properties = none := congrArg Schema.properties given
      rw [namedProperties, absent]
      rfl
  | some value =>
      rw [gives_some] at given
      cases value with
      | null =>
          unfold readKeyword at given
          have absent : none = s.properties := congrArg Schema.properties (Except.ok.inj given)
          rw [namedProperties, ← absent]
          rfl
      | object entries =>
          obtain ⟨named, all, same⟩ := readProperties_eq_ok_iff.mp given
          have present : some named = s.properties := congrArg Schema.properties same
          rw [namedProperties, ← present]
          exact all
      | _ =>
          unfold readKeyword at given
          cases given

/-- `enum` is a list, or is not there. Its literals are taken as they are. -/
theorem gives_literals {s : Schema} {value? : Option Json}
    (given : Gives .literals blank s value?) :
    s.literals = value?.bind Json.list? := by
  cases value? with
  | none => exact congrArg Schema.literals given
  | some value =>
      rw [gives_some] at given
      cases value with
      | null =>
          unfold readKeyword at given
          exact (congrArg Schema.literals (Except.ok.inj given)).symm
      | list elements =>
          unfold readKeyword at given
          exact (congrArg Schema.literals (Except.ok.inj given)).symm
      | _ =>
          unfold readKeyword at given
          cases given

end Schema

namespace Json

open Schema

/-- No keyword is removed. -/
theorem removes_key (keys : Keys) (k : Keyword) : keys.removes k.key = false := by
  cases keys <;> cases k <;> rfl

theorem lookup_strippedEntries_key (keys : Keys) (k : Keyword) (entries : List (String × Json)) :
    (strippedEntries keys entries).lookup k.key =
      (entries.lookup k.key).map (stripped (keys.under k.key)) := by
  rw [lookup_strippedEntries, removes_key]
  rfl

/-- An element stands without the keyword where it stood. -/
theorem getElem?_strippedElements_eq_some {elements : List Json} {i : Nat} {v : Json} :
    (strippedElements elements)[i]? = some v ↔
      ∃ element, elements[i]? = some element ∧ element.withoutFormat = v := by
  rw [strippedElements_eq_map, List.getElem?_map, Option.map_eq_some_iff]
  rfl

theorem nodup_strippedEntries {entries : List (String × Json)} (keys : Keys)
    (distinct : (entries.map Prod.fst).Nodup) :
    ((strippedEntries keys entries).map Prod.fst).Nodup := by
  rw [map_fst_strippedEntries]
  exact distinct.filter _

end Json

namespace Document

open Schema (bind_eq_ok_iff)

theorem ofStripped_eq_ok_iff {raw : Json} {d : Document} :
    ofStripped raw = .ok d ↔
      Schema.read raw = .ok d.root ∧ readDefinitions raw = .ok d.definitions ∧ d.raw = raw := by
  unfold ofStripped
  rw [bind_eq_ok_iff]
  constructor
  · rintro ⟨root, readRoot, rest⟩
    obtain ⟨definitions, readDefinitions, made⟩ := bind_eq_ok_iff.mp rest
    cases made
    exact ⟨readRoot, readDefinitions, rfl⟩
  · rintro ⟨readRoot, readDefinitions, rfl⟩
    exact ⟨d.root, readRoot, bind_eq_ok_iff.mpr ⟨d.definitions, readDefinitions, rfl⟩⟩

theorem ofJson_eq_ok_iff {value : Json} {d : Document} :
    ofJson value = .ok d ↔ value.isObject ∧ ofStripped value.withoutFormat = .ok d := by
  unfold ofJson
  by_cases isObject : value.isObject
  · rw [if_pos isObject]
    cases ofStripped value.withoutFormat <;> simp [isObject]
  · rw [if_neg isObject]
    simp [isObject]

/-- What a document is loaded as: its root, its definitions and its text are read off the value
without `format`. -/
structure LoadedFrom (value : Json) (d : Document) : Prop where
  isObject : value.isObject
  root : Schema.read value.withoutFormat = .ok d.root
  definitions : readDefinitions value.withoutFormat = .ok d.definitions
  raw : d.raw = value.withoutFormat

theorem loadedFrom_of_ofJson {value : Json} {d : Document} (loaded : ofJson value = .ok d) :
    LoadedFrom value d := by
  obtain ⟨isObject, stripped⟩ := ofJson_eq_ok_iff.mp loaded
  obtain ⟨root, definitions, raw⟩ := ofStripped_eq_ok_iff.mp stripped
  exact ⟨isObject, root, definitions, raw⟩

/-- A document that is loaded from a text is loaded from the value of that text. -/
theorem ofText_eq_ok {text : String} {d : Document} (loaded : ofText text = .ok d) :
    ∃ value, Json.parse text = .ok value ∧ ofJson value = .ok d := by
  unfold ofText at loaded
  cases parsed : Json.parse text with
  | ok value =>
      rw [parsed] at loaded
      exact ⟨value, rfl, loaded⟩
  | error fault =>
      rw [parsed] at loaded
      cases loaded

/-- A schema that is written in one line is loaded as what its text is read as. -/
theorem ofText_compact {value back : Json} (distinct : value.keysDistinct)
    (read : value.readBack? Json.maxContainers = some back) :
    ofText value.compact = ofJson back := by
  have parsed := Json.parse_compact distinct "" (by simp)
  rw [String.append_empty, read] at parsed
  rw [ofText, parsed]

/-- A document that is loaded from a file is loaded from its text. -/
theorem load_eq_ok {files : Files} {path : String} {d : Document}
    (loaded : load files path = .ok d) :
    ∃ text, files.text path = .ok text ∧ ofText text = .ok d := by
  unfold load at loaded
  cases content : files.text path with
  | ok text =>
      rw [content] at loaded
      exact ⟨text, rfl, loaded⟩
  | error fault =>
      rw [content] at loaded
      cases loaded

/-- The bundled document is loaded from the bundled schema. -/
theorem ofJson_bundled : ofJson Bundled.json = .ok bundled := by
  have loaded : (ofJson Bundled.json).toOption = some bundled := (Option.some_get _).symm
  cases made : ofJson Bundled.json with
  | ok d =>
      rw [made] at loaded
      exact congrArg Except.ok (Option.some.inj loaded)
  | error fault =>
      rw [made] at loaded
      cases loaded

theorem get?_properties_withoutFormat (value : Json) :
    value.withoutFormat.get? "properties" =
      (value.get? "properties").map (Json.stripped .names) :=
  Json.get?_stripped .keywords "properties" value

theorem get?_definitions_withoutFormat (value : Json) :
    value.withoutFormat.get? "definitions" =
      (value.get? "definitions").map (Json.stripped .names) :=
  Json.get?_stripped .keywords "definitions" value

end Document

/-! ## Names -/

namespace Json

/-- The names that the object under a key gives, in order. -/
def namesUnder (key : String) (value : Json) : List String :=
  (value.entriesUnder key).map Prod.fst

/-- What stands under a name in the object of a key. -/
def under (key name : String) (value : Json) : Option Json :=
  (value.get? key).bind (get? name)

theorem get?_eq_lookup (value : Json) (key : String) :
    value.get? key = value.entries.lookup key := by
  cases value <;> rfl

theorem lookup_entriesUnder (key name : String) (value : Json) :
    (value.entriesUnder key).lookup name = value.under key name := by
  unfold entriesUnder under
  cases value.get? key with
  | none => rfl
  | some inner => exact (get?_eq_lookup inner name).symm

theorem entries_stripped (keys : Keys) (value : Json) :
    (value.stripped keys).entries = strippedEntries keys value.entries := by
  cases value <;> rfl

/-- Where the keys of an object are names, none of them is removed. -/
theorem map_fst_strippedEntries_names (entries : List (String × Json)) :
    (strippedEntries .names entries).map Prod.fst = entries.map Prod.fst := by
  rw [map_fst_strippedEntries]
  exact List.filter_eq_self.mpr fun _ _ => rfl

theorem lookup_strippedEntries_names (entries : List (String × Json)) (name : String) :
    (strippedEntries .names entries).lookup name = (entries.lookup name).map withoutFormat :=
  lookup_strippedEntries .names name entries

/-- Without the keyword, the object under a key that holds names has its entries as before. -/
theorem entriesUnder_withoutFormat {key : String} {value : Json}
    (stays : value.withoutFormat.get? key = (value.get? key).map (stripped .names)) :
    value.withoutFormat.entriesUnder key = strippedEntries .names (value.entriesUnder key) := by
  rw [entriesUnder, stays, entriesUnder]
  cases value.get? key with
  | none => rfl
  | some inner => exact entries_stripped .names inner

theorem nodup_namesUnder {value : Json} (distinct : value.keysDistinct) (key : String) :
    (value.namesUnder key).Nodup := by
  unfold namesUnder entriesUnder
  cases there : value.get? key with
  | none => exact List.nodup_nil
  | some inner =>
      have inside := keysDistinct_of_get? distinct there
      cases inner with
      | object entries => exact (keysDistinct_object_iff.mp inside).1
      | _ => exact List.nodup_nil

end Json

namespace Schema

/-- The keywords of a schema that is read from an object are read from the values of their keys. -/
theorem gives_of_read {value : Json} {s : Schema} (isObject : value.isObject)
    (distinct : value.keysDistinct) (own : read value.withoutFormat = .ok s) (k : Keyword) :
    Gives k blank s ((value.get? k.key).map (Json.stripped (Keys.keywords.under k.key))) := by
  cases value with
  | object entries =>
      have keys := Json.nodup_strippedEntries .keywords (Json.keysDistinct_object_iff.mp distinct).1
      have each := (readEntries_eq_ok_iff keys).mp own k
      rwa [Json.lookup_strippedEntries_key] at each
  | _ => cases isObject

/-- The properties of a schema that is read from an object are those of the object. -/
theorem readNamed_properties {value : Json} {s : Schema} (isObject : value.isObject)
    (distinct : value.keysDistinct) (own : read value.withoutFormat = .ok s) :
    readNamed (Json.strippedEntries .names (value.entriesUnder "properties")) =
      .ok s.namedProperties := by
  have given := gives_of_read isObject distinct own .properties
  rw [← Json.entriesUnder_withoutFormat (Document.get?_properties_withoutFormat value),
    Json.entriesUnder, Document.get?_properties_withoutFormat]
  exact gives_properties given

/-- The schema under a name is what stood there reads as. -/
theorem exists_of_readNamed {entries : List (String × Json)} {named : List (String × Schema)}
    (all : readNamed (Json.strippedEntries .names entries) = .ok named) {name : String}
    {node : Json} (there : entries.lookup name = some node) :
    ∃ s, read node.withoutFormat = .ok s ∧ named.lookup name = some s := by
  have same := lookup_of_readNamed all name
  rw [Json.lookup_strippedEntries_names, there, Option.map_some, Option.map_some] at same
  obtain ⟨s, found, equal⟩ := Option.map_eq_some_iff.mp same.symm
  exact ⟨s, equal.symm, found⟩

theorem names_of_readNamed {entries : List (String × Json)} {named : List (String × Schema)}
    (all : readNamed (Json.strippedEntries .names entries) = .ok named) :
    named.map Prod.fst = entries.map Prod.fst := by
  rw [map_fst_of_readNamed all, Json.map_fst_strippedEntries_names]

end Schema

namespace Document

variable {value : Json} {d : Document}

/-- The raw properties are those of the value, without `format`. -/
theorem rawProperties_eq (loaded : LoadedFrom value d) :
    d.rawProperties = Json.strippedEntries .names (value.entriesUnder "properties") := by
  rw [← Json.entriesUnder_withoutFormat (get?_properties_withoutFormat value), ← loaded.raw]
  unfold rawProperties Json.entriesUnder
  cases d.raw.get? "properties" with
  | none => rfl
  | some inner => cases inner <;> rfl

/-- The properties of the loaded document are those of the value, each read as a schema. -/
theorem readNamed_properties (loaded : LoadedFrom value d) (distinct : value.keysDistinct) :
    Schema.readNamed (Json.strippedEntries .names (value.entriesUnder "properties")) =
      .ok d.properties :=
  Schema.readNamed_properties loaded.isObject distinct loaded.root

/-- The definitions of the loaded document are those of the value, each read as a schema. -/
theorem readNamed_definitions (loaded : LoadedFrom value d) :
    Schema.readNamed (Json.strippedEntries .names (value.entriesUnder "definitions")) =
      .ok d.definitions := by
  have all := loaded.definitions
  rw [← Json.entriesUnder_withoutFormat (get?_definitions_withoutFormat value)]
  unfold readDefinitions at all
  unfold Json.entriesUnder
  cases there : value.withoutFormat.get? "definitions" with
  | none =>
      rw [there] at all
      exact all
  | some inner =>
      rw [there] at all
      cases inner with
      | object entries => exact all
      | _ => cases all

theorem names_rawProperties (loaded : LoadedFrom value d) :
    d.rawProperties.map Prod.fst = value.namesUnder "properties" := by
  rw [rawProperties_eq loaded, Json.map_fst_strippedEntries_names, Json.namesUnder]

theorem names_properties (loaded : LoadedFrom value d) (distinct : value.keysDistinct) :
    d.properties.map Prod.fst = value.namesUnder "properties" :=
  Schema.names_of_readNamed (readNamed_properties loaded distinct)

theorem names_definitions (loaded : LoadedFrom value d) :
    d.definitions.map Prod.fst = value.namesUnder "definitions" :=
  Schema.names_of_readNamed (readNamed_definitions loaded)

/-- A raw property is what stands under its name, without `format`. -/
theorem lookup_rawProperties (loaded : LoadedFrom value d) (name : String) :
    d.rawProperties.lookup name = (value.under "properties" name).map Json.withoutFormat := by
  rw [rawProperties_eq loaded, Json.lookup_strippedEntries_names, Json.lookup_entriesUnder]

/-- A property is the schema that what stands under its name reads as. -/
theorem exists_property (loaded : LoadedFrom value d) (distinct : value.keysDistinct)
    {name : String} {node : Json} (there : value.under "properties" name = some node) :
    ∃ s, Schema.read node.withoutFormat = .ok s ∧ d.properties.lookup name = some s := by
  rw [← Json.lookup_entriesUnder] at there
  exact Schema.exists_of_readNamed (readNamed_properties loaded distinct) there

/-- A definition is the schema that what stands under its name reads as. -/
theorem exists_definition (loaded : LoadedFrom value d) {name : String} {node : Json}
    (there : value.under "definitions" name = some node) :
    ∃ s, Schema.read node.withoutFormat = .ok s ∧ d.definition? name = some s := by
  rw [← Json.lookup_entriesUnder] at there
  exact Schema.exists_of_readNamed (readNamed_definitions loaded) there

end Document

end SchemaOutline
