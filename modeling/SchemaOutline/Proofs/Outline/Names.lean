import SchemaOutline.Proofs.Outline.Variants
import SchemaOutline.Proofs.Schema.Loading

/-!
# The names of a document

The properties and the definitions of a document are kept several times over: as schemas, as JSON
without `format`, as trees, as main properties and as records. All of these collections have the
names of the document in their order, whatever form a schema has. No name comes twice, so a look-up,
which gives the first match, gives the one record that is made of what stands under its name.

* `Document.tree` — the tree of a top-level property.
* `Outline.property?_ofDocument`, `Outline.mainProperty?_ofDocument` — look-ups in the outline.
* `Document.Collects` — the collections of a document agree with its value and with each other.
* `Document.collects_of_load` — those of every document that loads do.
-/

namespace SchemaOutline

/-! ## The outline -/

namespace Document

/-- The tree of a top-level property. -/
def tree (document : Document) (name : String) (s : Schema) : PropertyTree :=
  (document.topSteps.resolveProperty document.referenced? name s).run

theorem tree_name (document : Document) (name : String) (s : Schema) :
    (document.tree name s).name = name := by
  have keeps : document.topSteps.KeepsOwn := Steps.ofRoom_keepsOwn _ _
  exact Steps.resolveProperty_name keeps document.referenced? name s

/-- The forest of a document has a tree for every property and no other. -/
theorem outlineProperties_eq (document : Document) :
    document.outlineProperties =
      document.properties.map fun entry => document.tree entry.1 entry.2 :=
  Steps.run_ofRoom_properties document.referenced? (maxLevels - 1) document.root

end Document

/-- A look-up in the forest finds the tree of the property of that name. -/
theorem Outline.property?_ofDocument (document : Document) (name : String) :
    (Outline.ofDocument document).property? name =
      (document.properties.lookup name).map (document.tree name) := by
  show document.outlineProperties.find? _ = _
  rw [Document.outlineProperties_eq]
  exact find?_map_entries document.tree PropertyTree.name document.tree_name _ name

/-- A look-up among the main properties finds that of the property of that name. -/
theorem Outline.mainProperty?_ofDocument (document : Document) (name : String) :
    (Outline.ofDocument document).mainProperty? name =
      (document.properties.lookup name).map fun s => ⟨name, s.declaresObject⟩ :=
  find?_map_entries (fun name (s : Schema) => (⟨name, s.declaresObject⟩ : MainProperty))
    MainProperty.name (fun _ _ => rfl) document.properties name

theorem Schema.declaresObject_iff {s : Schema} : s.declaresObject ↔ "object" ∈ s.typeNames := by
  rw [declaresObject, List.any_beq', List.contains_iff_mem]

/-! ## Agreement -/

/-- There is something under a name if it is one of the names. -/
theorem isSome_lookup_iff {α : Type} {entries : List (String × α)} {name : String} :
    (entries.lookup name).isSome ↔ name ∈ entries.map Prod.fst := by
  induction entries with
  | nil => simp
  | cons entry rest ih =>
      obtain ⟨first, a⟩ := entry
      rw [List.lookup_cons, List.map_cons, List.mem_cons, ← ih]
      by_cases same : name = first
      · simp [same]
      · simp [same, beq_false_of_ne same]

/-- **The collections of a loaded document agree** with its value and with each other. They have
the names of the value in their order, none of them twice. A look-up finds something under these
names and no other, and what it finds is made of what stands under the very name. -/
structure Document.Collects (value : Json) (d : Document) : Prop where
  nodup_properties : (value.namesUnder "properties").Nodup
  nodup_definitions : (value.namesUnder "definitions").Nodup
  names_properties : d.properties.map Prod.fst = value.namesUnder "properties"
  names_rawProperties : d.rawProperties.map Prod.fst = value.namesUnder "properties"
  names_trees : (Outline.ofDocument d).properties.map (·.name) = value.namesUnder "properties"
  names_mainProperties :
    (Outline.ofDocument d).mainProperties.map (·.name) = value.namesUnder "properties"
  names_definitions : d.definitions.map Prod.fst = value.namesUnder "definitions"
  names_records : (Outline.ofDocument d).definitions.map (·.name) = value.namesUnder "definitions"
  isSome_property? : ∀ name,
    ((Outline.ofDocument d).property? name).isSome ↔ name ∈ value.namesUnder "properties"
  isSome_mainProperty? : ∀ name,
    ((Outline.ofDocument d).mainProperty? name).isSome ↔ name ∈ value.namesUnder "properties"
  isSome_definition? : ∀ name,
    ((Outline.ofDocument d).definition? name).isSome ↔ name ∈ value.namesUnder "definitions"
  property : ∀ name node, value.under "properties" name = some node →
    ∃ s, Schema.read node.withoutFormat = .ok s ∧
      d.properties.lookup name = some s ∧
      d.rawProperties.lookup name = some node.withoutFormat ∧
      (Outline.ofDocument d).property? name = some (d.tree name s) ∧
      ∃ p, (Outline.ofDocument d).mainProperty? name = some p ∧ p.name = name ∧
        (p.isObject ↔ "object" ∈ s.typeNames)
  definition : ∀ name node, value.under "definitions" name = some node →
    ∃ s, Schema.read node.withoutFormat = .ok s ∧
      d.definition? name = some s ∧
      (Outline.ofDocument d).definition? name = some (d.record name s)

namespace Document

variable {value : Json} {d : Document}

theorem names_trees (d : Document) :
    (Outline.ofDocument d).properties.map (·.name) = d.properties.map Prod.fst :=
  Steps.map_name_ofRoom_properties d.referenced? (maxLevels - 1) d.root

theorem names_mainProperties (d : Document) :
    (Outline.ofDocument d).mainProperties.map (·.name) = d.properties.map Prod.fst := by
  show d.mainProperties.map (·.name) = _
  rw [mainProperties, List.map_map]
  rfl

theorem names_records (d : Document) :
    (Outline.ofDocument d).definitions.map (·.name) = d.definitions.map Prod.fst := by
  show d.indexDefinitions.map (·.name) = _
  rw [indexDefinitions, List.map_map]
  rfl

theorem collects_of_loadedFrom (loaded : LoadedFrom value d) (distinct : value.keysDistinct) :
    Collects value d where
  nodup_properties := Json.nodup_namesUnder distinct "properties"
  nodup_definitions := Json.nodup_namesUnder distinct "definitions"
  names_properties := names_properties loaded distinct
  names_rawProperties := names_rawProperties loaded
  names_trees := (names_trees d).trans (names_properties loaded distinct)
  names_mainProperties := (names_mainProperties d).trans (names_properties loaded distinct)
  names_definitions := names_definitions loaded
  names_records := (names_records d).trans (names_definitions loaded)
  isSome_property? name := by
    rw [Outline.property?_ofDocument, Option.isSome_map, isSome_lookup_iff,
      names_properties loaded distinct]
  isSome_mainProperty? name := by
    rw [Outline.mainProperty?_ofDocument, Option.isSome_map, isSome_lookup_iff,
      names_properties loaded distinct]
  isSome_definition? name := by
    rw [Outline.definition?_ofDocument, Option.isSome_map, definition?, isSome_lookup_iff,
      names_definitions loaded]
  property name node there := by
    obtain ⟨s, own, found⟩ := exists_property loaded distinct there
    refine ⟨s, own, found, ?_, ?_, ⟨name, s.declaresObject⟩, ?_, rfl, Schema.declaresObject_iff⟩
    · rw [lookup_rawProperties loaded, there, Option.map_some]
    · rw [Outline.property?_ofDocument, found, Option.map_some]
    · rw [Outline.mainProperty?_ofDocument, found, Option.map_some]
  definition name node there := by
    obtain ⟨s, own, found⟩ := exists_definition loaded there
    refine ⟨s, own, found, ?_⟩
    rw [Outline.definition?_ofDocument, found, Option.map_some]

/-- **The collections of every document that loads agree**, from a value that repeats no key and
from any text. -/
theorem collects_of_load :
    (∀ value d, value.keysDistinct → ofJson value = .ok d → Collects value d) ∧
    (∀ text d, ofText text = .ok d → ∃ value, Json.parse text = .ok value ∧ Collects value d) := by
  have fromValue : ∀ value d, value.keysDistinct → ofJson value = .ok d → Collects value d := by
    intro value d distinct loaded
    exact collects_of_loadedFrom (loadedFrom_of_ofJson loaded) distinct
  refine ⟨fromValue, ?_⟩
  intro text d loaded
  obtain ⟨value, parsed, loaded⟩ := ofText_eq_ok loaded
  exact ⟨value, parsed, fromValue value d (Json.keysDistinct_of_parse parsed) loaded⟩

end Document

namespace Shelf

def text : String :=
  "\x7b\"properties\": \x7b\"book\": \x7b\"type\": \"object\"\x7d\x7d" ++
    ", \"definitions\": \x7b\"Page\": \x7b\x7d\x7d\x7d"

def json : Json :=
  .object
    [("properties", .object [("book", .object [("type", .text "object")])]),
      ("definitions", .object [("Page", .object [])])]

/-- A document with a property that is an object, and a definition. -/
def document : Document where
  raw := json
  root := { properties := some [("book", { types := some (.single "object") })] }
  definitions := [("Page", {})]

theorem ofJson_json : Document.ofJson json = .ok document := rfl

theorem parse_text : Json.parse text = .ok json := rfl

theorem ofText_text : Document.ofText text = .ok document := by
  rw [Document.ofText, parse_text]
  exact ofJson_json

end Shelf

/-- The collections of a shelf, loaded from its value and from its text. -/
theorem Document.collects_of_load_shelf :
    Shelf.json.keysDistinct ∧ ofJson Shelf.json = .ok Shelf.document ∧
    Collects Shelf.json Shelf.document ∧
    ofText Shelf.text = .ok Shelf.document ∧
    ∃ value, Json.parse Shelf.text = .ok value ∧ Collects value Shelf.document := by
  have distinct : Shelf.json.keysDistinct := by decide
  obtain ⟨fromValue, fromText⟩ := collects_of_load
  exact ⟨distinct, Shelf.ofJson_json, fromValue _ _ distinct Shelf.ofJson_json, Shelf.ofText_text,
    fromText _ _ Shelf.ofText_text⟩

end SchemaOutline
