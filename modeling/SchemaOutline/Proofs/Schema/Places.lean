import SchemaOutline.Proofs.Schema.Loading

/-!
# Schemas at places

A schema that is written as an object stands at a place of its document: it is the root, a
definition, or a step away from the schema it is inside of. The loaded document has a schema at the
same place, and that schema is what the value there reads as without the keyword `format`.

* `SchemaStep`, `SchemaPlace` — the steps from one schema into another, and places.
* `Json.schemaAt?`, `Document.schemaAt?` — what stands at a place of a value and of the document
  that it is loaded as.
* `Schema.exists_inside?` — one step leads from a schema to a schema, in both.
* `Document.exists_schemaAt?` — so does every place.
-/

namespace SchemaOutline

/-- A step from a schema into a schema inside it: a property, the schema of all elements of a list,
the schema of one element, the schema of the values of a map, or a branch. -/
inductive SchemaStep where
  | property (name : String)
  | elements
  | element (i : Nat)
  | values
  | branch (k : Keyword) (i : Nat)
  deriving DecidableEq

/-- A place of a document where a schema stands. -/
inductive SchemaPlace where
  | root
  | definition (name : String)
  | inside (place : SchemaPlace) (step : SchemaStep)
  deriving DecidableEq

namespace Json

/-- Whether the value is a list of objects. -/
def listsObjects : Json → Bool
  | list elements => elements.all isObject
  | _ => false

/-- What stands a step further in a schema that is written as an object. A list under `items` is
a list of schemas if these are written as objects. -/
def inside? (node : Json) : SchemaStep → Option Json
  | .property name => node.under "properties" name
  | .elements => node.get? "items"
  | .element i => ((node.get? "items").filter listsObjects).bind (element? i)
  | .values => node.get? "additionalProperties"
  | .branch k i =>
    if k ∈ [.anyOf, .allOf, .oneOf] then (node.get? k.key).bind (element? i) else none

/-- **What stands at a place of a document.** -/
def schemaAt? (value : Json) : SchemaPlace → Option Json
  | .root => some value
  | .definition name => value.under "definitions" name
  | .inside place step => (value.schemaAt? place).bind (·.inside? step)

end Json

namespace Schema

/-- The branches of a composition in order. -/
def branchesOf (s : Schema) : Keyword → List Schema
  | .anyOf => s.anyOf.getD []
  | .allOf => s.allOf.getD []
  | .oneOf => s.oneOf.getD []
  | _ => []

/-- The schema a step further. -/
def inside? (s : Schema) : SchemaStep → Option Schema
  | .property name => s.namedProperties.lookup name
  | .elements =>
    match s.elements with
    | some (.each element) => some element
    | _ => none
  | .element i =>
    match s.elements with
    | some (.tuple schemas) => schemas[i]?
    | _ => none
  | .values =>
    match s.values with
    | some (.each value) => some value
    | _ => none
  | .branch k i => (s.branchesOf k)[i]?

end Schema

/-- **The schema at a place of a loaded document.** -/
def Document.schemaAt? (document : Document) : SchemaPlace → Option Schema
  | .root => some document.root
  | .definition name => document.definition? name
  | .inside place step => (document.schemaAt? place).bind (·.inside? step)

/-! ## Values inside values -/

namespace Json

theorem isObject_of_get? {value inner : Json} {key : String} (found : value.get? key = some inner) :
    value.isObject := by
  cases value with
  | object entries => rfl
  | _ => cases found

theorem element?_eq_some_iff {value inner : Json} {i : Nat} :
    value.element? i = some inner ↔
      ∃ elements, value = list elements ∧ elements[i]? = some inner := by
  cases value <;> simp [element?]

theorem keysDistinct_of_element? {value inner : Json} {i : Nat} (distinct : value.keysDistinct)
    (found : value.element? i = some inner) : inner.keysDistinct := by
  obtain ⟨elements, rfl, there⟩ := element?_eq_some_iff.mp found
  exact keysDistinct_of_mem distinct (List.mem_of_getElem? there)

/-- A step goes to the value of a keyword, or to what is in that value. -/
theorem exists_value_of_inside? {node inner : Json} {step : SchemaStep}
    (there : node.inside? step = some inner) :
    ∃ key value, node.get? key = some value ∧
      (value = inner ∨ (∃ name, value.get? name = some inner) ∨
        ∃ i, value.element? i = some inner) := by
  cases step with
  | property name =>
      obtain ⟨named, found, under⟩ := Option.bind_eq_some_iff.mp there
      exact ⟨_, named, found, .inr (.inl ⟨name, under⟩)⟩
  | elements => exact ⟨_, inner, there, .inl rfl⟩
  | element i =>
      obtain ⟨value, found, at_i⟩ := Option.bind_eq_some_iff.mp there
      exact ⟨_, value, (Option.filter_eq_some_iff.mp found).1, .inr (.inr ⟨i, at_i⟩)⟩
  | values => exact ⟨_, inner, there, .inl rfl⟩
  | branch k i =>
      obtain ⟨-, there⟩ := Option.ite_none_right_eq_some.mp there
      obtain ⟨value, found, at_i⟩ := Option.bind_eq_some_iff.mp there
      exact ⟨_, value, found, .inr (.inr ⟨i, at_i⟩)⟩

theorem isObject_of_inside? {node inner : Json} {step : SchemaStep}
    (there : node.inside? step = some inner) : node.isObject := by
  obtain ⟨key, value, found, -⟩ := exists_value_of_inside? there
  exact isObject_of_get? found

theorem keysDistinct_of_inside? {node inner : Json} {step : SchemaStep}
    (distinct : node.keysDistinct) (there : node.inside? step = some inner) :
    inner.keysDistinct := by
  obtain ⟨key, value, found, rfl | ⟨name, under⟩ | ⟨i, at_i⟩⟩ := exists_value_of_inside? there
  · exact keysDistinct_of_get? distinct found
  · exact keysDistinct_of_get? (keysDistinct_of_get? distinct found) under
  · exact keysDistinct_of_element? (keysDistinct_of_get? distinct found) at_i

end Json

/-! ## One step -/

namespace Schema

section Step

variable {s : Schema} {node inner : Json}

/-- The value of a keyword that is there is read into the schema. -/
theorem gives_value {value : Json} (distinct : node.keysDistinct)
    (own : read node.withoutFormat = .ok s) {k : Keyword} (found : node.get? k.key = some value) :
    Gives k blank s (some (value.stripped (Keys.keywords.under k.key))) := by
  have given := gives_of_read (Json.isObject_of_get? found) distinct own k
  rw [found] at given
  exact given

theorem exists_property {name : String} (distinct : node.keysDistinct)
    (own : read node.withoutFormat = .ok s) (there : node.inside? (.property name) = some inner) :
    ∃ t, s.inside? (.property name) = some t ∧ read inner.withoutFormat = .ok t := by
  have all := readNamed_properties (Json.isObject_of_inside? there) distinct own
  rw [Json.inside?, ← Json.lookup_entriesUnder] at there
  obtain ⟨t, each, found⟩ := exists_of_readNamed all there
  exact ⟨t, found, each⟩

/-- An object under `items` is the schema of all elements. -/
theorem exists_elements (distinct : node.keysDistinct) (own : read node.withoutFormat = .ok s)
    (there : node.inside? .elements = some inner) (isObject : inner.isObject) :
    ∃ t, s.inside? .elements = some t ∧ read inner.withoutFormat = .ok t := by
  cases inner with
  | object entries =>
      have given := gives_value (k := .elements) distinct own there
      obtain ⟨t, each, same⟩ := readEach_eq_ok_iff.mp given
      have present : some (.each t) = s.elements := congrArg Schema.elements same
      refine ⟨t, ?_, each⟩
      rw [inside?, ← present]
  | _ => cases isObject

/-- An object under `additionalProperties` is the schema of all values. -/
theorem exists_values (distinct : node.keysDistinct) (own : read node.withoutFormat = .ok s)
    (there : node.inside? .values = some inner) (isObject : inner.isObject) :
    ∃ t, s.inside? .values = some t ∧ read inner.withoutFormat = .ok t := by
  cases inner with
  | object entries =>
      have given := gives_value (k := .values) distinct own there
      obtain ⟨t, each, same⟩ := readValues_eq_ok_iff.mp given
      have present : some (.each t) = s.values := congrArg Schema.values same
      refine ⟨t, ?_, each⟩
      rw [inside?, ← present]
  | _ => cases isObject

/-- No object stands for the value of `type`, so a list that begins with one does not give the
keywords of a schema by their places. -/
theorem not_read_places {entries : List (String × Json)} {rest : List Json} :
    ∀ t, read (.list (.object entries :: rest)) ≠ .ok t := by
  intro t all
  unfold read at all
  rw [Keyword.all, readElements] at all
  obtain ⟨u, first, -⟩ := bind_eq_ok_iff.mp all
  unfold readKeyword at first
  cases first

/-- A list of objects under `items` is a list of schemas. -/
theorem exists_tuple {elements : List Json} (objects : (Json.list elements).listsObjects)
    (given : Gives .elements blank s (some (.list (Json.strippedElements elements))))
    {i : Nat} (at_i : elements[i]? = some inner) :
    ∃ schemas, readAll (Json.strippedElements elements) = .ok schemas ∧
      s.elements = some (.tuple schemas) := by
  rw [gives_some] at given
  cases all : readAll (Json.strippedElements elements) with
  | ok schemas =>
      rw [readTuple_eq all] at given
      have present : some (.tuple schemas) = s.elements :=
        congrArg Schema.elements (Except.ok.inj given)
      exact ⟨schemas, rfl, present.symm⟩
  | error fault =>
      have other : ∀ schemas, readAll (Json.strippedElements elements) ≠ .ok schemas := by
        intro schemas all'
        rw [all] at all'
        cases all'
      obtain ⟨t, places, -⟩ := (readPlaces_eq_ok_iff other).mp given
      cases elements with
      | nil => cases at_i
      | cons first rest =>
          have first_object : first.isObject :=
            (List.all_eq_true.mp objects) first List.mem_cons_self
          cases first with
          | object entries => exact absurd places (not_read_places t)
          | _ => cases first_object

theorem exists_element {i : Nat} (distinct : node.keysDistinct)
    (own : read node.withoutFormat = .ok s) (there : node.inside? (.element i) = some inner) :
    ∃ t, s.inside? (.element i) = some t ∧ read inner.withoutFormat = .ok t := by
  obtain ⟨value, found, at_i⟩ := Option.bind_eq_some_iff.mp there
  obtain ⟨found, objects⟩ := Option.filter_eq_some_iff.mp found
  obtain ⟨elements, rfl, at_i⟩ := Json.element?_eq_some_iff.mp at_i
  have given := gives_value (k := .elements) distinct own found
  obtain ⟨schemas, all, present⟩ := exists_tuple objects given at_i
  have stripped := Json.getElem?_strippedElements_eq_some.mpr ⟨inner, at_i, rfl⟩
  obtain ⟨t, at_t, each⟩ := getElem?_of_readAll all stripped
  refine ⟨t, ?_, each⟩
  rw [inside?, present]
  exact at_t

theorem branchesOf_withBranches {k : Keyword} (composes : k ∈ [.anyOf, .allOf, .oneOf])
    (s : Schema) (schemas : List Schema) : (withBranches k s schemas).branchesOf k = schemas := by
  simp only [List.mem_cons, List.not_mem_nil, or_false] at composes
  rcases composes with rfl | rfl | rfl <;> rfl

theorem branchesOf_only (k : Keyword) (s : Schema) : (s.only k).branchesOf k = s.branchesOf k := by
  cases k <;> rfl

theorem exists_branch {k : Keyword} {i : Nat} (distinct : node.keysDistinct)
    (own : read node.withoutFormat = .ok s) (there : node.inside? (.branch k i) = some inner) :
    ∃ t, s.inside? (.branch k i) = some t ∧ read inner.withoutFormat = .ok t := by
  obtain ⟨composes, there⟩ := Option.ite_none_right_eq_some.mp there
  obtain ⟨value, found, at_i⟩ := Option.bind_eq_some_iff.mp there
  obtain ⟨elements, rfl, at_i⟩ := Json.element?_eq_some_iff.mp at_i
  have given := gives_value distinct own found
  obtain ⟨schemas, all, same⟩ := (readBranches_eq_ok_iff composes).mp given
  have stripped := Json.getElem?_strippedElements_eq_some.mpr ⟨inner, at_i, rfl⟩
  obtain ⟨t, at_t, each⟩ := getElem?_of_readAll all stripped
  refine ⟨t, ?_, each⟩
  rw [inside?, ← branchesOf_only, ← same, branchesOf_withBranches composes]
  exact at_t

/-- **One step leads from a schema to a schema**, in the value and in what is read from it. -/
theorem exists_inside? {step : SchemaStep} (distinct : node.keysDistinct)
    (own : read node.withoutFormat = .ok s) (there : node.inside? step = some inner)
    (isObject : inner.isObject) :
    ∃ t, s.inside? step = some t ∧ read inner.withoutFormat = .ok t := by
  cases step with
  | property name => exact exists_property distinct own there
  | elements => exact exists_elements distinct own there isObject
  | element i => exact exists_element distinct own there
  | values => exact exists_values distinct own there isObject
  | branch k i => exact exists_branch distinct own there

end Step

end Schema

/-! ## Places -/

theorem Json.keysDistinct_schemaAt? {value node : Json} {place : SchemaPlace}
    (distinct : value.keysDistinct) (there : value.schemaAt? place = some node) :
    node.keysDistinct := by
  induction place generalizing node with
  | root =>
      cases there
      exact distinct
  | definition name =>
      obtain ⟨named, found, under⟩ := Option.bind_eq_some_iff.mp there
      exact keysDistinct_of_get? (keysDistinct_of_get? distinct found) under
  | inside place step ih =>
      obtain ⟨parent, before, within⟩ := Option.bind_eq_some_iff.mp there
      exact keysDistinct_of_inside? (ih before) within

/-- **At every place where a schema stands in the value, one stands in the loaded document**: the
schema that the value there reads as. -/
theorem Document.exists_schemaAt? {value node : Json} {d : Document} {place : SchemaPlace}
    (loaded : LoadedFrom value d) (distinct : value.keysDistinct)
    (there : value.schemaAt? place = some node) (isObject : node.isObject) :
    ∃ s, d.schemaAt? place = some s ∧ Schema.read node.withoutFormat = .ok s := by
  induction place generalizing node with
  | root =>
      cases there
      exact ⟨d.root, rfl, loaded.root⟩
  | definition name =>
      obtain ⟨s, own, found⟩ := exists_definition loaded there
      exact ⟨s, found, own⟩
  | inside place step ih =>
      obtain ⟨parent, before, within⟩ := Option.bind_eq_some_iff.mp there
      obtain ⟨s, at_s, own⟩ := ih before (Json.isObject_of_inside? within)
      have inner := Json.keysDistinct_schemaAt? distinct before
      obtain ⟨t, at_t, each⟩ := Schema.exists_inside? inner own within isObject
      refine ⟨t, ?_, each⟩
      rw [schemaAt?, at_s]
      exact at_t

end SchemaOutline
