import SchemaOutline.Proofs.Outline.Questions
import SchemaOutline.Proofs.Schema.Reference

/-!
# Lists of lists

The elements of a list may be described by a definition that is a list itself. A property then
follows the definitions down to the elements of the innermost list and takes their shape on the way
back. But every list on the way back replaces the properties of an element by its own, of which it
has none, and puts its own type where none is known yet. So of the innermost elements only a type
arrives: a list of lists of objects looks like a list of lists, and not like a list of objects.

* `Schema.ListsOf` — definitions that are lists one inside another.
* `Schema.IsScalar` — a definition with a type and without properties that is no object.
* `Steps.run_elements_innermost` — what the definition of the innermost elements gives.
* `Steps.run_elements_listsOf` — what a list of lists gives.
* `Document.elements_listsOf` — the property of a list of lists beside that of a list.
-/

namespace SchemaOutline

namespace Schema

/-- **Lists one inside another.** The outermost of `n` lists has a definition of its elements, which
is the next list, and the innermost list has the given elements, which are no list. The lists are of
type `array` and declare neither properties nor literals nor required names. -/
inductive ListsOf (target? : Schema → Option Schema) (element : Schema) : Nat → Schema → Prop where
  | innermost : element.elements = none → ListsOf target? element 0 element
  | list {n : Nat} {row inner : Schema} {ref : String} :
      row.typeNames = ["array"] → row.properties = none → row.literals = none →
      row.required = none → row.elements = some (.each (reference ref)) →
      target? (reference ref) = some inner → ListsOf target? element n inner →
      ListsOf target? element (n + 1) row

/-- The elements of a list that only refers to a definition are described by it. -/
theorem elementTarget?_reference {target? : Schema → Option Schema} {s target : Schema}
    {ref : String} (each : s.elements = some (.each (reference ref)))
    (found : target? (reference ref) = some target) : s.elementTarget? target? = some target := by
  rw [elementTarget?, each]
  exact found

theorem ListsOf.elements_element {target? : Schema → Option Schema} {element row : Schema} {n : Nat}
    (lists : ListsOf target? element n row) : element.elements = none := by
  induction lists with
  | innermost last => exact last
  | list _ _ _ _ _ _ _ ih => exact ih

/-- A definition that declares a type and no properties, and is no object. -/
def IsScalar (s : Schema) : Prop :=
  s.namedProperties = [] ∧ s.declaresObject = false ∧ s.typeNames ≠ []

instance (s : Schema) : Decidable s.IsScalar :=
  inferInstanceAs (Decidable (_ = [] ∧ _ ∧ _ ≠ []))

/-- The type that a definition gives for the elements of a list. -/
def typeOfElements (s : Schema) : Option String :=
  if s.namedProperties.isEmpty && !s.declaresObject then s.typeNames.head? else none

theorem isScalar_iff {s : Schema} :
    s.IsScalar ↔ s.namedProperties = [] ∧ s.typeOfElements.isSome := by
  unfold IsScalar typeOfElements
  cases s.namedProperties with
  | nil => cases s.declaresObject <;> cases s.typeNames <;> simp
  | cons entry rest => simp

end Schema

namespace Steps

variable (target? : Schema → Option Schema)

/-- Unless it is on the last level, a schema has a property for each declared one. -/
theorem isEmpty_run_properties {room : Nat} {s : Schema}
    (reached : 0 < room ∨ s.namedProperties = []) :
    ((ofRoom .plain target? room).properties s).run.isEmpty = s.namedProperties.isEmpty := by
  cases room with
  | zero =>
      have none := reached.resolve_left (Nat.lt_irrefl 0)
      show ((exhausted .plain).properties s).run.isEmpty = _
      rw [none, run_exhausted_properties]
      rfl
  | succ room => rw [run_ofRoom_properties, List.isEmpty_map]

/-- What `items` add is up to the definition of the elements. -/
theorem withElements_of_elementTarget? {m : Type → Type} [Monad m] (below : Steps m)
    {s target : Schema} (found : s.elementTarget? target? = some target) (p : PropertyTree) :
    below.withElements target? s p = below.elements target p := by
  rcases below.withElements_cases target? s p with ⟨other, there, run⟩ | ⟨none, -⟩
  · rw [found] at there
    cases there
    exact run
  · rw [found] at none
    cases none

/-- The definition of elements that are no list gives its properties, or else its type. -/
theorem run_elements_innermost {element : Schema} (last : element.elements = none) {room : Nat}
    (reached : 0 < room ∨ element.namedProperties = []) {p : PropertyTree}
    (unknown : p.elementType = none) :
    let q := ((ofRoom .plain target? (room + 1)).elements element p).run
    q.elementProperties = ((ofRoom .plain target? room).properties element).run ∧
      q.elementType = element.typeOfElements := by
  intro q
  have run : q = ((ofRoom .plain target? room).ofElements target? element p).run := rfl
  have start : (ofRoom .plain target? room).withElements target? element p = pure p := by
    rw [withElements, last]
  constructor
  · rw [run, run_ofElements_elementProperties]
  · rw [run, run_ofElements_elementType, start, isEmpty_run_properties target? reached, Id.run_pure,
      unknown, Option.isNone_none, Bool.and_true, Schema.typeOfElements]

/-- A list on the way back has no properties, and gives its own type where none is known. -/
theorem run_elements_list {row inner : Schema} (array : row.typeNames = ["array"])
    (bare : row.properties = none) (found : row.elementTarget? target? = some inner) {room : Nat}
    {p : PropertyTree} {type : Option String}
    (inside : ((ofRoom .plain target? (room + 1)).elements inner p).run.elementType = type) :
    let q := ((ofRoom .plain target? (room + 2)).elements row p).run
    q.elementProperties = [] ∧ q.elementType = some (type.getD "array") := by
  intro q
  have run : q = ((ofRoom .plain target? (room + 1)).ofElements target? row p).run := rfl
  have children : ((ofRoom .plain target? (room + 1)).properties row).run = [] := by
    rw [run_ofRoom_properties, Schema.namedProperties, bare]
    rfl
  have noObject : row.declaresObject = false := by
    rw [Schema.declaresObject, array]
    rfl
  constructor
  · rw [run, run_ofElements_elementProperties, children]
  · rw [run, run_ofElements_elementType, withElements_of_elementTarget? target? _ found, inside,
      children, noObject, array]
    cases type <;> rfl

/-- **What a list of lists gives**: no properties of an element, and the type of the innermost
elements if they have one to give. -/
theorem run_elements_listsOf {element row : Schema} {n : Nat}
    (lists : Schema.ListsOf target? element (n + 1) row) {room : Nat}
    (reached : 0 < room ∨ element.namedProperties = []) {p : PropertyTree}
    (unknown : p.elementType = none) :
    let q := ((ofRoom .plain target? (n + room + 2)).elements row p).run
    q.elementProperties = [] ∧ q.elementType = some (element.typeOfElements.getD "array") := by
  induction n generalizing row with
  | zero =>
      obtain _ | ⟨array, bare, -, -, each, found, inner⟩ := lists
      obtain ⟨last⟩ := inner
      have target := Schema.elementTarget?_reference each found
      obtain ⟨-, type⟩ := run_elements_innermost target? last reached unknown
      rw [Nat.zero_add]
      exact run_elements_list target? array bare target type
  | succ n ih =>
      obtain _ | ⟨array, bare, -, -, each, found, inner⟩ := lists
      obtain ⟨-, type⟩ := ih inner
      have target := Schema.elementTarget?_reference each found
      have back := run_elements_list target? array bare target type
      have levels : n + 1 + room + 2 = n + room + 1 + 2 := by omega
      rw [levels]
      exact back

end Steps

/-! ## Properties of lists -/

/-- A schema is that of a list whose elements a reference describes, and its property is resolved
from its own keywords. -/
structure Schema.IsListOf (ref : String) (s : Schema) : Prop where
  own : s.form = .plain ∨ s.form = .oneOf
  each : s.elements = some (.each (reference ref))

namespace Document

variable (d : Document)

/-- The property of a list has the shape of elements that its definition gives. -/
theorem exists_propertyWithin? (name : String) {s target : Schema} {ref : String}
    (list : s.IsListOf ref) (found : d.referenced? (.reference ref) = some target) (room : Nat) :
    ∃ tree, d.propertyWithin? name s (room + 1) = some tree ∧
      let q := ((Steps.ofRoom .plain d.referenced? room).elements target (s.bare name)).run
      tree.elementProperties = q.elementProperties ∧ tree.elementType = q.elementType := by
  have elements := Steps.withElements_of_elementTarget? d.referenced?
    (Steps.ofRoom .plain d.referenced? room) (Schema.elementTarget?_reference list.each found)
    (s.bare name)
  refine ⟨_, rfl, ?_⟩
  rw [← elements, Steps.resolveProperty]
  rcases list.own with own | own <;> rw [own] <;> exact ⟨rfl, rfl⟩

/-- **The property of a list of lists beside that of a list.** On every level that leaves room for
all the lists and the elements of the innermost one, the property of a list of lists has no
properties of an element. It has the type of the elements that the property of a list of the
innermost elements has, or where that has none the type `array`. So the two agree exactly if the
innermost elements are scalars. -/
theorem elements_listsOf {element row s t : Schema} {refRow refElement : String} {n : Nat}
    (lists : Schema.ListsOf d.referenced? element (n + 1) row)
    (ofLists : s.IsListOf refRow) (foundRow : d.referenced? (.reference refRow) = some row)
    (ofElements : t.IsListOf refElement)
    (foundElement : d.referenced? (.reference refElement) = some element) {room : Nat}
    (reached : 0 < room ∨ element.namedProperties = []) (name : String) :
    ∃ nested direct, d.propertyWithin? name s (n + room + 3) = some nested ∧
      d.propertyWithin? name t (n + room + 3) = some direct ∧
      nested.elementProperties = [] ∧
      nested.elementType = some (direct.elementType.getD "array") ∧
      direct.elementProperties = d.propertiesWithin (n + room + 1) element ∧
      direct.elementType = element.typeOfElements ∧
      (nested.elementProperties = direct.elementProperties ∧
        nested.elementType = direct.elementType ↔ element.IsScalar) := by
  have last : element.elements = none := lists.elements_element
  obtain ⟨nested, isNested, nestedProperties, nestedType⟩ :=
    d.exists_propertyWithin? name ofLists foundRow (n + room + 2)
  obtain ⟨direct, isDirect, directProperties, directType⟩ :=
    d.exists_propertyWithin? name ofElements foundElement (n + room + 2)
  have up : 0 < n + room + 1 ∨ element.namedProperties = [] := .inl (Nat.succ_pos _)
  obtain ⟨noProperties, fromLists⟩ :=
    Steps.run_elements_listsOf d.referenced? lists reached (p := s.bare name) rfl
  obtain ⟨properties, fromElement⟩ :=
    Steps.run_elements_innermost d.referenced? last up (p := t.bare name) rfl
  rw [noProperties] at nestedProperties
  rw [fromLists] at nestedType
  rw [properties] at directProperties
  rw [fromElement] at directType
  refine ⟨nested, direct, isNested, isDirect, nestedProperties, directType ▸ nestedType,
    directProperties, directType, ?_⟩
  have empty : direct.elementProperties = [] ↔ element.namedProperties = [] := by
    rw [directProperties, ← List.isEmpty_iff, ← List.isEmpty_iff,
      Steps.isEmpty_run_properties d.referenced? up]
  rw [nestedProperties, nestedType, directType, eq_comm, empty, Schema.isScalar_iff]
  cases element.typeOfElements <;> simp

end Document

namespace Coast

/-- A list whose elements a definition describes. -/
def listOf (name : String) : Schema where
  types := some (.single "array")
  elements := some (.each (.reference (Document.reference name)))

def point : Schema where
  types := some (.single "object")
  properties := some [("x", { types := some (.single "number") })]

def listJson (name : String) : Json :=
  .object
    [("type", .text "array"),
      ("items", .object [("$ref", .text (Document.reference name))])]

def pointJson : Json :=
  .object
    [("type", .text "object"),
      ("properties", .object [("x", .object [("type", .text "number")])])]

def json : Json :=
  .object
    [("properties", .object [("shore", listJson "Point"), ("shores", listJson "Path")]),
      ("definitions", .object [("Path", listJson "Point"), ("Point", pointJson)])]

/-- A shore is a list of points, and shores are a list of such lists. -/
def document : Document where
  raw := json
  root := { properties := some [("shore", listOf "Point"), ("shores", listOf "Path")] }
  definitions := [("Path", listOf "Point"), ("Point", point)]

theorem ofJson_json : Document.ofJson json = .ok document := rfl

theorem path_listsOf : Schema.ListsOf document.referenced? point 1 (listOf "Point") :=
  .list rfl rfl rfl rfl rfl rfl (.innermost rfl)

theorem isListOf (name : String) : (listOf name).IsListOf (Document.reference name) where
  own := .inl rfl
  each := rfl

end Coast

/-- The points of a shore are seen in a list of points and not in a list of such lists. -/
theorem Document.elements_listsOf_coast :
    Schema.ListsOf Coast.document.referenced? Coast.point 1 (Coast.listOf "Point") ∧
    (Coast.listOf "Path").IsListOf (reference "Path") ∧
    Coast.document.referenced? (.reference (reference "Path")) = some (Coast.listOf "Point") ∧
    (Coast.listOf "Point").IsListOf (reference "Point") ∧
    Coast.document.referenced? (.reference (reference "Point")) = some Coast.point ∧
    0 < 61 ∧
    ∃ shores shore,
      Coast.document.propertyWithin? "shores" (Coast.listOf "Path") maxLevels = some shores ∧
      Coast.document.propertyWithin? "shores" (Coast.listOf "Point") maxLevels = some shore ∧
      shores.elementProperties = [] ∧ shores.elementType = some "array" := by
  have row : Coast.document.referenced? (.reference (reference "Path")) =
      some (Coast.listOf "Point") := rfl
  have point : Coast.document.referenced? (.reference (reference "Point")) = some Coast.point := rfl
  have room : 0 < 61 ∨ Coast.point.namedProperties = [] := .inl (by decide)
  obtain ⟨shores, shore, isShores, isShore, noProperties, type, -, direct, -⟩ :=
    Coast.document.elements_listsOf Coast.path_listsOf (Coast.isListOf "Path") row
      (Coast.isListOf "Point") point room "shores"
  rw [direct] at type
  exact ⟨Coast.path_listsOf, Coast.isListOf "Path", row, Coast.isListOf "Point", point, by decide,
    shores, shore, isShores, isShore, noProperties, type⟩

/-- Shores have neither the properties of a point nor the type of its elements that a shore has. -/
theorem Document.elements_ne_coast :
    ofJson Coast.json = .ok Coast.document ∧
    Schema.ListsOf Coast.document.referenced? Coast.point 1 (Coast.listOf "Point") ∧
    Coast.document.properties = [("shore", Coast.listOf "Point"), ("shores", Coast.listOf "Path")] ∧
    ∃ shore shores, Coast.document.outlineProperties = [shore, shores] ∧
      shore.elementProperties.map (·.name) = ["x"] ∧ shore.elementType = none ∧
      shores.elementProperties = [] ∧ shores.elementType = some "array" ∧
      shores.elementType ≠ shore.elementType :=
  ⟨Coast.ofJson_json, Coast.path_listsOf, rfl, _, _, rfl, rfl, rfl, rfl, rfl, by decide⟩

end SchemaOutline
