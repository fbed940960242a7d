import SchemaOutline.Proofs.Outline.BareReferences
import SchemaOutline.Proofs.Outline.ListsOfLists

/-!
# Elements in place

The elements of a list may be described in place, or by a reference to a definition. By a reference
the list shows the properties of the definition. In place, a description with types is taken for
that of a scalar: the list shows its first type and nothing of its properties, also where the type
is `object`. So the same description shows different things wherever the list has a level left for
the properties of its elements.

To compare the two, the description is put in a definition of its own, under a name that nothing
refers to; what else there is to see is then the same with and without that definition.

* `Schema.withEach` — a schema with another description of its elements.
* `Steps.run_resolveProperty_typed`, `Steps.run_resolveProperty_referenced` — what a list shows of
  its elements in place and by reference.
* `Document.AddsDefinition`, `Document.AddsDefinition.closed` — a document with one definition more,
  and what does not notice it.
* `Document.elements_inPlace` — the property of a list with its elements in place and by reference.
-/

namespace SchemaOutline

namespace Schema

/-- The schema with another description of its elements. -/
def withEach (s element : Schema) : Schema :=
  { s with elements := some (.each element) }

/-- A schema is resolved from its own keywords. -/
def IsOwn (s : Schema) : Prop :=
  s.form = .plain ∨ s.form = .oneOf

/-- A plain schema has no variants. -/
theorem oneOf_eq_none_of_plain {s : Schema} (plain : s.form = .plain) : s.oneOf = none := by
  rw [← Option.isNone_iff_eq_none, ← Option.not_isSome]
  grind [form]

/-- An object declares a type. -/
theorem exists_head?_of_declaresObject {s : Schema} (object : s.declaresObject) :
    s.types.isSome ∧ ∃ first, s.typeNames.head? = some first := by
  unfold declaresObject at object
  cases names : s.typeNames with
  | nil => simp [names] at object
  | cons first rest =>
      refine ⟨?_, first, rfl⟩
      unfold typeNames at names
      cases types : s.types with
      | none => simp [types] at names
      | some choice => rfl

end Schema

namespace Steps

section Own

variable {below : Steps Id} (keeps : below.KeepsOwn) (target? : Schema → Option Schema)
  (name : String) {s : Schema}

include keeps

/-- A schema that is resolved from its own keywords has what a plain one has, and its variants. -/
theorem run_resolveProperty_own (own : s.IsOwn) :
    (below.resolveProperty target? name s).run =
      { (below.resolvePlain target? name s).run with
        variants := (below.resolveVariants target? s).run } := by
  rcases own with plain | oneOf
  · have noVariants : (below.resolvePlain target? name s).run.variants = [] :=
      (withElements_same keeps target? s (s.bare name)).variants
    have none : (below.resolveVariants target? s).run = [] := by
      rw [run_resolveVariants, Schema.oneOf_eq_none_of_plain plain]
      rfl
    rw [none, PropertyTree.with_variants noVariants, resolveProperty, plain]
  · rw [resolveProperty, oneOf]
    rfl

/-- The elements of a list change neither its name nor its types, properties or variants. -/
theorem resolveProperty_withEach_same (own : s.IsOwn) (element other : Schema)
    (ignores : ∀ element, (below.properties (s.withEach element)).run = (below.properties s).run) :
    (below.resolveProperty target? name (s.withEach element)).run.SameBesideElements
      (below.resolveProperty target? name (s.withEach other)).run := by
  have bare (element : Schema) :=
    withElements_same keeps target? (s.withEach element) (s.bare name)
  rw [run_resolveProperty_own keeps target? name (s := s.withEach element) own,
    run_resolveProperty_own keeps target? name (s := s.withEach other) own]
  exact {
    name := (bare element).name.trans (bare other).name.symm
    types := (bare element).types.trans (bare other).types.symm
    properties := (ignores element).trans (ignores other).symm
    variants := rfl }

/-- Elements that are described in place by their types show the first type, and nothing else. -/
theorem run_resolveProperty_typed (own : s.IsOwn) {element : Schema}
    (typed : element.types.isSome) :
    (below.resolveProperty target? name (s.withEach element)).run.elementProperties = [] ∧
      (below.resolveProperty target? name (s.withEach element)).run.elementType =
        element.typeNames.head? := by
  have run : below.withElements target? (s.withEach element) (s.bare name) =
      pure { s.bare name with elementType := element.typeNames.head? } := by
    rw [withElements]
    simp [Schema.withEach, typed]
  have plain : (below.resolvePlain target? name (s.withEach element)).run =
      { s.bare name with
        elementType := element.typeNames.head?
        properties := (below.properties (s.withEach element)).run } := by
    rw [run_resolvePlain]
    exact congrArg (fun p : Id PropertyTree => { p.run with
      properties := (below.properties (s.withEach element)).run }) run
  rw [run_resolveProperty_own keeps target? name (s := s.withEach element) own, plain]
  exact ⟨rfl, rfl⟩

end Own

/-- Where a property is not resolved from its own keywords, its elements do not matter. -/
theorem resolveProperty_withEach_eq (below : Steps Id) (target? : Schema → Option Schema)
    (name : String) {s : Schema} (composed : ¬ s.IsOwn) (element other : Schema) :
    below.resolveProperty target? name (s.withEach element) =
      below.resolveProperty target? name (s.withEach other) := by
  have form (element : Schema) : (s.withEach element).form = s.form := rfl
  rw [resolveProperty, resolveProperty, form, form]
  cases shape : s.form with
  | anyOf => rfl
  | map => rfl
  | allOf => rfl
  | oneOf => exact absurd (.inr shape) composed
  | plain => exact absurd (.inl shape) composed

/-- A definition with properties adds no type of its own. -/
theorem run_ofElements_elementType_of_filled (below : Steps Id) (target? : Schema → Option Schema)
    {target : Schema} (filled : (below.properties target).run ≠ []) (p : PropertyTree) :
    (below.ofElements target? target p).run.elementType =
      (below.withElements target? target p).run.elementType := by
  rw [run_ofElements_elementType]
  simp [List.isEmpty_eq_false_iff.mpr filled]

/-- Elements that a definition with properties describes show these, and of their type what the
elements of the definition show of theirs. -/
theorem run_resolveProperty_referenced (target? : Schema → Option Schema) (room : Nat)
    (name : String) {s target : Schema} {ref : String} (own : s.IsOwn)
    (found : target? (.reference ref) = some target) (filled : target.namedProperties ≠ []) :
    let tree := ((ofRoom .plain target? (room + 2)).resolveProperty target? name
      (s.withEach (.reference ref))).run
    tree.elementProperties = ((ofRoom .plain target? (room + 1)).properties target).run ∧
      tree.elementProperties ≠ [] ∧
      tree.elementType = ((ofRoom .plain target? (room + 1)).resolvePlain target? name
        target.elementsOnly).run.elementType := by
  intro tree
  let below := ofRoom .plain target? (room + 1)
  have isTarget : (s.withEach (.reference ref)).elementTarget? target? = some target :=
    Schema.elementTarget?_reference rfl found
  have run : tree.elementProperties =
        (below.ofElements target? target (s.bare name)).run.elementProperties ∧
      tree.elementType = (below.ofElements target? target (s.bare name)).run.elementType := by
    have whole : tree = _ :=
      run_resolveProperty_own (ofRoom_keepsOwn target? (room + 2)) target? name
        (s := s.withEach (.reference ref)) own
    rw [whole, run_resolvePlain, withElements_of_elementTarget? target? _ isTarget]
    exact ⟨rfl, rfl⟩
  have properties := run_ofElements_elementProperties below target? target (s.bare name)
  have some : (below.properties target).run ≠ [] := by
    rw [ne_eq, run_properties_eq_nil_iff]
    simp [filled]
  have type := run_ofElements_elementType_of_filled below target? some (s.bare name)
  refine ⟨run.1.trans properties, ?_, run.2.trans (type.trans ?_)⟩
  · rw [run.1, properties]
    exact some
  · exact withElements_elementType (ofRoom_ignoresOther target? (room + 1)) target? target rfl

end Steps

/-! ## One definition more -/

namespace Document

/-- **A document with one definition more**, whose name has no slash, is the name of no other
definition, and is referred to by none. -/
structure AddsDefinition (d more : Document) (name : String) (added : Schema) : Prop where
  plain : '/' ∉ name.toList
  fresh : d.definition? name = none
  defined : more.definition? name = some added
  others : ∀ other, other ≠ name → more.definition? other = d.definition? other
  unused : ∀ other target, d.definition? other = some target → ¬ target.RefersTo name

/-- A schema that is inside another one or inside a definition. -/
def Seen (d : Document) (s t : Schema) : Prop :=
  t.Inside s ∨ ∃ name target, d.definition? name = some target ∧ t.Inside target

/-- What does not refer to the name of the new definition does not notice it. -/
theorem AddsDefinition.closed {d more : Document} {name : String} {added s : Schema}
    (adds : d.AddsDefinition more name added) (unused : ¬ s.RefersTo name) :
    Closed d.referenced? more.referenced? (d.Seen s) where
  part {t u} seen mem := by
    rcases seen with inside | ⟨other, target, defined, inside⟩
    · exact .inl (inside.part mem)
    · exact .inr ⟨other, target, defined, inside.part mem⟩
  same {t} seen := by
    unfold referenced?
    cases ref : t.ref with
    | none => rfl
    | some reference =>
        show (targetName? reference).bind _ = (targetName? reference).bind _
        cases points : targetName? reference with
        | none => rfl
        | some other =>
            have different : other ≠ name := by
              rintro rfl
              rcases seen with inside | ⟨_, target, defined, inside⟩
              · exact unused ⟨t, reference, inside, ref, points⟩
              · exact adds.unused _ target defined ⟨t, reference, inside, ref, points⟩
            exact (adds.others other different).symm
  target {t target} _ found := by
    obtain ⟨-, other, -, -, defined⟩ := referenced?_eq_some_iff.mp found
    exact .inr ⟨other, target, defined, .self target⟩

/-- **Elements in place beside the same elements by reference.** Take a description of elements that
is an object with properties, and put it in a definition of its own. A list that is resolved from
its own keywords and has a level left for the properties of its elements shows these by reference.
In place it shows none of them, but the first type of the description, as it would for a scalar. In
everything that elements do not touch the two are the same. A property of another form is the same
altogether, as it does not look at its own elements. -/
theorem elements_inPlace {d more : Document} {name : String} {element s : Schema}
    (adds : d.AddsDefinition more name element) (object : element.declaresObject)
    (filled : element.namedProperties ≠ []) (unused : ¬ (s.withEach element).RefersTo name)
    (key : String) (room : Nat) :
    (s.IsOwn → ∃ inPlace referenced elements,
      d.propertyWithin? key (s.withEach element) (room + 3) = some inPlace ∧
      more.propertyWithin? key (s.withEach (.reference (reference name))) (room + 3) =
        some referenced ∧
      inPlace.elementProperties = [] ∧ inPlace.elementType = element.typeNames.head? ∧
      inPlace.elementType ≠ none ∧
      referenced.elementProperties = d.propertiesWithin (room + 1) element ∧
      referenced.elementProperties ≠ [] ∧
      more.propertyWithin? key element.elementsOnly (room + 2) = some elements ∧
      referenced.elementType = elements.elementType ∧
      inPlace.SameBesideElements referenced) ∧
    (¬ s.IsOwn → d.propertyWithin? key (s.withEach element) room =
      more.propertyWithin? key (s.withEach (.reference (reference name))) room) := by
  have closed := adds.closed unused
  have agree := Steps.AgreeOn.ofRoom closed Descent.plain
  have self : d.Seen (s.withEach element) (s.withEach element) := .inl (.self _)
  constructor
  · intro own
    have found : more.referenced? (.reference (reference name)) = some element :=
      (referenced?_of_ref adds.plain rfl).trans adds.defined
    obtain ⟨typed, first, isFirst⟩ := Schema.exists_head?_of_declaresObject object
    obtain ⟨noProperties, type⟩ := Steps.run_resolveProperty_typed
      (Steps.ofRoom_keepsOwn d.referenced? (room + 2)) d.referenced? key own typed
    obtain ⟨properties, some, elementType⟩ :=
      Steps.run_resolveProperty_referenced more.referenced? room key own found filled
    have inside : d.Seen (s.withEach element) element :=
      closed.part self (Schema.mem_parts_of_elements rfl)
    have sameProperties := congrArg Id.run ((agree (room + 1)).properties inside)
    have sameTree := congrArg Id.run ((agree (room + 2)).resolveProperty closed self key)
    refine ⟨_, _, _, rfl, rfl, noProperties, type, ?_, properties.trans sameProperties.symm, some,
      rfl, elementType, ?_⟩
    · rw [type, isFirst]
      exact Option.some_ne_none first
    · rw [sameTree]
      exact Steps.resolveProperty_withEach_same (Steps.ofRoom_keepsOwn more.referenced? (room + 2))
        more.referenced? key own element _ fun _ => rfl
  · intro composed
    cases room with
    | zero => rfl
    | succ room =>
        have sameTree := congrArg Id.run ((agree room).resolveProperty closed self key)
        have ignored := Steps.resolveProperty_withEach_eq
          (Steps.ofRoom .plain more.referenced? room) more.referenced? key composed element
          (.reference (reference name))
        rw [propertyWithin?, propertyWithin?, sameTree, ignored]

end Document

namespace Bakery

def weight : Schema where
  types := some (.single "number")

/-- A loaf is an object with a weight. -/
def loaf : Schema where
  types := some (.single "object")
  properties := some [("weight", weight)]

def oven : Schema where
  types := some (.single "string")

def list : Schema where
  types := some (.single "array")

def loafJson : Json :=
  .object
    [("type", .text "object"),
      ("properties", .object [("weight", .object [("type", .text "number")])])]

def json (items : Json) (definitions : List (String × Json)) : Json :=
  .object
    [("properties", .object [("tray", .object [("type", .text "array"), ("items", items)])]),
      ("definitions", .object (("Oven", .object [("type", .text "string")]) :: definitions))]

/-- A bakery with trays of loaves. -/
def document : Document where
  raw := json loafJson []
  root := { properties := some [("tray", list.withEach loaf)] }
  definitions := [("Oven", oven)]

/-- The same bakery with a definition of a loaf. -/
def defining : Document where
  raw := json (.object [("$ref", .text "#/definitions/Loaf")]) [("Loaf", loafJson)]
  root := { properties := some [("tray", list.withEach (.reference "#/definitions/Loaf"))] }
  definitions := [("Oven", oven), ("Loaf", loaf)]

theorem ofJson_raw :
    Document.ofJson document.raw = .ok document ∧ Document.ofJson defining.raw = .ok defining :=
  ⟨rfl, rfl⟩

/-- No loaf, nor anything in it, refers to a definition. -/
theorem not_refersTo {s : Schema} (here : s ∈ [list.withEach loaf, loaf, weight, oven])
    (name : String) : ¬ s.RefersTo name := by
  rintro ⟨t, reference, inside, ref, -⟩
  have there : t ∈ [list.withEach loaf, loaf, weight, oven] := by
    refine inside.of_parts ?_ here
    intro s t here mem
    simp only [List.mem_cons, List.not_mem_nil, or_false] at here ⊢
    rcases here with rfl | rfl | rfl | rfl
    · exact .inr (.inl (List.mem_singleton.mp mem))
    · exact .inr (.inr (.inl (List.mem_singleton.mp mem)))
    · exact absurd mem List.not_mem_nil
    · exact absurd mem List.not_mem_nil
  have none : ∀ t ∈ [list.withEach loaf, loaf, weight, oven], t.ref = none := by
    simp [list, Schema.withEach, loaf, weight, oven]
  rw [none t there] at ref
  cases ref

theorem addsDefinition : document.AddsDefinition defining "Loaf" loaf where
  plain := by decide
  fresh := rfl
  defined := rfl
  others other different := by
    have second : (other == "Loaf") = false := by simpa using different
    simp [Document.definition?, document, defining, List.lookup_cons, second]
  unused other target defined := by
    have only : target = oven := by
      unfold Document.definition? document at defined
      rw [List.lookup_cons] at defined
      split at defined
      · exact (Option.some.inj defined).symm
      · cases defined
    subst only
    exact not_refersTo (by simp) "Loaf"

end Bakery

/-- A tray shows the weight of a loaf by reference, and in place only that a loaf is an object. -/
theorem Document.elements_inPlace_bakery :
    Bakery.document.AddsDefinition Bakery.defining "Loaf" Bakery.loaf ∧
    Bakery.loaf.declaresObject ∧ Bakery.loaf.namedProperties ≠ [] ∧
    ¬ (Bakery.list.withEach Bakery.loaf).RefersTo "Loaf" ∧ Bakery.list.IsOwn ∧
    ∃ inPlace referenced,
      Bakery.document.propertyWithin? "tray" (Bakery.list.withEach Bakery.loaf) maxLevels =
        some inPlace ∧
      Bakery.defining.propertyWithin? "tray"
        (Bakery.list.withEach (.reference (reference "Loaf"))) maxLevels = some referenced ∧
      inPlace.elementProperties = [] ∧ inPlace.elementType = some "object" ∧
      referenced.elementProperties ≠ [] ∧ referenced.elementType = none := by
  have unused : ¬ (Bakery.list.withEach Bakery.loaf).RefersTo "Loaf" :=
    Bakery.not_refersTo (by simp) "Loaf"
  have filled : Bakery.loaf.namedProperties ≠ [] := List.cons_ne_nil _ _
  have own : Bakery.list.IsOwn := .inl rfl
  obtain ⟨compared, -⟩ :=
    Document.elements_inPlace Bakery.addsDefinition rfl filled unused "tray" 61
  obtain ⟨inPlace, referenced, elements, isInPlace, isReferenced, none, type, -, -, some,
    isElements, noType, -⟩ := compared own
  cases isElements
  exact ⟨Bakery.addsDefinition, rfl, filled, unused, own, inPlace, referenced, isInPlace,
    isReferenced, none, type, some, noType⟩

/-- A tray in place has neither the properties of a loaf nor no type of its elements. -/
theorem Document.elements_ne_bakery :
    ofJson Bakery.document.raw = .ok Bakery.document ∧
    ofJson Bakery.defining.raw = .ok Bakery.defining ∧
    Bakery.document.properties = [("tray", Bakery.list.withEach Bakery.loaf)] ∧
    Bakery.defining.properties =
      [("tray", Bakery.list.withEach (.reference (reference "Loaf")))] ∧
    Bakery.document.AddsDefinition Bakery.defining "Loaf" Bakery.loaf ∧
    Bakery.loaf.declaresObject ∧ Bakery.loaf.namedProperties ≠ [] ∧ Bakery.loaf.ref = none ∧
    ∃ inPlace referenced, Bakery.document.outlineProperties = [inPlace] ∧
      Bakery.defining.outlineProperties = [referenced] ∧
      referenced.elementProperties.map (·.name) = ["weight"] ∧
      inPlace.elementProperties = [] ∧
      inPlace.elementProperties ≠ referenced.elementProperties ∧
      inPlace.elementType = some "object" ∧ inPlace.elementType ≠ none :=
  ⟨Bakery.ofJson_raw.1, Bakery.ofJson_raw.2, rfl, rfl, Bakery.addsDefinition, rfl,
    List.cons_ne_nil _ _, rfl, _, _, rfl, rfl, rfl, rfl, (List.cons_ne_nil _ _).symm, rfl,
    Option.some_ne_none _⟩

end SchemaOutline
