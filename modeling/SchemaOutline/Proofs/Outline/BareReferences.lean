import SchemaOutline.Proofs.Outline.ElementShapes
import SchemaOutline.Proofs.Outline.InPlace

/-!
# Bare references

A schema may be nothing but a reference. Where it is a branch, describes elements or describes the
values of a map, the reference is followed. Where it is the schema of a property it is not: the form
of such a schema is plain, and a plain schema gives what its own keywords say, which is nothing. So
the property has its name and no more, whatever the definition is. The same reference as the only
branch of `allOf` gives the definition, so the two agree only if the definition has nothing to say.

* `Schema.elementsOnly` — the `items` of a schema without its other keywords.
* `Steps.IgnoresOther` — the type of elements depends on nothing else of a property.
* `Steps.run_resolvePlain_eq` — a plain schema says what its elements say, and what it declares.
* `Document.propertyWithin?_reference` — the property of a bare reference, and when it is that of
  the definition.
-/

namespace SchemaOutline

attribute [ext] PropertyTree

theorem PropertyTree.with_variants {p : PropertyTree} {variants : List PropertyTree}
    (same : p.variants = variants) : { p with variants } = p := by
  cases p
  cases same
  rfl

theorem PropertyTree.with_properties {p : PropertyTree} {properties : List PropertyTree}
    (same : p.properties = properties) : { p with properties } = p := by
  cases p
  cases same
  rfl

/-- The schema that says what a schema says of elements, and nothing else. -/
def Schema.elementsOnly (s : Schema) : Schema where
  elements := s.elements

namespace Steps

/-! ## What elements add -/

/-- The type of elements that is added depends on the one that is there, and on nothing else of a
property. -/
def IgnoresOther (S : Steps Id) : Prop :=
  ∀ target {p q : PropertyTree}, p.elementType = q.elementType →
    (S.elements target p).run.elementType = (S.elements target q).run.elementType

section Elements

variable {below : Steps Id} (ignores : below.IgnoresOther) (target? : Schema → Option Schema)

include ignores

theorem withElements_elementType (s : Schema) {p q : PropertyTree}
    (same : p.elementType = q.elementType) :
    (below.withElements target? s p).run.elementType =
      (below.withElements target? s q).run.elementType := by
  unfold withElements
  split
  · split
    · rfl
    · split
      · exact ignores _ same
      · exact same
  · exact same

theorem ofElements_elementType (target : Schema) {p q : PropertyTree}
    (same : p.elementType = q.elementType) :
    (below.ofElements target? target p).run.elementType =
      (below.ofElements target? target q).run.elementType := by
  rw [run_ofElements_elementType, run_ofElements_elementType,
    withElements_elementType ignores target? target same]

end Elements

theorem ofRoom_ignoresOther (target? : Schema → Option Schema) (room : Nat) :
    (ofRoom .plain target? room).IgnoresOther := by
  induction room with
  | zero => exact fun _ _ _ same => same
  | succ room ih => exact fun target _ _ same => ofElements_elementType ih target? target same

variable (target? : Schema → Option Schema) (room : Nat) (name : String)

/-- **A plain schema says what its elements say, and what it declares.** -/
theorem run_resolvePlain_eq (s : Schema) :
    let steps := ofRoom .plain target? room
    let elements := (steps.resolvePlain target? name s.elementsOnly).run
    (steps.resolvePlain target? name s).run =
      { elements with
        types := s.declaredTypes
        literals := s.literalValues ++ elements.literals
        required := s.requiredNames ++ elements.required
        properties := (steps.properties s).run } := by
  intro steps elements
  have keeps := ofRoom_keepsOwn target? room
  have own := withElements_same keeps target? s (s.bare name)
  have alone := withElements_same keeps target? s (.named name)
  have puts := puts_withElements target? room s
  have literals : (steps.withElements target? s (s.bare name)).run.literals =
      s.literalValues ++ (steps.withElements target? s (.named name)).run.literals := by
    rw [run_withElements_literals, run_withElements_literals]
    rfl
  have required : (steps.withElements target? s (s.bare name)).run.required =
      s.requiredNames ++ (steps.withElements target? s (.named name)).run.required := by
    rw [run_withElements_required, run_withElements_required]
    rfl
  ext1
  · exact own.name.trans alone.name.symm
  · exact own.types
  · exact withElements_elementType (ofRoom_ignoresOther target? room) target? s rfl
  · exact (puts _).trans (puts (.named name)).symm
  · exact literals
  · exact required
  · rfl
  · exact own.variants.trans alone.variants.symm

/-- What a schema says of its elements alone are no types, properties or variants. -/
theorem run_resolvePlain_elementsOnly (s : Schema) :
    let elements := ((ofRoom .plain target? room).resolvePlain target? name s.elementsOnly).run
    elements.name = name ∧ elements.types = [] ∧ elements.properties = [] ∧
      elements.variants = [] := by
  intro elements
  have alone := withElements_same (ofRoom_keepsOwn target? room) target? s (.named name)
  have none : ((ofRoom .plain target? room).properties s.elementsOnly).run = [] := by
    cases room <;> rfl
  exact ⟨alone.name, alone.types, none, alone.variants⟩

/-- A schema without properties, or on the last level, has none. -/
theorem run_properties_eq_nil_iff (s : Schema) :
    ((ofRoom .plain target? room).properties s).run = [] ↔ room = 0 ∨ s.namedProperties = [] := by
  cases room with
  | zero => exact iff_of_true (run_exhausted_properties s) (.inl rfl)
  | succ room => simp [run_ofRoom_properties]

/-- A plain schema has nothing to say if it declares nothing, and its elements have nothing to
say. -/
theorem run_resolvePlain_eq_named_iff (s : Schema) :
    let steps := ofRoom .plain target? room
    (steps.resolvePlain target? name s).run = .named name ↔
      s.typeNames = [] ∧ s.literalValues = [] ∧ s.requiredNames = [] ∧
        (room = 0 ∨ s.namedProperties = []) ∧
        (steps.resolvePlain target? name s.elementsOnly).run = .named name := by
  intro steps
  constructor
  · intro blank
    obtain ⟨sameName, noTypes, noProperties, noVariants⟩ :=
      run_resolvePlain_elementsOnly target? room name s
    rw [run_resolvePlain_eq] at blank
    obtain ⟨-, types, elementType, elementProperties, literals, required, properties, -⟩ :=
      PropertyTree.mk.inj blank
    obtain ⟨ownLiterals, noLiterals⟩ := List.append_eq_nil_iff.mp literals
    obtain ⟨ownRequired, noRequired⟩ := List.append_eq_nil_iff.mp required
    refine ⟨List.map_eq_nil_iff.mp types, ownLiterals, ownRequired,
      (run_properties_eq_nil_iff target? room s).mp properties, ?_⟩
    ext1 <;> assumption
  · rintro ⟨types, literals, required, properties, elements⟩
    rw [run_resolvePlain_eq, elements, Schema.declaredTypes, types, literals, required,
      (run_properties_eq_nil_iff target? room s).mpr properties]
    rfl

/-- A reference to a union under `allOf` is the union with the variants of its definition. -/
theorem run_mergePart_reference_union {target : Schema} {ref : String}
    (found : target? (.reference ref) = some target) (union : target.anyOf.isSome) :
    let steps := ofRoom .plain target? room
    (steps.mergePart target? (.named name) (.reference ref)).run =
      { (steps.resolveAnyOf target? name target).run with
        variants := (steps.resolveVariants target? target).run } := by
  intro steps
  have named := resolveAnyOf_name (ofRoom_keepsOwn target? room) target? name target
  rw [run_mergePart_union _ _ found union, mergeTypes_reference]
  have absorbed := PropertyTree.absorb_named
    { (steps.resolveAnyOf target? name target).run with
      variants := (steps.resolveVariants target? target).run }
  rwa [named] at absorbed

/-- A union has nothing to say if its branches have not, and there are no variants. -/
theorem run_mergePart_reference_union_eq_named_iff {target : Schema} {ref : String}
    (found : target? (.reference ref) = some target) (union : target.anyOf.isSome) :
    let steps := ofRoom .plain target? room
    (steps.mergePart target? (.named name) (.reference ref)).run = .named name ↔
      (steps.resolveAnyOf target? name target).run = .named name ∧ target.oneOf.getD [] = [] := by
  intro steps
  have bare := resolveAnyOf_variants (ofRoom_keepsOwn target? room) target? name target
  have variants : (steps.resolveVariants target? target).run = [] ↔ target.oneOf.getD [] = [] := by
    rw [run_resolveVariants, List.map_eq_nil_iff]
  rw [run_mergePart_reference_union target? room name found union, ← variants]
  constructor
  · intro blank
    have none : (steps.resolveVariants target? target).run = [] :=
      congrArg PropertyTree.variants blank
    have whole := PropertyTree.with_variants (bare.trans none.symm)
    exact ⟨whole.symm.trans blank, none⟩
  · rintro ⟨blank, none⟩
    rw [blank, none]
    rfl

end Steps

/-! ## Properties -/

namespace Document

/-- **A bare reference is not followed where it is the schema of a property.** On every level such a
property has its name and nothing else, whatever the reference points to. The same reference as the
only branch of `allOf` gives what the definition says. So the two are the same exactly if it says
nothing: a definition that is no union declares neither types nor literals, required names or (where
there is a level for them) properties, and its `items` alone say nothing; a union has branches that
say nothing, and no variants. -/
theorem propertyWithin?_reference (d : Document) :
    (∀ ref name room, d.propertyWithin? name (.reference ref) (room + 1) = some (.named name)) ∧
    ∀ definition target, '/' ∉ definition.toList → d.definition? definition = some target →
      ∀ name room, ∃ tree,
        d.propertyWithin? name (BranchKeyword.allOf.only [.reference (reference definition)])
          (room + 1) = some tree ∧
        (target.anyOf = none →
          (tree = .named name ↔ target.typeNames = [] ∧ target.literalValues = [] ∧
            target.requiredNames = [] ∧ (room = 0 ∨ target.namedProperties = []) ∧
            d.propertyWithin? name target.elementsOnly (room + 1) = some (.named name))) ∧
        (target.anyOf.isSome →
          (tree = .named name ↔
            d.propertyWithin? name target (room + 1) = some (.named name) ∧
            target.oneOf.getD [] = [])) := by
  constructor
  · intro ref name room
    cases room <;> rfl
  · intro definition target free defined name room
    have found : d.referenced? (.reference (reference definition)) = some target :=
      (referenced?_of_ref free rfl).trans defined
    let steps := Steps.ofRoom .plain d.referenced? room
    refine ⟨_, d.propertyWithin?_only .allOf _ name room, ?_, ?_⟩
    · intro single
      have elements : d.propertyWithin? name target.elementsOnly (room + 1) =
          some (steps.resolvePlain d.referenced? name target.elementsOnly).run := rfl
      rw [Steps.mergeBranch_reference found single,
        Steps.run_mergeDefinition_named (Steps.ofRoom_ignoresProperties d.referenced? room),
        elements, Option.some.injEq]
      exact Steps.run_resolvePlain_eq_named_iff d.referenced? room name target
    · intro union
      have form : target.form = .anyOf := by simp [Schema.form, union]
      have inPlace : d.propertyWithin? name target (room + 1) =
          some (steps.resolveAnyOf d.referenced? name target).run := by
        rw [propertyWithin?, Steps.resolveProperty, form]
      rw [inPlace, Option.some.injEq]
      exact Steps.run_mergePart_reference_union_eq_named_iff d.referenced? room name found union

end Document

namespace Ship

/-- A cabin has a number of beds. -/
def cabin : Schema where
  types := some (.single "object")
  required := some ["beds"]
  properties := some [("beds", { types := some (.single "integer") })]

/-- Of a deck nothing is said but that it has planks, and of these nothing at all. -/
def deck : Schema where
  elements := some (.each (.reference "#/definitions/Plank"))

/-- Freight is a cabin or a text. -/
def freight : Schema where
  anyOf := some [.reference "#/definitions/Cabin", { types := some (.single "string") }]

def json : Json :=
  let reference (name : String) := Json.object [("$ref", .text (Document.reference name))]
  .object
    [("properties", .object
        [("cabin", reference "Cabin"),
          ("berth", .object [("allOf", .list [reference "Cabin"])])]),
      ("definitions", .object
        [("Cabin", .object
            [("type", .text "object"), ("required", .list [.text "beds"]),
              ("properties", .object [("beds", .object [("type", .text "integer")])])]),
          ("Deck", .object [("items", reference "Plank")]), ("Plank", .object []),
          ("Freight", .object
            [("anyOf", .list [reference "Cabin", .object [("type", .text "string")]])])])]

/-- A ship that refers to its cabins in two ways. -/
def document : Document where
  raw := json
  root :=
    { properties := some
        [("cabin", .reference "#/definitions/Cabin"),
          ("berth", BranchKeyword.allOf.only [.reference "#/definitions/Cabin"])] }
  definitions := [("Cabin", cabin), ("Deck", deck), ("Plank", {}), ("Freight", freight)]

theorem ofJson_json : Document.ofJson json = .ok document := rfl

end Ship

/-- Of the definitions of a ship, only a deck is the same by a bare reference and under `allOf`. -/
theorem Document.propertyWithin?_reference_ship :
    (∀ name, Ship.document.propertyWithin? name (.reference (reference name)) maxLevels =
      some (.named name)) ∧
    '/' ∉ "Cabin".toList ∧ Ship.document.definition? "Cabin" = some Ship.cabin ∧
    Ship.cabin.anyOf = none ∧
    '/' ∉ "Deck".toList ∧ Ship.document.definition? "Deck" = some Ship.deck ∧
    Ship.deck.anyOf = none ∧
    '/' ∉ "Freight".toList ∧ Ship.document.definition? "Freight" = some Ship.freight ∧
    Ship.freight.anyOf.isSome ∧
    ∃ cabin deck freight,
      Ship.document.propertyWithin? "x" (BranchKeyword.allOf.only [.reference (reference "Cabin")])
        maxLevels = some cabin ∧
      Ship.document.propertyWithin? "x" (BranchKeyword.allOf.only [.reference (reference "Deck")])
        maxLevels = some deck ∧
      Ship.document.propertyWithin? "x"
        (BranchKeyword.allOf.only [.reference (reference "Freight")]) maxLevels = some freight ∧
      cabin ≠ .named "x" ∧ deck = .named "x" ∧ freight ≠ .named "x" := by
  obtain ⟨bare, defined⟩ := Ship.document.propertyWithin?_reference
  obtain ⟨cabin, isCabin, ofCabin, -⟩ :=
    defined "Cabin" Ship.cabin (by decide) rfl "x" 63
  obtain ⟨deck, isDeck, ofDeck, -⟩ := defined "Deck" Ship.deck (by decide) rfl "x" 63
  obtain ⟨freight, isFreight, -, ofFreight⟩ :=
    defined "Freight" Ship.freight (by decide) rfl "x" 63
  refine ⟨fun name => bare _ name 63, by decide, rfl, rfl, by decide, rfl, rfl, by decide, rfl, rfl,
    cabin, deck, freight, isCabin, isDeck, isFreight, ?_, ?_, ?_⟩
  · intro blank
    obtain ⟨types, -⟩ := (ofCabin rfl).mp blank
    cases types
  · exact (ofDeck rfl).mpr ⟨rfl, rfl, rfl, .inr rfl, rfl⟩
  · intro blank
    obtain ⟨blank, -⟩ := (ofFreight rfl).mp blank
    have types := congrArg PropertyTree.types (Option.some.inj blank)
    cases types

/-- The cabin of a ship has nothing of what a berth has by the same reference. -/
theorem Document.propertyWithin?_ne_ship :
    ofJson Ship.json = .ok Ship.document ∧ '/' ∉ "Cabin".toList ∧
    Ship.document.definition? "Cabin" = some Ship.cabin ∧
    Ship.document.propertyWithin? "cabin" (.reference (reference "Cabin")) maxLevels =
      some (.named "cabin") ∧
    (∃ tree,
      Ship.document.propertyWithin? "cabin"
        (BranchKeyword.allOf.only [.reference (reference "Cabin")]) maxLevels = some tree ∧
      tree.types = [⟨"object"⟩] ∧ tree.required = ["beds"] ∧
      tree.properties.map (·.name) = ["beds"]) ∧
    Ship.document.propertyWithin? "cabin" (.reference (reference "Cabin")) maxLevels ≠
      Ship.document.propertyWithin? "cabin"
        (BranchKeyword.allOf.only [.reference (reference "Cabin")]) maxLevels := by
  refine ⟨Ship.ofJson_json, by decide, rfl, rfl, ⟨_, rfl, rfl, rfl, rfl⟩, ?_⟩
  intro same
  have types := congrArg PropertyTree.types (Option.some.inj same)
  cases types

end SchemaOutline
