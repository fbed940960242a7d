import SchemaOutline.Proofs.Outline.Questions

/-!
# Open and closed objects

The keyword for the values of a map may be a boolean, which only opens or closes an object: there
may be other properties than the declared ones, or there may not. Where a reference leads to a
schema, this is how the boolean is taken, and the definition might as well not have it. Where a
property has the schema itself, the boolean makes the property a map: whatever else the schema
declares is lost, unless it is a union.

* `Schema.withoutValues`, `Schema.unflagged` — a schema without the keyword, and without it where it
  is a boolean.
* `Steps.IgnoresValues` — steps that do not look at the keyword.
* `Steps.ofRoom_unflagged` — booleans in definitions do not matter.
* `PropertyTree.unknownMap` — a map of which nothing is known.
* `Document.propertyWithin?_flag` — the property of a schema with the boolean.
-/

namespace SchemaOutline

namespace Schema

/-- The schema without the keyword for the values of a map. -/
def withoutValues (s : Schema) : Schema :=
  { s with values := none }

/-- The schema without the keyword for the values of a map where that is a boolean. -/
def unflagged (s : Schema) : Schema :=
  match s.values with
  | some (.flag _) => s.withoutValues
  | _ => s

/-- What is the same without a boolean is the same of a schema as of the schema without its
boolean, if it has one. -/
theorem congr_unflagged {α : Type} (f : Schema → α) {s : Schema}
    (same : ∀ allowed, s.values = some (.flag allowed) → f s.withoutValues = f s) :
    f s.unflagged = f s := by
  unfold unflagged
  cases rule : s.values with
  | none => rfl
  | some values =>
      cases values with
      | each value => rfl
      | flag allowed => exact same allowed rule

end Schema

/-! ## Definitions -/

namespace Steps

/-- The steps do not look at the keyword for the values of a map in the schema whose properties
they give, or that describes the elements of a list. -/
structure IgnoresValues {m : Type → Type} (S : Steps m) : Prop where
  properties : ∀ s, S.properties s.withoutValues = S.properties s
  elements : ∀ target p, S.elements target.withoutValues p = S.elements target p

/-- Looks up definitions without their booleans. -/
def unflaggedTarget? (target? : Schema → Option Schema) (s : Schema) : Option Schema :=
  (target? s).map Schema.unflagged

theorem unflaggedTarget?_none {target? : Schema → Option Schema} {s : Schema}
    (missing : target? s = none) : unflaggedTarget? target? s = none := by
  rw [unflaggedTarget?, missing]
  rfl

theorem unflaggedTarget?_some {target? : Schema → Option Schema} {s target : Schema}
    (found : target? s = some target) : unflaggedTarget? target? s = some target.unflagged := by
  rw [unflaggedTarget?, found]
  rfl

section Unflagged

variable {m : Type → Type} [Monad m] {below : Steps m} (ignores : below.IgnoresValues)
  (target? : Schema → Option Schema)

include ignores

theorem ofElements_withoutValues (target : Schema) (p : PropertyTree) :
    below.ofElements target? target.withoutValues p = below.ofElements target? target p := by
  unfold ofElements
  rw [ignores.properties]
  rfl

theorem mergeDefinition_withoutValues (target : Schema) (p : PropertyTree) :
    below.mergeDefinition target? target.withoutValues p =
      below.mergeDefinition target? target p := by
  unfold mergeDefinition
  rw [ignores.properties]
  rfl

/-- The values of a map are described by a definition without its boolean as with it. -/
theorem resolveValues_withoutValues {target : Schema} {allowed : Bool}
    (flag : target.values = some (.flag allowed)) :
    below.resolveValues target? target.withoutValues = below.resolveValues target? target := by
  unfold resolveValues
  rw [ignores.properties, flag]
  rfl

theorem withElements_unflagged (s : Schema) (p : PropertyTree) :
    below.withElements (unflaggedTarget? target?) s p = below.withElements target? s p := by
  unfold withElements
  cases s.elements with
  | none => rfl
  | some rule =>
      cases rule with
      | tuple schemas => rfl
      | flag allowed => rfl
      | each element =>
          dsimp only
          cases found : target? element with
          | none => rw [unflaggedTarget?_none found]
          | some target =>
              rw [unflaggedTarget?_some found]
              split
              · rfl
              · exact Schema.congr_unflagged (below.elements · p) fun _ _ =>
                  ignores.elements target p

theorem ofElements_unflagged (target : Schema) (p : PropertyTree) :
    below.ofElements (unflaggedTarget? target?) target p = below.ofElements target? target p := by
  unfold ofElements
  rw [withElements_unflagged ignores]

theorem resolvePlain_unflagged (name : String) (s : Schema) :
    below.resolvePlain (unflaggedTarget? target?) name s = below.resolvePlain target? name s := by
  unfold resolvePlain
  rw [withElements_unflagged ignores]

theorem resolveVariants_unflagged (s : Schema) :
    below.resolveVariants (unflaggedTarget? target?) s = below.resolveVariants target? s := by
  unfold resolveVariants
  simp only [resolvePlain_unflagged ignores]

theorem mergeDefinition_unflagged (target : Schema) (p : PropertyTree) :
    below.mergeDefinition (unflaggedTarget? target?) target.unflagged p =
      below.mergeDefinition target? target p := by
  have looked : below.mergeDefinition (unflaggedTarget? target?) target p =
      below.mergeDefinition target? target p := by
    unfold mergeDefinition
    simp only [withElements_unflagged ignores]
  rw [← looked]
  exact Schema.congr_unflagged (below.mergeDefinition (unflaggedTarget? target?) · p)
    fun _ _ => mergeDefinition_withoutValues ignores _ target p

theorem mergeTypes_unflagged (branch : Schema) (p : PropertyTree) :
    below.mergeTypes (unflaggedTarget? target?) branch p = below.mergeTypes target? branch p := by
  unfold mergeTypes
  rw [withElements_unflagged ignores]

theorem mergeAlternative_unflagged :
    below.mergeAlternative (unflaggedTarget? target?) = below.mergeAlternative target? := by
  funext p branch
  unfold mergeAlternative
  rw [mergeTypes_unflagged ignores]
  refine bind_congr fun p => ?_
  cases found : target? branch with
  | none => rw [unflaggedTarget?_none found]
  | some target =>
      rw [unflaggedTarget?_some found]
      exact mergeDefinition_unflagged ignores target? target p

theorem resolveAnyOf_unflagged (name : String) (s : Schema) :
    below.resolveAnyOf (unflaggedTarget? target?) name s = below.resolveAnyOf target? name s := by
  unfold resolveAnyOf
  rw [mergeAlternative_unflagged ignores]

theorem mergePart_unflagged :
    below.mergePart (unflaggedTarget? target?) = below.mergePart target? := by
  funext p branch
  unfold mergePart
  rw [mergeTypes_unflagged ignores]
  refine bind_congr fun p => ?_
  cases found : target? branch with
  | none => rw [unflaggedTarget?_none found]
  | some target =>
      -- neither keyword of a union is the one that is taken away
      have anyOf : target.unflagged.anyOf = target.anyOf :=
        Schema.congr_unflagged Schema.anyOf fun _ _ => rfl
      have union (name : String) : below.resolveAnyOf target? name target.unflagged =
          below.resolveAnyOf target? name target :=
        Schema.congr_unflagged (below.resolveAnyOf target? name) fun _ _ => rfl
      have variants : below.resolveVariants target? target.unflagged =
          below.resolveVariants target? target :=
        Schema.congr_unflagged (below.resolveVariants target?) fun _ _ => rfl
      rw [unflaggedTarget?_some found]
      dsimp only
      rw [anyOf, resolveAnyOf_unflagged ignores, resolveVariants_unflagged ignores, union, variants]
      split
      · rfl
      · exact mergeDefinition_unflagged ignores target? target p

theorem resolveAllOf_unflagged (name : String) (s : Schema) :
    below.resolveAllOf (unflaggedTarget? target?) name s = below.resolveAllOf target? name s := by
  unfold resolveAllOf
  rw [mergePart_unflagged ignores]

theorem resolveValues_unflagged (target : Schema) :
    below.resolveValues (unflaggedTarget? target?) target.unflagged =
      below.resolveValues target? target := by
  have looked : below.resolveValues (unflaggedTarget? target?) target =
      below.resolveValues target? target := by
    unfold resolveValues
    rw [resolveVariants_unflagged ignores]
  rw [← looked]
  exact Schema.congr_unflagged (below.resolveValues (unflaggedTarget? target?))
    fun _ flag => resolveValues_withoutValues ignores _ flag

theorem resolveMap_unflagged (name : String) (s : Schema) :
    below.resolveMap (unflaggedTarget? target?) name s = below.resolveMap target? name s := by
  unfold resolveMap
  cases s.values with
  | none => rfl
  | some rule =>
      cases rule with
      | flag allowed => rfl
      | each values =>
          dsimp only
          cases found : target? values with
          | none => rw [unflaggedTarget?_none found]
          | some target =>
              have elements (p : PropertyTree) : below.withElements target? target.unflagged p =
                  below.withElements target? target p :=
                Schema.congr_unflagged (below.withElements target? · p) fun _ _ => rfl
              rw [unflaggedTarget?_some found]
              simp only [resolveValues_unflagged ignores, withElements_unflagged ignores, elements]

/-- What is made of a property does not depend on the booleans of definitions. -/
theorem resolveProperty_unflagged (name : String) (s : Schema) :
    below.resolveProperty (unflaggedTarget? target?) name s =
      below.resolveProperty target? name s := by
  unfold resolveProperty
  rw [resolveAnyOf_unflagged ignores, resolveMap_unflagged ignores, resolveAllOf_unflagged ignores,
    resolvePlain_unflagged ignores, resolveVariants_unflagged ignores]

/-- Nor do the steps of a level, if those of the level below are given. -/
theorem above_unflagged (d : Descent m) :
    above d (unflaggedTarget? target?) below = above d target? below := by
  unfold above
  simp only [resolveProperty_unflagged ignores, ofElements_unflagged ignores,
    resolveMap_unflagged ignores]

theorem above_ignoresValues (d : Descent m) : (above d target? below).IgnoresValues where
  properties _ := rfl
  elements target p := congrArg (d.deeper p) (ofElements_withoutValues ignores target? target p)

end Unflagged

variable {m : Type → Type} [Monad m] (d : Descent m) (target? : Schema → Option Schema)

theorem ofRoom_ignoresValues (room : Nat) : (ofRoom d target? room).IgnoresValues := by
  induction room with
  | zero => exact ⟨fun _ => rfl, fun _ _ => rfl⟩
  | succ room ih => exact above_ignoresValues ih target? d

/-- **The booleans of definitions do not matter**: without them the steps of every level are the
same. -/
theorem ofRoom_unflagged (room : Nat) :
    ofRoom d (unflaggedTarget? target?) room = ofRoom d target? room := by
  induction room with
  | zero => rfl
  | succ room ih =>
      rw [ofRoom, ih]
      exact above_unflagged (ofRoom_ignoresValues d target? room) target? d

end Steps

namespace Document

/-- The document without the booleans of its definitions. -/
def unflagged (d : Document) : Document :=
  { d with definitions := d.definitions.map fun entry => (entry.1, entry.2.unflagged) }

theorem definition?_unflagged (d : Document) (name : String) :
    d.unflagged.definition? name = (d.definition? name).map Schema.unflagged := by
  show (d.definitions.map fun entry => (entry.1, entry.2.unflagged)).lookup name = _
  unfold definition?
  induction d.definitions with
  | nil => rfl
  | cons entry rest ih =>
      rw [List.map_cons, List.lookup_cons, List.lookup_cons]
      cases name == entry.1 with
      | true => rfl
      | false => exact ih

theorem target?_unflagged (d : Document) (reference : String) :
    d.unflagged.target? reference = (d.target? reference).map Schema.unflagged := by
  unfold target?
  cases targetName? reference with
  | none => rfl
  | some name => exact d.definition?_unflagged name

theorem referenced?_unflagged (d : Document) :
    d.unflagged.referenced? = Steps.unflaggedTarget? d.referenced? := by
  funext s
  unfold Steps.unflaggedTarget?
  cases ref : s.ref with
  | none => simp [referenced?, ref]
  | some reference =>
      simp only [referenced?, ref, Option.bind_some]
      exact d.target?_unflagged reference

/-- The booleans of definitions do not matter to any property. -/
theorem propertyWithin?_unflagged (d : Document) (name : String) (s : Schema) (room : Nat) :
    d.unflagged.propertyWithin? name s room = d.propertyWithin? name s room := by
  cases room with
  | zero => rfl
  | succ room =>
      have ignores := Steps.ofRoom_ignoresValues .plain d.referenced? room
      rw [propertyWithin?, referenced?_unflagged, Steps.ofRoom_unflagged .plain d.referenced? room,
        Steps.resolveProperty_unflagged ignores]
      rfl

end Document

/-! ## Properties -/

/-- A map of which nothing is known: an object, and a property without anything for its values. -/
def PropertyTree.unknownMap (name : String) : PropertyTree :=
  { named name with types := [⟨"object"⟩], properties := [named valuesName] }

/-- A property that is resolved from its own keywords and comes out as a map of which nothing is
known declares no more than that it is an object, and a property of the name that stands for the
values of a map. -/
theorem Steps.declared_of_unknownMap {target? : Schema → Option Schema} {room : Nat} {s : Schema}
    {name : String} (own : s.form = .plain ∨ s.form = .oneOf)
    (unknown : ((ofRoom .plain target? room).resolveProperty target? name s).run =
      .unknownMap name) :
    s.typeNames = ["object"] ∧ s.literalValues = [] ∧ s.requiredNames = [] ∧
      s.namedProperties.map Prod.fst = [PropertyTree.valuesName] := by
  have plain : ∃ variants, { ((ofRoom .plain target? room).resolvePlain target? name s).run with
      variants } = PropertyTree.unknownMap name := by
    rcases own with own | own <;> rw [resolveProperty, own] at unknown <;> exact ⟨_, unknown⟩
  obtain ⟨variants, same⟩ := plain
  rw [run_resolvePlain] at same
  have types := congrArg PropertyTree.types same
  have literals := congrArg PropertyTree.literals same
  have required := congrArg PropertyTree.required same
  have properties := congrArg (fun p => p.properties.map (·.name)) same
  dsimp only at types literals required properties
  rw [(withElements_same (ofRoom_keepsOwn target? room) target? s _).types] at types
  rw [run_withElements_literals] at literals
  rw [run_withElements_required] at required
  refine ⟨?_, (List.append_eq_nil_iff.mp literals).1, (List.append_eq_nil_iff.mp required).1, ?_⟩
  · obtain ⟨type, only, object⟩ := List.map_eq_singleton_iff.mp types
    cases object
    exact only
  · cases room with
    | zero =>
        have none : ((ofRoom .plain target? 0).properties s).run = [] := run_exhausted_properties s
        rw [none] at properties
        cases properties
    | succ room =>
        rw [map_name_ofRoom_properties] at properties
        exact properties

namespace Document

/-- **Only a schema that a reference leads to is open or closed.** A property whose schema has a
boolean for the values of a map has the tree of the schema without it if the schema is a union.
Otherwise it is a map of which nothing is known, so nothing is lost only if the schema declares no
more than such a map has. In a definition the boolean does not matter. -/
theorem propertyWithin?_flag (d : Document) {s : Schema} {allowed : Bool}
    (flag : s.values = some (.flag allowed)) (name : String) (room : Nat) :
    (s.anyOf.isSome →
      d.propertyWithin? name s room = d.propertyWithin? name s.withoutValues room) ∧
    (s.anyOf = none →
      d.propertyWithin? name s (room + 1) = some (.unknownMap name) ∧
      (PropertyTree.unknownMap name).isMap ∧
      (s.allOf = none →
        d.propertyWithin? name s (room + 1) = d.propertyWithin? name s.withoutValues (room + 1) →
        s.typeNames = ["object"] ∧ s.literalValues = [] ∧ s.requiredNames = [] ∧
          s.namedProperties.map Prod.fst = [PropertyTree.valuesName])) ∧
    ∀ other t, d.unflagged.propertyWithin? other t room = d.propertyWithin? other t room := by
  refine ⟨?_, ?_, fun other t => d.propertyWithin?_unflagged other t room⟩
  · intro union
    have form : s.form = .anyOf := by simp [Schema.form, union]
    have without : s.withoutValues.form = .anyOf := by
      simp [Schema.form, Schema.withoutValues, union]
    cases room with
    | zero => rfl
    | succ room =>
        unfold propertyWithin? Steps.resolveProperty
        rw [form, without]
        rfl
  · intro alone
    have tree : d.propertyWithin? name s (room + 1) = some (.unknownMap name) := by
      rw [propertyWithin?, Steps.resolveProperty_map _ _ _ alone (by rw [flag]; rfl),
        Steps.resolveMap, flag]
      rfl
    refine ⟨tree, rfl, ?_⟩
    intro noParts same
    have own : s.withoutValues.form = .plain ∨ s.withoutValues.form = .oneOf := by
      simp [Schema.form, Schema.withoutValues, alone, noParts]
      cases s.oneOf <;> simp
    have unknown := same.symm.trans tree
    exact Steps.declared_of_unknownMap (s := s.withoutValues) own (Option.some.inj unknown)

end Document

namespace Museum

def number : Schema where
  types := some (.single "number")

/-- A ticket has a price and nothing else. -/
def ticket : Schema where
  types := some (.single "object")
  required := some ["price"]
  properties := some [("price", number)]
  values := some (.flag false)

/-- A note is a number, and may be an object with any properties. -/
def note : Schema where
  values := some (.flag true)
  anyOf := some [number]

/-- A property that refers to the definition of a ticket. -/
def pass : Schema where
  allOf := some [{ ref := some "#/definitions/Ticket" }]

def json : Json :=
  let number := Json.object [("type", .text "number")]
  let ticket := Json.object
    [("type", .text "object"), ("required", .list [.text "price"]),
      ("properties", .object [("price", number)]), ("additionalProperties", .bool false)]
  .object
    [("properties", .object
        [("ticket", ticket),
          ("note", .object [("additionalProperties", .bool true), ("anyOf", .list [number])]),
          ("pass", .object [("allOf", .list [.object [("$ref", .text "#/definitions/Ticket")]])])]),
      ("definitions", .object [("Ticket", ticket)])]

/-- A museum with tickets that are closed objects, in a property and in a definition. -/
def document : Document where
  raw := json
  root := { properties := some [("ticket", ticket), ("note", note), ("pass", pass)] }
  definitions := [("Ticket", ticket)]

theorem ofJson_json : Document.ofJson json = .ok document := rfl

end Museum

/-- In a museum, a ticket is a map, a note is a number, and a pass is a ticket, closed or not. -/
theorem Document.propertyWithin?_flag_museum :
    ofJson Museum.json = .ok Museum.document ∧
    Museum.ticket.values = some (.flag false) ∧ Museum.ticket.anyOf = none ∧
    Museum.document.propertyWithin? "ticket" Museum.ticket maxLevels =
      some (.unknownMap "ticket") ∧
    Museum.note.values = some (.flag true) ∧ Museum.note.anyOf.isSome ∧
    Museum.document.propertyWithin? "note" Museum.note maxLevels =
      Museum.document.propertyWithin? "note" Museum.note.withoutValues maxLevels ∧
    Museum.document.unflagged.propertyWithin? "pass" Museum.pass maxLevels =
      Museum.document.propertyWithin? "pass" Museum.pass maxLevels := by
  have closed : Museum.ticket.values = some (.flag false) := rfl
  have opened : Museum.note.values = some (.flag true) := rfl
  obtain ⟨-, map, -⟩ := Museum.document.propertyWithin?_flag closed "ticket" 63
  obtain ⟨union, -, definitions⟩ := Museum.document.propertyWithin?_flag opened "note" maxLevels
  obtain ⟨ticket, -⟩ := map rfl
  exact ⟨Museum.ofJson_json, closed, rfl, ticket, opened, rfl, union rfl,
    definitions "pass" Museum.pass⟩

/-- A ticket has lost its price, which it has without the keyword, and is a map. -/
theorem Document.propertyWithin?_ne_museum :
    ofJson Museum.json = .ok Museum.document ∧
    Museum.document.properties[0]? = some ("ticket", Museum.ticket) ∧
    Museum.ticket.values = some (.flag false) ∧
    ∃ ticket unclosed,
      Museum.document.propertyWithin? "ticket" Museum.ticket maxLevels = some ticket ∧
      Museum.document.propertyWithin? "ticket" Museum.ticket.withoutValues maxLevels =
        some unclosed ∧
      ticket.isMap ∧ ticket.required = [] ∧ ticket.properties.map (·.name) ≠ ["price"] ∧
      unclosed.required = ["price"] ∧ unclosed.properties.map (·.name) = ["price"] ∧
      ticket ≠ unclosed := by
  refine ⟨Museum.ofJson_json, rfl, rfl, _, _, rfl, rfl, rfl, rfl, by decide, rfl, rfl, ?_⟩
  intro same
  have required := congrArg PropertyTree.required same
  cases required

end SchemaOutline
