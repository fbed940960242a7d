import SchemaOutline.Outline.Index
import SchemaOutline.Proofs.Schema.Rewording

/-!
# Documents in other words

A document is reworded with its root and its definitions. The names of the definitions stay as they
are, in their order, and `definitions` is a key like the keywords. Two wordings of a document have
the same outline, but for the top-level properties that definitions belong to: those are found in
the text of the document, which is another one.

* `Json.RewordsDocument` — one document is a wording of another.
* `Document.SameContent` — two documents say the same.
* `Document.sameContent_of_rewords` — two wordings of a document do, or neither is a document.
* `Document.title_changes_elements` — without the proviso on lists they need not.
-/

namespace SchemaOutline

open Json (Reading Rewords SameKind)
open Schema (bind_eq_ok_iff)

/-- **One document is a wording of another**: both are objects, and so are their roots and their
definitions. -/
structure Json.RewordsDocument (proviso : List Json → List Json → Prop) (v w : Json) : Prop where
  isObject : v.isObject
  isObject' : w.isObject
  root : Rewords proviso .schema v w
  definitions : Option.Rel (Rewords proviso (.value .properties)) (v.get? "definitions")
    (w.get? "definitions")

/-- A record of a definition without the top-level property it belongs to. -/
def Definition.withoutOwner (d : Definition) : Definition :=
  { d with mainProperty := none }

namespace Document

/-- **Two documents say the same**: they have the same root and the same definitions, and the same
is found in them. -/
structure SameContent (d e : Document) : Prop where
  root : d.root = e.root
  definitions : d.definitions = e.definitions
  outlineProperties : d.outlineProperties = e.outlineProperties
  mainProperties : d.mainProperties = e.mainProperties
  indexDefinitions : d.indexDefinitions.map Definition.withoutOwner =
    e.indexDefinitions.map Definition.withoutOwner

/-- Only the owners of definitions are looked up in the text of a document. -/
theorem sameContent_mk (raw raw' : Json) (root : Schema) (definitions : List (String × Schema)) :
    SameContent ⟨raw, root, definitions⟩ ⟨raw', root, definitions⟩ where
  root := rfl
  definitions := rfl
  outlineProperties := rfl
  mainProperties := rfl
  indexDefinitions := by
    simp only [indexDefinitions, List.map_map]
    rfl

/-! ## Loading -/

theorem toOption_ofJson {value : Json} (isObject : value.isObject) :
    (ofJson value).toOption = (ofStripped value.withoutFormat).toOption := by
  rw [ofJson, if_pos isObject]
  cases ofStripped value.withoutFormat <;> rfl

/-- Maps of schemas read alike in both wordings. -/
theorem readMap_alike {v w : Json} (reworded : Rewords SameKind (.value .properties) v w)
    (keys : Keys) :
    Reading.Agree (Schema.readMap (v.stripped keys)) (Schema.readMap (w.stripped keys)) := by
  cases reworded with
  | same => exact .refl _
  | properties names each =>
      exact Json.readNamed_alike names fun i v w there there' =>
        (each i v w there there').reads_alike
  | branches composes => simp at composes

theorem readDefinitions_alike {v w : Json} (reworded : v.RewordsDocument SameKind w) :
    Reading.Agree (readDefinitions v.withoutFormat) (readDefinitions w.withoutFormat) := by
  have both := reworded.definitions
  rw [readDefinitions, readDefinitions, get?_definitions_withoutFormat,
    get?_definitions_withoutFormat]
  generalize v.get? "definitions" = before at both
  generalize w.get? "definitions" = after at both
  cases both with
  | none => exact .refl _
  | some within => exact readMap_alike within .names

/-- What one wording of a document is loaded as, the other one is loaded as, but for the text. -/
theorem ofStripped_alike {v w : Json} (reworded : v.RewordsDocument SameKind w) (root : Schema)
    (definitions : List (String × Schema)) :
    ofStripped v.withoutFormat = .ok ⟨v.withoutFormat, root, definitions⟩ ↔
      ofStripped w.withoutFormat = .ok ⟨w.withoutFormat, root, definitions⟩ := by
  rw [ofStripped_eq_ok_iff, ofStripped_eq_ok_iff]
  refine and_congr (reworded.root.reads_alike .keywords root) ?_
  exact and_congr (readDefinitions_alike reworded definitions) (by simp)

/-- **Two wordings of a document say the same**, or neither is a document: the order of the keys of
a schema and the keys that are no keywords do not matter, as long as a list under `items` is a list
of schemas in both or in neither. -/
theorem sameContent_of_rewords {v w : Json} (reworded : v.RewordsDocument SameKind w) :
    Option.Rel SameContent (ofJson v).toOption (ofJson w).toOption := by
  rw [toOption_ofJson reworded.isObject, toOption_ofJson reworded.isObject']
  have alike := ofStripped_alike reworded
  cases loaded : ofStripped v.withoutFormat with
  | ok d =>
      obtain ⟨raw, root, definitions⟩ := d
      cases (ofStripped_eq_ok_iff.mp loaded).2.2
      rw [(alike root definitions).mp loaded]
      exact .some (sameContent_mk _ _ root definitions)
  | error fault =>
      cases loaded' : ofStripped w.withoutFormat with
      | error fault' => exact .none
      | ok e =>
          obtain ⟨raw, root, definitions⟩ := e
          cases (ofStripped_eq_ok_iff.mp loaded').2.2
          have also := (alike root definitions).mpr loaded'
          rw [loaded] at also
          cases also

/-! ## Documents reworded -/

/-- One schema under a name, reworded. -/
theorem rewords_named {proviso : List Json → List Json → Prop} {v w : Json} (name : String)
    (within : Rewords proviso .schema v w) :
    Rewords proviso (.value .properties) (.object [(name, v)]) (.object [(name, w)]) := by
  refine .properties rfl fun i v' w' there there' => ?_
  cases i with
  | succ i => cases there
  | zero =>
      cases there
      cases there'
      exact within

namespace Recipe

/-- The steps of a recipe, with a remark or without one. -/
def steps (remarks : List (String × Json)) : Json :=
  .object [("items", .list
    [.list [.text "string"], .object (remarks ++ [("enum", .list [.text "done"])])])]

/-- A recipe with nothing but keywords. -/
def plain : Json :=
  .object
    [("properties", .object [("steps", steps [])]),
      ("definitions", .object [("Person", .object [("type", .text "string")])])]

/-- The same recipe with remarks, its keys being in another order. -/
def annotated : Json :=
  .object
    [("title", .text "Recipe"),
      ("definitions", .object
        [("Person", .object [("description", .text "Who cooks"), ("type", .text "string")])]),
      ("properties", .object [("steps", steps [("format", .text "flag")])])]

theorem rewords_definitions :
    Rewords SameKind (.value .properties)
      (.object [("Person", .object [("type", .text "string")])])
      (.object
        [("Person", .object [("description", .text "Who cooks"), ("type", .text "string")])]) := by
  refine rewords_named "Person" (.schema (by decide) (by decide) (fun k => by cases k <;> rfl) ?_)
  intro k v w there there'
  cases k with
  | types =>
      cases there
      cases there'
      exact .same _ _
  | _ => cases there

theorem rewords_done :
    Rewords SameKind .schema (.object [("enum", .list [.text "done"])])
      (.object [("format", .text "flag"), ("enum", .list [.text "done"])]) := by
  refine .schema (by decide) (by decide) (fun k => by cases k <;> rfl) ?_
  intro k v w there there'
  cases k with
  | literals =>
      cases there
      cases there'
      exact .same _ _
  | _ => cases there

theorem rewords_steps :
    Rewords SameKind .schema (steps []) (steps [("format", .text "flag")]) := by
  refine .schema (by decide) (by decide) (fun k => by cases k <;> rfl) ?_
  intro k v w there there'
  cases k with
  | elements =>
      cases there
      cases there'
      refine .tuple ⟨_, rfl⟩ ⟨fun _ => ⟨_, rfl⟩, fun _ => ⟨_, rfl⟩⟩ rfl fun i v w there there' => ?_
      match i with
      | 0 =>
          cases there
          cases there'
          exact .same _ _
      | 1 =>
          cases there
          cases there'
          exact rewords_done
      | i + 2 => cases there
  | _ => cases there

theorem rewords_root : Rewords SameKind .schema plain annotated := by
  refine .schema (by decide) (by decide) (fun k => by cases k <;> rfl) ?_
  intro k v w there there'
  cases k with
  | properties =>
      cases there
      cases there'
      exact rewords_named "steps" rewords_steps
  | _ => cases there

end Recipe

/-- A recipe says the same with remarks and without, and both are documents. -/
theorem sameContent_of_rewords_recipe :
    Recipe.plain.RewordsDocument SameKind Recipe.annotated ∧
    Option.Rel SameContent (ofJson Recipe.plain).toOption (ofJson Recipe.annotated).toOption ∧
    (ofJson Recipe.plain).toOption.isSome := by
  have reworded : Recipe.plain.RewordsDocument SameKind Recipe.annotated :=
    ⟨rfl, rfl, Recipe.rewords_root, .some Recipe.rewords_definitions⟩
  exact ⟨reworded, sameContent_of_rewords reworded, rfl⟩

namespace Tags

/-- The property `properties`, with the given keys. -/
def property (keys : List (String × Json)) : Json :=
  .object [("properties", .object keys)]

/-- A list under `items`. Its last place is taken by the properties of a schema, one of them being
called `properties`, or else by a schema that has properties. -/
def places (keys : List (String × Json)) : List Json :=
  [.list [.text "string"], .list [], .list [], property keys]

/-- A list, by its elements. -/
def tags (keys : List (String × Json)) : Json :=
  .object [("items", .list (places keys))]

/-- A key that is no keyword. A number under a name would be no schema. -/
def title : String × Json :=
  ("title", .whole (.ofNat 5 (by decide)))

/-- A document with a list that is one schema. -/
def titled : Json :=
  .object [("properties", .object [("tags", tags [title])])]

/-- The same document without the `title`. Its list is a list of four schemas. -/
def untitled : Json :=
  .object [("properties", .object [("tags", tags [])])]

theorem not_isTuple_titled : ¬ Json.IsTuple (places [title]) := by
  rintro ⟨schemas, all⟩
  cases all

theorem rewords_property :
    Rewords (fun _ _ => True) (.value .properties) (property [title]) (property []) := by
  refine rewords_named "properties"
    (.schema (by decide) (by decide) (fun k => by cases k <;> rfl) ?_)
  intro k v w _ there'
  cases there'

theorem rewords_places :
    Rewords (fun _ _ => True) .schema (.list (places [title])) (.list (places [])) := by
  refine .places rfl rfl fun i k v w known there there' => ?_
  match i with
  | 0 | 1 | 2 =>
      cases there
      cases there'
      exact .same _ _
  | 3 =>
      cases known
      cases there
      cases there'
      exact rewords_property
  | i + 4 => cases there

theorem rewords_tags : Rewords (fun _ _ => True) .schema (tags [title]) (tags []) := by
  refine .schema (by decide) (by decide) (fun k => by cases k <;> rfl) ?_
  intro k v w there there'
  cases k with
  | elements =>
      cases there
      cases there'
      exact .single not_isTuple_titled trivial rewords_places
  | _ => cases there

theorem rewords_root : Rewords (fun _ _ => True) .schema titled untitled := by
  refine .schema (by decide) (by decide) (fun k => by cases k <;> rfl) ?_
  intro k v w there there'
  cases k with
  | properties =>
      cases there
      cases there'
      exact rewords_named "tags" rewords_tags
  | _ => cases there

end Tags

/-- A `title` decides what the elements of a list are: a key that is no keyword keeps a list under
`items` from being a list of schemas. -/
theorem title_changes_elements :
    Tags.titled.RewordsDocument (fun _ _ => True) Tags.untitled ∧
    ¬ Option.Rel SameContent (ofJson Tags.titled).toOption (ofJson Tags.untitled).toOption ∧
    ∃ d e, ofJson Tags.titled = .ok d ∧ ofJson Tags.untitled = .ok e ∧
      d.outlineProperties.map (·.elementType) = [some "string"] ∧
      e.outlineProperties.map (·.elementType) = [none] := by
  obtain ⟨d, loaded, first⟩ : ∃ d, ofJson Tags.titled = .ok d ∧
      d.outlineProperties.map (·.elementType) = [some "string"] := ⟨_, rfl, rfl⟩
  obtain ⟨e, loaded', second⟩ : ∃ e, ofJson Tags.untitled = .ok e ∧
      e.outlineProperties.map (·.elementType) = [none] := ⟨_, rfl, rfl⟩
  refine ⟨⟨rfl, rfl, Tags.rewords_root, .none⟩, fun both => ?_, d, e, loaded, loaded', first,
    second⟩
  rw [loaded, loaded'] at both
  cases both with
  | some same =>
      rw [same.outlineProperties, second] at first
      cases first

end Document

end SchemaOutline
