import SchemaOutline.Proofs.Outline.Questions
import SchemaOutline.Proofs.Schema.Places

/-!
# Enumerated literals

The literals under `enum` are data, and yet a document is loaded without every key `format` that
reads as a keyword, those of its literals included. So the loaded schemas have the literals of the
document in their order, each without `format`: a literal stays as it is written exactly if it has
no such key. A property that takes everything from its own keywords has these literals, and those
of the definitions that describe its elements.

* `Json.literals?` — the literals that a node enumerates.
* `Document.literals_propertyWithin?` — the literals of a property.
* `Document.literals_schemaAt?` — the literals at every place of a loaded document.
-/

namespace SchemaOutline

/-- The literals under `enum`. -/
def Json.literals? (node : Json) : Option (List Json) :=
  (node.get? "enum").bind list?

/-- The literals of a schema are those of the object it is read from, without `format`. -/
theorem Schema.literals_of_read {node : Json} {s : Schema} (isObject : node.isObject)
    (distinct : node.keysDistinct) (own : read node.withoutFormat = .ok s) :
    s.literals = node.literals?.map (List.map Json.withoutFormat) := by
  have given : Gives .literals blank s ((node.get? "enum").map (Json.stripped .keywords)) :=
    gives_of_read isObject distinct own .literals
  rw [gives_literals given, Json.literals?]
  cases node.get? "enum" with
  | none => rfl
  | some value =>
      cases value with
      | list elements => exact congrArg some (Json.strippedElements_eq_map elements)
      | _ => rfl

/-- A list of literals stays as it is if each of them does. -/
theorem Json.map_withoutFormat_eq_self_iff {literals : List Json} :
    literals.map withoutFormat = literals ↔
      ∀ literal ∈ literals, literal.withoutFormat = literal := by
  induction literals with
  | nil => simp
  | cons literal rest ih => simp [ih]

namespace Document

/-- A property that takes everything from its own keywords has the literals of its schema, followed
by those of the definitions that describe its elements. -/
theorem literals_propertyWithin? (d : Document) (name : String) {s : Schema}
    (plain : s.form = .plain) (room : Nat) :
    (d.propertyWithin? name s (room + 1)).map (·.literals) =
      some (s.literalValues ++
        (s.elementChain d.referenced? room).flatMap Schema.literalValues) := by
  have form : (Steps.ofRoom .plain d.referenced? room).resolveProperty d.referenced? name s =
      (Steps.ofRoom .plain d.referenced? room).resolvePlain d.referenced? name s := by
    rw [Steps.resolveProperty, plain]
  rw [propertyWithin?, form, Option.map_some, Steps.run_resolvePlain]
  exact congrArg some (Steps.run_withElements_literals d.referenced? room s (s.bare name))

/-- **The literals at every place of a loaded document** are those of its value in their order,
without `format`. They are the same as there exactly if none of them has that key. -/
theorem literals_schemaAt? {value node : Json} {d : Document} {place : SchemaPlace}
    (loaded : ofJson value = .ok d) (distinct : value.keysDistinct)
    (there : value.schemaAt? place = some node) (isObject : node.isObject) :
    ∃ s, d.schemaAt? place = some s ∧
      s.literals = node.literals?.map (List.map Json.withoutFormat) ∧
      (s.literals = node.literals? ↔
        ∀ literal ∈ node.literals?.getD [], literal.withoutFormat = literal) ∧
      (s.form = .plain → ∀ name room,
        (d.propertyWithin? name s (room + 1)).map (·.literals) =
          some ((node.literals?.getD []).map Json.withoutFormat ++
            (s.elementChain d.referenced? room).flatMap Schema.literalValues)) := by
  obtain ⟨s, at_s, own⟩ := exists_schemaAt? (loadedFrom_of_ofJson loaded) distinct there isObject
  have literals :=
    Schema.literals_of_read isObject (Json.keysDistinct_schemaAt? distinct there) own
  refine ⟨s, at_s, literals, ?_, ?_⟩
  · rw [literals]
    cases node.literals? with
    | none => simp
    | some written =>
        rw [Option.map_some, Option.some.injEq]
        exact Json.map_withoutFormat_eq_self_iff
  · intro plain name room
    have values : s.literalValues = (node.literals?.getD []).map Json.withoutFormat := by
      rw [Schema.literalValues, literals]
      cases node.literals? <;> rfl
    rw [literals_propertyWithin? d name plain room, values]

end Document

namespace Modes

/-- A literal that has a key `format`. -/
def file : Json :=
  .object [("kind", .text "file"), ("format", .text "csv")]

def mode : Json :=
  .object [("enum", .list [file, .text "none"])]

def json : Json :=
  .object [("properties", .object [("mode", mode)])]

/-- What the mode is loaded as. -/
def schema : Schema where
  literals := some [.object [("kind", .text "file")], .text "none"]

def document : Document where
  raw := json.withoutFormat
  root := { properties := some [("mode", schema)] }
  definitions := []

theorem ofJson_json : Document.ofJson json = .ok document := rfl

def place : SchemaPlace :=
  .inside .root (.property "mode")

end Modes

/-- The literals of a mode. -/
theorem Document.literals_schemaAt?_modes :
    ofJson Modes.json = .ok Modes.document ∧ Modes.json.keysDistinct ∧
    Modes.json.schemaAt? Modes.place = some Modes.mode ∧ Modes.mode.isObject ∧
    ∃ s, Modes.document.schemaAt? Modes.place = some s ∧
      s.literals = Modes.mode.literals?.map (List.map Json.withoutFormat) := by
  have distinct : Modes.json.keysDistinct := by decide
  have there : Modes.json.schemaAt? Modes.place = some Modes.mode := rfl
  obtain ⟨s, at_s, literals, -⟩ := literals_schemaAt? Modes.ofJson_json distinct there rfl
  exact ⟨Modes.ofJson_json, distinct, there, rfl, s, at_s, literals⟩

/-- A mode that is a file loses its format. -/
theorem Document.literals_ne_modes :
    ofJson Modes.json = .ok Modes.document ∧
    Modes.json.schemaAt? Modes.place = some Modes.mode ∧
    Modes.mode.literals? = some [Modes.file, .text "none"] ∧
    Modes.document.schemaAt? Modes.place = some Modes.schema ∧
    Modes.schema.literals = some [.object [("kind", .text "file")], .text "none"] ∧
    Modes.schema.literals ≠ Modes.mode.literals? :=
  ⟨rfl, rfl, rfl, rfl, rfl, by decide⟩

end SchemaOutline
