import SchemaOutline.Bundled.Document
import SchemaOutline.Files.Basic
import SchemaOutline.Schema.Format
import SchemaOutline.Schema.Keyword
import SchemaOutline.Text.Search

/-!
# Schema documents

A document is a JSON object that reads as a schema, with the named schemas under `definitions`. It
is loaded once, without the keyword `format`, and does not change.

* `Document` — the stripped JSON, the root schema and the definitions.
* `Document.ofJson`, `Document.ofText`, `Document.load` — loading.
* `Document.target?` — the definition that a `$ref` points to.
* `Document.bundled` — the schema that is used where no other one is given.
-/

namespace SchemaOutline

/-- **A schema document.** -/
structure Document where
  raw : Json
  root : Schema
  definitions : List (String × Schema)

namespace Document

/-- Why there is no schema document: the JSON is no object or not of the right shape, the text is
no JSON, or the file cannot be read. -/
inductive Fault where
  | notObject
  | data (fault : Json.DataFault)
  | text (fault : Json.TextFault)
  | file (fault : FileFault)
  deriving DecidableEq

/-- The wording of a fault. -/
def Fault.message : Fault → String
  | notObject => "Invalid schema document: schema root must be a JSON object"
  | data fault => "JSON error: " ++ fault.message
  | text fault => "JSON error: " ++ fault.message
  | file fault => "IO error: " ++ fault.message

/-- The definitions of a stripped document; there are none without the key `definitions`. -/
def readDefinitions (raw : Json) : Json.Reading (List (String × Schema)) :=
  match raw.get? "definitions" with
  | some definitions => Schema.readMap definitions
  | none => .ok []

/-- The document of JSON that is stripped already. The root is read before the definitions. -/
def ofStripped (raw : Json) : Json.Reading Document := do
  let root ← Schema.read raw
  let definitions ← readDefinitions raw
  return { raw, root, definitions }

/-- **The document of a JSON value.** -/
def ofJson (value : Json) : Except Fault Document :=
  if value.isObject then
    match ofStripped value.withoutFormat with
    | .ok document => .ok document
    | .error fault => .error (.data fault)
  else
    .error .notObject

/-- The document of a JSON text. -/
def ofText (text : String) : Except Fault Document :=
  match Json.parse text with
  | .ok value => ofJson value
  | .error fault => .error (.text fault)

/-- The document in a file. -/
def load (files : Files) (path : String) : Except Fault Document :=
  match files.text path with
  | .ok text => ofText text
  | .error fault => .error (.file fault)

/-- The schema bundled with the program, which does load. -/
def bundled : Document :=
  (ofJson Bundled.json).toOption.get (by decide +kernel)

/-- The top-level properties in declaration order. -/
def properties (document : Document) : List (String × Schema) :=
  document.root.namedProperties

/-- The top-level properties as stripped JSON, in declaration order. -/
def rawProperties (document : Document) : List (String × Json) :=
  match document.raw.get? "properties" with
  | some (.object entries) => entries
  | _ => []

/-- The definition of a name. -/
def definition? (document : Document) (name : String) : Option Schema :=
  document.definitions.lookup name

/-- The name that a reference points to: the third of its segments. -/
def targetName? (reference : String) : Option String :=
  (Text.segments '/' reference.toList)[2]?.map String.ofList

/-- **The definition that a reference points to.** -/
def target? (document : Document) (reference : String) : Option Schema :=
  (targetName? reference).bind document.definition?

/-- The definition that the `$ref` of a schema points to. -/
def referenced? (document : Document) (schema : Schema) : Option Schema :=
  schema.ref.bind document.target?

end Document

end SchemaOutline
