import SchemaOutline.CommandLine.Request
import SchemaOutline.Json.Printer
import SchemaOutline.Outline.Data
import SchemaOutline.Outline.Index
import SchemaOutline.Panel

/-!
# Answers

What the program writes for a request. The schema is loaded for the commands that show it and only
for them; the settings are loaded for all.

* `Request.Fault` — why a request has no answer, with the wording.
* `Request.answer` — the text of the answer.
* `Outcome`, `Request.run` — what is written where, and the exit code.
-/

namespace SchemaOutline

namespace Request

/-- **Why a request has no answer**: the settings or the schema cannot be loaded, or there is no
top-level property of the name. -/
inductive Fault where
  | settings (fault : Settings.Fault)
  | document (fault : Document.Fault)
  | noProperty (name : String)

/-- The wording of a fault. -/
def Fault.message : Fault → String
  | settings fault => fault.message
  | document fault => fault.message
  | noProperty name => "No top-level property named '" ++ name ++ "'"

/-- The settings for a request: the schema it names goes before the one that is set. -/
def settings (r : Request) (around : Settings.Surroundings) : Except Settings.Fault Settings := do
  let s ← Settings.load around r.settingsPath
  match r.schemaPath with
  | some path => return { s with schemaPath := some path }
  | none => return s

/-- A value as JSON text on lines of its own. -/
def jsonLine (r : Request) (value : Json) : String :=
  (if r.compact then value.compact else value.indented) ++ "\n"

/-- The top-level property of a name, or all of them. -/
def answerProperties (r : Request) (o : Outline) : Option String → Except Fault String
  | some name =>
    match o.property? name with
    | some p => .ok (r.jsonLine p.toJson)
    | none => .error (.noProperty name)
  | none => .ok (r.jsonLine (Outline.propertiesJson o.properties))

/-- The width of the column of names. -/
def nameWidth : Nat := 24

/-- The line of a top-level property: its name, filled up to the width of the column, and whether
it is an object. -/
def mainPropertyLine (name : String) (isObject : Bool) : String :=
  name ++ String.ofList (List.replicate (nameWidth - name.length) ' ') ++ " " ++
    (if isObject then "object" else "value") ++ "\n"

/-- The lines of the top-level properties. -/
def answerMainProperties (o : Outline) : String :=
  String.join (o.mainPropertyNames.map fun (name, isObject) => mainPropertyLine name isObject)

/-- The definition that belongs to a top-level property, or the fields of one of its variants. -/
def answerLookup (r : Request) (o : Outline) (name : String) (tag : Option String) :
    Except Fault String :=
  match o.mainProperty? name, o.definitionFor? name with
  | none, _ => .error (.noProperty name)
  | some _, none => .ok ("No definition is associated with '" ++ name ++ "'\n")
  | some _, some d =>
    match tag with
    | none => .ok (r.jsonLine d.toJson)
    | some tag =>
      match o.variantFields? name tag with
      | some fields => .ok (r.jsonLine fields.toJson)
      | none => .ok ("Definition '" ++ d.name ++ "' has no variant '" ++ tag ++ "'\n")

/-- What the panel shows for a label, the port of the settings replaced if another one is given. -/
def answerPanel (files : Files) (s : PanelSettings) (label : String) (port : Option UInt16) :
    String :=
  match (Panel.ofSettings files { s with port := port.getD s.port }).view label with
  | .page page => page.html ++ "\n"
  | .info message => "ℹ️  " ++ message ++ "\n"

/-- The outline of the schema that is set. -/
def outline (s : Settings) (files : Files) : Except Fault Outline :=
  match s.document files with
  | .ok document => .ok (Outline.ofDocument document)
  | .error fault => .error (.document fault)

/-- **The answer to a request.** -/
def answer (r : Request) (around : Settings.Surroundings) : Except Fault String :=
  match r.settings around with
  | .error fault => .error (.settings fault)
  | .ok s =>
    match r.command with
    | .properties name => do r.answerProperties (← outline s around.files) name
    | .definitions => do
      return r.jsonLine (Outline.definitionsJson (← outline s around.files).definitions)
    | .mainProperties => do return answerMainProperties (← outline s around.files)
    | .lookup name tag => do r.answerLookup (← outline s around.files) name tag
    | .panel label port => .ok (answerPanel around.files s.panel label port)

end Request

/-- What a program leaves behind: its exit code, and the texts on its two outputs. -/
structure Outcome where
  code : UInt8
  output : String := ""
  errors : String := ""
  deriving DecidableEq

/-- **Running a request.** -/
def Request.run (r : Request) (around : Settings.Surroundings) : Outcome :=
  match r.answer around with
  | .ok text => { code := 0, output := text }
  | .error fault => { code := 1, errors := "Error: " ++ fault.message ++ "\n" }

end SchemaOutline
