import SchemaOutline.Json.Record
import SchemaOutline.Schema.Document

/-!
# Settings

What a user can set: the schema file to use, and where the panel finds its files and on which port
it is served.

* `PanelSettings` — the settings of the panel, also read from JSON and written as JSON.
* `Settings` — all settings, with their defaults.
* `Settings.document` — the schema document they name.
-/

namespace SchemaOutline

/-- The settings of the panel: the port it is served on, the root of the project, and the
directory of the extension. -/
structure PanelSettings where
  port : UInt16 := 8080
  workspaceRoot : String := "."
  extensionPath : Option String := none
  deriving DecidableEq, Inhabited

namespace PanelSettings

open Json (RecordRule Reading)

/-- The fields of the record. All of them have defaults. -/
def rule : RecordRule where
  name := "CandidUiConfig"
  fields := [.defaulted "port", .defaulted "workspace_root", .defaulted "extension_path"]

/-- Puts the value of a key into the settings. -/
def put (s : PanelSettings) (key : String) (value : Json) : Reading PanelSettings :=
  if key = "port" then do return { s with port := ← Json.readPort value }
  else if key = "workspace_root" then do return { s with workspaceRoot := ← Json.readPath value }
  else do return { s with extensionPath := ← Json.readOption Json.readPath value }

/-- Reads the settings of the panel. -/
def read : Json → Reading PanelSettings :=
  rule.read put {}

/-- The port as a JSON number. -/
def portJson (s : PanelSettings) : Json :=
  .whole (Whole.ofNat s.port.toNat (by have := s.port.toNat_lt; omega))

/-- The settings of the panel as JSON. -/
def toJson (s : PanelSettings) : Json :=
  .object [("port", s.portJson), ("workspace_root", .text s.workspaceRoot),
    ("extension_path", .option .text s.extensionPath)]

end PanelSettings

/-- **The settings.** -/
structure Settings where
  schemaPath : Option String := none
  panel : PanelSettings := {}
  deriving DecidableEq, Inhabited

/-- The schema document: the one in the file that is set, or the bundled one. -/
def Settings.document (s : Settings) (files : Files) : Except Document.Fault Document :=
  match s.schemaPath with
  | some path => Document.load files path
  | none => .ok Document.bundled

end SchemaOutline
