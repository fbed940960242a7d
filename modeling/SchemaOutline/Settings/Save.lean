import SchemaOutline.Settings.Basic
import SchemaOutline.Toml.Writer

/-!
# Saving settings

Settings are written as two sections, one for the schema and one for the panel. A path that is not
set is left out.

* `Settings.saved` — the text of a file of settings.
* `Settings.save` — the files after it has been written.
-/

namespace SchemaOutline.Settings

/-- A line that sets a key to a text. -/
def textLine (key value : String) : List Char :=
  key.toList ++ " = ".toList ++ Toml.quoted value.toList ++ ['\n']

/-- A line for a text that may be absent. -/
def optionalLine (key : String) : Option String → List Char
  | some value => textLine key value
  | none => []

/-- The lines of the settings. -/
def savedChars (s : Settings) : List Char :=
  "[schema]\n".toList ++ optionalLine "path" s.schemaPath ++
  "\n[candid_ui]\nport = ".toList ++ Nat.toDigits 10 s.panel.port.toNat ++ ['\n'] ++
  textLine "workspace_root" s.panel.workspaceRoot ++
  optionalLine "extension_path" s.panel.extensionPath

/-- **The text of a file of settings.** -/
def saved (s : Settings) : String :=
  String.ofList s.savedChars

/-- The files after the settings have been written to one of them. -/
def save (s : Settings) (files : Files) (path : String) : Files :=
  files.replace path s.saved

end SchemaOutline.Settings
