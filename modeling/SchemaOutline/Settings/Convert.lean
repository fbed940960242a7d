import SchemaOutline.Settings.Basic
import SchemaOutline.Settings.Fault

/-!
# Settings from values

What the values of the sources mean for each setting. A key that no source gives, or gives nothing
for, leaves the setting at its default. A section may be a table, or a list that gives its settings
by their places.

* `Settings.toPath`, `Settings.toPort` — a value as a path or a port.
* `Settings.ofValues` — the settings.
-/

namespace SchemaOutline.Settings

/-- A value as the path of a file: a text verbatim, any other scalar as it is printed. -/
def toPath (key : String) (v : Setting) : Except Fault String :=
  match v with
  | .scalar _ (.text s) => .ok s
  | .scalar _ (.bool true) => .ok "true"
  | .scalar _ (.bool false) => .ok "false"
  | .scalar _ (.integer n) => .ok (String.ofList (Setting.words.integerChars n))
  | .scalar _ (.float x) => .ok (String.ofList x.plain)
  | .nothing | .list _ _ | .table _ _ => .error (.notText v key)

/-- The natural number of 64 bits that a text spells in digits behind a plus sign, if it has
one. -/
def natural? (s : String) : Option Nat :=
  let digits := match s.toList with
    | '+' :: rest => rest
    | cs => cs
  if digits ≠ [] ∧ digits.all Char.isDigit then
    let n := Nat.ofDigitChars 10 digits 0
    if n < 18446744073709551616 then some n else none
  else none

/-- The number a value stands for: a word for yes is one, a word for no is zero. -/
def toNumber (key : String) (v : Setting) : Except Fault Nat :=
  match v with
  | .scalar _ (.bool b) => .ok (if b then 1 else 0)
  | .scalar origin (.integer n) => if 0 ≤ n then .ok n.toNat else .error (.negative n key origin)
  | .scalar _ (.float x) => .ok x.toWord
  | .scalar _ (.text s) =>
    let word := Text.lower s
    if word = "true" ∨ word = "on" ∨ word = "yes" then .ok 1
    else if word = "false" ∨ word = "off" ∨ word = "no" then .ok 0
    else
      match natural? s with
      | some n => .ok n
      | none => .error (.notInteger v key)
  | .nothing | .list _ _ | .table _ _ => .error (.notInteger v key)

/-- A value as a port. -/
def toPort (key : String) (v : Setting) : Except Fault UInt16 := do
  let n ← toNumber key v
  if n < 65536 then return UInt16.ofNat n else throw (.tooLarge n key)

/-- A value as the path of a file that need not be set. -/
def toOptionalPath (key : String) (v : Setting) : Except Fault (Option String) :=
  match v with
  | .nothing => .ok none
  | v => some <$> toPath key v

/-- The value of a setting and its key in messages: by its name in a table, by its place in a
list. -/
structure Place where
  value : Option Setting
  key : String

/-- The place of a setting in a section that need not be there. -/
def placeOf (values : Setting) (sectionName record : String) (name : String) (index : Nat) :
    Except Fault Place :=
  match values.entries.lookup sectionName with
  | none => .ok ⟨none, ""⟩
  | some (.table _ entries) => .ok ⟨entries.lookup name, sectionName ++ "." ++ name⟩
  | some (.list _ elements) =>
    .ok ⟨elements[index]?, sectionName ++ "[" ++ Text.natural index ++ "]"⟩
  | some other => .error (.notSection other record)

/-- The setting at a place, or the default. -/
def Place.read {α : Type} (p : Place) (convert : String → Setting → Except Fault α) (default : α) :
    Except Fault α :=
  match p.value with
  | some v => convert p.key v
  | none => .ok default

/-- **The settings that values stand for.** -/
def ofValues (values : Setting) : Except Fault Settings := do
  let schema := placeOf values "schema" "SchemaSourceConfig"
  let panel := placeOf values "candid_ui" "CandidUiConfig"
  let defaults : PanelSettings := {}
  let schemaPath ← (← schema "path" 0).read toOptionalPath none
  let port ← (← panel "port" 0).read toPort defaults.port
  let workspaceRoot ← (← panel "workspace_root" 1).read toPath defaults.workspaceRoot
  let extensionPath ← (← panel "extension_path" 2).read toOptionalPath defaults.extensionPath
  return { schemaPath, panel := { port, workspaceRoot, extensionPath } }

end SchemaOutline.Settings
