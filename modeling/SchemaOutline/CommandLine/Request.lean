import SchemaOutline.CommandLine.Arguments
import SchemaOutline.Settings.Load

/-!
# Requests

What a command line asks for. Options for the whole program stand before the name of the command,
those of the command behind it.

* `Command` — the commands.
* `Request` — a command with the options of the program.
* `Request.read` — the request of a command line.
-/

namespace SchemaOutline

/-- **What can be asked for**: the properties or one of them, the definitions, the names of the
top-level properties, the definition of a top-level property or one of its variants, and the panel
of a canister. -/
inductive Command where
  | properties (name : Option String)
  | definitions
  | mainProperties
  | lookup (name : String) (tag : Option String)
  | panel (label : String) (port : Option UInt16)
  deriving DecidableEq

/-- **A request.** -/
structure Request where
  schemaPath : Option String := none
  settingsPath : Option String := none
  compact : Bool := false
  command : Command
  deriving DecidableEq

/-- The port that a text spells as a whole number. -/
def portOf? (text : String) : Option UInt16 := do
  let n ← Settings.integer? text
  if 0 ≤ n ∧ n < 65536 then return UInt16.ofNat n.toNat else none

namespace Command

/-- The command of a name with the words behind it. -/
def read (name : String) (words : List String) : Option Command :=
  match name with
  | "props" => do
    let a ← Arguments.read [{ name := "name", letter := 'n' }] words
    if a.operands.isEmpty then return properties (a.value? "name") else none
  | "definitions" => do
    let a ← Arguments.read [] words
    if a.operands.isEmpty then return definitions else none
  | "main-properties" => do
    let a ← Arguments.read [] words
    if a.operands.isEmpty then return mainProperties else none
  | "lookup" => do
    let a ← Arguments.read [{ name := "variant", letter := 'v' }] words
    match a.operands with
    | [name] => return lookup name (a.value? "variant")
    | _ => none
  | "candid-ui" => do
    let a ← Arguments.read [{ name := "port", letter := 'p' }] words
    match a.operands, a.value? "port" with
    | [label], some text => return panel label (some (← portOf? text))
    | [label], none => return panel label none
    | _, _ => none
  | _ => none

end Command

namespace Request

/-- The options of the program. -/
def options : List OptionForm :=
  [{ name := "schema", letter := 's' }, { name := "config", letter := 'c' },
    { name := "compact", hasValue := false }]

/-- **The request of a command line**, if it is one. The path of a schema is not empty. -/
def read (words : List String) : Option Request := do
  let a ← Arguments.readLeading options words
  match a.operands with
  | name :: rest =>
    if a.value? "schema" = some "" then none
    else
      return {
        schemaPath := a.value? "schema"
        settingsPath := a.value? "config"
        compact := a.has "compact"
        command := ← Command.read name rest }
  | [] => none

end Request

end SchemaOutline
