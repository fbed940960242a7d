import SchemaOutline.CommandLine.Answer

/-!
# The program

Reads the files a request needs, and writes its answer. Which files those are is known in two
steps: the settings name the schema and the directories of the panel.
-/

namespace SchemaOutline.Program

/-- What is told about a command line that is no request. -/
def usage : String :=
  "Usage: schema-outline [-s SCHEMA] [-c CONFIG] [--compact] COMMAND\n" ++
  "\n" ++
  "Commands:\n" ++
  "  props [-n NAME]               the properties, or one of them\n" ++
  "  definitions                   the definitions\n" ++
  "  main-properties               the top-level properties\n" ++
  "  lookup PROPERTY [-v VARIANT]  the definition of a top-level property\n" ++
  "  candid-ui LABEL [-p PORT]     the panel of a canister\n"

/-- The reason why a file could not be read. -/
def faultOf : IO.Error → FileFault
  | .permissionDenied .. => .denied
  | .inappropriateType _ code _ => if code = 20 then .notDirectory else .directory
  | _ => .missing

/-- The bytes of the file at a path. -/
def readPath (path : String) : IO (Except FileFault ByteArray) := do
  if path.toList.contains (Char.ofNat 0) then return .error .badPath
  try
    return .ok (← IO.FS.readBinFile path)
  catch e =>
    return .error (faultOf e)

/-- The files at the given paths. -/
def readPaths (paths : List String) : IO (List (String × Except FileFault ByteArray)) :=
  paths.mapM fun path => return (path, ← readPath path)

/-- The variables of the environment. One that is no text is left out. -/
def readEnvironment : IO (List (String × String)) := do
  match ← readPath "/proc/self/environ" with
  | .error _ => return []
  | .ok bytes =>
    return (Text.segments 0 bytes.toList).filterMap fun entry => do
      let (name, value) := (← String.fromUTF8? ⟨entry.toArray⟩).toList.span (· ≠ '=')
      match value with
      | _ :: value => some (String.ofList name, String.ofList value)
      | [] => none

/-- The directory for the settings of users: the one that is set, or that in the home directory. -/
def configHomeOf (environment : List (String × String)) : Option String :=
  match (environment.lookup "XDG_CONFIG_HOME").filter Settings.isAbsolute with
  | some path => some path
  | none => (environment.lookup "HOME").map fun home => joinPath home ".config"

/-- What a request sees of the world. -/
def readSurroundings (r : Request) : IO Settings.Surroundings := do
  let environment ← readEnvironment
  let configHome := configHomeOf environment
  let directory := some (← IO.currentDir).toString
  let read ← readPaths (Settings.paths configHome r.settingsPath)
  let around : Settings.Surroundings :=
    { files := Files.ofList read, environment, configHome, directory }
  match r.settings around with
  | .error _ => return around
  | .ok s =>
    let panel := Panel.ofSettings Files.empty s.panel
    let more ← readPaths (s.schemaPath.toList ++ panel.paths)
    return { around with files := Files.ofList (read ++ more) }

end SchemaOutline.Program

/-- Runs the program on its command line. -/
def main (words : List String) : IO UInt32 := do
  match SchemaOutline.Request.read words with
  | none =>
    IO.eprint SchemaOutline.Program.usage
    return 2
  | some r =>
    let outcome := r.run (← SchemaOutline.Program.readSurroundings r)
    IO.print outcome.output
    IO.eprint outcome.errors
    return outcome.code.toUInt32
