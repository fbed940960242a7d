import SchemaOutline.Settings.Convert
import SchemaOutline.Toml.Reader

/-!
# Loading settings

Settings come from files and from the environment. Each source overrides the ones before it, key by
key: three files in the working directory, the file of the user, the file that is asked for, and
the environment. Only the file that is asked for has to be there.

All files are TOML files. Settings in JSON, YAML, INI, RON or JSON5 are left out: a file of such a
name is one of no known kind here, and is not looked for behind the name of another.

* `Settings.Surroundings` — what a program sees of the world around it.
* `Settings.defaultFiles`, `Settings.userFile` — the files that are looked for.
* `Settings.environmentValue` — the value that the text of a variable stands for.
* `Settings.sources` — what each source gives.
* `Settings.load` — the settings.
-/

namespace SchemaOutline.Settings

/-- **What a program sees of the world around it**: the files, the variables of the environment,
the directory for the settings of users, and the directory the program is in, as far as they are
known. -/
structure Surroundings where
  files : Files
  environment : List (String × String) := []
  configHome : Option String := none
  directory : Option String := none

/-! ## Files -/

/-- The files in the working directory. -/
def defaultFiles : List String :=
  ["dfx-schemas.toml", ".dfx-schemas.toml", "config/dfx-schemas.toml"]

/-- The file of the user below the directory for settings. -/
def userFile (configHome : String) : String :=
  joinPath configHome "dfx-schemas/dfx-schemas.toml"

/-- The segments of a path that lead anywhere. -/
def segments (path : String) : List String :=
  ((Text.segments '/' path.toList).map String.ofList).filter fun s => s ≠ "" ∧ s ≠ "."

/-- Whether a path starts at the topmost directory. -/
def isAbsolute (path : String) : Bool :=
  path.toList.head? = some '/'

/-- The segments that lead from a directory to a path, both from the topmost directory. -/
def segmentsFrom : List String → List String → List String
  | base :: bases, segment :: rest =>
    if base = segment then segmentsFrom bases rest
    else ".." :: bases.map (fun _ => "..") ++ segment :: rest
  | bases, rest => bases.map (fun _ => "..") ++ rest

/-- A path as messages name it: without empty segments and those that stay where they are, and
seen from the directory the program is in. -/
def originOf (directory : Option String) (path : String) : String :=
  match isAbsolute path, directory with
  | false, _ => "/".intercalate (segments path)
  | true, none => "/" ++ "/".intercalate (segments path)
  | true, some here => "/".intercalate (segmentsFrom (segments here) (segments path))

/-- Whether the name of a file ends as that of a TOML file. The names of other formats (`.json`,
`.yaml`, `.yml`, `.ini`, `.ron`, `.json5`) are left out. -/
def isToml (path : String) : Bool :=
  match (segments path).getLast? with
  | some name => ".toml".toList.isSuffixOf name.toList && name ≠ ".toml"
  | none => false

/-- The path with `.toml` behind it, where a file of another name is looked for. The endings of
other formats are not tried. -/
def withToml? (path : String) : Option String :=
  match (segments path).getLast? with
  | some ".." | none => none
  | some _ => some (originOf none path ++ ".toml")

/-- The paths where the TOML file of a name may be: there, or behind the name with `.toml`. -/
def places (name : String) : List String :=
  name :: (withToml? name).toList

/-- Where the file of a name is. -/
def find? (files : Files) (name : String) : Option String :=
  (places name).find? files.isFile

/-- What the text of a file gives. -/
def ofText (origin text : String) : Except Fault (List (String × Setting)) :=
  match Toml.parse text with
  | some entries => .ok (Setting.ofTomlEntries origin entries)
  | none => .error (.notToml origin)

/-- What a TOML file gives that need not be there. One that is no text gives nothing, and neither
does a file of any other name. -/
def optionalFile (around : Surroundings) (name : String) :
    Except Fault (List (String × Setting)) :=
  match find? around.files name with
  | none => .ok []
  | some path =>
    if isToml path then
      match around.files.text path with
      | .ok text => ofText (originOf around.directory path) text
      | .error _ => .ok []
    else .ok []

/-- What a TOML file gives that has to be there. A file of any other name is of no known kind. -/
def requiredFile (around : Surroundings) (name : String) :
    Except Fault (List (String × Setting)) :=
  match find? around.files name with
  | none => .error (.notFound name)
  | some path =>
    if isToml path then
      match around.files.text path with
      | .ok text => ofText (originOf around.directory path) text
      | .error fault => .error (.unreadable fault)
    else .error (.unknownKind name)

/-- What the file of the user gives, if there is one. -/
def userEntries (around : Surroundings) (configHome : String) :
    Except Fault (List (String × Setting)) :=
  match around.files (userFile configHome) with
  | .error .missing | .error .notDirectory => .ok []
  | _ => optionalFile around (userFile configHome)

/-! ## The environment -/

/-- The name of the environment in messages. -/
def environmentOrigin : String := "the environment"

/-- What the name of a variable begins with, in lower case. -/
def variableStart : List Char := "dfx_schemas__".toList

/-- Two underscores separate keys. -/
def dotted : List Char → List Char
  | '_' :: '_' :: rest => '.' :: dotted rest
  | c :: rest => c :: dotted rest
  | [] => []

/-- The keys that the name of a variable stands for, if it names a setting. -/
def variableKeys? (name : String) : Option String :=
  let lower := (Text.lower name).toList
  if variableStart.isPrefixOf lower then
    some (String.ofList (dotted (lower.drop variableStart.length)))
  else none

/-- The whole number of 64 bits that a text spells in digits, behind a sign if it has one. -/
def integer? (s : String) : Option Int :=
  let digits? (ds : List Char) : Option Nat :=
    if ds ≠ [] ∧ ds.all Char.isDigit then some (Nat.ofDigitChars 10 ds 0) else none
  let n? : Option Int :=
    match s.toList with
    | '-' :: ds => do return -(← digits? ds : Int)
    | '+' :: ds => do return (← digits? ds : Int)
    | ds => do return (← digits? ds : Int)
  n?.filter fun n => -9223372036854775808 ≤ n ∧ n ≤ 9223372036854775807

/-- **What the text of a variable stands for**: a truth value in letters of either case, else a
whole number, else any number, else the text itself. -/
def environmentValue (s : String) : Scalar :=
  if Text.lower s = "true" then .bool true
  else if Text.lower s = "false" then .bool false
  else
    match integer? s with
    | some n => .integer n
    | none =>
      match Extended64.ofText? s with
      | some x => .float x
      | none => .text s

/-- What the variables give. -/
def ofEnvironment (environment : List (String × String)) : List (String × Setting) :=
  environment.filterMap fun (name, value) =>
    (variableKeys? name).map fun keys =>
      (keys, .scalar (some environmentOrigin) (environmentValue value))

/-! ## Loading -/

/-- The paths that are looked at. -/
def paths (configHome explicit : Option String) : List String :=
  (defaultFiles ++ (configHome.map userFile).toList ++ explicit.toList).flatMap places

/-- **What each source gives**, in the order in which later ones override. -/
def sources (around : Surroundings) (explicit : Option String) :
    Except Fault (List (List (String × Setting))) := do
  let defaults ← defaultFiles.mapM (optionalFile around)
  let user ← match around.configHome with
    | some home => userEntries around home
    | none => .ok []
  let asked ← match explicit with
    | some path => requiredFile around path
    | none => .ok []
  return defaults ++ [user, asked, ofEnvironment around.environment]

/-- Everything the sources give, put together, the entries of one source in the order in which they
are written. A source is a table without an order, so any other order within it is as good. They
differ only where two entries of a source lead to the same key, or one to a section that another
leads into. -/
def combine (sources : List (List (String × Setting))) : Setting :=
  sources.foldl
    (fun values entries =>
      entries.foldl (fun values (key, v) => values.assign (KeyPath.ofText key) v) values)
    (.table none [])

/-- **Loading the settings**, with a file that is asked for. -/
def load (around : Surroundings) (explicit : Option String) : Except Fault Settings := do
  ofValues (combine (← sources around explicit))

end SchemaOutline.Settings
