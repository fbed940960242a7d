import SchemaOutline.Settings.Basic

/-!
# The canister panel

A panel shows the user interface of a deployed canister. It needs two ids: that of the canister,
from the project's own file of ids, and that of the canister that serves the interface, from the
file that comes with the extension. A panel keeps what it read; it looks at the files when it is
made and when it is refreshed.

* `Panel` — the paths, the port, and the ids last read.
* `Panel.create`, `Panel.refresh` — reading the files.
* `Panel.view` — what is shown for a label.
* `Panel.url` — the address of the interface of a canister.
-/

namespace SchemaOutline

/-- **A panel.** -/
structure Panel where
  canisterPath : Option String
  interfacePath : String
  port : UInt16
  canisterIds : Option Json := none
  interfaceIds : Option Json := none

/-- A page, with the port it uses and the port that leads there. -/
structure Page where
  viewType : String
  title : String
  port : UInt16
  hostPort : UInt16
  html : String
  deriving DecidableEq

/-- What is shown: a page, or a message in its place. -/
inductive PanelView where
  | page (page : Page)
  | info (message : String)
  deriving DecidableEq

namespace Panel

/-- The canister that serves the interface. -/
def interfaceName : String := "didjs"

/-- The network whose ids are used. -/
def network : String := "local"

/-- The port that leads to the port of a page. -/
def hostPort : UInt16 := 8000

/-- The kind of view a page is. -/
def viewType : String := "dfx.candidUIPreview"

/-- The title of a page. -/
def title : String := "Candid UI"

/-- The file of ids below a directory. -/
def idsPath (root : String) : String :=
  joinPath (joinPath (joinPath root ".dfx") network) "canister_ids.json"

/-- The ids in a file. A file that cannot be read or holds no JSON counts as absent. -/
def readIds (files : Files) (path : String) : Option Json :=
  (files.text path).toOption.bind fun text => (Json.parse text).toOption

/-- The paths of the files. -/
def paths (p : Panel) : List String :=
  p.canisterPath.toList ++ [p.interfacePath]

/-- Reads both files again. Without a project there is no file of its ids, and what is known of them
stays. -/
def refresh (p : Panel) (files : Files) : Panel :=
  { p with
    canisterIds :=
      match p.canisterPath with
      | some path => readIds files path
      | none => p.canisterIds
    interfaceIds := readIds files p.interfacePath }

/-- A panel for a project, if there is one, with the interface of an extension. -/
def create (files : Files) (workspace : Option String) (extension : String) (port : UInt16) :
    Panel :=
  let p : Panel :=
    { canisterPath := workspace.map idsPath
      interfacePath := idsPath (joinPath (joinPath extension "tools") "ui")
      port }
  p.refresh files

/-- The panel of the settings. Without an extension its files are looked for in the project. -/
def ofSettings (files : Files) (s : PanelSettings) : Panel :=
  create files (some s.workspaceRoot) (s.extensionPath.getD s.workspaceRoot) s.port

/-- The id of a canister on the network: a text that is not empty, or any other value but `null`
and `false`, as JSON. -/
def id? (ids : Json) (name : String) : Option String :=
  match (ids.get? name).bind (Json.get? network) with
  | some (.text s) => if s = "" then none else some s
  | some .null => none
  | some (.bool false) => none
  | some value => some value.compact
  | none => none

/-- The name of the canister in a label: what stands before the first colon. -/
def canisterName (label : String) : String :=
  String.ofList ((Text.segments ':' label.toList).headD [])

/-- The address of the interface of a canister. -/
def url (p : Panel) (interfaceId id : String) : String :=
  "http://localhost:" ++ Text.natural p.port.toNat ++ "/?canisterId=" ++ interfaceId ++ "&id=" ++ id

/-- What stands before the address in a page. -/
def pageHead : String :=
  "<!DOCTYPE html>\n" ++
  "<html lang=\"en\">\n" ++
  "<head>\n" ++
  "    <meta charset=\"UTF-8\">\n" ++
  "    <title>" ++ title ++ "</title>\n" ++
  "    <style>\n" ++
  "        html \x7b width: 100%; height: 100%; min-height: 100%; display: flex; \x7d\n" ++
  "        body \x7b flex: 1; display: flex; \x7d\n" ++
  "        iframe \x7b flex: 1; border: none; background: white; \x7d\n" ++
  "    </style>\n" ++
  "</head>\n" ++
  "<body>\n" ++
  "    <iframe src=\""

/-- What stands behind the address in a page. -/
def pageTail : String :=
  "\"></iframe>\n" ++
  "</body>\n" ++
  "</html>"

/-- The page of a canister. -/
def page (p : Panel) (interfaceId id : String) : Page where
  viewType
  title
  port := p.port
  hostPort
  html := pageHead ++ p.url interfaceId id ++ pageTail

/-- **What is shown for a label.** A page needs both files and both ids; a missing file of the
interface is told of before one of the project. -/
def view (p : Panel) (label : String) : PanelView :=
  let name := canisterName label
  match p.interfaceIds, p.canisterIds with
  | none, _ =>
    .info "Could not acquire Candid UI canister file. Have you deployed Candid?"
  | some _, none =>
    .info ("Could not acquire deployed " ++ name ++
      " canister file. Have you properly deployed the canister?")
  | some interfaceIds, some canisterIds =>
    match id? interfaceIds interfaceName, id? canisterIds name with
    | some interfaceId, some id => .page (p.page interfaceId id)
    | _, _ => .info "Could not get proper configuration for opening Candid UI"

end Panel

end SchemaOutline
