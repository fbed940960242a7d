/-!
# Files

What a program sees of the files around it: for every path, the bytes of the file there or the
reason why there are none.

* `FileFault` — the reasons, with their wording.
* `Files` — a view of all files at one time.
* `Files.text` — a file as text.
* `Files.replace` — the view after a file has been written.
-/

namespace SchemaOutline

/-- Why a file cannot be read. -/
inductive FileFault where
  | missing
  | directory
  | notDirectory
  | notText
  | badPath
  | denied
  deriving DecidableEq

/-- The wording of a fault. -/
def FileFault.message : FileFault → String
  | missing => "No such file or directory (os error 2)"
  | directory => "Is a directory (os error 21)"
  | notDirectory => "Not a directory (os error 20)"
  | notText => "stream did not contain valid UTF-8"
  | badPath => "file name contained an unexpected NUL byte"
  | denied => "Permission denied (os error 13)"

/-- **A view of the files**: the bytes at every path. -/
abbrev Files := String → Except FileFault ByteArray

namespace Files

/-- The view without files. -/
def empty : Files := fun _ => .error .missing

/-- The view of files at the given paths alone. -/
def ofList (entries : List (String × Except FileFault ByteArray)) : Files := fun path =>
  (entries.lookup path).getD (.error .missing)

/-- The text of a file in UTF-8. -/
def text (files : Files) (path : String) : Except FileFault String :=
  match files path with
  | .ok bytes =>
    match String.fromUTF8? bytes with
    | some s => .ok s
    | none => .error .notText
  | .error fault => .error fault

/-- A file that holds the bytes of a text has that text. -/
theorem text_of_toUTF8 {files : Files} {path text : String}
    (content : files path = .ok text.toUTF8) : files.text path = .ok text := by
  have back : String.fromUTF8? text.toUTF8 = some text := dif_pos text.isValidUTF8
  rw [Files.text, content]
  dsimp only
  rw [back]

/-- Whether there is a file at a path. -/
def isFile (files : Files) (path : String) : Bool :=
  (files path).isOk

/-- The view in which a file with the given text stands at a path. -/
def replace (files : Files) (path text : String) : Files := fun other =>
  if other = path then .ok text.toUTF8 else files other

end Files

/-- A path below another: an empty path has nothing before it, and no slash is doubled. -/
def joinPath (base below : String) : String :=
  match base.toList.getLast? with
  | none => below
  | some '/' => base ++ below
  | some _ => base ++ "/" ++ below

end SchemaOutline
