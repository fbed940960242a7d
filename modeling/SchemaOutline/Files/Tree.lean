import SchemaOutline.Files.Basic
import SchemaOutline.Text.Search

/-!
# File trees

A directory with files in memory, which a path is followed in from segment to segment.

* `FileTree` — the directories and files by the segments of their paths.
* `FileTree.find` — where a path leads to.
* `FileTree.view` — the files as a program in the topmost directory sees them.
* `FileTree.write`, `FileTree.makeDirectory`, `FileTree.delete` — changes.
* `FileTree.overwrite?` — a change that needs the directory of the file.
-/

namespace SchemaOutline

/-- **A tree of files**: what stands at a path, given by its segments below the topmost directory.
Nothing stands for a directory. The topmost directory is not listed. A path that leaves the tree
begins with the segments `..` that lead out of it. -/
structure FileTree where
  entries : List (List String × Option ByteArray) := []

namespace FileTree

/-- The segments of a path. -/
def segments (path : String) : List String :=
  (Text.segments '/' path.toList).map String.ofList

/-- What stands at a path: nothing, a directory, or a file. The directories above the topmost one
are there, as nothing else outside the tree is. -/
def at? (tree : FileTree) (path : List String) : Option (Option ByteArray) :=
  if path.all (· == "..") then some none else tree.entries.lookup path

/-- The directory above another. -/
def above (here : List String) : List String :=
  if here.all (· == "..") then here ++ [".."] else here.dropLast

/-- Puts a file or a directory at a path, in the place of what was there. -/
def put (tree : FileTree) (path : List String) (content : Option ByteArray) : FileTree where
  entries := (path, content) :: tree.entries.filter (·.1 ≠ path)

/-! ## Finding -/

/-- Follows segments to where they end. -/
def locate (tree : FileTree) : List String → List String → Except FileFault (List String)
  | here, [] => .ok here
  | here, segment :: rest =>
    match tree.at? here with
    | none => .error .missing
    | some (some _) => .error .notDirectory
    | some none =>
      if segment = "" ∨ segment = "." then locate tree here rest
      else if segment = ".." then locate tree (above here) rest
      else locate tree (here ++ [segment]) rest

/-- Where a path leads to. An absolute path leads out of the tree, to a directory if it has no
segments and to nothing else. -/
def find (tree : FileTree) (path : String) : Except FileFault (List String) :=
  if path.toList.contains (Char.ofNat 0) then .error .badPath
  else if path.isEmpty then .error .missing
  else if path.toList.head? = some '/' then
    if path.toList.all (· == '/') then .error .directory else .error .missing
  else tree.locate [] (segments path)

/-- **The files as a program in the topmost directory sees them.** -/
def view (tree : FileTree) : Files := fun path =>
  match tree.find path with
  | .error fault => .error fault
  | .ok here =>
    match tree.at? here with
    | none => .error .missing
    | some none => .error .directory
    | some (some bytes) => .ok bytes

/-! ## Changes -/

/-- The segments of a path without those that stay where they are. -/
def plainSegments (path : String) : List String :=
  (segments path).filter fun segment => segment ≠ "" ∧ segment ≠ "."

/-- Follows segments and makes every directory that is not there. It stops at a file. -/
def makeWay (tree : FileTree) : List String → List String → FileTree
  | _, [] => tree
  | here, segment :: rest =>
    if segment = ".." then makeWay tree (above here) rest
    else
      let next := here ++ [segment]
      match tree.at? next with
      | none => makeWay (tree.put next none) next rest
      | some none => makeWay tree next rest
      | some (some _) => tree

/-- The tree with a directory at a path and with every directory on the way. -/
def makeDirectory (tree : FileTree) (path : String) : FileTree :=
  tree.makeWay [] (plainSegments path)

/-- The tree after a file has been written whose directory has to be there. A path that ends in a
slash is that of a directory, whether there is one or not. -/
def overwrite? (tree : FileTree) (path : String) (bytes : ByteArray) :
    Except FileFault FileTree :=
  let way := ((segments path).reverse.dropWhile (· = "")).reverse
  let isFileName := path.toList.getLast? ≠ some '/'
  if path.toList.contains (Char.ofNat 0) then .error .badPath
  else
    match way.getLast? with
    | none => .error (if path.isEmpty then .missing else .directory)
    | some name =>
      if path.toList.head? = some '/' then
        .error (if way.length = 2 && !isFileName then .directory else .missing)
      else
        match tree.locate [] way.dropLast with
        | .error fault => .error fault
        | .ok here =>
          match tree.at? here with
          | none => .error .missing
          | some (some _) => .error .notDirectory
          | some none =>
            if name = "." || name = ".." || !isFileName then .error .directory
            else
              match tree.at? (here ++ [name]) with
              | some none => .error .directory
              | _ => .ok (tree.put (here ++ [name]) (some bytes))

/-- The tree with a file at a path and with every directory on the way. Where no file can be
written there is none. -/
def write (tree : FileTree) (path : String) (bytes : ByteArray) : FileTree :=
  let tree := tree.makeWay [] (plainSegments path).dropLast
  match tree.overwrite? path bytes with
  | .ok after => after
  | .error _ => tree

/-- The tree without the file at a path. A directory is not deleted. -/
def delete (tree : FileTree) (path : String) : FileTree :=
  match tree.find path with
  | .error _ => tree
  | .ok here =>
    match tree.at? here with
    | some (some _) => { entries := tree.entries.filter (·.1 ≠ here) }
    | _ => tree

end FileTree

end SchemaOutline
