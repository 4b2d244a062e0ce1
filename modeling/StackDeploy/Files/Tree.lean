import StackDeploy.Files.Basic
import StackDeploy.Text.Utf8

/-!
# File trees

A file system in memory: files with their bytes, and directories. Every directory on the way to a
file exists, also if it is not listed.

* `FileTree.walk` — finds the place of a path, name by name, from a starting directory.
* `FileTree.toFiles` — the tree as a file system, seen from a working directory.
-/

namespace StackDeploy

/-- A place in a file tree: the names on the way from the root. -/
abbrev Place := List String

/-- A **file tree**. -/
structure FileTree where
  files : List (Place × List UInt8)
  directories : List Place

namespace FileTree

/-- What stands at a place. -/
inductive Entry where
  | file (content : List UInt8)
  | directory
deriving DecidableEq

/-- There is a directory at the place: it is listed, or something lies in it. -/
def isDirectory (t : FileTree) (place : Place) : Bool :=
  place.isEmpty || t.directories.any (place.isPrefixOf ·)
    || t.files.any fun (p, _) => place.isPrefixOf p && p != place

/-- What stands at a place, if anything does. -/
def entry? (t : FileTree) (place : Place) : Option Entry :=
  match t.files.lookup place with
  | some content => some (.file content)
  | none => if t.isDirectory place then some .directory else none

/-- The greatest length of a name in bytes. -/
def maxNameLength : Nat := 255

/-- The greatest length of a path in bytes. -/
def maxPathLength : Nat := 4095

/-- Takes one step on a path from the place `place`, which has to be a directory. -/
def stepTo (t : FileTree) (place : Place) (name : String) : Except FileError Place :=
  match t.entry? place with
  | none => .error .missing
  | some (.file _) => .error .notDirectory
  | some .directory =>
    if name = "" || name = "." then .ok place
    else if name = ".." then .ok place.dropLast
    else if maxNameLength < name.utf8ByteSize then .error .nameTooLong
    else .ok (place ++ [name])

/-- **Walks** along names from a place. -/
def walk (t : FileTree) : Place → List String → Except FileError Place
  | place, [] => .ok place
  | place, name :: rest =>
    match t.stepTo place name with
    | .ok next => walk t next rest
    | .error e => .error e

/-- What stands at the end of a path, seen from the directory `working`. -/
def locate (t : FileTree) (working : Place) (path : String) : Except FileError Entry :=
  if path.toList.contains '\x00' then .error .invalidPath
  else if path.isEmpty then .error .missing
  else if maxPathLength < path.utf8ByteSize then .error .nameTooLong
  else
    let names := (Text.splitOnChar '/' path.toList).map String.ofList
    match t.walk (if Path.isAbsolute path then [] else working) names with
    | .error e => .error e
    | .ok place =>
      match t.entry? place with
      | some entry => .ok entry
      | none => .error .missing

/-- The text of the file at a path. -/
def readText (t : FileTree) (working : Place) (path : String) : Except FileError String :=
  match t.locate working path with
  | .error e => .error e
  | .ok .directory => .error .isDirectory
  | .ok (.file content) =>
    match Utf8.decode? content with
    | some text => .ok text
    | none => .error .notText

/-- The tree as a **file system**, seen from a working directory. -/
def toFiles {m : Type → Type} [Pure m] (t : FileTree) (working : Place) : Files m where
  contains path := pure (t.locate working path).toBool
  read path := pure (t.readText working path)

end FileTree

end StackDeploy
