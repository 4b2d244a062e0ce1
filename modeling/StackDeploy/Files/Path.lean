import StackDeploy.Text.Search

/-!
# Paths

Paths are texts whose names are separated by slashes. They are joined and shortened as texts: no
name is resolved, so a path keeps the form in which it was given.

* `Path.join` — a path below a directory; an absolute path stands for itself.
* `Path.parent?` — the path of the directory in which something lies.
-/

namespace StackDeploy.Path

/-- The path starts at the root of the file system. -/
def isAbsolute (path : String) : Bool :=
  path.toList.head? = some '/'

/-- The path `path` as seen from the directory `base`. -/
def join (base path : String) : String :=
  if isAbsolute path then path
  else if base.isEmpty || base.toList.getLast? = some '/' then base ++ path
  else base ++ "/" ++ path

/-- The piece at the given place between slashes counts as a name. Empty pieces do not, and a dot
only at the very beginning of a path. -/
def isName (first : Bool) (piece : List Char) : Bool :=
  !piece.isEmpty && (first || piece != ['.'])

/-- The pieces up to the last one that counts as a name, which is included. Whether the first piece
is the beginning of the path is given by `first`. -/
def upToLastName (first : Bool) : List (List Char) → List (List Char)
  | [] => []
  | piece :: rest =>
    match upToLastName false rest with
    | [] => if isName first piece then [piece] else []
    | kept => piece :: kept

/-- The path **without its last name**, or nothing if there is no name in it. -/
def parent? (path : String) : Option String :=
  match upToLastName true (Text.splitOnChar '/' path.toList) with
  | [] => none
  | pieces =>
    match upToLastName true pieces.dropLast with
    | [] => some (if isAbsolute path then "/" else "")
    | kept => some (String.ofList (Text.joinWith '/' kept))

end StackDeploy.Path
