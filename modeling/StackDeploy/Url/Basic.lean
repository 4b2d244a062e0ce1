import StackDeploy.Url.Host

/-!
# URLs

A URL in its parts. All parts are in the form in which they are printed, so characters that must not
stand in a part are percent-encoded in it. The path is a list of pieces: every piece is printed with
a slash before it.

* `Url.print` — the text of a URL.
* `Url.append` — the URL with a piece at the end of its path.
* `Url.withQuery` — the URL with one more field in its query.
-/

namespace StackDeploy

/-- Who the URL says the program is, and the host that it leads to. -/
structure Url.Authority where
  username : List Char
  password : List Char
  host : Url.Host
  /-- The port, unless it is the one that the scheme stands for. -/
  port : Option Nat
deriving DecidableEq, Repr

/-- A **URL** with a path of pieces. -/
structure Url where
  scheme : String
  authority : Option Url.Authority
  /-- There is no authority, and the path is kept from being taken for one. -/
  guarded : Bool
  path : List (List Char)
  query : Option (List Char)
  fragment : Option (List Char)
deriving DecidableEq, Repr

namespace Url

open Text

/-! ### Schemes -/

/-- The ports that schemes stand for. Only special schemes stand for one. -/
def defaultPorts : List (String × Nat) :=
  [("http", 80), ("https", 443), ("ws", 80), ("wss", 443), ("ftp", 21)]

/-- The scheme of files. -/
def fileScheme : String := "file"

/-- A **special** scheme: URLs with it have a host, and a backslash is a slash in them. -/
def isSpecial (scheme : String) : Bool :=
  scheme = fileScheme || (defaultPorts.lookup scheme).isSome

/-! ### Characters of the parts -/

/-- The character is visible ASCII and none of the given ones. -/
def isVisibleExcept (excluded : String) (c : Char) : Bool :=
  ' ' < c && c ≤ '~' && !excluded.toList.contains c

/-- A character that stands for itself in a fragment. -/
def keptInFragment : Char → Bool := isVisibleExcept "\"<>`"

/-- A character that stands for itself in a path. -/
def keptInPath : Char → Bool := isVisibleExcept "\"<>`#?\x7b\x7d"

/-- A character that stands for itself in a piece of a path that is given as such: no character that
separates pieces does, and no percent sign. -/
def keptInPiece (special : Bool) : Char → Bool :=
  isVisibleExcept (if special then "\"<>`#?\x7b\x7d/%\\" else "\"<>`#?\x7b\x7d/%")

/-- A character that stands for itself in a name or a password. -/
def keptInUserInfo : Char → Bool := isVisibleExcept "\"<>`#?\x7b\x7d/:;=@[\\]^|"

/-- A character that stands for itself in a query. -/
def keptInQuery (special : Bool) : Char → Bool :=
  isVisibleExcept (if special then "\"<>#'" else "\"<>#")

/-- A character that stands for itself in a field of a query. -/
def keptInField (c : Char) : Bool :=
  c.isAlphanum || c = '*' || c = '-' || c = '.' || c = '_'

/-- A character that no part of a URL holds. -/
def isDropped (c : Char) : Bool := c = '\t' || c = '\n' || c = '\r'

/-! ### Printing -/

/-- The printed name and password. -/
def Authority.userInfo (a : Authority) : List Char :=
  if a.username.isEmpty && a.password.isEmpty then []
  else a.username ++ (if a.password.isEmpty then [] else ':' :: a.password) ++ ['@']

/-- The printed authority. -/
def Authority.print (a : Authority) : List Char :=
  a.userInfo ++ a.host.print ++
    match a.port with
    | some port => ':' :: natDigits port
    | none => []

/-- The printed **path**. -/
def printPath (path : List (List Char)) : List Char :=
  path.flatMap ('/' :: ·)

/-- An optional part after the character that begins it. -/
def printPart (mark : Char) : Option (List Char) → List Char
  | some text => mark :: text
  | none => []

/-- The characters before the path. -/
def printOrigin (u : Url) : List Char :=
  u.scheme.toList ++ [':'] ++
    match u.authority with
    | some a => '/' :: '/' :: a.print
    | none => if u.guarded then ['/', '.'] else []

/-- The **text** of a URL. -/
def print (u : Url) : String :=
  String.ofList
    (u.printOrigin ++ printPath u.path ++ printPart '?' u.query ++ printPart '#' u.fragment)

/-- What a request asks the host for: the path and the query. -/
def target (u : Url) : String :=
  String.ofList (printPath u.path ++ printPart '?' u.query)

/-! ### Paths -/

/-- The ways to write a dot. -/
def dots : List (List Char) := [".", "%2e", "%2E"].map String.toList

/-- A piece that stands for the place it is at. -/
def isHere (piece : List Char) : Bool := dots.contains piece

/-- A piece that stands for the place above. -/
def isAbove (piece : List Char) : Bool :=
  dots.any fun a => dots.any fun b => piece = a ++ b

/-- A **drive letter** and its mark. -/
def isDrive : List Char → Bool
  | [letter, mark] => letter.isAlpha && (mark = ':' || mark = '|')
  | _ => false

/-- The piece is a drive letter, or one and a backslash are at its beginning. -/
def beginsWithDrive (piece : List Char) : Bool := isDrive (piece.takeWhile (· ≠ '\\'))

/-- The path without its last piece. One that begins with a drive letter stays. -/
def shorten (path : List (List Char)) : List (List Char) :=
  if path.getLast?.any beginsWithDrive then path else path.dropLast

/-- The path of a file without the empty pieces at its beginning. -/
def tidy (scheme : String) (path : List (List Char)) : List (List Char) :=
  if scheme != fileScheme then path
  else
    match path.dropWhile List.isEmpty with
    | [] => path.take 1
    | rest => rest

/-- The text without the characters that no URL holds. -/
def strip (text : List Char) : List Char := text.filter (!isDropped ·)

/-- A drive letter, its colon and what comes after a character that no URL holds. -/
def splitDrive? (text : List Char) : Option (List Char × List Char) :=
  match text.dropWhile isDropped with
  | [] => none
  | letter :: rest =>
    match rest.dropWhile isDropped with
    | ':' :: c :: rest =>
      if letter.isAlpha && isDropped c && !(strip rest).isEmpty then
        some ([letter, ':'], strip rest)
      else none
    | _ => none

/-- A first piece of the path of a file. A drive letter has a colon, and is a piece of its own if it
is set apart from what comes after it. -/
def firstOfFile (kept : Char → Bool) (piece : List Char) : List (List Char) :=
  match splitDrive? piece with
  | some (drive, rest) => [drive, Percent.encode kept rest]
  | none =>
    let written := Percent.encode kept (strip piece)
    [if isDrive written then written.take 1 ++ [':'] else written]

/-- The path with one more piece, which is the last one or not. It is written with the characters
that are to be kept. Pieces that stand for places are followed instead of kept. -/
def follow (scheme : String) (kept : Char → Bool) (path : List (List Char)) (piece : List Char)
    (isLast : Bool) : List (List Char) :=
  let written := Percent.encode kept (strip piece)
  if isAbove written then shorten path ++ (if isLast then [[]] else [])
  else if isHere written then path ++ (if isLast then [[]] else [])
  else if scheme = fileScheme && path.isEmpty then firstOfFile kept piece
  else path ++ [written]

/-- The path that pieces lead along. -/
def followAll (scheme : String) (path : List (List Char)) :
    List (List Char) → List (List Char)
  | [] => path
  | [piece] => follow scheme keptInPath path piece true
  | piece :: rest => followAll scheme (follow scheme keptInPath path piece false) rest

/-- The URL without an empty piece at the end of its path, unless that is the only one. -/
def withoutEmptyEnd (u : Url) : Url :=
  if 1 < u.path.length && u.path.getLast? = some [] then { u with path := u.path.dropLast } else u

/-- The URL with a **piece** at the end of its path, given unencoded. Pieces that are one or two
dots are left out, and so are characters that no URL holds. The empty path is the same as one with
an empty piece. -/
def append (u : Url) (piece : String) : Url :=
  if piece = "." || piece = ".." then u
  else
    let path := if u.path = [[]] then [] else u.path
    let kept := keptInPiece (isSpecial u.scheme)
    { u with path := tidy u.scheme (follow u.scheme kept path piece.toList true) }

/-- The URL with pieces at the end of its path. -/
def appendAll (u : Url) (pieces : List String) : Url :=
  pieces.foldl append u.withoutEmptyEnd

/-! ### Queries -/

/-- A name or a value as it is written in a query. -/
def encodeField (text : String) : List Char :=
  text.toList.flatMap fun c => if c = ' ' then ['+'] else Percent.encodeChar keptInField c

/-- The URL with one more **field** in its query. -/
def withQuery (u : Url) (name value : String) : Url :=
  let field := encodeField name ++ '=' :: encodeField value
  { u with query := some (match u.query with
      | none | some [] => field
      | some query => query ++ '&' :: field) }

end Url

end StackDeploy
