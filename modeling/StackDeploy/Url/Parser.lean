import StackDeploy.Url.Basic

/-!
# Reading URLs

A URL is read from its end to its beginning: the fragment is cut off at the first number sign, then
the query at the first question mark; the scheme ends at the first colon, and how the rest is taken
apart depends on whether the scheme is special.

* `Url.parse?` — reads a URL, which may have a path of pieces or something else after its scheme.
-/

namespace StackDeploy.Url

open Text

/-- What a text **reads as**. -/
inductive Parsed where
  | url (u : Url)
  /-- What comes after the scheme is not a path of pieces. -/
  | opaquePath
deriving DecidableEq, Repr

/-- The text without control characters and spaces at both ends. -/
def trimEnds (text : List Char) : List Char :=
  ((text.dropWhile (· ≤ ' ')).reverse.dropWhile (· ≤ ' ')).reverse

/-- The text before the first occurrence of a character, and the text after it if it occurs. -/
def cutOff (mark : Char) (text : List Char) : List Char × Option (List Char) :=
  match cutAt [mark] text with
  | some (before, after) => (before, some after)
  | none => (text, none)

/-- The character may stand in a scheme. -/
def isSchemeChar (c : Char) : Bool :=
  c.isAlphanum || c = '+' || c = '-' || c = '.'

/-- Reads a scheme and the colon after it. -/
def readScheme? (text : List Char) : Option (String × List Char) :=
  match cutAt [':'] text with
  | some (written, rest) =>
    let scheme := strip written
    if scheme.head?.any Char.isAlpha && scheme.all isSchemeChar then
      some (String.ofList (scheme.map Char.toLower), rest)
    else none
  | none => none

/-- The character separates pieces of a path. -/
def isSlash (special : Bool) (c : Char) : Bool := c = '/' || (special && c = '\\')

/-- The pieces of a text between slashes. -/
def splitPath (special : Bool) (text : List Char) : List (List Char) :=
  splitOnChar '/' (text.map fun c => if isSlash special c then '/' else c)

/-- The path that the text after its first slash leads along. -/
def readPath (scheme : String) (text : List Char) : List (List Char) :=
  tidy scheme (followAll scheme [] (splitPath (isSpecial scheme) text))

/-! ### Authorities -/

/-- Splits a text at the last occurrence of a character. -/
def cutAtLast (mark : Char) (text : List Char) : Option (List Char × List Char) :=
  (cutAt [mark] text.reverse).map fun (after, before) => (before.reverse, after.reverse)

/-- The text of the host, up to a colon that does not stand in brackets. -/
def hostLength (inBrackets : Bool) : List Char → Nat
  | [] => 0
  | c :: rest =>
    if c = ':' && !inBrackets then 0
    else hostLength (if c = '[' then true else if c = ']' then false else inBrackets) rest + 1

/-- The greatest port. -/
def maxPort : Nat := 65535

/-- Reads the text from the colon before a port on; no digits stand for no port. Gives what comes
after the port as well, which begins with a backslash. -/
def readPort (scheme : String) (text : List Char) :
    Except Error (Option Nat × List Char) :=
  let digits := (text.drop 1).takeWhile (· ≠ '\\')
  let rest := (text.drop 1).dropWhile (· ≠ '\\')
  if digits.isEmpty then .ok (none, rest)
  else if digits.all isDigit && digitsValue digits ≤ maxPort then
    let port := digitsValue digits
    .ok (if defaultPorts.lookup scheme = some port then none else some port, rest)
  else .error .badPort

/-- Reads an authority. Something comes after it if `followed` holds. Gives the text at its end that
belongs to the path as well. -/
def readAuthority (scheme : String) (text : List Char) (followed : Bool) :
    Except Error (Authority × List Char) := do
  let (userInfo, address) := (cutAtLast '@' text).getD ([], text)
  let (name, password) := cutOff ':' userInfo
  let username := Percent.encode keptInUserInfo name
  let password := Percent.encode keptInUserInfo (password.getD [])
  if address.isEmpty && text.head? = some '@' && userInfo.isEmpty && followed then
    throw .emptyHost
  let length := hostLength false address
  let hostText := address.take length
  let portText := address.drop length
  let host ←
    if isSpecial scheme then
      if hostText.isEmpty then throw .emptyHost else Host.parse hostText
    else Host.parseOpaque hostText
  if hostText.isEmpty && (!portText.isEmpty || !(username.isEmpty && password.isEmpty)) then
    throw .emptyHost
  let (port, rest) ← readPort scheme portText
  return ({ username, password, host, port }, rest)

/-! ### URLs -/

/-- What comes after a slash at the front of a text, if there is one. -/
def afterSlash? (text : List Char) : Option (List Char) :=
  match text.dropWhile isDropped with
  | [] => none
  | c :: rest => if isSlash true c then some rest else none

/-- The host of a file, unless it is this one: no host, a drive letter and one name stand for it. -/
def readFileHost? (text : List Char) : Except Error (Option Host) :=
  if text.isEmpty || isDrive text then .ok none
  else do
    let host ← Host.parse text
    return if host = .name "localhost".toList then none else some host

/-- The pieces lead to a drive from the beginning of a path. -/
def leadsToDrive (path : List (List Char)) : List (List Char) → Bool
  | [] => false
  | piece :: rest =>
    path.isEmpty && isDrive (strip piece) ||
      leadsToDrive (follow fileScheme keptInPath path piece false) rest

/-- The authority of a file. -/
def fileAuthority (host : Host) : Authority := ⟨[], [], host, none⟩

/-- The authority of a file on this host. -/
def localFile : Authority := fileAuthority (.name [])

/-- The authority and the path of a file, given what comes after two slashes. A drive is on this
host. -/
def readFileWithHost (text : List Char) : Except Error (Authority × List (List Char)) := do
  let hostText := text.takeWhile (!isSlash true ·)
  let rest := text.drop hostText.length
  match ← readFileHost? (strip hostText) with
  | none =>
    return (localFile, readPath fileScheme (if isDrive (strip hostText) then text else rest))
  | some host =>
    let pieces := splitPath true (rest.drop 1)
    let authority := if leadsToDrive [] pieces then localFile else fileAuthority host
    return (authority, readPath fileScheme (rest.drop 1))

/-- The authority and the path of a file, given what comes after the colon. -/
def readFile (text : List Char) : Except Error (Authority × List (List Char)) :=
  match afterSlash? text with
  | none => .ok (localFile, readPath fileScheme text)
  | some rest =>
    match afterSlash? rest with
    | none => .ok (localFile, readPath fileScheme rest)
    | some rest => readFileWithHost rest

/-- The authority and the path of a URL that has an authority, given what comes after the slashes.
-/
def readWithAuthority (scheme : String) (text : List Char) (followed : Bool) :
    Except Error (Authority × List (List Char)) := do
  let special := isSpecial scheme
  let authorityText := text.takeWhile (!isSlash special ·)
  let rest := text.drop authorityText.length
  let (authority, extra) ← readAuthority scheme authorityText (followed || !rest.isEmpty)
  let path := match extra ++ rest with
    | [] => if special then [[]] else []
    | c :: rest => readPath scheme (if isSlash special c then rest else c :: rest)
  return (authority, path)

/-- **Reads** a URL. -/
def parse? (text : String) : Except Error Parsed := do
  let (rest, fragment) := cutOff '#' (trimEnds text.toList)
  let (main, query) := cutOff '?' rest
  match readScheme? main with
  | none => throw .relative
  | some (scheme, rest) =>
    let query := query.map (Percent.encode (keptInQuery (isSpecial scheme)) <| strip ·)
    let fragment := fragment.map (Percent.encode keptInFragment <| strip ·)
    let followed := query.isSome || fragment.isSome
    let located (authority : Authority) (path : List (List Char)) : Parsed :=
      .url ⟨scheme, some authority, false, path, query, fragment⟩
    if scheme = fileScheme then
      let (authority, path) ← readFile rest
      return located authority path
    let rest := strip rest
    if isSpecial scheme then
      let (authority, path) ←
        readWithAuthority scheme (rest.dropWhile (isSlash true)) followed
      return located authority path
    match rest with
    | '/' :: '/' :: rest =>
      let (authority, path) ← readWithAuthority scheme rest followed
      return located authority path
    | '/' :: rest =>
      let path := readPath scheme rest
      let guarded := 1 < path.length && path.head? = some []
      return .url ⟨scheme, none, guarded, path, query, fragment⟩
    | _ => return .opaquePath

end StackDeploy.Url
