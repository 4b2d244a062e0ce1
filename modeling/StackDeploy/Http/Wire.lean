import StackDeploy.Http.Basic
import StackDeploy.Text.Blank
import StackDeploy.Text.Hex
import StackDeploy.Text.Search
import StackDeploy.Text.Utf8

/-!
# HTTP messages as bytes

Requests and responses as they go over a connection that carries one of each and is then closed.

* `HttpRequest.bytes` — a request with its head and body.
* `HttpResponse.ofBytes?` — the response in all the bytes that came, whether its body is as long as
  the head says, comes in chunks, or goes on to the end.
-/

namespace StackDeploy

open Text

/-! ### Requests -/

/-- A field of a head as a line. -/
def httpField (name value : String) : String := name ++ ": " ++ value ++ "\r\n"

/-- The host and port to which a URL leads, as a request names them. -/
def Url.Authority.hostField (a : Url.Authority) : String :=
  String.ofList { a with username := [], password := [] }.print

/-- The **bytes** of a request. -/
def HttpRequest.bytes (r : HttpRequest) : List UInt8 :=
  let body := Utf8.encode (r.body.getD "")
  let field (name : String) (value : Option String) : String :=
    (value.map (httpField name)).getD ""
  let length := if r.method = .get && r.body.isNone then none else some (natText body.length)
  Utf8.encode
    (r.method.text ++ " " ++ r.url.target ++ " HTTP/1.1\r\n" ++
      field "host" (r.url.authority.map (·.hostField)) ++
      httpField "accept" "*/*" ++
      field "authorization" r.authorization ++
      field "content-type" r.contentType ++
      field "content-length" length ++
      httpField "connection" "close" ++ "\r\n") ++ body

/-! ### Responses -/

namespace HttpResponse

/-- The line at the front of some bytes, without its end, and what follows. -/
def takeLine : List UInt8 → Option (List Char × List UInt8)
  | [] => none
  | 13 :: 10 :: rest | 10 :: rest => some ([], rest)
  | b :: rest => (takeLine rest).map fun (line, rest) => (Char.ofNat b.toNat :: line, rest)

/-- The lines up to an empty one and what follows it, at most `fuel` of them. -/
def takeHead : Nat → List UInt8 → Option (List (List Char) × List UInt8)
  | 0, _ => none
  | fuel + 1, bytes =>
    match takeLine bytes with
    | none => none
    | some ([], rest) => some ([], rest)
    | some (line, rest) => (takeHead fuel rest).map fun (lines, rest) => (line :: lines, rest)

/-- The status in the first line of a head. -/
def status? (line : List Char) : Option Nat :=
  match splitOnChar ' ' line with
  | version :: digits :: _ =>
    if version.take 5 = "HTTP/".toList then readNat? digits else none
  | _ => none

/-- The value of a field of a head, by its name in lower case. -/
def fieldValue? (name : String) : List (List Char) → Option (List Char)
  | [] => none
  | line :: rest =>
    if (line.takeWhile (· ≠ ':')).map Char.toLower = name.toList then
      some (trimChars ((line.dropWhile (· ≠ ':')).drop 1))
    else fieldValue? name rest

/-- The content of chunks, at most `fuel` of them. The last chunk has no bytes. -/
def chunks : Nat → List UInt8 → Option (List UInt8)
  | 0, _ => none
  | fuel + 1, bytes => do
    let (line, rest) ← takeLine bytes
    let digits := trimChars (line.takeWhile (· ≠ ';'))
    if digits.isEmpty then none
    let size ← hexNumber? digits
    if size = 0 then return []
    if rest.length < size then none
    let (_, next) ← takeLine (rest.drop size)
    return rest.take size ++ (← chunks fuel next)

/-- The body that follows a head. -/
def bodyBytes? (head : List (List Char)) (rest : List UInt8) : Option (List UInt8) :=
  match fieldValue? "transfer-encoding" head, fieldValue? "content-length" head with
  | some _, _ => chunks (rest.length + 1) rest
  | none, some digits => do
    let length ← readNat? digits
    if rest.length < length then none else some (rest.take length)
  | none, none => some rest

/-- The **response** in the bytes that came. Statuses below 200 announce another response, except
when the protocol is switched. -/
def ofBytes? : Nat → List UInt8 → Option HttpResponse
  | 0, _ => none
  | fuel + 1, bytes => do
    let (head, rest) ← takeHead (bytes.length + 1) bytes
    let status ← status? (← head.head?)
    if status < 200 && status != 101 then ofBytes? fuel rest
    else if statusesWithoutContent.contains status then return ⟨status, ""⟩
    else return ⟨status, Utf8.decodeLossy (← bodyBytes? head.tail rest)⟩

end HttpResponse

end StackDeploy
