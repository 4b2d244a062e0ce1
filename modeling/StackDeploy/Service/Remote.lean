import StackDeploy.Http.Basic
import StackDeploy.Service.Records
import StackDeploy.Text.Base64
import StackDeploy.Url.Parser

/-!
# The service over HTTP

A remote service is asked by requests over HTTP: the path says what is asked for, and records go in
both directions as JSON. Sending is left to whoever has a connection.

* `RemoteService.url` — the URL for a path below the endpoint.
* `RemoteService.httpRequest` — the HTTP request for a request.
* `RemoteService.interpret` — the reply that an HTTP response means.
-/

namespace StackDeploy

/-- A **remote service**. -/
structure RemoteService where
  /-- The URL below which everything is found; no slash is at its end. -/
  endpoint : String
  token : Option String
deriving DecidableEq, Repr

/-! ### What is asked for -/

namespace Request

/-- The pieces of the path for a request. -/
def pieces : Request → List String
  | createChangeSet input => ["stacks", input.stackName, "change-sets"]
  | describeChangeSet stack id => ["stacks", stack, "change-sets", id]
  | executeChangeSet stack id => ["stacks", stack, "change-sets", id, "execute"]
  | describeStackEvents stack _ => ["stacks", stack, "events"]
  | describeStack stack => ["stacks", stack]
  | deleteStack stack => ["stacks", stack]
  | resolveRollout ref => ["clusters", ref.cluster, "services", ref.service, "rollout"]

/-- The method for a request. -/
def method : Request → HttpMethod
  | createChangeSet _ | executeChangeSet _ _ => .post
  | deleteStack _ => .delete
  | describeChangeSet _ _ | describeStackEvents _ _ | describeStack _ | resolveRollout _ => .get

/-- What a request is about, as errors name it. -/
def subject : Request → String
  | createChangeSet input => input.stackName
  | describeChangeSet _ id | executeChangeSet _ id => id
  | describeStackEvents stack _ | describeStack stack | deleteStack stack => stack
  | resolveRollout ref => ref.service

/-- The body of a request. -/
def body : Request → Option String
  | createChangeSet input => some input.toJson.print
  | _ => none

/-- The token of the page that a request asks for. -/
def pageToken : Request → Option String
  | describeStackEvents _ token => token
  | _ => none

/-- Reads the answer to a request. -/
def decode? : (r : Request) → String → Option r.Answer
  | createChangeSet _, body => (Json.parse? body).bind ChangeSetRef.ofJson?
  | describeChangeSet _ _, body => (Json.parse? body).bind ChangeSet.ofJson?
  | executeChangeSet _ _, _ => some ()
  | describeStackEvents _ _, body => (Json.parse? body).bind EventPage.ofJson?
  | describeStack _, body => (Json.parse? body).bind Stack.ofJson?
  | deleteStack _, _ => some ()
  | resolveRollout _, body => (Json.parse? body).bind Rollout.ofJson?

end Request

namespace RemoteService

/-- The service at an endpoint. -/
def atEndpoint (endpoint : String) (token : Option String) : RemoteService :=
  { endpoint := String.ofList (endpoint.toList.reverse.dropWhile (· = '/')).reverse, token }

/-! ### Requests -/

/-- The **URL** for a path below the endpoint. -/
def url (s : RemoteService) (pieces : List String) : Except ApiError Url :=
  match Url.parse? s.endpoint with
  | .error e => .error (.invalidEndpoint (s.endpoint ++ ": " ++ e.message))
  | .ok .opaquePath => .error (.invalidEndpoint s.endpoint)
  | .ok (.url u) => .ok (u.appendAll pieces)

/-- The character may stand in a header. -/
def isHeaderChar (c : Char) : Bool := c = '\t' || (' ' ≤ c && c ≠ '\x7f')

/-- The text without blanks at its end. Headers end without them. -/
def headerText (text : List Char) : List Char :=
  (text.reverse.dropWhile fun c => c = ' ' || c = '\t').reverse

/-- The credentials that the authority of a URL holds. A password that is no text when it is decoded
does not count, and without a name that is one there are none. -/
def basicCredentials? (a : Url.Authority) : Option String := do
  let username ← Utf8.decode? (Percent.decode a.username)
  let password := if a.password.isEmpty then none else Utf8.decode? (Percent.decode a.password)
  if username.isEmpty && password.isNone then none
  let pair := Utf8.encode (username ++ ":" ++ password.getD "")
  return "Basic " ++ String.ofList (Base64.encode pair)

/-- The credentials for a request: the token, else those of the URL, else none. A token that cannot
stand in a header makes the request impossible. -/
def credentials (s : RemoteService) (u : Url) : Except ApiError (Option String) :=
  match s.token with
  | none => .ok (u.authority.bind basicCredentials?)
  | some token =>
    if token.toList.all isHeaderChar then
      .ok (some (String.ofList (headerText ("Bearer ".toList ++ token.toList))))
    else .error (.http "builder error: failed to parse header value")

/-- The schemes that requests can be sent by. -/
def schemes : List String := ["http", "https"]

/-- The **HTTP request** for a request. -/
def httpRequest (s : RemoteService) (r : Request) : Except ApiError HttpRequest := do
  let url ← s.url r.pieces
  let authorization ← s.credentials url
  if !schemes.contains url.scheme then
    throw (.http "builder error: URL scheme is not allowed")
  let url := match r.pageToken with
    | some token => url.withQuery "next_token" token
    | none => url
  return { method := r.method, url, authorization, body := r.body }

/-! ### Replies -/

/-- The message that a response gives for its status: its own, or the phrase for the status. -/
def refusal (response : HttpResponse) : String :=
  let own := do
    match ← Json.slots? ["message"] (← Json.parse? response.content) with
    | [message] => message.orNone Json.asOptionalText?
    | _ => none
  (own.join).getD (httpReason response.status)

/-- The **reply** that a response means. -/
def interpret (r : Request) (response : HttpResponse) : Reply r :=
  if response.isSuccess then
    match r.decode? response.content with
    | some answer => .ok answer
    | none => .error (.invalidResponse "error decoding response body")
  else if response.status = 404 then .error (.notFound r.subject)
  else if response.status = 409 then .error (.alreadyExists r.subject)
  else .error (.service response.status (refusal response))

/-- Asks the service, given a way to send requests, which may fail with a message. -/
def call {m : Type → Type} [Monad m] (send : HttpRequest → m (Except String HttpResponse))
    (s : RemoteService) (r : Request) : m (Reply r) := do
  match s.httpRequest r with
  | .error e => return .error e
  | .ok request =>
    match ← send request with
    | .error message => return .error (.http message)
    | .ok response => return interpret r response

end RemoteService

end StackDeploy
