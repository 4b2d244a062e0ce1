import StackDeploy.Url.Basic

/-!
# HTTP messages

The requests that the program sends and the responses that it gets, as far as it looks at them.
-/

namespace StackDeploy

/-- What a request is to do. -/
inductive HttpMethod where
  | get
  | post
  | delete
deriving DecidableEq, Repr

/-- The word for a method. -/
def HttpMethod.text : HttpMethod → String
  | get => "GET"
  | post => "POST"
  | delete => "DELETE"

/-- A **request**. -/
structure HttpRequest where
  method : HttpMethod
  url : Url
  /-- The credentials. -/
  authorization : Option String
  /-- A JSON text, if there is a body. -/
  body : Option String
deriving DecidableEq, Repr

/-- The type of a body, if there is one. -/
def HttpRequest.contentType (r : HttpRequest) : Option String :=
  r.body.map fun _ => "application/json"

/-- A **response**. -/
structure HttpResponse where
  status : Nat
  body : String
deriving DecidableEq, Repr

namespace HttpResponse

/-- The request was accepted. -/
def isSuccess (r : HttpResponse) : Bool := 200 ≤ r.status && r.status < 300

/-- The statuses with which a response has no content, whatever follows its head. -/
def statusesWithoutContent : List Nat := [101, 204, 304]

/-- The **content** of a response. -/
def content (r : HttpResponse) : String :=
  if statusesWithoutContent.contains r.status then "" else r.body

end HttpResponse

/-! ### Reasons -/

/-- The phrases for statuses. -/
def httpReasons : List (Nat × String) :=
  [(100, "Continue"), (101, "Switching Protocols"), (102, "Processing"),
    (200, "OK"), (201, "Created"), (202, "Accepted"), (203, "Non Authoritative Information"),
    (204, "No Content"), (205, "Reset Content"), (206, "Partial Content"), (207, "Multi-Status"),
    (208, "Already Reported"), (226, "IM Used"),
    (300, "Multiple Choices"), (301, "Moved Permanently"), (302, "Found"), (303, "See Other"),
    (304, "Not Modified"), (305, "Use Proxy"), (307, "Temporary Redirect"),
    (308, "Permanent Redirect"),
    (400, "Bad Request"), (401, "Unauthorized"), (402, "Payment Required"), (403, "Forbidden"),
    (404, "Not Found"), (405, "Method Not Allowed"), (406, "Not Acceptable"),
    (407, "Proxy Authentication Required"), (408, "Request Timeout"), (409, "Conflict"),
    (410, "Gone"), (411, "Length Required"), (412, "Precondition Failed"),
    (413, "Payload Too Large"), (414, "URI Too Long"), (415, "Unsupported Media Type"),
    (416, "Range Not Satisfiable"), (417, "Expectation Failed"), (418, "I'm a teapot"),
    (421, "Misdirected Request"), (422, "Unprocessable Entity"), (423, "Locked"),
    (424, "Failed Dependency"), (426, "Upgrade Required"), (428, "Precondition Required"),
    (429, "Too Many Requests"), (431, "Request Header Fields Too Large"),
    (451, "Unavailable For Legal Reasons"),
    (500, "Internal Server Error"), (501, "Not Implemented"), (502, "Bad Gateway"),
    (503, "Service Unavailable"), (504, "Gateway Timeout"), (505, "HTTP Version Not Supported"),
    (506, "Variant Also Negotiates"), (507, "Insufficient Storage"), (508, "Loop Detected"),
    (510, "Not Extended"), (511, "Network Authentication Required")]

/-- The phrase for a status. -/
def httpReason (status : Nat) : String := (httpReasons.lookup status).getD "unknown"

end StackDeploy
