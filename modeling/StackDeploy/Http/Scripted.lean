import StackDeploy.Http.Basic

/-!
# Scripted servers

A server in memory that answers by a script: for each route a list of responses, of which the last
is repeated. It remembers the requests that it got.
-/

namespace StackDeploy

/-- A **route**: the responses to requests with the same method and target, in order. -/
structure Route where
  method : HttpMethod
  target : String
  responses : List HttpResponse
deriving DecidableEq, Repr

/-- The request belongs to the route. -/
def Route.takes (route : Route) (request : HttpRequest) : Bool :=
  route.method = request.method && route.target = request.url.target

/-- The response to the request that has so many before it on the route. -/
def Route.response? (route : Route) (before : Nat) : Option HttpResponse :=
  route.responses[before]?.or route.responses.getLast?

/-- A **scripted server**. -/
structure ScriptedServer where
  routes : List Route
  /-- The requests so far, the oldest first. -/
  received : List HttpRequest

namespace ScriptedServer

/-- A server that got no request. -/
def start (routes : List Route) : ScriptedServer := ⟨routes, []⟩

/-- The response to requests that belong to no route. -/
def notFound : HttpResponse := ⟨404, ""⟩

/-- The response to the next request. -/
def response (s : ScriptedServer) (request : HttpRequest) : HttpResponse :=
  match s.routes.find? (·.takes request) with
  | none => notFound
  | some route => (route.response? (s.received.countP route.takes)).getD notFound

/-- Answers a request. -/
def answer (s : ScriptedServer) (request : HttpRequest) : HttpResponse × ScriptedServer :=
  (s.response request, { s with received := s.received ++ [request] })

end ScriptedServer

end StackDeploy
