import StackDeploy.ChangeSet.Basic
import StackDeploy.Event.Basic
import StackDeploy.Service.Rollout
import StackDeploy.Stack.Basic

/-!
# The stack service

What can be asked of the stack service and how it can answer. A **request** is one call; the type
`Answer` says what an accepted request of each kind brings back, and a reply is an answer or an
`ApiError`.

* `Reply` — the reply type of a request, so a reply always fits the request it answers.
* `ApiError.message` — the wording of every error.
-/

namespace StackDeploy

/-- Why a request was not answered. -/
inductive ApiError where
  /-- There already is a stack of that name. -/
  | alreadyExists (subject : String)
  | notFound (subject : String)
  /-- The service refused with an HTTP status and a message of its own. -/
  | service (status : Nat) (message : String)
  /-- The request could not be sent, or no response came. -/
  | http (message : String)
  /-- The response could not be read. -/
  | invalidResponse (message : String)
  /-- The configured address of the service is not usable. -/
  | invalidEndpoint (message : String)
deriving DecidableEq, Repr

/-- The wording of an error. -/
def ApiError.message : ApiError → String
  | alreadyExists subject => "stack already exists: " ++ subject
  | notFound subject => "not found: " ++ subject
  | service status message => "service returned " ++ Text.natText status ++ ": " ++ message
  | http message => "HTTP error: " ++ message
  | invalidResponse message => "invalid response: " ++ message
  | invalidEndpoint message => "invalid endpoint: " ++ message

/-- One **page** of a stack's events, newest first; a token asks for the page after it. -/
structure EventPage where
  events : List StackEvent
  nextToken : Option String
deriving DecidableEq

/-- The operations of the service. -/
inductive Operation where
  | createChangeSet
  | describeChangeSet
  | executeChangeSet
  | describeStackEvents
  | describeStack
  | deleteStack
  | resolveRollout
deriving DecidableEq, Repr

/-- A **request** to the service. -/
inductive Request where
  | createChangeSet (input : ChangeSetInput)
  | describeChangeSet (stack id : String)
  | executeChangeSet (stack id : String)
  | describeStackEvents (stack : String) (token : Option String)
  | describeStack (stack : String)
  | deleteStack (stack : String)
  | resolveRollout (ref : ServiceRef)
deriving DecidableEq, Repr

namespace Request

/-- The operation that a request asks for. -/
def operation : Request → Operation
  | createChangeSet _ => .createChangeSet
  | describeChangeSet _ _ => .describeChangeSet
  | executeChangeSet _ _ => .executeChangeSet
  | describeStackEvents _ _ => .describeStackEvents
  | describeStack _ => .describeStack
  | deleteStack _ => .deleteStack
  | resolveRollout _ => .resolveRollout

/-- What the service brings back for an accepted request. -/
abbrev Answer : Request → Type
  | createChangeSet _ => ChangeSetRef
  | describeChangeSet _ _ => ChangeSet
  | executeChangeSet _ _ => Unit
  | describeStackEvents _ _ => EventPage
  | describeStack _ => Stack
  | deleteStack _ => Unit
  | resolveRollout _ => Rollout

end Request

/-- The **reply** to a request: an answer of the kind asked for, or an error. -/
abbrev Reply (r : Request) := Except ApiError r.Answer

/-- A **service** that keeps its state in `σ`: it replies to a request and may change. -/
abbrev Service (σ : Type) := (r : Request) → σ → Reply r × σ

end StackDeploy
