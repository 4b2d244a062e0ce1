import StackDeploy.Text.Search
import StackDeploy.Time.Instant

/-!
# Stack events

A stack event records one status transition of one resource of one stack. Events are told apart by
their identifier within the stack, and classified by their resource type and status.
-/

namespace StackDeploy

open Text

/-! ### Kinds of resources -/

/-- What sort of thing a resource is. -/
inductive ResourceKind where
  /-- A stack owned by the stack that declares it. -/
  | nestedStack
  /-- A long-running service that reports a rollout. -/
  | service
  | other
deriving DecidableEq, Repr

namespace ResourceKind

/-- The characters, given back to front, up to the first pair of colons. -/
def beforeColons : List Char → List Char
  | [] => []
  | ':' :: ':' :: _ => []
  | c :: cs => c :: beforeColons cs

/-- The last `::` segment of a resource type. -/
def lastSegment (resourceType : List Char) : List Char :=
  (beforeColons resourceType.reverse).reverse

/-- The kind of a resource, by the last `::` segment of its type. -/
def ofType (resourceType : String) : ResourceKind :=
  let last := lastSegment resourceType.toList
  if last = "Stack".toList then nestedStack
  else if last = "Service".toList then service
  else other

end ResourceKind

/-! ### Classes of resource statuses -/

/-- A resource status reports a **failure** when the word `FAILED` stands in it. -/
def isFailureStatus (status : String) : Bool :=
  occursIn status "FAILED"

/-- A nested stack is **discoverable** in the statuses in which its physical stack already exists
and can be asked for its own events. -/
def isDiscoverableStatus (status : String) : Bool :=
  status == "CREATE_IN_PROGRESS" || status == "UPDATE_IN_PROGRESS" ||
    status == "CREATE_COMPLETE" || status == "UPDATE_COMPLETE"

/-! ### Events -/

/-- A **stack event**: one status transition of one resource. -/
structure StackEvent where
  /-- Identifies the event within its stack. -/
  eventId : String
  /-- The name of the resource in the template. -/
  logicalId : String
  /-- The identifier that the service gave the resource; empty until it has one. -/
  physicalId : String
  resourceType : String
  status : String
  reason : Option String
  timestamp : Instant
deriving DecidableEq

namespace StackEvent

/-- An event without a physical identifier and without a reason. -/
def basic (eventId logicalId resourceType status : String) (timestamp : Instant) : StackEvent :=
  { eventId, logicalId, physicalId := "", resourceType, status, reason := none, timestamp }

/-- The kind of the resource. -/
def kind (e : StackEvent) : ResourceKind :=
  .ofType e.resourceType

/-- The event reports a failure. -/
def isFailure (e : StackEvent) : Bool :=
  isFailureStatus e.status

end StackEvent

/-- An event together with the **key** of the stack it was read from: the name of a root stack, the
physical identifier of a nested one. -/
structure StreamEvent where
  stack : String
  event : StackEvent
deriving DecidableEq

/-- The events that are published together. -/
abbrev Batch := List StreamEvent

end StackDeploy
