import StackDeploy.Stack.Basic
import StackDeploy.Text.Search
import StackDeploy.Time.Instant

/-!
# Change sets

A change set is a proposed, named difference against a stack. The service computes it, somebody
reviews it, and it is executed or left alone.

* `ReasonClass.ofReason` — tells from the free text of a status reason whether a change set has
  nothing to do.
-/

namespace StackDeploy

open Text

/-- Whether a change set makes a new stack or changes an existing one. -/
inductive ChangeSetType where
  | create
  | update
deriving DecidableEq, Repr

/-- The word for a change set type. -/
def ChangeSetType.text : ChangeSetType → String
  | create => "create"
  | update => "update"

/-- How far the service is with computing a change set. -/
inductive ChangeSetStatus where
  | createPending
  | createInProgress
  | createComplete
  | failed
deriving DecidableEq, Repr

namespace ChangeSetStatus

/-- The word for a computation status. -/
def text : ChangeSetStatus → String
  | createPending => "CREATE_PENDING"
  | createInProgress => "CREATE_IN_PROGRESS"
  | createComplete => "CREATE_COMPLETE"
  | failed => "FAILED"

/-- A change set is **computing** while its difference is not known yet. -/
def isComputing : ChangeSetStatus → Bool
  | createPending | createInProgress => true
  | createComplete | failed => false

end ChangeSetStatus

/-- Whether a change set can be executed. -/
inductive ExecutionStatus where
  | pending
  | available
  | unavailable
  | executing
  | executeComplete
  | executeFailed
deriving DecidableEq, Repr

/-- The word for an execution status. -/
def ExecutionStatus.text : ExecutionStatus → String
  | pending => "PENDING"
  | available => "AVAILABLE"
  | unavailable => "UNAVAILABLE"
  | executing => "EXECUTING"
  | executeComplete => "EXECUTE_COMPLETE"
  | executeFailed => "EXECUTE_FAILED"

/-- What happens to a resource. -/
inductive ChangeAction where
  | add
  | modify
  | remove
  | imports
  | dynamic
deriving DecidableEq, Repr

/-- The word for an action. -/
def ChangeAction.text : ChangeAction → String
  | add => "add"
  | modify => "modify"
  | remove => "remove"
  | imports => "import"
  | dynamic => "dynamic"

/-- One proposed **change** of one resource. -/
structure Change where
  logicalId : String
  resourceType : String
  action : ChangeAction
  /-- The resource is replaced, not changed in place. -/
  replacement : Bool
deriving DecidableEq, Repr

/-- A change that replaces nothing. -/
def Change.inPlace (logicalId resourceType : String) (action : ChangeAction) : Change :=
  { logicalId, resourceType, action, replacement := false }

/-- The identity of a submitted change set. -/
structure ChangeSetRef where
  id : String
  stackId : String
deriving DecidableEq, Repr

/-- A **change set** as the service describes it. -/
structure ChangeSet where
  id : String
  stackId : String
  /-- Events from this instant on belong to the change set. -/
  creationTime : Instant
  status : ChangeSetStatus
  executionStatus : ExecutionStatus
  /-- Free text about the status. -/
  statusReason : Option String
  /-- The proposed changes, in the order of the service. -/
  changes : List Change
deriving DecidableEq

/-- Everything that the service needs to make a change set. -/
structure ChangeSetInput where
  stackName : String
  changeSetName : String
  changeSetType : ChangeSetType
  templateBody : String
  parameters : List Parameter
  tags : List Tag
deriving DecidableEq, Repr

/-! ### Status reasons -/

/-- What a status reason says about an unavailable change set. -/
inductive ReasonClass where
  /-- The stack already is as the template wants it. -/
  | noChanges
  | other
deriving DecidableEq, Repr

/-- The texts that the service uses for a change set that has nothing to do. -/
def noChangeReasons : List String :=
  ["The submitted information didn't contain changes", "No updates are to be performed"]

/-- The class of a status reason: one of the known texts stands in it, or none does. -/
def ReasonClass.ofReason (reason : String) : ReasonClass :=
  if noChangeReasons.any (occursIn reason) then noChanges else other

end StackDeploy
