import StackDeploy.Stack.Status

/-!
# Stacks

A stack as the stack service describes it, with its outputs, parameters and tags.
-/

namespace StackDeploy

/-- A value that a stack publishes. -/
structure Output where
  key : String
  value : String
  description : Option String
deriving DecidableEq, Repr

/-- An input value given to a template. -/
structure Parameter where
  key : String
  value : String
deriving DecidableEq, Repr

/-- A label put on a stack. -/
structure Tag where
  key : String
  value : String
deriving DecidableEq, Repr

/-- A **stack**: a deployed unit of infrastructure. -/
structure Stack where
  /-- The name, unique for the account. -/
  name : String
  /-- The identifier that the service gave the stack; empty when it gave none. -/
  id : String
  status : StackStatus
  /-- Diagnostic text for the status. -/
  statusReason : Option String
  outputs : List Output
  parameters : List Parameter
  tags : List Tag
deriving DecidableEq, Repr

/-- A stack that has only a name, which also serves as its identifier, and a status. -/
def Stack.named (name : String) (status : StackStatus) : Stack :=
  { name, id := name, status, statusReason := none, outputs := [], parameters := [], tags := [] }

end StackDeploy
