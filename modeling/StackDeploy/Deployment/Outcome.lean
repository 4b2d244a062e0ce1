import StackDeploy.ChangeSet.Controller
import StackDeploy.Progress.Display
import StackDeploy.Stream.Source

/-!
# Deployments and their outcomes

What is to be deployed, how an operation is timed, and how it can end.

* `DeployError.message` — the wording of every error.
-/

namespace StackDeploy

/-- What is to be **deployed**. -/
structure DeployRequest where
  stack : String
  /-- The template, as the renderer knows it. -/
  template : String
  /-- The values of the template's variables. -/
  data : List (String × String)
  parameters : List Parameter
  tags : List Tag
  intent : ChangeSetType
deriving DecidableEq, Repr

/-- How an operation is timed, in milliseconds. -/
structure DeploySettings where
  /-- The pause between two polls for events. -/
  eventInterval : Nat
  /-- The pause between two looks at the stack. -/
  statusInterval : Nat
  review : ReviewSettings
  /-- The time within which the stack has to reach a terminal status. -/
  timeout : Nat
deriving DecidableEq, Repr

/-- Events every three seconds, the status every five, for an hour. -/
def DeploySettings.default : DeploySettings :=
  { eventInterval := 3000, statusInterval := 5000, review := .default, timeout := 3600000 }

/-- Why an operation failed. -/
inductive DeployError where
  /-- The template could not be rendered. -/
  | render (template message : String)
  | changeSet (cause : ChangeSetError)
  /-- The stack failed, first of all because of a resource. -/
  | stackFailed (stack : String) (status : StackStatus) (logicalId reason : String)
  /-- The stack failed, and no event says why. -/
  | stackFailedWithoutCause (stack : String) (status : StackStatus)
  /-- The stack was gone before the operation was over. -/
  | stackVanished (stack : String)
  /-- The service did not answer the operation. -/
  | api (operation : Operation) (stack : String) (cause : ApiError)
  | timeout (stack : String) (seconds : Nat)
  /-- The proposed changes could not be shown. -/
  | output (message : String)
deriving DecidableEq, Repr

/-- The wording of an error. -/
def DeployError.message : DeployError → String
  | render template message => "failed to render template " ++ template ++ ": " ++ message
  | changeSet cause => cause.message
  | stackFailed stack status logicalId reason =>
    "stack " ++ stack ++ " finished in " ++ status.text ++ ": resource " ++ logicalId ++
      " failed: " ++ reason
  | stackFailedWithoutCause stack status =>
    "stack " ++ stack ++ " finished in " ++ status.text ++ " without a failing resource event"
  | stackVanished stack => "stack " ++ stack ++ " disappeared during the operation"
  | api operation stack cause =>
    operation.label ++ " failed for stack " ++ stack ++ ": " ++ cause.message
  | timeout stack seconds =>
    "stack " ++ stack ++ " did not reach a terminal status within " ++ Text.natText seconds ++ "s"
  | output message => "failed to write progress output: " ++ message

/-- The messages of the errors behind an error, the nearest first. -/
def DeployError.causes : DeployError → List String
  | changeSet cause => (cause.cause?.map ApiError.message).toList
  | api _ _ cause => [cause.message]
  | output message => [message]
  | render _ _ | stackFailed _ _ _ _ | stackFailedWithoutCause _ _ | stackVanished _
  | timeout _ _ => []

/-- How an operation ended. -/
inductive Outcome where
  /-- The stack already was as the template wants it; nothing was executed. -/
  | noChanges
  /-- The stack was created or updated. The stream error tells that the tree may be incomplete. -/
  | deployed (status : StackStatus) (tree : ProgressTree) (streamError : Option String)
  | deleted (tree : ProgressTree) (streamError : Option String)
  /-- The events of a stack were shown until the feed ended. -/
  | followed (stream : Except FetchError Unit) (written : Written)
  | failed (error : DeployError)

end StackDeploy
