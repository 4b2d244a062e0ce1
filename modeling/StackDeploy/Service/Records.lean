import StackDeploy.Json.Record
import StackDeploy.Service.Api
import StackDeploy.Time.Rfc3339

/-!
# Records on the wire

The JSON form of everything that is exchanged with the stack service. Every field is written, absent
options as null; fields with a default need not be given.

For each record type `toJson` writes it and `ofJson?` reads it.
-/

namespace StackDeploy

open Json

/-- An optional text. -/
def Json.ofOptionalText : Option String → Json
  | none => .null
  | some s => .text s

/-- The JSON form of an instant. -/
def Instant.toJson (t : Instant) : Json := .text t.print

/-- Reads an instant. -/
def Instant.ofJson? (j : Json) : Option Instant := (asText? j).bind Instant.parse?

/-! ### Words -/

/-- The words for the types of change sets. -/
def ChangeSetType.words : List (String × ChangeSetType) :=
  [create, update].map fun t => (t.text, t)

/-- The words for computation statuses. -/
def ChangeSetStatus.words : List (String × ChangeSetStatus) :=
  [createPending, createInProgress, createComplete, failed].map fun s => (s.text, s)

/-- The words for execution statuses. -/
def ExecutionStatus.words : List (String × ExecutionStatus) :=
  [pending, available, unavailable, executing, executeComplete, executeFailed].map
    fun s => (s.text, s)

/-- The words for actions. -/
def ChangeAction.words : List (String × ChangeAction) :=
  [add, modify, remove, imports, dynamic].map fun a => (a.text, a)

/-! ### Stacks -/

namespace Parameter

/-- The JSON form of a parameter. -/
def toJson (p : Parameter) : Json := .ofFields [("key", .text p.key), ("value", .text p.value)]

/-- Reads a parameter. -/
def ofJson? (j : Json) : Option Parameter := do
  match ← slots? ["key", "value"] j with
  | [key, value] => return ⟨← key.required asText?, ← value.required asText?⟩
  | _ => none

end Parameter

namespace Tag

/-- The JSON form of a tag. -/
def toJson (t : Tag) : Json := .ofFields [("key", .text t.key), ("value", .text t.value)]

/-- Reads a tag. -/
def ofJson? (j : Json) : Option Tag := do
  match ← slots? ["key", "value"] j with
  | [key, value] => return ⟨← key.required asText?, ← value.required asText?⟩
  | _ => none

end Tag

namespace Output

/-- The JSON form of an output. -/
def toJson (o : Output) : Json :=
  .ofFields
    [("key", .text o.key), ("value", .text o.value), ("description", .ofOptionalText o.description)]

/-- Reads an output. -/
def ofJson? (j : Json) : Option Output := do
  match ← slots? ["key", "value", "description"] j with
  | [key, value, description] =>
    return {
      key := ← key.required asText?
      value := ← value.required asText?
      description := ← description.orDefault none asOptionalText? }
  | _ => none

end Output

namespace Stack

/-- The JSON form of a stack. -/
def toJson (s : Stack) : Json :=
  .ofFields
    [("name", .text s.name), ("id", .text s.id), ("status", .text s.status.text),
      ("status_reason", .ofOptionalText s.statusReason),
      ("outputs", .array (s.outputs.map Output.toJson)),
      ("parameters", .array (s.parameters.map Parameter.toJson)),
      ("tags", .array (s.tags.map Tag.toJson))]

/-- Reads a stack. -/
def ofJson? (j : Json) : Option Stack := do
  match ← slots? ["name", "id", "status", "status_reason", "outputs", "parameters", "tags"] j with
  | [name, id, status, statusReason, outputs, parameters, tags] =>
    return {
      name := ← name.required asText?
      id := ← id.orDefault "" asText?
      status := ← status.required fun j => (asText? j).map StackStatus.ofText
      statusReason := ← statusReason.orDefault none asOptionalText?
      outputs := ← outputs.orDefault [] (asList? Output.ofJson?)
      parameters := ← parameters.orDefault [] (asList? Parameter.ofJson?)
      tags := ← tags.orDefault [] (asList? Tag.ofJson?) }
  | _ => none

end Stack

/-! ### Events -/

namespace StackEvent

/-- The JSON form of an event. -/
def toJson (e : StackEvent) : Json :=
  .ofFields
    [("event_id", .text e.eventId), ("logical_id", .text e.logicalId),
      ("physical_id", .text e.physicalId), ("resource_type", .text e.resourceType),
      ("status", .text e.status), ("reason", .ofOptionalText e.reason),
      ("timestamp", e.timestamp.toJson)]

/-- Reads an event. -/
def ofJson? (j : Json) : Option StackEvent := do
  match ← slots? ["event_id", "logical_id", "physical_id", "resource_type", "status", "reason",
      "timestamp"] j with
  | [eventId, logicalId, physicalId, resourceType, status, reason, timestamp] =>
    return {
      eventId := ← eventId.required asText?
      logicalId := ← logicalId.required asText?
      physicalId := ← physicalId.orDefault "" asText?
      resourceType := ← resourceType.required asText?
      status := ← status.required asText?
      reason := ← reason.orDefault none asOptionalText?
      timestamp := ← timestamp.required Instant.ofJson? }
  | _ => none

end StackEvent

namespace EventPage

/-- The JSON form of a page of events. -/
def toJson (p : EventPage) : Json :=
  .ofFields
    [("events", .array (p.events.map StackEvent.toJson)),
      ("next_token", .ofOptionalText p.nextToken)]

/-- Reads a page of events. -/
def ofJson? (j : Json) : Option EventPage := do
  match ← slots? ["events", "next_token"] j with
  | [events, nextToken] =>
    return {
      events := ← events.required (asList? StackEvent.ofJson?)
      nextToken := ← nextToken.orDefault none asOptionalText? }
  | _ => none

end EventPage

/-! ### Change sets -/

namespace Change

/-- The JSON form of a change. -/
def toJson (c : Change) : Json :=
  .ofFields
    [("logical_id", .text c.logicalId), ("resource_type", .text c.resourceType),
      ("action", .text c.action.text), ("replacement", .bool c.replacement)]

/-- Reads a change. -/
def ofJson? (j : Json) : Option Change := do
  match ← slots? ["logical_id", "resource_type", "action", "replacement"] j with
  | [logicalId, resourceType, action, replacement] =>
    return {
      logicalId := ← logicalId.required asText?
      resourceType := ← resourceType.required asText?
      action := ← action.required (asWord? ChangeAction.words)
      replacement := ← replacement.orDefault false asBool? }
  | _ => none

end Change

namespace ChangeSetRef

/-- The JSON form of the identity of a change set. -/
def toJson (r : ChangeSetRef) : Json :=
  .ofFields [("id", .text r.id), ("stack_id", .text r.stackId)]

/-- Reads the identity of a change set. -/
def ofJson? (j : Json) : Option ChangeSetRef := do
  match ← slots? ["id", "stack_id"] j with
  | [id, stackId] => return ⟨← id.required asText?, ← stackId.required asText?⟩
  | _ => none

end ChangeSetRef

namespace ChangeSet

/-- The JSON form of a change set. -/
def toJson (c : ChangeSet) : Json :=
  .ofFields
    [("id", .text c.id), ("stack_id", .text c.stackId), ("creation_time", c.creationTime.toJson),
      ("status", .text c.status.text), ("execution_status", .text c.executionStatus.text),
      ("status_reason", .ofOptionalText c.statusReason),
      ("changes", .array (c.changes.map Change.toJson))]

/-- Reads a change set. -/
def ofJson? (j : Json) : Option ChangeSet := do
  match ← slots? ["id", "stack_id", "creation_time", "status", "execution_status",
      "status_reason", "changes"] j with
  | [id, stackId, creationTime, status, executionStatus, statusReason, changes] =>
    return {
      id := ← id.required asText?
      stackId := ← stackId.required asText?
      creationTime := ← creationTime.required Instant.ofJson?
      status := ← status.required (asWord? ChangeSetStatus.words)
      executionStatus := ← executionStatus.required (asWord? ExecutionStatus.words)
      statusReason := ← statusReason.orDefault none asOptionalText?
      changes := ← changes.orDefault [] (asList? Change.ofJson?) }
  | _ => none

end ChangeSet

namespace ChangeSetInput

/-- The JSON form of the input for a change set. -/
def toJson (i : ChangeSetInput) : Json :=
  .ofFields
    [("stack_name", .text i.stackName), ("change_set_name", .text i.changeSetName),
      ("change_set_type", .text i.changeSetType.text), ("template_body", .text i.templateBody),
      ("parameters", .array (i.parameters.map Parameter.toJson)),
      ("tags", .array (i.tags.map Tag.toJson))]

/-- Reads the input for a change set. -/
def ofJson? (j : Json) : Option ChangeSetInput := do
  match ← slots? ["stack_name", "change_set_name", "change_set_type", "template_body",
      "parameters", "tags"] j with
  | [stackName, changeSetName, changeSetType, templateBody, parameters, tags] =>
    return {
      stackName := ← stackName.required asText?
      changeSetName := ← changeSetName.required asText?
      changeSetType := ← changeSetType.required (asWord? ChangeSetType.words)
      templateBody := ← templateBody.required asText?
      parameters := ← parameters.required (asList? Parameter.ofJson?)
      tags := ← tags.required (asList? Tag.ofJson?) }
  | _ => none

end ChangeSetInput

/-! ### Rollouts -/

namespace Rollout

/-- The JSON form of a rollout. -/
def toJson (r : Rollout) : Json :=
  .ofFields
    [("state", .text r.state), ("running_count", .nat r.runningCount.toNat),
      ("desired_count", .nat r.desiredCount.toNat), ("failed_tasks", .nat r.failedTasks.toNat),
      ("reason", .ofOptionalText r.reason)]

/-- Reads a count of tasks, which is below 2³². -/
def countOfJson? (j : Json) : Option UInt32 :=
  (asNat? UInt32.size j).map UInt32.ofNat

/-- Reads a rollout. -/
def ofJson? (j : Json) : Option Rollout := do
  match ← slots? ["state", "running_count", "desired_count", "failed_tasks", "reason"] j with
  | [state, runningCount, desiredCount, failedTasks, reason] =>
    return {
      state := ← state.required asText?
      runningCount := ← runningCount.required countOfJson?
      desiredCount := ← desiredCount.required countOfJson?
      failedTasks := ← failedTasks.orDefault 0 countOfJson?
      reason := ← reason.orDefault none asOptionalText? }
  | _ => none

end Rollout

end StackDeploy
