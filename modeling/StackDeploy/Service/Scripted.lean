import StackDeploy.Event.Selection
import StackDeploy.Service.Api
import StackDeploy.Table
import StackDeploy.Text.Decimal

/-!
# A scripted service

A stack service that keeps everything in memory and plays a script: how change sets turn out, which
statuses a stack goes through, which operations fail. It is what a deployment can be tried against
without a network.

* `ScriptedService.reply` — the reply to every request; every call is counted, also one that fails.
* `Scene`, `Scene.reply` — a scripted service with **interventions**, changes to the script that
  happen just before a certain call.
-/

namespace StackDeploy

open Text

/-- How the next change sets turn out. -/
structure ReviewScript where
  status : ChangeSetStatus
  executionStatus : ExecutionStatus
  reason : Option String
  changes : List Change
deriving DecidableEq, Repr

namespace ReviewScript

/-- An executable change set with these changes. -/
def ofChanges (changes : List Change) : ReviewScript :=
  ⟨.createComplete, .available, none, changes⟩

/-- A failed change set that cannot be executed, for this reason. -/
def unavailable (reason : String) : ReviewScript :=
  ⟨.failed, .unavailable, some reason, []⟩

end ReviewScript

/-- The state of a **scripted service**. -/
structure ScriptedService where
  stackTable : Table String Stack
  /-- The results of the next descriptions of a stack, where nothing stands for a stack that is
  gone; the last one repeats. -/
  statuses : Table String (List (Option StackStatus))
  /-- The events of a stack, oldest first, by its name or physical identifier. -/
  events : Table String (List StackEvent)
  changeSets : Table String ChangeSet
  /-- How many descriptions of a change set still find it computing. -/
  computing : Table String Nat
  review : ReviewScript
  /-- How many descriptions of the next change sets find them computing. -/
  computingPolls : Nat
  /-- The number of events on a page. -/
  pageSize : Nat
  /-- The creation time of change sets. -/
  clock : Instant
  rollouts : Table ServiceRef Rollout
  /-- The operations that fail, with the message of the failure. -/
  failures : Table Operation String
  calls : Table Operation Nat
  /-- All requests so far, newest first. -/
  log : List Request

namespace ScriptedService

/-- A service that knows no stack. A page holds at least one event. -/
def start (pageSize : Nat) (clock : Instant) : ScriptedService :=
  { stackTable := [], statuses := [], events := [], changeSets := [], computing := []
    review := .ofChanges [], computingPolls := 0, pageSize := max 1 pageSize, clock
    rollouts := [], failures := [], calls := [], log := [] }

/-! ### The script -/

/-- One change to the script. -/
inductive Cue where
  | putStack (stack : Stack)
  /-- The next descriptions of a stack find these statuses. -/
  | statuses (stack : String) (statuses : List StackStatus)
  /-- After the statuses given so far the stack is gone. -/
  | gone (stack : String)
  | event (stack : String) (event : StackEvent)
  | review (script : ReviewScript)
  | computingPolls (polls : Nat)
  | clock (now : Instant)
  | fail (operation : Operation) (message : String)
  | clearFailure (operation : Operation)
  | rollout (ref : ServiceRef) (rollout : Rollout)
deriving DecidableEq

/-- The service after a change to its script. -/
def play (s : ScriptedService) : Cue → ScriptedService
  | .putStack stack => { s with stackTable := s.stackTable.set stack.name stack }
  | .statuses stack statuses =>
    let queue := (s.statuses.get? stack).getD []
    { s with statuses := s.statuses.set stack (queue ++ statuses.map some) }
  | .gone stack =>
    let queue := (s.statuses.get? stack).getD []
    { s with statuses := s.statuses.set stack (queue ++ [none]) }
  | .event stack event =>
    let history := (s.events.get? stack).getD []
    { s with events := s.events.set stack (sortByTime (history ++ [event])) }
  | .review script => { s with review := script }
  | .computingPolls polls => { s with computingPolls := polls }
  | .clock now => { s with clock := now }
  | .fail operation message => { s with failures := s.failures.set operation message }
  | .clearFailure operation => { s with failures := s.failures.erase operation }
  | .rollout ref rollout => { s with rollouts := s.rollouts.set ref rollout }

/-- The number of calls of an operation so far. -/
def callCount (s : ScriptedService) (operation : Operation) : Nat :=
  (s.calls.get? operation).getD 0

/-! ### Replies -/

/-- Makes a change set. A new stack must not exist yet, and a changed one must. -/
def createChangeSet (s : ScriptedService) (input : ChangeSetInput) :
    Except ApiError ChangeSetRef × ScriptedService :=
  match input.changeSetType, s.stackTable.get? input.stackName with
  | .create, some _ => (.error (.alreadyExists input.stackName), s)
  | .update, none => (.error (.notFound input.stackName), s)
  | .create, none =>
    let stack : Stack :=
      { Stack.named input.stackName .reviewInProgress with
        parameters := input.parameters, tags := input.tags }
    accept { s with stackTable := s.stackTable.set input.stackName stack } stack
  | .update, some stack => accept s stack
where
  /-- Records the change set for a stack. -/
  accept (s : ScriptedService) (stack : Stack) : Except ApiError ChangeSetRef × ScriptedService :=
    let changeSet : ChangeSet :=
      { id := input.changeSetName
        stackId := stack.id
        creationTime := s.clock
        status := s.review.status
        executionStatus := s.review.executionStatus
        statusReason := s.review.reason
        changes := s.review.changes }
    (.ok ⟨changeSet.id, changeSet.stackId⟩,
      { s with
        changeSets := s.changeSets.set changeSet.id changeSet
        computing := s.computing.set changeSet.id s.computingPolls })

/-- A change set as it looks while it is computing. -/
def stillComputing (c : ChangeSet) : ChangeSet :=
  { c with
    status := .createInProgress
    executionStatus := .pending
    statusReason := none
    changes := [] }

/-- Describes a change set; the first descriptions find it computing. -/
def describeChangeSet (s : ScriptedService) (id : String) :
    Except ApiError ChangeSet × ScriptedService :=
  match s.changeSets.get? id with
  | none => (.error (.notFound id), s)
  | some changeSet =>
    match s.computing.get? id with
    | some (left + 1) =>
      (.ok (stillComputing changeSet), { s with computing := s.computing.set id left })
    | _ => (.ok changeSet, s)

/-- Executes a change set that is available, once. -/
def executeChangeSet (s : ScriptedService) (id : String) : Except ApiError Unit × ScriptedService :=
  match s.changeSets.get? id with
  | none => (.error (.notFound id), s)
  | some changeSet =>
    if changeSet.executionStatus = .available then
      let executing := { changeSet with executionStatus := .executing }
      (.ok (), { s with changeSets := s.changeSets.set id executing })
    else (.error (.service 400 ("change set " ++ id ++ " is not executable")), s)

/-- Reads a page token: the number of events before the page, in decimal digits, below 2⁶⁴. -/
def readToken? (token : String) : Option Nat :=
  let digits := match token.toList with
    | '+' :: digits => digits
    | digits => digits
  (readNat? digits).filter (· < UInt64.size)

/-- The page of a history, oldest first, that begins after the `offset` newest events. -/
def page (pageSize : Nat) (history : List StackEvent) (offset : Nat) : EventPage :=
  { events := (history.reverse.drop offset).take pageSize
    nextToken :=
      if offset + pageSize < history.length then some (natText (offset + pageSize)) else none }

/-- Gives a page of the events of a stack. -/
def describeStackEvents (s : ScriptedService) (stack : String) (token : Option String) :
    Except ApiError EventPage :=
  let known := match s.events.get? stack with
    | some history => some history
    | none => if s.stackTable.contains stack then some [] else none
  match known, token with
  | none, _ => .error (.notFound stack)
  | some history, none => .ok (page s.pageSize history 0)
  | some history, some token =>
    match readToken? token with
    | none => .error (.invalidResponse ("bad token " ++ token))
    | some offset => .ok (page s.pageSize history offset)

/-- The next scripted result for a stack, and the results after it; the last one stays. -/
def nextResult (queue : List (Option StackStatus)) :
    Option (Option StackStatus) × List (Option StackStatus) :=
  match queue with
  | [] => (none, [])
  | [last] => (some last, [last])
  | first :: rest => (some first, rest)

/-- Describes a stack, with the next scripted status if there is one. -/
def describeStack (s : ScriptedService) (stack : String) :
    Except ApiError Stack × ScriptedService :=
  match s.statuses.get? stack with
  | none => (found (s.stackTable.get? stack), s)
  | some queue =>
    let (result, rest) := nextResult queue
    let s := { s with statuses := s.statuses.set stack rest }
    match result with
    | none => (found (s.stackTable.get? stack), s)
    | some none => (.error (.notFound stack), { s with stackTable := s.stackTable.erase stack })
    | some (some status) =>
      match s.stackTable.get? stack with
      | none => (.error (.notFound stack), s)
      | some known =>
        let known := { known with status }
        (.ok known, { s with stackTable := s.stackTable.set stack known })
where
  /-- A stack that is known, or the error that it is not. -/
  found : Option Stack → Except ApiError Stack
    | some stack => .ok stack
    | none => .error (.notFound stack)

/-- Begins to delete a stack. -/
def deleteStack (s : ScriptedService) (stack : String) : Except ApiError Unit × ScriptedService :=
  match s.stackTable.get? stack with
  | none => (.error (.notFound stack), s)
  | some known =>
    let deleting := { known with status := .deleteInProgress }
    (.ok (), { s with stackTable := s.stackTable.set stack deleting })

/-- Gives the scripted rollout of a service. -/
def resolveRollout (s : ScriptedService) (ref : ServiceRef) : Except ApiError Rollout :=
  match s.rollouts.get? ref with
  | some rollout => .ok rollout
  | none => .error (.notFound (ref.cluster ++ "/" ++ ref.service))

/-- The reply to a request that is not made to fail. -/
def answer (s : ScriptedService) : (r : Request) → Reply r × ScriptedService
  | .createChangeSet input => s.createChangeSet input
  | .describeChangeSet _ id => s.describeChangeSet id
  | .executeChangeSet _ id => s.executeChangeSet id
  | .describeStackEvents stack token => (s.describeStackEvents stack token, s)
  | .describeStack stack => s.describeStack stack
  | .deleteStack stack => s.deleteStack stack
  | .resolveRollout ref => (s.resolveRollout ref, s)

/-- The service after a call was counted. -/
def entered (s : ScriptedService) (r : Request) : ScriptedService :=
  { s with
    calls := s.calls.set r.operation (s.callCount r.operation + 1)
    log := r :: s.log }

/-- The **reply** to a request: the call is counted, and then it fails or is answered. -/
def reply : Service ScriptedService := fun r s =>
  let s := s.entered r
  match s.failures.get? r.operation with
  | some message => (.error (.service 500 message), s)
  | none => s.answer r

/-- The inputs of all change sets that were asked for, in order. -/
def created (s : ScriptedService) : List ChangeSetInput :=
  s.log.reverse.filterMap fun
    | .createChangeSet input => some input
    | _ => none

/-- The services whose rollout was looked up, in order. -/
def resolved (s : ScriptedService) : List ServiceRef :=
  s.log.reverse.filterMap fun
    | .resolveRollout ref => some ref
    | _ => none

end ScriptedService

/-! ### Interventions -/

/-- Changes to the script just before the `call`-th call of an operation, counted from one. -/
structure Intervention where
  operation : Operation
  call : Nat
  cues : List ScriptedService.Cue

/-- A scripted service with its **interventions**. -/
structure Scene where
  service : ScriptedService
  interventions : List Intervention

namespace Scene

/-- The changes that happen just before the next call of an operation, in order. -/
def cues (s : Scene) (operation : Operation) : List ScriptedService.Cue :=
  (s.interventions.filter fun i =>
    i.operation == operation && i.call == s.service.callCount operation + 1).flatMap (·.cues)

/-- The reply to a request, after the interventions before it. -/
def reply : Service Scene := fun r s =>
  let prepared := (s.cues r.operation).foldl ScriptedService.play s.service
  let (reply, service) := ScriptedService.reply r prepared
  (reply, { s with service })

end Scene

end StackDeploy
