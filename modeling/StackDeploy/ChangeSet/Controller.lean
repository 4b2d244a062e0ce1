import StackDeploy.Task

/-!
# Change set control

A controller drives one change set through its life: it is submitted, reviewed, executed, and its
outcome recorded. Every function takes the reply of the service as an argument, and a call that the
controller does not allow yields an error without asking the service.

* `Controller.submitted`, `Controller.executed`, `Controller.finish` — the transitions.
* `Controller.execute` — what an execution asks for.
* `Controller.judge` — what a description of the change set means for its review.
* `Review` — the polling of the change set until it is computed, as a task.
-/

namespace StackDeploy

/-- The words for an operation in messages. -/
def Operation.label : Operation → String
  | createChangeSet => "create change set"
  | describeChangeSet => "describe change set"
  | executeChangeSet => "execute change set"
  | describeStackEvents => "describe stack events"
  | describeStack => "describe stack"
  | deleteStack => "delete stack"
  | resolveRollout => "resolve rollout"

/-! ### Errors -/

/-- Why a step of a change set's life failed. -/
inductive ChangeSetError where
  /-- A new stack was asked for, and there already is one of that name. -/
  | stackAlreadyExists (stack : String)
  | notExecutable (id stackId reason : String)
  /-- The service did not answer the operation. -/
  | api (operation : Operation) (stack : String) (cause : ApiError)
  | executeFailed (id stack : String) (cause : ApiError)
  /-- The change set was still computing when the time for its review was over. -/
  | waitTimeout (id stack : String) (seconds : Nat)
  | notSubmitted
deriving DecidableEq, Repr

/-- The wording of an error. -/
def ChangeSetError.message : ChangeSetError → String
  | stackAlreadyExists stack => "stack " ++ stack ++ " already exists"
  | notExecutable id stackId reason =>
    "change set " ++ id ++ " for stack " ++ stackId ++ " is not executable: " ++ reason
  | api operation stack cause =>
    operation.label ++ " failed for stack " ++ stack ++ ": " ++ cause.message
  | executeFailed id stack cause =>
    "execute change set " ++ id ++ " for stack " ++ stack ++ ": " ++ cause.message
  | waitTimeout id stack seconds =>
    "change set " ++ id ++ " for stack " ++ stack ++ " still computing after " ++
      Text.natText seconds ++ "s"
  | notSubmitted => "no change set has been submitted"

/-- The error of the service behind an error, if there is one. -/
def ChangeSetError.cause? : ChangeSetError → Option ApiError
  | api _ _ cause => some cause
  | executeFailed _ _ cause => some cause
  | stackAlreadyExists _ | notExecutable _ _ _ | waitTimeout _ _ _ | notSubmitted => none

/-! ### The controller -/

/-- The **life** of a change set. -/
inductive ChangeSetState where
  | created
  | waitingForCreation
  | available
  | skippedNoChanges
  | failedToCreate
  | executing
  | succeeded
  | executionFailed
deriving DecidableEq, Repr

/-- The life of the change set is over. -/
def ChangeSetState.isTerminal : ChangeSetState → Bool
  | skippedNoChanges | failedToCreate | succeeded | executionFailed => true
  | created | waitingForCreation | available | executing => false

/-- What the review of a computed change set says. -/
inductive ReviewOutcome where
  /-- There is nothing to apply. -/
  | noChanges
  /-- These changes can be executed. -/
  | changes (changes : List Change)
deriving DecidableEq, Repr

/-- How a review is timed, in milliseconds. -/
structure ReviewSettings where
  /-- The pause between two looks at the change set. -/
  interval : Nat
  /-- The time after which a change set that is still computing is given up. -/
  timeout : Nat
deriving DecidableEq, Repr

/-- A look every two seconds, for ten minutes. -/
def ReviewSettings.default : ReviewSettings := ⟨2000, 600000⟩

/-- The **controller** of one change set. -/
structure Controller where
  settings : ReviewSettings
  /-- The stack of the change set; empty before the first accepted submission. -/
  stack : String
  changeSet : Option ChangeSetRef
  /-- The creation time that the service reported, known after the review. -/
  createdAt : Option Instant
  state : ChangeSetState
deriving DecidableEq

namespace Controller

/-- A controller to which nothing was submitted. -/
def start (settings : ReviewSettings) : Controller :=
  { settings, stack := "", changeSet := none, createdAt := none, state := .created }

/-! ### Submission -/

/-- Takes in the reply to the submission of a change set. A new stack that already exists is an
error of its own, so that an update can be tried instead. -/
def submitted (c : Controller) (stack : String) (type : ChangeSetType) :
    Except ApiError ChangeSetRef → Except ChangeSetError ChangeSetRef × Controller
  | .ok ref =>
    (.ok ref, { c with stack, changeSet := some ref, createdAt := none, state := .created })
  | .error (.alreadyExists subject) =>
    if type = .create then (.error (.stackAlreadyExists stack), c)
    else (.error (.api .createChangeSet stack (.alreadyExists subject)), c)
  | .error cause => (.error (.api .createChangeSet stack cause), c)

/-! ### Review -/

/-- The verdict on one description of the change set. -/
inductive Verdict where
  /-- It is still computing. -/
  | again
  /-- The review is over. -/
  | over (result : Except ChangeSetError ReviewOutcome) (controller : Controller)

/-- Judges a description of the change set `ref`, which came `elapsed` milliseconds after the review
began. Time is looked at only while the change set is computing, so a finished one is never given
up. -/
def judge (c : Controller) (ref : ChangeSetRef) (elapsed : Nat) :
    Except ApiError ChangeSet → Verdict
  | .error cause => .over (.error (.api .describeChangeSet c.stack cause)) c
  | .ok changeSet =>
    if changeSet.status.isComputing then
      if c.settings.timeout ≤ elapsed then
        .over (.error (.waitTimeout ref.id c.stack (c.settings.timeout / 1000)))
          { c with state := .failedToCreate }
      else .again
    else
      let c := { c with createdAt := some changeSet.creationTime }
      if changeSet.executionStatus = .unavailable then
        let reason := changeSet.statusReason.getD ""
        match ReasonClass.ofReason reason with
        | .noChanges => .over (.ok .noChanges) { c with state := .skippedNoChanges }
        | .other =>
          .over (.error (.notExecutable changeSet.id changeSet.stackId reason))
            { c with state := .failedToCreate }
      else .over (.ok (.changes changeSet.changes)) { c with state := .available }

/-! ### Execution -/

/-- Takes in the reply to the execution of the change set `ref`. -/
def executed (c : Controller) (ref : ChangeSetRef) :
    Except ApiError Unit → Except ChangeSetError Unit × Controller
  | .ok () => (.ok (), { c with state := .executing })
  | .error cause =>
    (.error (.executeFailed ref.id c.stack cause), { c with state := .executionFailed })

/-- **Executes** the change set of the controller. Before anything was submitted there is nothing to
ask for. -/
def execute (c : Controller) :
    Query (Except ChangeSetError Unit × Controller) (Except ChangeSetError Unit × Controller) :=
  match c.changeSet with
  | none => .done (.error .notSubmitted, c)
  | some ref => .call (.executeChangeSet c.stack ref.id) (c.executed ref)

/-- Records the outcome of an execution. -/
def finish (c : Controller) (success : Bool) : Controller :=
  if c.state = .executing then
    { c with state := if success then .succeeded else .executionFailed }
  else c

end Controller

/-! ### Reviewing as a task -/

/-- Where a review stands. -/
inductive Review.Phase where
  /-- It has not begun. -/
  | waiting
  /-- The change set is to be described. -/
  | asking (ref : ChangeSetRef) (began : Nat)
  /-- A reply came and is to be judged. -/
  | judging (ref : ChangeSetRef) (began : Nat) (reply : Except ApiError ChangeSet)
  /-- The change set is to be described again at the given time. -/
  | pausing (ref : ChangeSetRef) (began : Nat) (deadline : Nat)
  /-- The review has come to an end. -/
  | over (result : Except ChangeSetError ReviewOutcome)

/-- The **review** of the controller's change set. -/
structure Review where
  controller : Controller
  phase : Review.Phase

namespace Review

/-- A review that has not begun. -/
def start (controller : Controller) : Review := ⟨controller, .waiting⟩

/-- What a review does next: it describes the change set again and again, with pauses, until a
description settles the matter. -/
def step (clock : Clock) (r : Review) :
    Step Review (Except ChangeSetError ReviewOutcome × Controller) :=
  match r.phase with
  | .waiting =>
    match r.controller.changeSet with
    | none => .finish (.error .notSubmitted, r.controller)
    | some ref =>
      .goOn
        { controller := { r.controller with state := .waitingForCreation }
          phase := .asking ref clock.stopwatch }
  | .asking ref began =>
    .call (.describeChangeSet r.controller.stack ref.id) fun reply =>
      { r with phase := .judging ref began reply }
  | .judging ref began reply =>
    match r.controller.judge ref (clock.stopwatch - began) reply with
    | .again =>
      let deadline := clock.after r.controller.settings.interval
      .goOn { r with phase := .pausing ref began deadline }
    | .over result controller => .goOn ⟨controller, .over result⟩
  | .pausing ref began deadline => .pause deadline { r with phase := .asking ref began }
  | .over result => .finish (result, r.controller)

end Review

end StackDeploy
