import StackDeploy.Deployment.Outcome
import StackDeploy.Deployment.Watch
import StackDeploy.Progress.Painter
import StackDeploy.Stream.Feed

/-!
# Sessions

A session is one operation on a stack: a deployment, a deletion, or following the events of a stack.
Up to three actors take part. The **operation** talks to the service about the change set and the
stack, the **feed** polls for events, and the **painter** shows them; batches go from the feed to
the painter through a bounded queue.

* `Session.step` — what an actor does next. Nothing is said about whose turn it is, so a session can
  be run under any schedule.
* `Session.stop` — cancels the feed; the operation then waits for both other actors to end.
-/

namespace StackDeploy

/-! ### Progress -/

/-- The number of batches that wait for the painter at most. -/
def queueCapacity : Nat := 64

/-- The feed and the painter of an operation, and the **queue** between them, oldest batch first. -/
structure Progress where
  cancelled : Bool
  feed : Feed
  queue : List Batch
  painter : Painter

namespace Progress

/-- The feed and the painter have both ended. -/
def isOver (p : Progress) : Bool :=
  p.feed.result?.isSome && p.painter.result?.isSome

/-- The tree that the painter leaves behind, unless it could not write. -/
def tree? (p : Progress) : Option ProgressTree :=
  match p.painter.result? with
  | some (.ok ()) => some p.painter.display.tree
  | _ => none

/-- The message of the error that ended the feed, if one did. -/
def streamError? (p : Progress) : Option String :=
  match p.feed.result? with
  | some (.error e) => some e.message
  | _ => none

/-- What the feed does next. A batch is queued if there is room, and dropped if the painter has
ended. -/
def feedStep {α : Type} (clock : Clock) (p : Progress) : Step Progress α :=
  match p.feed.step clock p.cancelled with
  | .call request resume => .call request fun reply => { p with feed := resume reply }
  | .publish batch next =>
    if p.painter.result?.isSome then .goOn { p with feed := next }
    else if p.queue.length < queueCapacity then
      .goOn { p with feed := next, queue := p.queue ++ [batch] }
    else .blocked
  | .goOn next => .goOn { p with feed := next }
  | .pause deadline next => .pause deadline { p with feed := next }
  | .over _ => .blocked

/-- What the painter does next. It ends when the queue is empty and the feed has ended. -/
def painterStep {α : Type} (p : Progress) : Step Progress α :=
  match p.painter.step with
  | .receive =>
    match p.queue with
    | batch :: queue => .goOn { p with painter := p.painter.receive batch, queue }
    | [] =>
      if p.feed.result?.isSome then .goOn { p with painter := p.painter.close } else .blocked
  | .call request resume => .call request fun reply => { p with painter := resume reply }
  | .write text resume => .write text fun written => { p with painter := resume written }
  | .goOn next => .goOn { p with painter := next }
  | .over _ => .blocked

end Progress

/-! ### The operation -/

/-- How operations are run and shown. -/
structure SessionSettings where
  deploy : DeploySettings
  display : DisplayOptions
  /-- Rollouts of failing services are looked up. -/
  lookups : Bool
deriving DecidableEq, Repr

/-- A deployment whose template is rendered. -/
structure DeployOrder where
  request : DeployRequest
  body : String
  /-- The name of the change set. -/
  name : String
  /-- The name of the change set that updates the stack if it already exists. -/
  updateName : String
deriving DecidableEq, Repr

/-- The input that submits a change set for a deployment. -/
def DeployOrder.input (o : DeployOrder) (name : String) (type : ChangeSetType) : ChangeSetInput :=
  { stackName := o.request.stack
    changeSetName := name
    changeSetType := type
    templateBody := o.body
    parameters := o.request.parameters
    tags := o.request.tags }

/-- What the watch over the stack is for. -/
inductive Goal where
  | deployment
  | deletion
deriving DecidableEq, Repr

/-- The operation being watched: the name and the key of its stack, and the instant from which
events belong to it. -/
structure Target where
  goal : Goal
  stack : String
  /-- The key by which the stack's events are asked for. -/
  key : String
  cutoff : Instant
deriving DecidableEq

/-- What is known when the actors are stopped. -/
inductive Ending where
  | failed (error : DeployError)
  | gone
  | terminal (stack : Stack)
deriving DecidableEq

namespace Session

/-- Where the operation stands. -/
inductive Phase where
  /-- A change set is to be submitted; after a conflict with an existing stack, as an update. -/
  | submitting (order : DeployOrder) (controller : Controller)
  | submittingUpdate (order : DeployOrder) (controller : Controller)
  | reviewing (stack : String) (review : Review)
  /-- The proposed changes are to be shown. -/
  | announcing (stack : String) (controller : Controller) (changes : List Change)
  | executing (target : Target) (controller : Controller) (ref : ChangeSetRef)
  /-- The stack to be deleted is to be described. -/
  | looking (stack : String)
  | deleting (existing : Stack) (stack : String)
  | deletionAccepted (existing : Stack) (stack : String) (cutoff : Instant)
  | watching (target : Target) (watch : Watch)
  /-- The other actors are cancelled and have to end first. -/
  | stopping (target : Target) (ending : Ending)
  /-- The first failing event is to be found. -/
  | tracing (target : Target) (status : StackStatus) (fetch : Fetch)
  /-- Only the other actors work. -/
  | following
  | over (outcome : Outcome)

end Session

/-- A **session**. -/
structure Session where
  settings : SessionSettings
  phase : Session.Phase
  /-- The other actors, once they are started. -/
  progress : Option Progress

/-- Who takes part in a session. -/
inductive Actor where
  | operation
  | feed
  | painter
deriving DecidableEq, Repr

namespace Session

/-! ### Beginning -/

/-- A deployment, given its rendered template or why it could not be rendered. -/
def deploy (settings : SessionSettings) (request : DeployRequest) (rendered : Except String String)
    (name updateName : String) : Session :=
  { settings
    phase := match rendered with
      | .ok body =>
        .submitting { request, body, name, updateName } (.start settings.deploy.review)
      | .error message => .over (.failed (.render request.template message))
    progress := none }

/-- A deletion. -/
def delete (settings : SessionSettings) (stack : String) : Session :=
  { settings, phase := .looking stack, progress := none }

/-- The feed and the painter of an operation on the stack `stack`, whose events are asked for by
`key`. -/
def freshProgress (settings : SessionSettings) (stack key : String) (cutoff : Instant) : Progress :=
  { cancelled := false
    feed := .start key cutoff settings.deploy.eventInterval
    queue := []
    painter := .start (.start stack settings.display settings.lookups) }

/-- Following the events of a stack from an instant on. -/
def follow (settings : SessionSettings) (stack : String) (cutoff : Instant) : Session :=
  { settings, phase := .following, progress := some (freshProgress settings stack stack cutoff) }

/-! ### The way through an operation -/

/-- Ends the operation. -/
def fail (s : Session) (e : DeployError) : Session :=
  { s with phase := .over (.failed e) }

/-- Cancels the feed. -/
def cancel (s : Session) : Session :=
  { s with progress := s.progress.map fun p => { p with cancelled := true } }

/-- Cancels the feed and waits for the other actors before going on with what is known. -/
def stop (s : Session) (target : Target) (ending : Ending) : Session :=
  { s.cancel with phase := .stopping target ending }

/-- Goes on after the reply to a submission. -/
def submitted (s : Session) (order : DeployOrder) (controller : Controller) (type : ChangeSetType)
    (reply : Except ApiError ChangeSetRef) : Session :=
  match controller.submitted order.request.stack type reply with
  | (.ok _, controller) => { s with phase := .reviewing order.request.stack (.start controller) }
  | (.error (.stackAlreadyExists stack), controller) =>
    if type = .create then { s with phase := .submittingUpdate order controller }
    else s.fail (.changeSet (.stackAlreadyExists stack))
  | (.error e, _) => s.fail (.changeSet e)

/-- Goes on after the review. -/
def reviewed (s : Session) (stack : String) :
    Except ChangeSetError ReviewOutcome × Controller → Session
  | (.ok .noChanges, _) => { s with phase := .over .noChanges }
  | (.ok (.changes changes), controller) =>
    { s with phase := .announcing stack controller changes }
  | (.error e, _) => s.fail (.changeSet e)

/-- Goes on after the proposed changes were written: the other actors are started and the change set
is to be executed. -/
def announced (s : Session) (clock : Clock) (stack : String) (controller : Controller) :
    Written → Session
  | .error message => s.fail (.output message)
  | .ok () =>
    match controller.changeSet with
    | none => s.fail (.changeSet .notSubmitted)
    | some ref =>
      let cutoff := controller.createdAt.getD clock.calendar
      let target : Target := ⟨.deployment, stack, stack, cutoff⟩
      { s with
        phase := .executing target controller ref
        progress := some (freshProgress s.settings stack stack cutoff) }

/-- Begins to watch the stack. -/
def watch (s : Session) (target : Target) : Session :=
  let timing := s.settings.deploy
  { s with phase := .watching target (.start target.stack timing.statusInterval timing.timeout) }

/-- Goes on after the reply to the execution. -/
def executed (s : Session) (target : Target) (controller : Controller) (ref : ChangeSetRef)
    (reply : Except ApiError Unit) : Session :=
  match controller.executed ref reply with
  | (.ok (), _) => s.watch target
  | (.error e, _) => s.stop target (.failed (.changeSet e))

/-- Goes on after the stack to be deleted was described. -/
def looked (s : Session) (stack : String) : Except ApiError Stack → Session
  | .ok existing => { s with phase := .deleting existing stack }
  | .error cause => s.fail (.api .describeStack stack cause)

/-- Goes on after the reply to the deletion. Deleted stacks can be asked for by their identifier
only, so their events are asked for by it if there is one. -/
def deletionReplied (s : Session) (existing : Stack) (stack : String) (cutoff : Instant) :
    Except ApiError Unit → Session
  | .ok () =>
    let key := if existing.id = "" then stack else existing.id
    { s with progress := some (freshProgress s.settings stack key cutoff) }.watch
      ⟨.deletion, stack, key, cutoff⟩
  | .error cause => s.fail (.api .deleteStack stack cause)

/-- Goes on after the watch. -/
def watched (s : Session) (target : Target) : Watched → Session
  | .terminal stack => s.stop target (.terminal stack)
  | .gone => s.stop target .gone
  | .failed cause => s.stop target (.failed (.api .describeStack target.stack cause))
  | .timedOut =>
    s.stop target (.failed (.timeout target.stack (s.settings.deploy.timeout / 1000)))

/-- The tree to be shown at the end; an empty one if it could not be written. -/
def finalTree (s : Session) (target : Target) : ProgressTree :=
  (s.progress.bind Progress.tree?).getD (.start target.stack)

/-- The error that ended the feed, if one did. -/
def streamError? (s : Session) : Option String :=
  s.progress.bind Progress.streamError?

/-- Looks for the cause of a failure in the events of the stack. -/
def trace (s : Session) (target : Target) (status : StackStatus) : Session :=
  { s with phase := .tracing target status (.start (.start target.key target.cutoff)) }

/-- Goes on after the other actors have ended. -/
def stopped (s : Session) (target : Target) : Ending → Session
  | .failed e => s.fail e
  | .gone =>
    match target.goal with
    | .deployment => s.fail (.stackVanished target.stack)
    | .deletion => { s with phase := .over (.deleted (s.finalTree target) s.streamError?) }
  | .terminal stack =>
    match target.goal with
    | .deployment =>
      if stack.status.isSuccess then
        { s with phase := .over (.deployed stack.status (s.finalTree target) s.streamError?) }
      else s.trace target stack.status
    | .deletion =>
      if stack.status = .deleteComplete then
        { s with phase := .over (.deleted (s.finalTree target) s.streamError?) }
      else s.trace target stack.status

/-- The error for a failed operation: its first failing event, if the events could be read and there
is one. -/
def failure (target : Target) (status : StackStatus)
    (fetched : Except FetchError (List StackEvent)) : DeployError :=
  match fetched with
  | .error _ => .stackFailedWithoutCause target.key status
  | .ok events =>
    match events.find? StackEvent.isFailure with
    | some e => .stackFailed target.key status e.logicalId (e.reason.getD "")
    | none => .stackFailedWithoutCause target.key status

/-! ### Steps -/

/-- What the operation does next. -/
def operationStep (clock : Clock) (s : Session) : Step Session Outcome :=
  match s.phase with
  | .submitting order controller =>
    .call (.createChangeSet (order.input order.name order.request.intent))
      (s.submitted order controller order.request.intent)
  | .submittingUpdate order controller =>
    .call (.createChangeSet (order.input order.updateName .update))
      (s.submitted order controller .update)
  | .reviewing stack review =>
    (review.step clock).embed (fun review => { s with phase := .reviewing stack review })
      (s.reviewed stack)
  | .announcing stack controller changes =>
    .write (proposal stack changes) (s.announced clock stack controller)
  | .executing target controller ref =>
    .call (.executeChangeSet controller.stack ref.id) (s.executed target controller ref)
  | .looking stack => .call (.describeStack stack) (s.looked stack)
  | .deleting existing stack =>
    .goOn { s with phase := .deletionAccepted existing stack clock.calendar }
  | .deletionAccepted existing stack cutoff =>
    .call (.deleteStack stack) (s.deletionReplied existing stack cutoff)
  | .watching target watch =>
    (watch.step clock).embed (fun watch => { s with phase := .watching target watch })
      (s.watched target)
  | .stopping target ending =>
    if s.progress.all Progress.isOver then .goOn (s.stopped target ending) else .blocked
  | .tracing target status fetch =>
    fetch.step.embed (fun fetch => { s with phase := .tracing target status fetch })
      (fun result => s.fail (failure target status result.1))
  | .following =>
    match s.progress with
    | none => .blocked
    | some p =>
      match p.feed.result?, p.painter.result? with
      | some stream, some written => .goOn { s with phase := .over (.followed stream written) }
      | _, _ => .blocked
  | .over outcome => .finish outcome

/-- What an actor **does next**. -/
def step (clock : Clock) (s : Session) : Actor → Step Session Outcome
  | .operation => s.operationStep clock
  | .feed =>
    match s.progress with
    | none => .blocked
    | some p => (p.feedStep clock).embed (fun p => { s with progress := some p }) id
  | .painter =>
    match s.progress with
    | none => .blocked
    | some p => p.painterStep.embed (fun p => { s with progress := some p }) id

end Session

end StackDeploy
