import StackDeploy.Service.Api

/-!
# Tasks

A task is a state together with a function that says what it does next: call the service, write,
pause, or finish. Everything that happens outside comes back to it as a reply, so a task can be run
against any service and any sink, and several tasks can be run side by side in any order.

* `Step` — what a task does next; the ways on carry the state that the task goes on with.
* `Query` — the same for a task that only calls the service.
* `Clock` — the time that a task is told.
-/

namespace StackDeploy

/-- The **clock** that a task reads. Pauses are measured by the timer and the review of a change set
by the stopwatch, both in milliseconds; a simulation may let the timer run while the stopwatch and
the calendar stand still. -/
structure Clock where
  timer : Nat
  stopwatch : Nat
  calendar : Instant
deriving DecidableEq

/-- The result of a write: done and flushed, or the message of an output error. -/
abbrev Written := Except String Unit

/-- What a task in a state of type `σ` **does next**. -/
inductive Step (σ : Type) (α : Type) where
  /-- Calls the service and goes on with the reply. -/
  | call (request : Request) (resume : Reply request → σ)
  /-- Writes a text to the sink, flushes it, and goes on with the result. -/
  | write (text : String) (resume : Written → σ)
  /-- Goes on by itself. -/
  | goOn (state : σ)
  /-- Goes on when the timer has come to the given time. -/
  | pause (deadline : Nat) (state : σ)
  /-- Cannot go on before another task has. -/
  | blocked
  /-- Is over. -/
  | finish (result : α)

/-- What a task does next that does nothing but call the service. -/
inductive Query (σ : Type) (α : Type) where
  /-- Calls the service and goes on with the reply. -/
  | call (request : Request) (resume : Reply request → σ)
  /-- Is over. -/
  | done (result : α)

/-- The step of a query that is part of a task. -/
def Query.embed {σ τ α β : Type} (f : σ → τ) (g : α → τ) : Query σ α → Step τ β
  | call request resume => .call request fun reply => f (resume reply)
  | done result => .goOn (g result)

/-- The step of a task that is part of another one: its states are embedded by `f`, and when it is
over the whole goes on from `g`. -/
def Step.embed {σ τ α β : Type} (f : σ → τ) (g : α → τ) : Step σ α → Step τ β
  | call request resume => .call request fun reply => f (resume reply)
  | write text resume => .write text fun written => f (resume written)
  | goOn state => .goOn (f state)
  | pause deadline state => .pause deadline (f state)
  | blocked => .blocked
  | finish result => .goOn (g result)

/-- The time at which a pause of the given length ends. A pause lasts for at least one tick of the
timer. -/
def Clock.after (clock : Clock) (length : Nat) : Nat :=
  clock.timer + max 1 length

end StackDeploy
