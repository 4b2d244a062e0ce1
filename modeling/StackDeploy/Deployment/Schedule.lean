import StackDeploy.Deployment.Session

/-!
# Running tasks

Sessions and single tasks are run against a **host**, which answers their calls, takes their writes
and tells the time. The host works in any monad, so that one definition serves a simulation and the
real world.

* `Session.run` — the schedule of a session: of the actors that can go on, the operation comes
  before the feed and the feed before the painter; when none can, the host sleeps until the first
  deadline.
* `runTask`, `runQuery` — the same for one task alone.

Every run has a bound on its number of steps and yields nothing when the bound is reached.
-/

namespace StackDeploy

/-- Whatever a session needs from outside. -/
structure Host (m : Type → Type) where
  call : (request : Request) → m (Reply request)
  write : String → m Written
  clock : m Clock
  /-- Sleeps until the timer has come to the given time, or less if it is interrupted. -/
  sleepUntil : Nat → m Unit
  /-- Somebody asked the program to stop. -/
  interrupted : m Bool

/-! ### Single tasks -/

/-- Runs a task that only calls the service, for at most `fuel` steps. -/
def runQuery {m : Type → Type} [Monad m] {σ α : Type} (host : Host m) (step : σ → Query σ α) :
    Nat → σ → m (Option α)
  | 0, _ => pure none
  | fuel + 1, state =>
    match step state with
    | .call request resume => do
      let reply ← host.call request
      runQuery host step fuel (resume reply)
    | .done result => pure (some result)

/-- Runs a task alone, for at most `fuel` steps. -/
def runTask {m : Type → Type} [Monad m] {σ α : Type} (host : Host m)
    (step : Clock → σ → Step σ α) : Nat → σ → m (Option α)
  | 0, _ => pure none
  | fuel + 1, state => do
    let clock ← host.clock
    match step clock state with
    | .call request resume => do
      let reply ← host.call request
      runTask host step fuel (resume reply)
    | .write text resume => do
      let written ← host.write text
      runTask host step fuel (resume written)
    | .goOn state => runTask host step fuel state
    | .pause deadline state => do
      host.sleepUntil deadline
      runTask host step fuel state
    | .blocked => pure none
    | .finish result => pure (some result)

/-! ### Sessions -/

/-- What can happen next in a session. -/
inductive Turn where
  /-- This step can be taken now. -/
  | take (step : Step Session Outcome)
  /-- Nobody can go on before this time. -/
  | sleep (deadline : Nat)
  /-- Nobody can ever go on. -/
  | stuck

/-- The turn of a list of steps, most urgent first: the first that can be taken now, else the
earliest deadline. -/
def Turn.ofSteps (now : Nat) : List (Step Session Outcome) → Turn
  | [] => .stuck
  | .blocked :: rest => ofSteps now rest
  | .pause deadline state :: rest =>
    if deadline ≤ now then .take (.goOn state)
    else
      match ofSteps now rest with
      | .take step => .take step
      | .sleep other => .sleep (min deadline other)
      | .stuck => .sleep deadline
  | step :: _ => .take step

/-- The actors in the order in which they take their turns. -/
def Actor.all : List Actor := [.operation, .feed, .painter]

/-- The turn of a session. -/
def Session.turn (clock : Clock) (s : Session) : Turn :=
  .ofSteps clock.timer (Actor.all.map (s.step clock))

/-- Runs a session for at most `fuel` turns. An interruption cancels the feed. -/
def Session.run {m : Type → Type} [Monad m] (host : Host m) : Nat → Session → m (Option Outcome)
  | 0, _ => pure none
  | fuel + 1, s => do
    let s := if ← host.interrupted then s.cancel else s
    let clock ← host.clock
    match s.turn clock with
    | .take (.call request resume) => do
      let reply ← host.call request
      Session.run host fuel (resume reply)
    | .take (.write text resume) => do
      let written ← host.write text
      Session.run host fuel (resume written)
    | .take (.goOn s) => Session.run host fuel s
    | .take (.finish outcome) => pure (some outcome)
    | .take (.pause _ _) | .take .blocked | .stuck => pure none
    | .sleep deadline => do
      host.sleepUntil deadline
      Session.run host fuel s

end StackDeploy
