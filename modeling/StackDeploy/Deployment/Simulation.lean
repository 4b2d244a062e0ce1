import StackDeploy.Deployment.Schedule
import StackDeploy.Stream.Broadcast
import StackDeploy.Text.Utf8

/-!
# Simulated runs

A host in which time is virtual, the service is a pure function and writes go into a sink in memory.
Sleeping only moves the timer, so a run takes no time and is the same every time.
-/

namespace StackDeploy

/-- A **sink** in memory, which may take only so many bytes. -/
structure Sink where
  written : List UInt8
  limit : Option Nat

namespace Sink

/-- A sink into which nothing was written. -/
def start (limit : Option Nat) : Sink := ⟨[], limit⟩

/-- Writes a text. A sink that is too small takes as many bytes as it can. -/
def write (s : Sink) (text : String) : Written × Sink :=
  let bytes := Utf8.encode text
  match s.limit with
  | none => (.ok (), { s with written := s.written ++ bytes })
  | some limit =>
    let room := limit - s.written.length
    if bytes.length ≤ room then (.ok (), { s with written := s.written ++ bytes })
    else (.error "sink full", { s with written := s.written ++ bytes.take room })

/-- What was written. -/
def text (s : Sink) : String := Utf8.decodeLossy s.written

end Sink

/-- The **world** of a simulated run. -/
structure World (σ : Type) where
  service : σ
  timer : Nat
  /-- The date and time, which stand still. -/
  calendar : Instant
  sink : Sink

/-- The host of simulated runs. -/
def simulatedHost {σ : Type} (service : Service σ) : Host (StateM (World σ)) where
  call request := modifyGet fun w =>
    let (reply, state) := service request w.service
    (reply, { w with service := state })
  write text := modifyGet fun w =>
    let (written, sink) := w.sink.write text
    (written, { w with sink })
  clock := do
    let w ← get
    return { timer := w.timer, stopwatch := 0, calendar := w.calendar }
  sleepUntil deadline := modify fun w => { w with timer := max w.timer deadline }
  interrupted := pure false

/-! ### A feed alone -/

/-- A **stream**: a feed whose batches go to subscribers, and which is cancelled at a given time. -/
structure Stream where
  feed : Feed
  subscribers : Broadcast
  cancelAt : Option Nat

/-- What a stream does next. -/
def Stream.step (clock : Clock) (s : Stream) :
    Step Stream (Except FetchError Unit × Broadcast) :=
  let cancelled := s.cancelAt.any (· ≤ clock.timer)
  match s.feed.step clock cancelled with
  | .call request resume => .call request fun reply => { s with feed := resume reply }
  | .publish batch next =>
    .goOn { s with feed := next, subscribers := s.subscribers.publish batch }
  | .goOn next => .goOn { s with feed := next }
  | .pause deadline next =>
    match s.cancelAt with
    | none => .pause deadline { s with feed := next }
    | some at' =>
      if deadline ≤ at' then .pause deadline { s with feed := next } else .pause at' s
  | .over result => .finish (result, s.subscribers)

end StackDeploy
