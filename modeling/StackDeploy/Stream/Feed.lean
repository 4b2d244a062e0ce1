import StackDeploy.Stream.Fetch

/-!
# The feed

The feed polls an aggregator at intervals and publishes what is new, until a fetch fails or it is
cancelled. After a cancellation it **drains**: it polls again until no further nested stack turns
up, so that nothing that happened before is left out.

* `Feed.maxDrainRounds` — how often it polls while draining, at most.
* `Feed.step` — what the feed does next, given whether it is cancelled.
-/

namespace StackDeploy

namespace Feed

/-- Polling after a cancellation ends after this many rounds at the latest. -/
def maxDrainRounds : Nat := 5

/-- What a poll is part of. -/
inductive Round where
  | regular
  /-- A poll after the cancellation; so many rounds are left, this one included. -/
  | draining (left : Nat)
deriving DecidableEq, Repr

/-- Where a feed stands. -/
inductive Phase where
  /-- Between two polls. -/
  | ready
  | polling (round : Round) (poll : Poll)
  /-- A batch is to be published before the poll takes effect. -/
  | publishing (round : Round) (batch : Batch) (result : Except FetchError Nat)
  | pausing (deadline : Nat)
  | over (result : Except FetchError Unit)

end Feed

/-- The **feed** of one operation. -/
structure Feed where
  aggregator : Aggregator
  /-- The pause between two polls, in milliseconds. -/
  interval : Nat
  phase : Feed.Phase

namespace Feed

/-- A feed that has polled nothing. -/
def start (root : String) (cutoff : Instant) (interval : Nat) : Feed :=
  { aggregator := .start root cutoff, interval, phase := .ready }

/-- What a feed does next. -/
inductive Move where
  | call (request : Request) (resume : Reply request → Feed)
  | publish (batch : Batch) (next : Feed)
  | goOn (next : Feed)
  | pause (deadline : Nat) (next : Feed)
  | over (result : Except FetchError Unit)

/-- Begins a poll of all sources. -/
def beginPoll (f : Feed) (round : Round) : Feed :=
  { f with phase := .polling round (.start f.aggregator) }

/-- Begins to drain. -/
def beginDrain (f : Feed) : Feed :=
  f.beginPoll (.draining maxDrainRounds)

/-- Goes on after a poll whose batch was published. A regular poll is followed by a pause; draining
goes on while stacks were discovered and rounds are left. -/
def settle (clock : Clock) (f : Feed) (round : Round) : Except FetchError Nat → Feed
  | .error e => { f with phase := .over (.error e) }
  | .ok discovered =>
    match round with
    | .regular => { f with phase := .pausing (clock.after f.interval) }
    | .draining left =>
      if discovered = 0 || left ≤ 1 then { f with phase := .over (.ok ()) }
      else f.beginPoll (.draining (left - 1))

/-- Goes on after a poll. -/
def conclude (clock : Clock) (f : Feed) (round : Round) (outcome : TickOutcome) : Feed :=
  let f := { f with aggregator := outcome.aggregator }
  if outcome.batch.isEmpty then f.settle clock round outcome.result
  else { f with phase := .publishing round outcome.batch outcome.result }

/-- What the feed does next. -/
def step (clock : Clock) (cancelled : Bool) (f : Feed) : Move :=
  match f.phase with
  | .ready => .goOn (if cancelled then f.beginDrain else f.beginPoll .regular)
  | .polling round poll =>
    match poll.step with
    | .call request resume =>
      .call request fun reply => { f with phase := .polling round (resume reply) }
    | .done outcome => .goOn (f.conclude clock round outcome)
  | .publishing round batch result => .publish batch (f.settle clock round result)
  | .pausing deadline =>
    if cancelled then .goOn f.beginDrain else .pause deadline { f with phase := .ready }
  | .over result => .over result

/-- How the feed ended, if it has. -/
def result? (f : Feed) : Option (Except FetchError Unit) :=
  match f.phase with
  | .over result => some result
  | _ => none

end Feed

end StackDeploy
