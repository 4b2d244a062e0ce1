import StackDeploy.Stream.Source
import StackDeploy.Table

/-!
# Aggregating nested stacks

An aggregator follows a root stack and every nested stack that turns up in the delivered events. One
**tick** polls all sources in the order they were registered and yields one batch.

* `FirstSeen` — the earliest event of every nested stack resource, from which its own history
  counts.
* `Tick` — a tick under way; sources are taken one by one, and a source that fails ends the tick.
* `Aggregator.tick` — a whole tick, with the histories given by a function.
-/

namespace StackDeploy

/-! ### First sightings -/

/-- The earliest timestamp of every nested stack resource, by its parent's key and logical
identifier. -/
abbrev FirstSeen := Table (String × String) Instant

/-- Notes that a resource was seen at an instant, and keeps the earlier one of two. -/
def FirstSeen.record (table : FirstSeen) (key : String × String) (t : Instant) : FirstSeen :=
  match table.get? key with
  | none => table.set key t
  | some earliest => table.set key (if t < earliest then t else earliest)

/-! ### The aggregator -/

/-- The **aggregator** of one operation. -/
structure Aggregator where
  /-- The sources in the order they were registered, the root first. -/
  sources : List EventSource
  /-- The keys that have a source. -/
  followed : List String
  firstSeen : FirstSeen

namespace Aggregator

/-- An aggregator that follows only the root stack. -/
def start (root : String) (cutoff : Instant) : Aggregator :=
  { sources := [.start root cutoff], followed := [root], firstSeen := [] }

/-- The keys of the sources, in registration order. -/
def keys (a : Aggregator) : List String :=
  a.sources.map (·.stack)

end Aggregator

/-- The physical identifier that an event **announces** as a stack to follow: it belongs to a nested
stack in a discoverable status and has no source yet. -/
def StackEvent.announced? (followed : List String) (e : StackEvent) : Option String :=
  if e.kind = .nestedStack && isDiscoverableStatus e.status && e.physicalId != "" &&
      !followed.contains e.physicalId then
    some e.physicalId
  else none

/-! ### Ticks -/

/-- A tick under way. -/
structure Tick where
  /-- Sources that were polled in this tick. -/
  polled : List EventSource
  /-- Sources that are still to be polled. -/
  waiting : List EventSource
  followed : List String
  firstSeen : FirstSeen
  /-- Stacks announced in this tick, with the cutoff of their source. -/
  discovered : List (String × Instant)
  batch : Batch

/-- How a tick ended. -/
structure TickOutcome where
  aggregator : Aggregator
  /-- Everything new; nothing is published when it is empty. -/
  batch : Batch
  /-- The number of stacks discovered, or the error of the source that failed. -/
  result : Except FetchError Nat

namespace Tick

/-- A tick that has polled no source yet. -/
def start (a : Aggregator) : Tick :=
  { polled := [], waiting := a.sources, followed := a.followed, firstSeen := a.firstSeen,
    discovered := [], batch := [] }

/-- Notes what an event of the given stack says about nested stacks. -/
def note (stack : String) (t : Tick) (e : StackEvent) : Tick :=
  if e.kind = .nestedStack then
    let key := (stack, e.logicalId)
    let firstSeen := FirstSeen.record t.firstSeen key e.timestamp
    match e.announced? t.followed with
    | some child =>
      if t.discovered.any fun d => d.1 == child then { t with firstSeen }
      else
        let since := (firstSeen.get? key).getD e.timestamp
        { t with firstSeen, discovered := t.discovered ++ [(child, since)] }
    | none => { t with firstSeen }
  else t

/-- Takes in the completed history of the source whose turn it is. -/
def absorb (t : Tick) (history : List StackEvent) : Tick :=
  match t.waiting with
  | [] => t
  | source :: waiting =>
    let (fresh, source) := source.select history
    let noted := fresh.foldl (note source.stack) t
    { noted with
      polled := t.polled ++ [source]
      waiting
      batch := t.batch ++ fresh.map fun e => ⟨source.stack, e⟩ }

/-- Ends a tick in which every source was polled: the discovered stacks get their sources. -/
def finish (t : Tick) : TickOutcome :=
  { aggregator :=
      { sources := t.polled ++ t.waiting ++ t.discovered.map fun d => .start d.1 d.2
        followed := t.followed ++ t.discovered.map (·.1)
        firstSeen := t.firstSeen }
    batch := t.batch
    result := .ok t.discovered.length }

/-- Ends a tick in which the source whose turn it is failed: no source is registered, and what was
fetched before stays delivered. -/
def fail (t : Tick) (e : FetchError) : TickOutcome :=
  { aggregator :=
      { sources := t.polled ++ t.waiting, followed := t.followed, firstSeen := t.firstSeen }
    batch := t.batch
    result := .error e }

/-- Polls the given sources, which are the ones that the tick waits for. -/
def poll (fetch : String → Except ApiError (List StackEvent)) :
    List EventSource → Tick → TickOutcome
  | [], t => t.finish
  | source :: rest, t =>
    match fetch source.stack with
    | .ok history => poll fetch rest (t.absorb history)
    | .error cause => t.fail ⟨source.stack, cause⟩

end Tick

/-- One whole **tick**, in which the histories of the stacks are as `fetch` says. -/
def Aggregator.tick (a : Aggregator) (fetch : String → Except ApiError (List StackEvent)) :
    TickOutcome :=
  Tick.poll fetch a.sources (.start a)

end StackDeploy
