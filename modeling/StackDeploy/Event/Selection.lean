import StackDeploy.Event.Basic

/-!
# Selecting new events

The service gives a history newest first. A poll wants from it, oldest first, the events that are
not too old and were not delivered before.

* `sortByTime` — a stable sort by timestamp.
* `Selection.ofHistory` — the new events of a history, and the identifiers seen from then on.
-/

namespace StackDeploy

/-! ### Chronological order -/

/-- Puts an event before the first one that is not older. -/
def insertByTime (e : StackEvent) : List StackEvent → List StackEvent
  | [] => [e]
  | x :: xs => if e.timestamp ≤ x.timestamp then e :: x :: xs else x :: insertByTime e xs

/-- The events ordered by timestamp; events of one timestamp keep their order. -/
def sortByTime (events : List StackEvent) : List StackEvent :=
  events.foldr insertByTime []

/-- A newest-first history in **chronological** order; events of one timestamp come in the order
that the service recorded them in. -/
def chronological (history : List StackEvent) : List StackEvent :=
  sortByTime history.reverse

/-! ### Deliver once -/

/-- The outcome of a selection: the **fresh** events, and the identifiers seen so far, newest
first. -/
structure Selection where
  fresh : List StackEvent
  seen : List String

namespace Selection

/-- Keeps the first event of every identifier that was not seen before. -/
def keepUnseen (seen : List String) : List StackEvent → Selection
  | [] => ⟨[], seen⟩
  | e :: es =>
    if e.eventId ∈ seen then keepUnseen seen es
    else
      let later := keepUnseen (e.eventId :: seen) es
      ⟨e :: later.fresh, later.seen⟩

/-- The new events of a newest-first history: in chronological order, at or after the cutoff, and
each identifier only once and only if it is not among those seen. -/
def ofHistory (history : List StackEvent) (cutoff : Instant) (seen : List String) : Selection :=
  keepUnseen seen ((chronological history).filter fun e => decide (cutoff ≤ e.timestamp))

end Selection

end StackDeploy
