import StackDeploy.Event.Selection
import StackDeploy.Service.Api

/-!
# Event sources

An event source follows one stack: it reads the stack's whole history, page by page, and delivers
what is new in it. Sources share nothing with each other.

* `HistoryReader` — a history that is being read; each page either continues it or completes it.
* `EventSource.select` — the events that a completed history adds.
-/

namespace StackDeploy

/-! ### Reading a history -/

/-- A **history reader** holds the events read so far, newest first, and the token that asks for the
next page. -/
structure HistoryReader where
  gathered : List StackEvent
  token : Option String

namespace HistoryReader

/-- Nothing is read yet; the first page is asked for without a token. -/
def start : HistoryReader := ⟨[], none⟩

/-- The request for the next page of a stack's history. -/
def request (r : HistoryReader) (stack : String) : Request :=
  .describeStackEvents stack r.token

/-- What a page makes of the history: more is to be read, or it is complete. -/
inductive Progress where
  | more (reader : HistoryReader)
  | complete (history : List StackEvent)

/-- Takes in the next page. A page without a token is the last one. -/
def add (r : HistoryReader) (page : EventPage) : Progress :=
  match page.nextToken with
  | some token => .more ⟨r.gathered ++ page.events, some token⟩
  | none => .complete (r.gathered ++ page.events)

end HistoryReader

/-- The history of a stack could not be read. -/
structure FetchError where
  stack : String
  cause : ApiError
deriving DecidableEq, Repr

/-- The wording of a fetch error. -/
def FetchError.message (e : FetchError) : String :=
  "failed to describe events for stack " ++ e.stack ++ ": " ++ e.cause.message

/-! ### Sources -/

/-- An **event source** delivers the events of one stack from a cutoff on, each of them once. -/
structure EventSource where
  /-- The key that the stack is asked by. -/
  stack : String
  /-- Events before this instant belong to earlier operations. -/
  cutoff : Instant
  /-- The identifiers of the delivered events, newest first. -/
  seen : List String

namespace EventSource

/-- A source that has delivered nothing. -/
def start (stack : String) (cutoff : Instant) : EventSource := ⟨stack, cutoff, []⟩

/-- The events that a completed history adds, and the source that has delivered them. -/
def select (s : EventSource) (history : List StackEvent) : List StackEvent × EventSource :=
  let selection := Selection.ofHistory history s.cutoff s.seen
  (selection.fresh, { s with seen := selection.seen })

end EventSource

end StackDeploy
