import StackDeploy.Stream.Aggregator
import StackDeploy.Task

/-!
# Polling as tasks

Reading the new events of one source, and a whole tick of an aggregator, as tasks that ask the
service for one page at a time.
-/

namespace StackDeploy

/-! ### One source -/

/-- A **fetch** reads the history of one source and selects what is new in it. -/
inductive Fetch where
  | reading (source : EventSource) (reader : HistoryReader)
  | over (result : Except FetchError (List StackEvent)) (source : EventSource)

namespace Fetch

/-- A fetch that has read nothing. -/
def start (source : EventSource) : Fetch := .reading source .start

/-- Takes in the reply to the request for a page. A failed fetch leaves the source as it was. -/
def take (source : EventSource) (reader : HistoryReader) : Except ApiError EventPage → Fetch
  | .error cause => .over (.error ⟨source.stack, cause⟩) source
  | .ok page =>
    match reader.add page with
    | .more reader => .reading source reader
    | .complete history =>
      let (fresh, source) := source.select history
      .over (.ok fresh) source

/-- What a fetch does next. -/
def step : Fetch → Query Fetch (Except FetchError (List StackEvent) × EventSource)
  | .reading source reader => .call (reader.request source.stack) (take source reader)
  | .over result source => .done (result, source)

end Fetch

/-! ### A tick -/

/-- A **poll** is a tick that reads its histories from the service. -/
inductive Poll where
  | reading (tick : Tick) (reader : HistoryReader)
  | over (outcome : TickOutcome)

namespace Poll

/-- A poll of all sources of an aggregator. -/
def start (a : Aggregator) : Poll := .reading (.start a) .start

/-- Takes in the reply to the request for a page of the source whose turn it is. -/
def take (tick : Tick) (stack : String) (reader : HistoryReader) : Except ApiError EventPage → Poll
  | .error cause => .over (tick.fail ⟨stack, cause⟩)
  | .ok page =>
    match reader.add page with
    | .more reader => .reading tick reader
    | .complete history => .reading (tick.absorb history) .start

/-- What a poll does next. -/
def step : Poll → Query Poll TickOutcome
  | .reading tick reader =>
    match tick.waiting with
    | [] => .done tick.finish
    | source :: _ => .call (reader.request source.stack) (take tick source.stack reader)
  | .over outcome => .done outcome

end Poll

end StackDeploy
