import StackDeploy.Stream.Fetch

/-!
# What a poll does

A poll reads the histories of its sources page by page, and so does a fetch of one source. A page
with a token is followed by another one, and a page without a token completes the history
(`take_more`, `take_last`). A poll asks for the events of the source whose turn it is
(`step_cases`); it is done when no source is left or when a page could not be read
(`cases_of_step_eq_done`).
-/

namespace StackDeploy

/-! ### Pages -/

namespace HistoryReader

variable (r : HistoryReader) {page : EventPage}

theorem add_more {token : String} (h : page.nextToken = some token) :
    r.add page = .more ⟨r.gathered ++ page.events, some token⟩ := by
  rw [add, h]

theorem add_last (h : page.nextToken = none) :
    r.add page = .complete (r.gathered ++ page.events) := by
  rw [add, h]

end HistoryReader

namespace Fetch

variable (source : EventSource) (reader : HistoryReader) {page : EventPage}

theorem take_more {token : String} (h : page.nextToken = some token) :
    take source reader (.ok page) =
      .reading source ⟨reader.gathered ++ page.events, some token⟩ := by
  simp only [take, reader.add_more h]

theorem take_last (h : page.nextToken = none) :
    take source reader (.ok page) =
      .over (.ok (source.select (reader.gathered ++ page.events)).1)
        (source.select (reader.gathered ++ page.events)).2 := by
  simp only [take, reader.add_last h]

end Fetch

namespace Poll

section Pages

variable (tick : Tick) (stack : String) (reader : HistoryReader) {page : EventPage}

theorem take_more {token : String} (h : page.nextToken = some token) :
    take tick stack reader (.ok page) =
      .reading tick ⟨reader.gathered ++ page.events, some token⟩ := by
  simp only [take, reader.add_more h]

theorem take_last (h : page.nextToken = none) :
    take tick stack reader (.ok page) =
      .reading (tick.absorb (reader.gathered ++ page.events)) .start := by
  simp only [take, reader.add_last h]

end Pages

/-! ### Steps -/

theorem step_of_waiting_nil {tick : Tick} (reader : HistoryReader) (h : tick.waiting = []) :
    step (.reading tick reader) = .done tick.finish := by
  rw [step, h]

theorem step_of_waiting_cons {tick : Tick} {source : EventSource} {waiting : List EventSource}
    (reader : HistoryReader) (h : tick.waiting = source :: waiting) :
    step (.reading tick reader) =
      .call (reader.request source.stack) (take tick source.stack reader) := by
  rw [step, h]

/-- A poll that is done has failed before, or every source has had its turn. -/
theorem cases_of_step_eq_done {poll : Poll} {outcome : TickOutcome}
    (h : poll.step = .done outcome) :
    poll = .over outcome ∨
      ∃ tick reader, poll = .reading tick reader ∧ tick.waiting = [] ∧ outcome = tick.finish := by
  cases poll with
  | «over» other =>
    cases h
    exact .inl rfl
  | reading tick reader =>
    cases hwaiting : tick.waiting with
    | nil =>
      rw [step_of_waiting_nil reader hwaiting] at h
      cases h
      exact .inr ⟨tick, reader, rfl, hwaiting, rfl⟩
    | cons source waiting =>
      rw [step_of_waiting_cons reader hwaiting] at h
      cases h

/-- A poll is done, or it asks for a page of the source whose turn it is. -/
theorem step_cases (poll : Poll) :
    (∃ outcome, poll.step = .done outcome) ∨
      ∃ tick reader source waiting, poll = .reading tick reader ∧
        tick.waiting = source :: waiting ∧
        poll.step = .call (reader.request source.stack) (take tick source.stack reader) := by
  cases poll with
  | «over» outcome => exact .inl ⟨outcome, rfl⟩
  | reading tick reader =>
    cases hwaiting : tick.waiting with
    | nil => exact .inl ⟨tick.finish, step_of_waiting_nil reader hwaiting⟩
    | cons source waiting =>
      exact .inr ⟨tick, reader, source, waiting, rfl, hwaiting,
        step_of_waiting_cons reader hwaiting⟩

end Poll

end StackDeploy
