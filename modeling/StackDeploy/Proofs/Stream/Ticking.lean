import StackDeploy.Proofs.Stream.Delivery
import StackDeploy.Proofs.Stream.Feed

/-!
# Feeds are sequences of ticks

A feed reads page by page, pauses, publishes and drains, and it may be stopped at any moment. Seen
from its aggregator it does nothing but tick: what it has published is what whole ticks publish,
those of regular rounds and of the drain alike.

* `Feed.Continues` — where a feed stands after a sequence of ticks.
* `Feed.ticks_of_runs` — the ticks of a run.
* `PublishedFrom` — what is published from a root stack, by ticks or by a feed.
-/

namespace StackDeploy

namespace Feed

/-- The feed **continues** from an aggregator: it is between two ticks, in the middle of the next
one, or about to publish what that one has yielded. -/
def Continues (a : Aggregator) (f : Feed) : Prop :=
  match f.phase with
  | .ready | .pausing _ | .over _ => f.aggregator = a
  | .polling _ poll => f.aggregator = a ∧ ∃ trace, Query.Runs Poll.step (.start a) trace poll
  | .publishing _ batch _ => ∃ trace outcome, Query.Ends Poll.step (.start a) trace outcome ∧
      f.aggregator = outcome.aggregator ∧ batch = outcome.batch

/-- A feed has **ticked**: what was published is what a sequence of ticks publishes, and the feed
continues from there. -/
def Ticked (root : String) (cutoff : Instant) (published : Batch) (f : Feed) : Prop :=
  ∃ calls a, (Aggregator.start root cutoff).Ticks calls a ∧
    published = (publishedBy calls).flatten ∧ f.Continues a

variable {root : String} {cutoff : Instant} {published : Batch} {f g : Feed}

theorem ticked_start (root : String) (cutoff : Instant) (interval : Nat) :
    (Feed.start root cutoff interval).Ticked root cutoff [] :=
  ⟨[], _, .start, rfl, rfl⟩

theorem continues_beginPoll (f : Feed) (round : Round) :
    (f.beginPoll round).Continues f.aggregator :=
  ⟨rfl, [], .start⟩

/-- A feed that settles continues from its aggregator. -/
theorem continues_settle (clock : Clock) (f : Feed) (round : Round)
    (result : Except FetchError Nat) : (f.settle clock round result).Continues f.aggregator := by
  cases result with
  | error e => rfl
  | ok discovered =>
    cases round with
    | regular => rfl
    | draining left =>
      rw [settle.eq_def]
      dsimp only
      split
      · rfl
      · exact continues_beginPoll f _

/-- A tick that has ended with an empty batch is one more tick; another one is about to be. -/
theorem Ticked.conclude {clock : Clock} {round : Round} {calls : List TickCall} {a : Aggregator}
    {trace : List Action} {outcome : TickOutcome}
    (hticks : (Aggregator.start root cutoff).Ticks calls a)
    (hpublished : published = (publishedBy calls).flatten)
    (ends : Query.Ends Poll.step (.start a) trace outcome) :
    (f.conclude clock round outcome).Ticked root cutoff published := by
  rw [Feed.conclude]
  split
  next hempty =>
    refine ⟨calls ++ [⟨trace, outcome⟩], _, hticks.tick ends, ?_,
      continues_settle clock { f with aggregator := outcome.aggregator } round outcome.result⟩
    rw [flatten_publishedBy_append_singleton, List.isEmpty_iff.mp hempty, List.append_nil]
    exact hpublished
  · exact ⟨calls, a, hticks, hpublished, trace, outcome, ends, rfl, rfl⟩

theorem Ticked.goes {clock : Clock} {deeds : List Deed} (h : f.Ticked root cutoff published)
    (goes : f.Goes clock deeds g) : g.Ticked root cutoff (published ++ publishedIn deeds) := by
  obtain ⟨calls, b, hticks, hpublished, hcontinues⟩ := h
  obtain ⟨a, interval, phase⟩ := f
  cases goes with
  | poll hphase =>
    obtain rfl : phase = .ready := hphase
    obtain rfl : a = b := hcontinues
    rw [publishedIn_nil, List.append_nil]
    exact ⟨calls, a, hticks, hpublished, continues_beginPoll _ _⟩
  | drain hphase =>
    obtain rfl : a = b := by
      obtain rfl | ⟨deadline, rfl⟩ : phase = .ready ∨ ∃ deadline, phase = .pausing deadline :=
        hphase
      · exact hcontinues
      · exact hcontinues
    rw [publishedIn_nil, List.append_nil]
    exact ⟨calls, a, hticks, hpublished, continues_beginPoll _ _⟩
  | @wake deadline hphase =>
    obtain rfl : phase = .pausing deadline := hphase
    rw [publishedIn_nil, List.append_nil]
    exact ⟨calls, b, hticks, hpublished, hcontinues⟩
  | @page round tick reader source waiting hphase hwaiting reply =>
    obtain rfl : phase = .polling round (.reading tick reader) := hphase
    obtain ⟨rfl, trace, run⟩ := hcontinues
    rw [publishedIn_page, List.append_nil]
    exact ⟨calls, a, hticks, hpublished, rfl, _, Poll.runs_page tick reader run hwaiting reply⟩
  | @conclude round poll outcome hphase hdone =>
    obtain rfl : phase = .polling round poll := hphase
    obtain ⟨rfl, trace, run⟩ := hcontinues
    rw [publishedIn_nil, List.append_nil]
    exact .conclude hticks hpublished ⟨poll, run, hdone⟩
  | @publish round batch result hphase =>
    obtain rfl : phase = .publishing round batch result := hphase
    obtain ⟨trace, outcome, ends, rfl, rfl⟩ := hcontinues
    rw [publishedIn_publish]
    refine ⟨calls ++ [⟨trace, outcome⟩], _, hticks.tick ends, ?_, continues_settle _ _ _ _⟩
    rw [flatten_publishedBy_append_singleton, hpublished]

/-- What a feed has published is what a **sequence of ticks** publishes. -/
theorem ticks_of_runs {interval : Nat} {deeds : List Deed}
    (run : (Feed.start root cutoff interval).Runs deeds f) :
    f.Ticked root cutoff (publishedIn deeds) := by
  induction run with
  | start => exact ticked_start root cutoff interval
  | @move before deeds f g clock cancelled run leads ih =>
    rw [publishedIn_append]
    exact ih.goes (goes_of_leads leads)

end Feed

/-- The events are **published from a root stack**, one batch after the other, by a sequence of
ticks or by a feed that has come to any point. -/
inductive PublishedFrom (root : String) (cutoff : Instant) : Batch → Prop
  | ticks {calls : List TickCall} {a : Aggregator}
      (h : (Aggregator.start root cutoff).Ticks calls a) :
      PublishedFrom root cutoff (publishedBy calls).flatten
  | feed {interval : Nat} {deeds : List Deed} {f : Feed}
      (run : (Feed.start root cutoff interval).Runs deeds f) :
      PublishedFrom root cutoff (publishedIn deeds)

/-- In either case they are what a sequence of ticks publishes. -/
theorem PublishedFrom.exists_ticks {root : String} {cutoff : Instant} {events : Batch}
    (h : PublishedFrom root cutoff events) :
    ∃ calls a, (Aggregator.start root cutoff).Ticks calls a ∧
      events = (publishedBy calls).flatten := by
  cases h with
  | @ticks calls a hticks => exact ⟨calls, a, hticks, rfl⟩
  | feed run =>
    obtain ⟨calls, a, hticks, hpublished, -⟩ := Feed.ticks_of_runs run
    exact ⟨calls, a, hticks, hpublished⟩

end StackDeploy
