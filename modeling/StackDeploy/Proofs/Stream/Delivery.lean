import StackDeploy.Proofs.Stream.Poll
import StackDeploy.Proofs.Stream.Tick
import StackDeploy.Proofs.Task
import StackDeploy.Stream.Broadcast

/-!
# Delivery by ticks

Ticks that follow each other, against a service that may reply anything: histories may repeat,
shrink, come in any order and in any pages, and any request may fail. The trace of the calls says
which histories were read to the end.

* `completedFetches` — the histories that the calls of a trace have completed.
* `Aggregator.Ticks` — the sequences of ticks of an aggregator.
* `ticks_deliver_once` — over all ticks, every event of a completed history is published once, and
  in the tick that reads it first.
-/

namespace StackDeploy

/-! ### Completed fetches -/

/-- A page of a stack's history is asked for. -/
def Action.page (stack : String) (token : Option String) (reply : Except ApiError EventPage) :
    Action :=
  .call (.describeStackEvents stack token) reply

/-- What is **read** from the pages of a trace: the histories completed so far, with the stacks they
belong to, and the events of the history that is being read. -/
structure PagesRead where
  completed : List (String × List StackEvent)
  gathered : List StackEvent

namespace PagesRead

/-- Takes in an action. A page without a token completes a history. -/
def take (r : PagesRead) : Action → PagesRead
  | .call (.describeStackEvents stack _) (.ok page) =>
    match page.nextToken with
    | some _ => ⟨r.completed, r.gathered ++ page.events⟩
    | none => ⟨r.completed ++ [(stack, r.gathered ++ page.events)], []⟩
  | _ => r

/-- What is read from all pages of a trace. -/
def ofTrace (trace : List Action) : PagesRead :=
  trace.foldl take ⟨[], []⟩

section

variable (r : PagesRead) (stack : String) (token : Option String)

theorem take_error (cause : ApiError) : r.take (.page stack token (.error cause)) = r := rfl

theorem take_more {page : EventPage} {next : String} (h : page.nextToken = some next) :
    r.take (.page stack token (.ok page)) = ⟨r.completed, r.gathered ++ page.events⟩ := by
  simp only [Action.page, take, h]

theorem take_last {page : EventPage} (h : page.nextToken = none) :
    r.take (.page stack token (.ok page)) =
      ⟨r.completed ++ [(stack, r.gathered ++ page.events)], []⟩ := by
  simp only [Action.page, take, h]

end

theorem ofTrace_append_singleton (trace : List Action) (a : Action) :
    ofTrace (trace ++ [a]) = (ofTrace trace).take a := by
  rw [ofTrace, List.foldl_append]
  rfl

end PagesRead

/-- The histories that the calls of a trace have **completed**, with the stacks they belong to. -/
def completedFetches (trace : List Action) : List (String × List StackEvent) :=
  (PagesRead.ofTrace trace).completed

/-! ### One tick -/

/-- A source of the stack has seen every event of the history from its cutoff on. -/
def Served (sources : List EventSource) (stack : String) (history : List StackEvent) : Prop :=
  ∃ s ∈ sources, s.stack = stack ∧ ∀ e ∈ history, s.cutoff ≤ e.timestamp → e.eventId ∈ s.seen

theorem Served.mono {sources more : List EventSource} {stack : String} {history : List StackEvent}
    (h : Served sources stack history) (hsub : sources ⊆ more) : Served more stack history := by
  obtain ⟨s, hs, hserved⟩ := h
  exact ⟨s, hsub hs, hserved⟩

/-- What holds in the middle of a tick: it has delivered its batch, and its polled sources have seen
what was read. -/
structure Tick.Serves (t : Tick) (a : Aggregator) (published : Batch) (trace : List Action) :
    Prop extends t.Delivered published where
  scopes_eq : t.view.scopes = a.scopes
  served : ∀ fetch ∈ completedFetches trace, Served t.polled fetch.1 fetch.2

/-- The same for a poll, which may be in the middle of a history or have failed. -/
def Poll.Serves (a : Aggregator) (published : Batch) (trace : List Action) : Poll → Prop
  | .reading tick reader =>
    tick.Serves a published trace ∧ reader.gathered = (PagesRead.ofTrace trace).gathered
  | .over outcome => ∃ (tick : Tick) (error : FetchError), outcome = tick.fail error ∧
      tick.Serves a published trace

namespace Poll

variable {a : Aggregator} {published : Batch} {trace : List Action}

theorem serves_start (h : a.Delivered published) : (Poll.start a).Serves a published [] :=
  ⟨{ toDelivered := Tick.delivered_start h
     scopes_eq := rfl
     served := fun _ hfetch => nomatch hfetch }, rfl⟩

/-- A reply is taken in by the source whose turn it is. -/
theorem Serves.take {tick : Tick} {reader : HistoryReader} {source : EventSource}
    {waiting : List EventSource} (h : (Poll.reading tick reader).Serves a published trace)
    (hwaiting : tick.waiting = source :: waiting) (reply : Except ApiError EventPage) :
    (Poll.take tick source.stack reader reply).Serves a published
      (trace ++ [.page source.stack reader.token reply]) := by
  obtain ⟨hserves, hgathered⟩ := h
  have hread := PagesRead.ofTrace_append_singleton trace (.page source.stack reader.token reply)
  cases reply with
  | error cause =>
    refine ⟨tick, ⟨source.stack, cause⟩, rfl, { hserves with served := ?_ }⟩
    rw [completedFetches, hread, PagesRead.take_error]
    exact hserves.served
  | ok page =>
    cases htoken : page.nextToken with
    | some token =>
      rw [PagesRead.take_more _ _ _ htoken, ← hgathered] at hread
      rw [Poll.take_more _ _ _ htoken]
      refine ⟨{ hserves with served := ?_ }, by rw [hread]⟩
      rw [completedFetches, hread]
      exact hserves.served
    | none =>
      rw [PagesRead.take_last _ _ _ htoken, ← hgathered] at hread
      rw [Poll.take_last _ _ _ htoken]
      refine ⟨?_, by rw [hread]; rfl⟩
      refine
        { toDelivered := hserves.toDelivered.absorb hwaiting _
          scopes_eq := by rw [Tick.absorb_view_scopes hwaiting, hserves.scopes_eq]
          served := ?_ }
      have hdelivers := source.delivers_select (reader.gathered ++ page.events)
      obtain ⟨firstSeen, discovered, heq⟩ :=
        Tick.exists_absorb hwaiting (reader.gathered ++ page.events)
      rw [completedFetches, hread, heq]
      intro fetch hfetch
      -- a fetch that was completed before, or the one that this page completes
      rcases List.mem_append.mp hfetch with hfetch | hfetch
      · exact (hserves.served fetch hfetch).mono fun s hs => List.mem_append_left _ hs
      · obtain rfl := List.mem_singleton.mp hfetch
        refine ⟨_, List.mem_append_right _ (List.mem_singleton_self _), hdelivers.stack_eq, ?_⟩
        rw [hdelivers.cutoff_eq]
        exact hdelivers.complete

/-- A poll asks for the next page of the source whose turn it is. -/
theorem runs_page {start : Poll} (tick : Tick) (reader : HistoryReader) {source : EventSource}
    {waiting : List EventSource} (run : Query.Runs Poll.step start trace (.reading tick reader))
    (hwaiting : tick.waiting = source :: waiting) (reply : Except ApiError EventPage) :
    Query.Runs Poll.step start (trace ++ [.page source.stack reader.token reply])
      (Poll.take tick source.stack reader reply) := by
  exact run.call (step_of_waiting_cons reader hwaiting) reply

/-- Whatever the service replies, a poll keeps on serving its sources. -/
theorem serves_of_runs {p : Poll} (h : a.Delivered published)
    (run : Query.Runs Poll.step (.start a) trace p) : p.Serves a published trace := by
  induction run with
  | start => exact serves_start h
  | @call trace p request resume run hstep reply ih =>
    rcases p.step_cases with
      ⟨outcome, hdone⟩ | ⟨tick, reader, source, waiting, rfl, hwaiting, hcall⟩
    · rw [hdone] at hstep
      cases hstep
    · rw [hcall] at hstep
      cases hstep
      exact ih.take hwaiting reply

end Poll

/-- What a tick **yields**: a batch with the events that every source has delivered in it, grouped
by the sources. -/
structure TickOutcome.Yields (o : TickOutcome) (a : Aggregator) (published : Batch)
    (trace : List Action) : Prop where
  delivered : o.aggregator.Delivered (published ++ o.batch)
  grouped : Grouped o.aggregator.keys o.batch
  scopes_grow : a.scopes <+: o.aggregator.scopes
  served : ∀ fetch ∈ completedFetches trace, Served o.aggregator.sources fetch.1 fetch.2

theorem Tick.Serves.yields_fail {t : Tick} {a : Aggregator} {published : Batch}
    {trace : List Action} (h : t.Serves a published trace) (e : FetchError) :
    (t.fail e).Yields a published trace where
  delivered := by
    rw [Tick.fail_aggregator]
    exact h.view
  grouped := h.grouped.mono (by simp [Tick.fail_aggregator, Tick.view, Aggregator.keys])
    h.view.nodup_keys
  scopes_grow := by
    have hscopes : (t.fail e).aggregator.scopes = a.scopes := h.scopes_eq
    exact hscopes ▸ List.prefix_rfl
  served := fun fetch hfetch =>
    (h.served fetch hfetch).mono fun s hs => List.mem_append_left _ hs

theorem Tick.Serves.yields_finish {t : Tick} {a : Aggregator} {published : Batch}
    {trace : List Action} (h : t.Serves a published trace) :
    t.finish.Yields a published trace where
  delivered := h.toDelivered.finish
  grouped := h.grouped.mono (by simp [Tick.finish, Aggregator.keys])
    h.toDelivered.finish.nodup_keys
  scopes_grow := h.scopes_eq ▸ t.view_scopes_prefix_finish
  served := fun fetch hfetch =>
    (h.served fetch hfetch).mono fun s hs => by simp [Tick.finish, hs]

theorem Poll.yields_of_ends {a : Aggregator} {published : Batch} {trace : List Action}
    {o : TickOutcome} (h : a.Delivered published)
    (ends : Query.Ends Poll.step (.start a) trace o) : o.Yields a published trace := by
  obtain ⟨p, run, hdone⟩ := ends
  have hserves := serves_of_runs h run
  rcases cases_of_step_eq_done hdone with rfl | ⟨tick, reader, rfl, -, rfl⟩
  · obtain ⟨tick, error, rfl, htick⟩ := hserves
    exact htick.yields_fail error
  · exact hserves.1.yields_finish

/-! ### Sequences of ticks -/

/-- What a tick publishes: its batch, unless that is empty. -/
def TickOutcome.published (o : TickOutcome) : List Batch :=
  if o.batch.isEmpty then [] else [o.batch]

/-- Publishing the batch of a tick means publishing what the tick publishes. -/
theorem Broadcast.publishNonempty_eq_foldl (b : Broadcast) (o : TickOutcome) :
    b.publishNonempty o.batch = o.published.foldl Broadcast.publish b := by
  rw [publishNonempty, TickOutcome.published]
  split <;> rfl

theorem TickOutcome.flatten_published (o : TickOutcome) : o.published.flatten = o.batch := by
  rw [published]
  split
  next h => rw [List.isEmpty_iff.mp h, List.flatten_nil]
  · rw [List.flatten_singleton]

theorem TickOutcome.eq_batch_of_mem_published {o : TickOutcome} {batch : Batch}
    (h : batch ∈ o.published) : batch = o.batch ∧ batch ≠ [] := by
  rw [published] at h
  split at h
  · cases h
  next hne =>
    obtain rfl := List.mem_singleton.mp h
    exact ⟨rfl, fun hnil => hne (List.isEmpty_iff.mpr hnil)⟩

/-- One call of a tick: the requests it made with the replies to them, and how it ended. -/
structure TickCall where
  trace : List Action
  outcome : TickOutcome

/-- **Sequences of ticks** from an aggregator, against any replies. A tick that has failed may be
followed by another one. -/
inductive Aggregator.Ticks (start : Aggregator) : List TickCall → Aggregator → Prop
  | start : Ticks start [] start
  | tick {calls : List TickCall} {a : Aggregator} {call : TickCall} (before : Ticks start calls a)
      (ends : Query.Ends Poll.step (.start a) call.trace call.outcome) :
      Ticks start (calls ++ [call]) call.outcome.aggregator

/-- The batches that a sequence of ticks publishes. -/
def publishedBy (calls : List TickCall) : List Batch :=
  calls.flatMap fun call => call.outcome.published

/-- The tick publishes, unless it was published before, every event of the histories that it
completes, from the cutoff of the source on. -/
def TickCall.Publishes (scopes : List (String × Instant)) (before : List TickCall)
    (call : TickCall) : Prop :=
  ∀ fetch ∈ completedFetches call.trace, ∃ cutoff, (fetch.1, cutoff) ∈ scopes ∧
    ∀ e ∈ fetch.2, cutoff ≤ e.timestamp →
      (fetch.1, e.eventId) ∉ (publishedBy before).flatten.map StreamEvent.ident →
      (fetch.1, e.eventId) ∈ call.outcome.published.flatten.map StreamEvent.ident

/-- **Delivery once and in order** by a sequence of ticks that ended with the aggregator. -/
structure Aggregator.DeliversOnce (a : Aggregator) (calls : List TickCall) : Prop where
  nodup_keys : a.keys.Nodup
  /-- No event is published twice under one key. -/
  once : ((publishedBy calls).flatten.map StreamEvent.ident).Nodup
  nonempty : [] ∉ publishedBy calls
  /-- A batch has one group for every source, in registration order. -/
  grouped : ∀ batch ∈ publishedBy calls, Grouped a.keys batch
  /-- No event is older than the cutoff of its source. -/
  inScope : ∀ p ∈ (publishedBy calls).flatten, InScope a.scopes p.stack p.event.timestamp
  /-- What is read to the end is published by the same tick, even if that one fails later on. -/
  complete : Obeys (TickCall.Publishes a.scopes) calls

theorem publishedBy_append_singleton (calls : List TickCall) (call : TickCall) :
    publishedBy (calls ++ [call]) = publishedBy calls ++ call.outcome.published := by
  rw [publishedBy, List.flatMap_append, List.flatMap_singleton]
  rfl

theorem flatten_publishedBy_append_singleton (calls : List TickCall) (call : TickCall) :
    (publishedBy (calls ++ [call])).flatten =
      (publishedBy calls).flatten ++ call.outcome.batch := by
  rw [publishedBy_append_singleton, List.flatten_append, TickOutcome.flatten_published]

/-- All that is published is what is in the batches. -/
theorem flatten_publishedBy (calls : List TickCall) :
    (publishedBy calls).flatten = calls.flatMap (·.outcome.batch) := by
  induction calls using List.reverseRecOn with
  | nil => rfl
  | append_singleton calls call ih =>
    rw [flatten_publishedBy_append_singleton, ih, List.flatMap_append, List.flatMap_singleton]

theorem Aggregator.keys_grow {a b : Aggregator} (h : a.scopes <+: b.scopes) :
    a.keys <+: b.keys := by
  rw [keys_eq, keys_eq]
  exact h.map Prod.fst

/-- A tick publishes what its sources have not delivered before. -/
theorem TickOutcome.Yields.publishes {call : TickCall} {a : Aggregator} {calls : List TickCall}
    (h : call.outcome.Yields a (publishedBy calls).flatten call.trace) :
    call.Publishes call.outcome.aggregator.scopes calls := by
  intro fetch hfetch
  obtain ⟨s, hs, hstack, hserved⟩ := h.served fetch hfetch
  refine ⟨s.cutoff, hstack ▸ List.mem_map_of_mem hs, fun e he hcutoff hnew => ?_⟩
  have hmem := (h.delivered.mem_seen s hs e.eventId).mp (hserved e he hcutoff)
  rw [hstack, List.map_append] at hmem
  rw [TickOutcome.flatten_published]
  exact (List.mem_append.mp hmem).resolve_left hnew

theorem Aggregator.Ticks.delivers {root : String} {cutoff : Instant} {calls : List TickCall}
    {a : Aggregator} (h : (Aggregator.start root cutoff).Ticks calls a) :
    a.Delivered (publishedBy calls).flatten ∧ a.DeliversOnce calls := by
  induction h with
  | start =>
    have hstart := Aggregator.delivered_start root cutoff
    exact ⟨hstart,
      { nodup_keys := hstart.nodup_keys
        once := .nil
        nonempty := List.not_mem_nil
        grouped := fun _ hbatch => nomatch hbatch
        inScope := fun _ hp => nomatch hp
        complete := obeys_nil _ }⟩
  | @tick calls a call before ends ih =>
    obtain ⟨hdelivered, honce⟩ := ih
    have hyields := Poll.yields_of_ends hdelivered ends
    have hflatten := flatten_publishedBy_append_singleton calls call
    have hnow : call.outcome.aggregator.Delivered (publishedBy (calls ++ [call])).flatten := by
      rw [hflatten]
      exact hyields.delivered
    refine ⟨hnow,
      { nodup_keys := hnow.nodup_keys
        once := hnow.once
        nonempty := ?_
        grouped := fun batch hbatch => ?_
        inScope := hnow.inScope
        complete := ?_ }⟩
    · rw [publishedBy_append_singleton, List.mem_append]
      rintro (hnil | hnil)
      · exact honce.nonempty hnil
      · exact (TickOutcome.eq_batch_of_mem_published hnil).2 rfl
    · rw [publishedBy_append_singleton, List.mem_append] at hbatch
      rcases hbatch with hbatch | hbatch
      · exact (honce.grouped batch hbatch).mono (keys_grow hyields.scopes_grow)
          hnow.nodup_keys
      · rw [(TickOutcome.eq_batch_of_mem_published hbatch).1]
        exact hyields.grouped
    · -- what earlier ticks published stays published, and scopes are only added
      refine obeys_append_singleton.mpr ⟨honce.complete.imp fun earlier c hc fetch hfetch => ?_,
        hyields.publishes⟩
      obtain ⟨cutoff, hscope, hpublished⟩ := hc fetch hfetch
      exact ⟨cutoff, hyields.scopes_grow.subset hscope, hpublished⟩

/-- **Delivery once and in order.** Whatever the service replies to the ticks of an aggregator, and
whichever of them fail: no event is published twice, no batch is empty, batches are grouped by
sources and ordered by time in each group, no event is too old, and every tick publishes all that
is new in the histories which it has read to the end. -/
theorem ticks_deliver_once {root : String} {cutoff : Instant} {calls : List TickCall}
    {a : Aggregator} (h : (Aggregator.start root cutoff).Ticks calls a) : a.DeliversOnce calls :=
  h.delivers.2

/-! ### A tick that fails -/

/-- A nested stack that was created at the epoch. -/
def addonsCreated : StackEvent :=
  { StackEvent.basic "created" "Addons" "AWS::CloudFormation::Stack" "CREATE_COMPLETE" .epoch with
    physicalId := "addons" }

/-- An event of the root stack that was read after later ones. -/
def queueCreated : StackEvent :=
  .basic "queue" "Queue" "AWS::SQS::Queue" "CREATE_COMPLETE" .epoch

/-- The tick that discovers the nested stack. -/
def discoveringTick : TickCall :=
  { trace := [.page "app" none (.ok ⟨[addonsCreated], none⟩)]
    outcome := ((Tick.start (.start "app" .epoch)).absorb [addonsCreated]).finish }

/-- The tick in which the events of the nested stack cannot be read. -/
def failingTick : TickCall :=
  { trace := [.page "app" none (.ok ⟨[queueCreated], some "1"⟩),
      .page "app" (some "1") (.ok ⟨[addonsCreated], none⟩),
      .page "addons" none (.error (.service 400 "slow down"))]
    outcome := ((Tick.start discoveringTick.outcome.aggregator).absorb
      [queueCreated, addonsCreated]).fail ⟨"addons", .service 400 "slow down"⟩ }

theorem failingTick_follows :
    (Aggregator.start "app" .epoch).Ticks [discoveringTick, failingTick]
      failingTick.outcome.aggregator := by
  have discovered := Poll.runs_page (.start (.start "app" .epoch)) .start .start rfl
    (.ok ⟨[addonsCreated], none⟩)
  have half := Poll.runs_page (.start discoveringTick.outcome.aggregator) .start .start rfl
    (.ok ⟨[queueCreated], some "1"⟩)
  have read := Poll.runs_page _ _ half rfl (.ok ⟨[addonsCreated], none⟩)
  have failed := Poll.runs_page _ _ read rfl (.error (.service 400 "slow down"))
  have first : (Aggregator.start "app" .epoch).Ticks [discoveringTick] _ :=
    Aggregator.Ticks.start.tick ⟨_, discovered, rfl⟩
  exact first.tick ⟨_, failed, rfl⟩

/-- The tick that fails publishes the event that it has read before. -/
theorem failingTick_delivers :
    (Aggregator.start "app" .epoch).Ticks [discoveringTick, failingTick]
        failingTick.outcome.aggregator ∧
      failingTick.outcome.aggregator.DeliversOnce [discoveringTick, failingTick] ∧
      publishedBy [discoveringTick, failingTick] =
        [[⟨"app", addonsCreated⟩], [⟨"app", queueCreated⟩]] :=
  ⟨failingTick_follows, ticks_deliver_once failingTick_follows, rfl⟩

end StackDeploy
