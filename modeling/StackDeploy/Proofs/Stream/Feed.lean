import StackDeploy.Proofs.Stream.Poll
import StackDeploy.Proofs.Stream.Tick
import StackDeploy.Proofs.Task
import StackDeploy.Stream.Feed

/-!
# Runs of feeds

A feed run by itself, cancelled at any moment, against a service whose histories grow while it is
asked for them page by page. What it does leaves a list of **deeds**; their number is the time by
which the histories go.

* `Feed.Runs` — the runs of a feed, with their deeds.
* `Paging`, `Timeline` — how histories are cut into pages, and how they grow.
* `Feed.sound_of_runs` — what a feed publishes is in the histories, and the stacks announced by it
  are followed.
-/

namespace StackDeploy

/-! ### Runs -/

/-- A **deed** of a feed is a call with the reply to it, or a publication. -/
inductive Deed where
  | call (request : Request) (reply : Reply request)
  | publish (batch : Batch)

/-- A page of a stack's history is asked for. -/
def Deed.page (stack : String) (token : Option String) (reply : Except ApiError EventPage) : Deed :=
  .call (.describeStackEvents stack token) reply

/-- The events that a deed publishes. -/
def Deed.published : Deed → Batch
  | .call _ _ => []
  | .publish batch => batch

/-- The events published by a list of deeds. -/
def publishedIn (deeds : List Deed) : Batch := deeds.flatMap Deed.published

@[simp] theorem publishedIn_nil : publishedIn [] = [] := rfl

@[simp] theorem publishedIn_append (first second : List Deed) :
    publishedIn (first ++ second) = publishedIn first ++ publishedIn second :=
  List.flatMap_append

@[simp] theorem publishedIn_page (stack : String) (token : Option String)
    (reply : Except ApiError EventPage) : publishedIn [.page stack token reply] = [] := rfl

@[simp] theorem publishedIn_publish (batch : Batch) : publishedIn [.publish batch] = batch :=
  List.flatMap_singleton _ _

namespace Feed

/-- A move **leads** to a feed by some deeds, whatever the service replies. A pause leads on when
its deadline has come. -/
inductive Move.Leads (clock : Clock) : Move → List Deed → Feed → Prop
  | call (request : Request) (resume : Reply request → Feed) (reply : Reply request) :
      Leads clock (.call request resume) [.call request reply] (resume reply)
  | publish (batch : Batch) (next : Feed) : Leads clock (.publish batch next) [.publish batch] next
  | goOn (next : Feed) : Leads clock (.goOn next) [] next
  | wake {deadline : Nat} (next : Feed) (due : deadline ≤ clock.timer) :
      Leads clock (.pause deadline next) [] next

/-- The **runs** from a feed: its deeds so far, and the feed they have led to. At every step the
clock may show any time, and the feed may have been cancelled or not. -/
inductive Runs (start : Feed) : List Deed → Feed → Prop
  | start : Runs start [] start
  | move {before deeds : List Deed} {f g : Feed} (clock : Clock) (cancelled : Bool)
      (run : Runs start before f) (leads : (f.step clock cancelled).Leads clock deeds g) :
      Runs start (before ++ deeds) g

/-- Runs can be put together. -/
theorem Runs.trans {f g h : Feed} {first second : List Deed} (hfg : Runs f first g)
    (hgh : Runs g second h) : Runs f (first ++ second) h := by
  induction hgh with
  | start => rwa [List.append_nil]
  | move clock cancelled _ leads ih =>
    rw [← List.append_assoc]
    exact ih.move clock cancelled leads

/-- A feed **goes on** in one of these ways. -/
inductive Goes (clock : Clock) (f : Feed) : List Deed → Feed → Prop
  | poll (hphase : f.phase = .ready) : Goes clock f [] (f.beginPoll .regular)
  | drain (hphase : f.phase = .ready ∨ ∃ deadline, f.phase = .pausing deadline) :
      Goes clock f [] f.beginDrain
  | wake {deadline : Nat} (hphase : f.phase = .pausing deadline) :
      Goes clock f [] { f with phase := .ready }
  | page {round : Round} {tick : Tick} {reader : HistoryReader} {source : EventSource}
      {waiting : List EventSource} (hphase : f.phase = .polling round (.reading tick reader))
      (hwaiting : tick.waiting = source :: waiting) (reply : Except ApiError EventPage) :
      Goes clock f [.page source.stack reader.token reply]
        { f with phase := .polling round (Poll.take tick source.stack reader reply) }
  | conclude {round : Round} {poll : Poll} {outcome : TickOutcome}
      (hphase : f.phase = .polling round poll) (hdone : poll.step = .done outcome) :
      Goes clock f [] (f.conclude clock round outcome)
  | publish {round : Round} {batch : Batch} {result : Except FetchError Nat}
      (hphase : f.phase = .publishing round batch result) :
      Goes clock f [.publish batch] (f.settle clock round result)

/-- There are no other ways. -/
theorem goes_of_leads {clock : Clock} {cancelled : Bool} {f g : Feed} {deeds : List Deed}
    (leads : (f.step clock cancelled).Leads clock deeds g) : f.Goes clock deeds g := by
  rw [step] at leads
  cases hphase : f.phase with
  | ready =>
    simp only [hphase] at leads
    cases leads
    split
    · exact .drain (.inl hphase)
    · exact .poll hphase
  | polling round poll =>
    simp only [hphase] at leads
    rcases poll.step_cases with
      ⟨outcome, hdone⟩ | ⟨tick, reader, source, waiting, rfl, hwaiting, hcall⟩
    · simp only [hdone] at leads
      cases leads
      exact .conclude hphase hdone
    · simp only [hcall] at leads
      cases leads with
      | call _ _ reply => exact .page hphase hwaiting reply
  | publishing round batch result =>
    simp only [hphase] at leads
    cases leads
    exact .publish hphase
  | pausing deadline =>
    simp only [hphase] at leads
    cases cancelled with
    | true =>
      cases leads
      exact .drain (.inr ⟨deadline, hphase⟩)
    | false =>
      cases leads
      exact .wake hphase
  | «over» result =>
    simp only [hphase] at leads
    cases leads

end Feed

/-! ### Histories that grow -/

/-- How the service cuts histories into **pages**: the part of a history that is left at a token.
Without a token all of it is left, and no token brings in other events. -/
structure Paging where
  rest : List StackEvent → Option String → List StackEvent
  rest_none : ∀ history, rest history none = history
  rest_subset : ∀ history token, rest history token ⊆ history

/-- The page takes a part off what is left of the history, and its token stands for the others. -/
def Paging.Cuts (paging : Paging) (history : List StackEvent) (token : Option String)
    (page : EventPage) : Prop :=
  paging.rest history token =
    page.events ++ page.nextToken.elim [] fun next => paging.rest history (some next)

/-- The **histories** of all stacks over time: they only grow, and events of one stack have
different identifiers. -/
structure Timeline where
  history : Nat → String → List StackEvent
  grows : ∀ {m n : Nat}, m ≤ n → ∀ stack, history m stack ⊆ history n stack
  nodup : ∀ n stack, ((history n stack).map StackEvent.eventId).Nodup

/-- The service replies to a request for events with an error or with a page of the history as it
is at that time, after the deeds before. -/
def Timeline.Serves (timeline : Timeline) (paging : Paging) (before : List Deed) : Deed → Prop
  | .call (.describeStackEvents stack token) (.ok page) =>
      paging.Cuts (timeline.history before.length stack) token page
  | _ => True

/-! ### Sound states -/

variable {histories more : String → List StackEvent} {published : Batch}

/-- An aggregator between two polls is **sound**: what was published is in the histories, and every
stack announced by it is followed. -/
structure Aggregator.Sound (histories : String → List StackEvent) (a : Aggregator)
    (published : Batch) : Prop extends a.Delivered published where
  mem_history : ∀ p ∈ published, p.event ∈ histories p.stack
  mem_keys : ∀ p ∈ published, ∀ child, p.event.Announces child → child ∈ a.keys

/-- The same in the middle of a tick; the stacks that its own batch announces may have no source
yet. -/
structure Tick.Sound (histories : String → List StackEvent) (t : Tick) (published : Batch) :
    Prop extends t.Delivered published where
  mem_history : ∀ p ∈ published ++ t.batch, p.event ∈ histories p.stack
  mem_keys : ∀ p ∈ published, ∀ child, p.event.Announces child → child ∈ t.view.keys

/-- The same for a poll that has not failed. -/
def Poll.Sound (histories : String → List StackEvent) (published : Batch) : Poll → Prop
  | .reading tick reader => tick.Sound histories published ∧
      ∀ source waiting, tick.waiting = source :: waiting →
        reader.gathered ⊆ histories source.stack
  | .over outcome => ∃ e, outcome.result = .error e

/-- The same for a feed that has not failed. -/
def Feed.Sound (histories : String → List StackEvent) (published : Batch) (f : Feed) : Prop :=
  match f.phase with
  | .ready | .pausing _ | .over (.ok ()) => f.aggregator.Sound histories published
  | .polling _ poll => poll.Sound histories published
  | .publishing _ batch (.ok _) => f.aggregator.Sound histories (published ++ batch)
  | .publishing _ _ (.error _) | .over (.error _) => True

theorem Aggregator.Sound.mono {a : Aggregator} (h : a.Sound histories published)
    (hmore : ∀ stack, histories stack ⊆ more stack) : a.Sound more published :=
  { h with mem_history := fun p hp => hmore _ (h.mem_history p hp) }

theorem Tick.Sound.mono {t : Tick} (h : t.Sound histories published)
    (hmore : ∀ stack, histories stack ⊆ more stack) : t.Sound more published :=
  { h with mem_history := fun p hp => hmore _ (h.mem_history p hp) }

theorem Poll.Sound.mono {p : Poll} (h : p.Sound histories published)
    (hmore : ∀ stack, histories stack ⊆ more stack) : p.Sound more published := by
  cases p with
  | reading tick reader =>
    exact ⟨h.1.mono hmore, fun source waiting hwaiting =>
      List.Subset.trans (h.2 source waiting hwaiting) (hmore _)⟩
  | «over» outcome => exact h

/-- What is sound stays so when the histories grow. -/
theorem Feed.Sound.mono {f : Feed} (h : f.Sound histories published)
    (hmore : ∀ stack, histories stack ⊆ more stack) : f.Sound more published := by
  obtain ⟨a, interval, phase⟩ := f
  cases phase with
  | ready | pausing => exact Aggregator.Sound.mono h hmore
  | polling round poll => exact Poll.Sound.mono h hmore
  | publishing round batch result =>
    cases result with
    | ok => exact Aggregator.Sound.mono h hmore
    | error => trivial
  | «over» result =>
    cases result with
    | ok => exact Aggregator.Sound.mono h hmore
    | error => trivial

/-! ### Ticks and polls keep sound -/

theorem Aggregator.Sound.startTick {a : Aggregator} (h : a.Sound histories published) :
    (Tick.start a).Sound histories published :=
  { toDelivered := Tick.delivered_start h.toDelivered
    mem_history := by simpa [Tick.start] using h.mem_history
    mem_keys := h.mem_keys }

theorem Aggregator.Sound.startPoll {a : Aggregator} (h : a.Sound histories published) :
    (Poll.start a).Sound histories published :=
  ⟨h.startTick, fun _ _ _ => List.nil_subset _⟩

/-- A tick stays sound when its next source reads events of its history. -/
theorem Tick.Sound.absorb {t : Tick} {source : EventSource} {waiting : List EventSource}
    (h : t.Sound histories published) (hwaiting : t.waiting = source :: waiting)
    {history : List StackEvent} (hhistory : history ⊆ histories source.stack) :
    (t.absorb history).Sound histories published := by
  have hdelivers := source.delivers_select history
  have hscopes := Tick.absorb_view_scopes hwaiting history
  obtain ⟨firstSeen, discovered, heq⟩ := Tick.exists_absorb hwaiting history
  refine
    { toDelivered := h.toDelivered.absorb hwaiting history
      mem_history := ?_
      mem_keys := ?_ }
  · rw [heq, ← List.append_assoc]
    intro p hp
    rcases List.mem_append.mp hp with hp | hp
    · exact h.mem_history p hp
    · obtain ⟨e, he, rfl⟩ := List.mem_map.mp hp
      exact hhistory (hdelivers.mem_history e he)
  · rw [Aggregator.keys_eq, hscopes, ← Aggregator.keys_eq]
    exact h.mem_keys

/-- When a tick is over the stacks announced in its batch are followed, too. -/
theorem Tick.Sound.finish {t : Tick} (h : t.Sound histories published) :
    t.finish.aggregator.Sound histories (published ++ t.batch) := by
  refine
    { toDelivered := h.toDelivered.finish
      mem_history := h.mem_history
      mem_keys := fun p hp child hchild => ?_ }
  rw [Aggregator.keys_eq, Tick.finish_scopes, List.map_append, ← Aggregator.keys_eq,
    List.mem_append]
  rcases List.mem_append.mp hp with hp | hp
  · exact .inl (h.mem_keys p hp child hchild)
  · rw [← h.view.followed_eq]
    exact h.discoveries.covered p hp child hchild

/-- A reply with events of the history keeps a poll sound. -/
theorem Poll.Sound.take {tick : Tick} {reader : HistoryReader} {source : EventSource}
    {waiting : List EventSource} (h : (Poll.reading tick reader).Sound histories published)
    (hwaiting : tick.waiting = source :: waiting) {reply : Except ApiError EventPage}
    (hreply : ∀ page, reply = .ok page → page.events ⊆ histories source.stack) :
    (Poll.take tick source.stack reader reply).Sound histories published := by
  cases reply with
  | error cause => exact ⟨_, rfl⟩
  | ok page =>
    have hread : reader.gathered ++ page.events ⊆ histories source.stack :=
      List.append_subset.mpr ⟨h.2 source waiting hwaiting, hreply page rfl⟩
    cases htoken : page.nextToken with
    | some token =>
      rw [take_more _ _ _ htoken]
      refine ⟨h.1, fun other rest hother => ?_⟩
      obtain ⟨rfl, -⟩ := List.cons.inj (hwaiting.symm.trans hother)
      exact hread
    | none =>
      rw [take_last _ _ _ htoken]
      exact ⟨h.1.absorb hwaiting hread, fun _ _ _ => List.nil_subset _⟩

/-- A poll that has not failed ends with a sound aggregator. -/
theorem Poll.Sound.outcome {p : Poll} (h : p.Sound histories published) {o : TickOutcome}
    (hdone : p.step = .done o) :
    (∃ e, o.result = .error e) ∨ o.aggregator.Sound histories (published ++ o.batch) := by
  rcases cases_of_step_eq_done hdone with rfl | ⟨tick, reader, rfl, -, rfl⟩
  · exact .inl h
  · exact .inr h.1.finish

/-! ### Feeds keep sound -/

namespace Feed

theorem sound_start (root : String) (cutoff : Instant) (interval : Nat) :
    (Feed.start root cutoff interval).Sound histories [] :=
  { toDelivered := Aggregator.delivered_start root cutoff
    mem_history := fun _ hp => nomatch hp
    mem_keys := fun _ hp => nomatch hp }

theorem sound_beginPoll {f : Feed} (h : f.aggregator.Sound histories published) (round : Round) :
    (f.beginPoll round).Sound histories published :=
  h.startPoll

theorem sound_settle {clock : Clock} {f : Feed} {round : Round} {result : Except FetchError Nat}
    (h : (∃ e, result = .error e) ∨ f.aggregator.Sound histories published) :
    (f.settle clock round result).Sound histories published := by
  cases result with
  | error e => trivial
  | ok discovered =>
    have hsound : f.aggregator.Sound histories published := by simpa using h
    cases round with
    | regular => exact hsound
    | draining left =>
      rw [settle.eq_def]
      dsimp only
      split
      · exact hsound
      · exact sound_beginPoll hsound _

/-- A batch is either published before the feed settles, or it is empty. -/
theorem sound_conclude {clock : Clock} {f : Feed} {round : Round} {o : TickOutcome}
    (h : (∃ e, o.result = .error e) ∨ o.aggregator.Sound histories (published ++ o.batch)) :
    (f.conclude clock round o).Sound histories published := by
  rw [conclude]
  split
  next hempty =>
    rw [List.isEmpty_iff.mp hempty, List.append_nil] at h
    exact sound_settle h
  · obtain ⟨aggregator, batch, result⟩ := o
    cases result with
    | error e => trivial
    | ok discovered => exact h.resolve_left fun ⟨e, he⟩ => nomatch he

/-- Pages of the histories keep a feed sound. -/
theorem Sound.goes {clock : Clock} {f g : Feed} {deeds : List Deed}
    (h : f.Sound histories published) (goes : f.Goes clock deeds g)
    (hpages : ∀ stack token page, deeds = [.page stack token (.ok page)] →
      page.events ⊆ histories stack) :
    g.Sound histories (published ++ publishedIn deeds) := by
  obtain ⟨a, interval, phase⟩ := f
  cases goes with
  | poll hphase =>
    obtain rfl : phase = .ready := hphase
    rw [publishedIn_nil, List.append_nil]
    exact sound_beginPoll h .regular
  | drain hphase =>
    have hsound : a.Sound histories published := by
      obtain rfl | ⟨deadline, rfl⟩ : phase = .ready ∨ ∃ deadline, phase = .pausing deadline :=
        hphase
      · exact h
      · exact h
    rw [publishedIn_nil, List.append_nil]
    exact sound_beginPoll hsound (.draining maxDrainRounds)
  | @wake deadline hphase =>
    obtain rfl : phase = .pausing deadline := hphase
    rw [publishedIn_nil, List.append_nil]
    exact h
  | @page round tick reader source waiting hphase hwaiting reply =>
    obtain rfl : phase = .polling round (.reading tick reader) := hphase
    rw [publishedIn_page, List.append_nil]
    exact Poll.Sound.take h hwaiting fun page hpage => hpages _ _ page (by rw [hpage])
  | @conclude round poll outcome hphase hdone =>
    obtain rfl : phase = .polling round poll := hphase
    rw [publishedIn_nil, List.append_nil]
    exact sound_conclude (Poll.Sound.outcome h hdone)
  | @publish round batch result hphase =>
    obtain rfl : phase = .publishing round batch result := hphase
    rw [publishedIn_publish]
    refine sound_settle ?_
    cases result with
    | error e => exact .inl ⟨e, rfl⟩
    | ok discovered => exact .inr h

end Feed

/-- A page of a history holds events of it. -/
theorem Paging.Cuts.events_subset {paging : Paging} {history : List StackEvent}
    {token : Option String} {page : EventPage} (h : paging.Cuts history token page) :
    page.events ⊆ history := by
  refine List.Subset.trans ?_ (paging.rest_subset history token)
  rw [h]
  exact List.subset_append_left _ _

/-- **Soundness.** Everything that a feed publishes is in the histories as they are by then, and as
long as it has not failed the announced stacks are followed. -/
theorem Feed.sound_of_runs {paging : Paging} {timeline : Timeline} {root : String}
    {cutoff : Instant} {interval : Nat} {deeds : List Deed} {f : Feed}
    (run : (Feed.start root cutoff interval).Runs deeds f)
    (hserved : Obeys (timeline.Serves paging) deeds) :
    f.Sound (timeline.history deeds.length) (publishedIn deeds) := by
  induction run with
  | start => exact sound_start root cutoff interval
  | @move before deeds f g clock cancelled run leads ih =>
    rw [publishedIn_append]
    refine ((ih hserved.left).goes (goes_of_leads leads) ?_).mono
      (timeline.grows (by simp))
    rintro stack token page rfl
    exact Paging.Cuts.events_subset (obeys_append_singleton.mp hserved).2

end StackDeploy
