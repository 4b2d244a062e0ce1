import StackDeploy.Proofs.Stream.Announcement
import StackDeploy.Proofs.Stream.Delivery

/-!
# Ticks that are tried again

A tick that fails has published what the sources before the failing one had to say, and these
sources remember it. Tried again on the same histories, a tick publishes the rest, and if the
failing tick has announced no stacks, both together come to what one undisturbed tick comes to.

A delivered event that announces a stack is to give it a source. The tick does not keep to this when
it fails: it publishes its events, and returns before it registers the stacks that they announce. To
the retry these events are no news, so that nothing makes good for it. How far the sources differ
from those of an undisturbed tick is stated exactly.

* `discoveries` — the stacks that a batch makes a tick discover.
* `Tick.between` — a tick in progress, by the histories of the sources that it has polled.
* `Poll.between_of_ends` — every poll of given histories ends as such a tick.
* `EventSource.select_select` — a history that was taken in has nothing more to say.
* `retry_publishes_rest` — two ticks, the first of which fails, beside one that does not.
* `announced_stack_is_lost` — the defect: a delivered announcement that no tick acts on.
-/

namespace StackDeploy

/-! ### Discoveries of a batch -/

/-- What a batch makes a tick **discover**: the stacks that it announces and that are not followed,
each from the earliest sighting by then of the resource that announces it first. -/
def discoveries (followed : List String) (table : FirstSeen) : Batch → List (String × Instant)
  | [] => []
  | p :: rest =>
    (p.event.announced? followed).toList.map
        (fun child => (child, ((table.sight p).get? p.resource).getD p.event.timestamp)) ++
      discoveries (followed ++ (p.event.announced? followed).toList) (table.sight p) rest

section Discoveries

variable {followed other : List String} {table : FirstSeen} {batch : Batch}

/-- In which order the stacks were followed does not matter. -/
theorem discoveries_congr (h : ∀ child, child ∈ followed ↔ child ∈ other) (table : FirstSeen)
    (batch : Batch) : discoveries followed table batch = discoveries other table batch := by
  induction batch generalizing followed other table with
  | nil => rfl
  | cons p rest ih =>
    have hannounced : p.event.announced? followed = p.event.announced? other := by
      refine Option.ext fun child => ?_
      rw [StackEvent.announced?_eq_some, StackEvent.announced?_eq_some, h]
    rw [discoveries, discoveries, hannounced]
    refine congrArg _ (ih (fun child => ?_) _)
    rw [List.mem_append, List.mem_append, h]

theorem discoveries_append (followed : List String) (table : FirstSeen) (first second : Batch) :
    discoveries followed table (first ++ second) =
      discoveries followed table first ++
        discoveries (followed ++ (discoveries followed table first).map Prod.fst)
          (first.foldl FirstSeen.sight table) second := by
  induction first generalizing followed table with
  | nil => rw [List.nil_append, discoveries, List.map_nil, List.append_nil]; rfl
  | cons p rest ih =>
    have hannounced : (p.event.announced? followed).toList = List.map Prod.fst
        ((p.event.announced? followed).toList.map fun child =>
          (child, ((table.sight p).get? p.resource).getD p.event.timestamp)) := by
      rw [List.map_map]
      exact (List.map_id _).symm
    rw [List.cons_append, discoveries, ih, discoveries, List.map_append, ← hannounced,
      List.append_assoc, List.append_assoc]
    rfl

/-- Stacks that are followed already are not discovered. -/
theorem discoveries_append_followed (followed extra : List String) (table : FirstSeen)
    (batch : Batch) : discoveries (followed ++ extra) table batch =
      (discoveries followed table batch).filter fun d => decide (d.1 ∉ extra) := by
  induction batch generalizing followed table with
  | nil => rfl
  | cons p rest ih =>
    rw [discoveries, discoveries, List.filter_append, StackEvent.announced?_append, ← ih]
    generalize p.event.announced? followed = announced?
    have hfollowed (other : String) :
        other ∈ followed ++ extra ++ (announced?.filter fun child => !extra.contains child).toList ↔
          other ∈ followed ++ announced?.toList ++ extra := by
      cases announced? with
      | none => simp
      | some child =>
        -- a stack among the extra ones is not added, but it is there
        by_cases hchild : child ∈ extra
        · have hother : other = child → other ∈ extra := fun h => h ▸ hchild
          simp [Option.filter, hchild]
          tauto
        · simp [Option.filter, hchild]
          tauto
    rw [discoveries_congr hfollowed]
    refine congrArg (· ++ _) ?_
    cases announced? with
    | none => rfl
    | some child => by_cases hchild : child ∈ extra <;> simp [Option.filter, hchild]

/-- The stacks are the ones of the first announcements. -/
theorem map_fst_discoveries (followed : List String) (table : FirstSeen) (batch : Batch) :
    (discoveries followed table batch).map Prod.fst =
      (firstAnnouncements followed batch).map StreamEvent.child := by
  induction batch generalizing followed table with
  | nil => rfl
  | cons p rest ih =>
    rw [discoveries, List.map_append, ih]
    cases h : p.event.announced? followed with
    | none =>
      rw [firstAnnouncements_cons_of_none h]
      simp
    | some child =>
      rw [firstAnnouncements_cons_of_some h, List.map_cons, child_of_announced? h]
      rfl

end Discoveries

/-! ### Taking in histories again -/

/-- A history that was taken in has nothing more to say. -/
theorem EventSource.select_select (s : EventSource) (history : List StackEvent) :
    (s.select history).2.select history = ([], (s.select history).2) := by
  have hdelivers := s.delivers_select history
  have hagain := (s.select history).2.delivers_select history
  have hnil : ((s.select history).2.select history).1 = [] := by
    refine List.eq_nil_iff_forall_not_mem.mpr fun e he => hagain.unseen e he ?_
    have hcutoff := hagain.cutoff_le e he
    rw [hdelivers.cutoff_eq] at hcutoff
    exact hdelivers.complete e (hagain.mem_history e he) hcutoff
  have hseen := hagain.seen_eq
  rw [hnil, List.map_nil, List.reverse_nil, List.nil_append] at hseen
  exact Prod.ext hnil (congrArg (EventSource.mk s.stack s.cutoff) hseen)

/-! ### Ticks of given histories -/

/-- What a source has to say. -/
def EventSource.news (s : EventSource) (histories : String → List StackEvent) : Batch :=
  (s.select (histories s.stack)).1.map fun e => ⟨s.stack, e⟩

/-- The source when it has said that. -/
def EventSource.updated (s : EventSource) (histories : String → List StackEvent) : EventSource :=
  (s.select (histories s.stack)).2

theorem EventSource.news_updated (s : EventSource) (histories : String → List StackEvent) :
    (s.updated histories).news histories = [] := by
  show (((s.select (histories s.stack)).2.select (histories s.stack)).1.map _) = []
  rw [select_select, List.map_nil]

theorem EventSource.updated_updated (s : EventSource) (histories : String → List StackEvent) :
    (s.updated histories).updated histories = s.updated histories := by
  show ((s.select (histories s.stack)).2.select (histories s.stack)).2 = _
  rw [select_select]
  rfl

namespace Tick

variable {a : Aggregator} {histories : String → List StackEvent} {first rest : List EventSource}
  {s : EventSource}

/-- Delivering the events of a stack. -/
theorem foldl_deliver_eq (stack : String) (t : Tick) (events : List StackEvent) :
    events.foldl (deliver stack) t =
      { t with
        firstSeen := (events.map (StreamEvent.mk stack)).foldl FirstSeen.sight t.firstSeen
        discovered := t.discovered ++ discoveries (t.followed ++ t.discovered.map Prod.fst)
          t.firstSeen (events.map (StreamEvent.mk stack))
        batch := t.batch ++ events.map (StreamEvent.mk stack) } := by
  induction events generalizing t with
  | nil => simp [discoveries]
  | cons e es ih =>
    rw [List.foldl_cons, ih, deliver, note_eq]
    simp [discoveries, StreamEvent.resource, Function.comp_def]

/-- A tick **between** two sources: the first ones were polled, and the rest is waiting. -/
def between (a : Aggregator) (histories : String → List StackEvent)
    (first rest : List EventSource) : Tick :=
  { polled := first.map (·.updated histories)
    waiting := rest
    followed := a.followed
    firstSeen := (first.flatMap (·.news histories)).foldl FirstSeen.sight a.firstSeen
    discovered := discoveries a.followed a.firstSeen (first.flatMap (·.news histories))
    batch := first.flatMap (·.news histories) }

theorem between_absorb :
    (between a histories first (s :: rest)).absorb (histories s.stack) =
      between a histories (first ++ [s]) rest := by
  rw [absorb_eq rfl, foldl_deliver_eq]
  simp only [between, List.map_append, List.flatMap_append, List.foldl_append, discoveries_append,
    List.flatMap_singleton]
  rfl

end Tick

/-- The completed histories of a trace are the given ones. -/
def ReadsFrom (histories : String → List StackEvent) (trace : List Action) : Prop :=
  ∀ fetch ∈ completedFetches trace, fetch.2 = histories fetch.1

theorem PagesRead.completed_subset_take (r : PagesRead) (a : Action) :
    r.completed ⊆ (r.take a).completed := by
  fun_cases take r a with
  | case1 | case3 => exact fun _ h => h
  | case2 => exact List.subset_append_left _ _

theorem ReadsFrom.left {histories : String → List StackEvent} {trace : List Action} {a : Action}
    (h : ReadsFrom histories (trace ++ [a])) : ReadsFrom histories trace := by
  intro fetch hfetch
  refine h fetch ?_
  rw [completedFetches, PagesRead.ofTrace_append_singleton]
  exact PagesRead.completed_subset_take _ a hfetch

namespace Poll

variable {a : Aggregator} {histories : String → List StackEvent} {trace : List Action} {p : Poll}
  {o : TickOutcome}

/-- A poll in progress is **between** two sources, maybe in the middle of a history; one that has
failed was so when it failed. -/
def Between (a : Aggregator) (histories : String → List StackEvent) (trace : List Action) :
    Poll → Prop
  | .reading tick reader => ∃ first rest, a.sources = first ++ rest ∧
      tick = .between a histories first rest ∧
      reader.gathered = (PagesRead.ofTrace trace).gathered
  | .over outcome => ∃ first rest e, a.sources = first ++ rest ∧
      outcome = (Tick.between a histories first rest).fail e

/-- A reply is taken in by the source whose turn it is. -/
theorem between_take {first rest : List EventSource} {s : EventSource} {reader : HistoryReader}
    (hsources : a.sources = first ++ s :: rest)
    (hgathered : reader.gathered = (PagesRead.ofTrace trace).gathered)
    (reply : Except ApiError EventPage)
    (hread : ReadsFrom histories (trace ++ [.page s.stack reader.token reply])) :
    (Poll.take (.between a histories first (s :: rest)) s.stack reader reply).Between a histories
      (trace ++ [.page s.stack reader.token reply]) := by
  have htrace := PagesRead.ofTrace_append_singleton trace (.page s.stack reader.token reply)
  cases reply with
  | error cause => exact ⟨first, s :: rest, ⟨s.stack, cause⟩, hsources, rfl⟩
  | ok page =>
    cases htoken : page.nextToken with
    | some token =>
      rw [PagesRead.take_more _ _ _ htoken, ← hgathered] at htrace
      rw [take_more _ _ _ htoken]
      exact ⟨first, s :: rest, hsources, rfl, by rw [htrace]⟩
    | none =>
      rw [PagesRead.take_last _ _ _ htoken, ← hgathered] at htrace
      -- the history that this page completes is the given one
      have hhistory : reader.gathered ++ page.events = histories s.stack := by
        refine hread (s.stack, reader.gathered ++ page.events) ?_
        rw [completedFetches, htrace]
        exact List.mem_append_right _ (List.mem_singleton_self _)
      rw [take_last _ _ _ htoken, hhistory, Tick.between_absorb]
      exact ⟨first ++ [s], rest, by rw [hsources]; simp, rfl, by rw [htrace]; rfl⟩

theorem between_of_runs (run : Query.Runs Poll.step (.start a) trace p)
    (hread : ReadsFrom histories trace) : p.Between a histories trace := by
  induction run with
  | start => exact ⟨[], a.sources, rfl, rfl, rfl⟩
  | @call trace p request resume run hstep reply ih =>
    have hbetween := ih hread.left
    rcases p.step_cases with
      ⟨outcome, hdone⟩ | ⟨tick, reader, source, waiting, rfl, hwaiting, hcall⟩
    · rw [hdone] at hstep
      cases hstep
    · obtain ⟨first, rest, hsources, rfl, hgathered⟩ := hbetween
      obtain rfl : rest = source :: waiting := hwaiting
      rw [hcall] at hstep
      cases hstep
      exact between_take hsources hgathered reply hread

/-- **A poll of given histories** that fails has polled the first of the sources. -/
theorem eq_fail_of_ends (ends : Query.Ends Poll.step (.start a) trace o)
    (hread : ReadsFrom histories trace) {e : FetchError} (hresult : o.result = .error e) :
    ∃ first rest, a.sources = first ++ rest ∧
      o = (Tick.between a histories first rest).fail e := by
  obtain ⟨p, run, hdone⟩ := ends
  have hbetween := between_of_runs run hread
  rcases cases_of_step_eq_done hdone with rfl | ⟨tick, reader, rfl, -, rfl⟩
  · obtain ⟨first, rest, e', hsources, rfl⟩ := hbetween
    cases hresult
    exact ⟨first, rest, hsources, rfl⟩
  · cases hresult

/-- **A poll of given histories** that succeeds has polled all sources. -/
theorem eq_finish_of_ends (ends : Query.Ends Poll.step (.start a) trace o)
    (hread : ReadsFrom histories trace) {n : Nat} (hresult : o.result = .ok n) :
    o = (Tick.between a histories a.sources []).finish := by
  obtain ⟨p, run, hdone⟩ := ends
  have hbetween := between_of_runs run hread
  rcases cases_of_step_eq_done hdone with rfl | ⟨tick, reader, rfl, hwaiting, rfl⟩
  · obtain ⟨first, rest, e', -, rfl⟩ := hbetween
    cases hresult
  · obtain ⟨first, rest, hsources, rfl, -⟩ := hbetween
    obtain rfl : rest = [] := hwaiting
    rw [hsources, List.append_nil]

end Poll

/-! ### A failure and a retry -/

section Retry

variable {a : Aggregator} {histories : String → List StackEvent} {first rest : List EventSource}

/-- **A retry polls what is left**: the sources that were polled by the tick that failed have
nothing to say. -/
theorem Tick.between_fail (e : FetchError) :
    Tick.between ((Tick.between a histories first rest).fail e).aggregator histories
        (first.map (·.updated histories) ++ rest) [] =
      { polled := (first ++ rest).map (·.updated histories)
        waiting := []
        followed := a.followed
        firstSeen := ((first ++ rest).flatMap (·.news histories)).foldl FirstSeen.sight a.firstSeen
        discovered := discoveries a.followed
          ((first.flatMap (·.news histories)).foldl FirstSeen.sight a.firstSeen)
          (rest.flatMap (·.news histories))
        batch := rest.flatMap (·.news histories) } := by
  have hnews : (first.map (·.updated histories) ++ rest).flatMap (·.news histories) =
      rest.flatMap (·.news histories) := by
    have hnil : (first.map (·.updated histories)).flatMap (·.news histories) = [] := by
      simp [List.flatMap_map, EventSource.news_updated]
    rw [List.flatMap_append, hnil, List.nil_append]
  have hpolled : (first.map (·.updated histories) ++ rest).map (·.updated histories) =
      (first ++ rest).map (·.updated histories) := by
    simp [Function.comp_def, EventSource.updated_updated]
  rw [between, hnews, hpolled, List.flatMap_append, List.foldl_append]
  rfl

end Retry

/-- **A tick that has failed can be tried again.** From any state of an aggregator: if a tick fails
because a history cannot be read, and the next one reads all of them, unchanged, then both together
publish what one undisturbed tick publishes, in the same order, and none of it twice. All that was
followed before has seen the same, and the same was sighted. If the failing tick has announced no
stacks, then the aggregator is the same altogether. In any case the retry follows the stacks that
its own batch announces, and what it may lack is the stacks that the failing tick has announced and,
by its defect, not registered. -/
theorem retry_publishes_rest {a : Aggregator} {histories : String → List StackEvent}
    {failing retry whole : TickCall} {e : FetchError} {n m : Nat}
    (failed : Query.Ends Poll.step (.start a) failing.trace failing.outcome)
    (hfailed : failing.outcome.result = .error e)
    (retried : Query.Ends Poll.step (.start failing.outcome.aggregator) retry.trace retry.outcome)
    (hretried : retry.outcome.result = .ok n)
    (undisturbed : Query.Ends Poll.step (.start a) whole.trace whole.outcome)
    (hwhole : whole.outcome.result = .ok m)
    (hread : ∀ call ∈ [failing, retry, whole], ReadsFrom histories call.trace) :
    (publishedBy [failing, retry]).flatten = (publishedBy [whole]).flatten ∧
      (∀ root cutoff calls, (Aggregator.start root cutoff).Ticks calls a →
        ((publishedBy (calls ++ [failing, retry])).flatten.map StreamEvent.ident).Nodup) ∧
      retry.outcome.aggregator.firstSeen = whole.outcome.aggregator.firstSeen ∧
      (firstAnnouncements a.followed failing.outcome.batch = [] →
        retry.outcome.aggregator = whole.outcome.aggregator) ∧
      ∃ (polled : List EventSource) (lost found : List (String × Instant)),
        polled.map EventSource.scope = a.scopes ∧
        lost.map Prod.fst =
          (firstAnnouncements a.followed failing.outcome.batch).map StreamEvent.child ∧
        found.map Prod.fst =
          (firstAnnouncements a.followed retry.outcome.batch).map StreamEvent.child ∧
        retry.outcome.aggregator.sources =
          polled ++ found.map (fun d => .start d.1 d.2) ∧
        whole.outcome.aggregator.sources =
          polled ++ (lost ++ found.filter fun d => decide (d.1 ∉ lost.map Prod.fst)).map
            fun d => .start d.1 d.2 := by
  obtain ⟨hreadFailing, hreadRetry, hreadWhole⟩ : ReadsFrom histories failing.trace ∧
      ReadsFrom histories retry.trace ∧ ReadsFrom histories whole.trace := by
    simpa using hread
  obtain ⟨first, rest, hsources, heq⟩ := Poll.eq_fail_of_ends failed hreadFailing hfailed
  have heqRetry := Poll.eq_finish_of_ends retried hreadRetry hretried
  have heqWhole := Poll.eq_finish_of_ends undisturbed hreadWhole hwhole
  rw [hsources] at heqWhole
  have hleft : ((Tick.between a histories first rest).fail e).aggregator.sources =
      first.map (·.updated histories) ++ rest := rfl
  rw [heq, hleft, Tick.between_fail] at heqRetry
  have hlost :
      (discoveries a.followed a.firstSeen (first.flatMap (·.news histories))).map Prod.fst =
        (firstAnnouncements a.followed failing.outcome.batch).map StreamEvent.child := by
    rw [map_fst_discoveries, heq]
    rfl
  refine ⟨?_, fun root cutoff calls reached => ?_, ?_, fun hnone => ?_, ?_⟩
  · rw [flatten_publishedBy, flatten_publishedBy, List.flatMap_singleton, List.flatMap_cons,
      List.flatMap_singleton, heq, heqRetry, heqWhole]
    exact List.flatMap_append.symm
  · have hdelivered := ((reached.tick failed).tick retried).delivers.1.once
    rwa [List.append_assoc] at hdelivered
  · rw [heqRetry, heqWhole]
    rfl
  · -- nothing was discovered before the failure
    rw [hnone, List.map_nil, List.map_eq_nil_iff] at hlost
    have hdiscovered := discoveries_append a.followed a.firstSeen
      (first.flatMap (·.news histories)) (rest.flatMap (·.news histories))
    rw [hlost, List.map_nil, List.append_nil, List.nil_append, ← List.flatMap_append]
      at hdiscovered
    rw [heqRetry, heqWhole, Tick.between, hdiscovered]
    rfl
  · refine ⟨(first ++ rest).map (·.updated histories),
      discoveries a.followed a.firstSeen (first.flatMap (·.news histories)),
      discoveries a.followed ((first.flatMap (·.news histories)).foldl FirstSeen.sight a.firstSeen)
        (rest.flatMap (·.news histories)), ?_, hlost, ?_, ?_, ?_⟩
    · rw [Aggregator.scopes, hsources, List.map_map]
      rfl
    · rw [map_fst_discoveries, heqRetry]
      rfl
    · rw [heqRetry]
      simp [Tick.finish]
    · rw [heqWhole, ← discoveries_append_followed, ← discoveries_append, ← List.flatMap_append]
      simp [Tick.finish, Tick.between]

/-! ### An announcement that is not acted on -/

/-- Another nested stack. -/
def moreCreated : StackEvent :=
  { StackEvent.basic "more" "More" "AWS::CloudFormation::Stack" "CREATE_COMPLETE" .epoch with
    physicalId := "more" }

/-- The root stack announces two nested stacks, of which nothing else is known. -/
def moreHistories (stack : String) : List StackEvent :=
  if stack = "app" then [moreCreated, addonsCreated] else []

/-- The tick that comes across the second nested stack, and then cannot read the events of the
first. -/
def losingTick : TickCall :=
  { trace := [.page "app" none (.ok ⟨[moreCreated, addonsCreated], none⟩),
      .page "addons" none (.error (.service 500 "slow down"))]
    outcome := ((Tick.start discoveringTick.outcome.aggregator).absorb
      [moreCreated, addonsCreated]).fail ⟨"addons", .service 500 "slow down"⟩ }

/-- A tick that reads the events of both stacks. -/
def readingTick (a : Aggregator) : TickCall :=
  { trace := [.page "app" none (.ok ⟨[moreCreated, addonsCreated], none⟩),
      .page "addons" none (.ok ⟨[], none⟩)]
    outcome := (((Tick.start a).absorb [moreCreated, addonsCreated]).absorb []).finish }

theorem losingTick_ends : Query.Ends Poll.step (.start discoveringTick.outcome.aggregator)
    losingTick.trace losingTick.outcome := by
  have read := Poll.runs_page (.start discoveringTick.outcome.aggregator) .start .start rfl
    (.ok ⟨[moreCreated, addonsCreated], none⟩)
  have failed := Poll.runs_page _ _ read rfl (.error (.service 500 "slow down"))
  exact ⟨_, failed, rfl⟩

theorem readingTick_ends {a : Aggregator} {app addons : EventSource}
    (hsources : a.sources = [app, addons]) (happ : app.stack = "app")
    (haddons : addons.stack = "addons") :
    Query.Ends Poll.step (.start a) (readingTick a).trace (readingTick a).outcome := by
  obtain ⟨sources, followed, firstSeen⟩ := a
  obtain ⟨stack, cutoff, seen⟩ := app
  obtain ⟨nested, since, nestedSeen⟩ := addons
  obtain rfl : sources = _ := hsources
  obtain rfl : stack = "app" := happ
  obtain rfl : nested = "addons" := haddons
  have read := Poll.runs_page (.start ⟨[⟨"app", cutoff, seen⟩, ⟨"addons", since, nestedSeen⟩],
    followed, firstSeen⟩) .start .start rfl (.ok ⟨[moreCreated, addonsCreated], none⟩)
  have readBoth := Poll.runs_page _ _ read rfl (.ok ⟨[], none⟩)
  exact ⟨_, readBoth, rfl⟩

theorem losingTick_reads : ReadsFrom moreHistories losingTick.trace := by
  have hcompleted : completedFetches losingTick.trace =
      [("app", [moreCreated, addonsCreated])] := rfl
  rw [ReadsFrom, hcompleted, List.forall_mem_singleton]
  rfl

theorem readingTick_reads (a : Aggregator) : ReadsFrom moreHistories (readingTick a).trace := by
  have hcompleted : completedFetches (readingTick a).trace =
      [("app", [moreCreated, addonsCreated]), ("addons", [])] := rfl
  rw [ReadsFrom, hcompleted, List.forall_mem_cons, List.forall_mem_singleton]
  exact ⟨rfl, rfl⟩

/-- The tick is tried again and publishes nothing more, since the other stack has no events. -/
theorem losingTick_can_be_retried :
    losingTick.outcome.result = .error ⟨"addons", .service 500 "slow down"⟩ ∧
      (publishedBy [losingTick, readingTick losingTick.outcome.aggregator]).flatten =
        (publishedBy [readingTick discoveringTick.outcome.aggregator]).flatten ∧
      (publishedBy [losingTick, readingTick losingTick.outcome.aggregator]).flatten =
        [⟨"app", moreCreated⟩] := by
  have hread : ∀ call ∈ [losingTick, readingTick losingTick.outcome.aggregator,
      readingTick discoveringTick.outcome.aggregator], ReadsFrom moreHistories call.trace := by
    simp [losingTick_reads, readingTick_reads]
  have hpublished := (retry_publishes_rest losingTick_ends rfl (readingTick_ends rfl rfl rfl) rfl
    (readingTick_ends rfl rfl rfl) rfl hread).1
  exact ⟨rfl, hpublished, rfl⟩

/-- The defect: the failing tick publishes the announcement of a stack and does not register it. An
undisturbed tick follows the stack, but the retry, on the same histories, does not, and so **an
announced stack is lost**. -/
theorem announced_stack_is_lost :
    (Aggregator.start "app" .epoch).Ticks
        [discoveringTick, losingTick, readingTick losingTick.outcome.aggregator]
        (readingTick losingTick.outcome.aggregator).outcome.aggregator ∧
      (Aggregator.start "app" .epoch).Ticks
        [discoveringTick, readingTick discoveringTick.outcome.aggregator]
        (readingTick discoveringTick.outcome.aggregator).outcome.aggregator ∧
      losingTick.outcome.batch = [⟨"app", moreCreated⟩] ∧
      (readingTick losingTick.outcome.aggregator).outcome.aggregator.keys = ["app", "addons"] ∧
      (readingTick discoveringTick.outcome.aggregator).outcome.aggregator.keys =
        ["app", "addons", "more"] := by
  have discovered := Poll.runs_page (.start (.start "app" .epoch)) .start .start rfl
    (.ok ⟨[addonsCreated], none⟩)
  have first : (Aggregator.start "app" .epoch).Ticks [discoveringTick] _ :=
    Aggregator.Ticks.start.tick ⟨_, discovered, rfl⟩
  exact ⟨(first.tick losingTick_ends).tick (readingTick_ends rfl rfl rfl),
    first.tick (readingTick_ends rfl rfl rfl), rfl, rfl, rfl⟩

end StackDeploy
