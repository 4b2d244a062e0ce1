import StackDeploy.Deployment.Simulation
import StackDeploy.Proofs.Service.History
import StackDeploy.Proofs.Stream.Feed
import StackDeploy.Proofs.Stream.Reading

/-!
# Paging through a history that moves

A fetch asks a scripted service for one page after the other, and events are pushed in between. The
tokens are offsets from the newest event, so a push moves the events that are still to come; the
fetch reads some of them twice then, but it misses none.

* `cuts_of_describeStackEvents` — the pages of a scripted service are cut from its histories.
* `Scene.Serving` — a scene that is about to be asked for a page.
* `Scene.Serving.next` — the same after a page.
* `fetch_loses_nothing` — what a whole fetch returns, and how many pages it asks for.
-/

namespace StackDeploy

open ScriptedService

/-! ### Pages by offset -/

/-- **Pages by offset**: a token is the number of the newest events that were read. -/
def offsetPages : Paging where
  rest history token := history.drop ((token.bind readToken?).getD 0)
  rest_none _ := rfl
  rest_subset history _ := List.drop_subset _ history

theorem rest_offsetPages (history : List StackEvent) (token : Option String) :
    offsetPages.rest history token = history.drop ((token.bind readToken?).getD 0) := rfl

/-- The page at an offset is cut from the history, newest first. -/
theorem cuts_page {history : List StackEvent} (hlength : history.length ≤ 2 ^ 64) (size : Nat)
    (token : Option String) :
    offsetPages.Cuts history.reverse token
      (page size history ((token.bind readToken?).getD 0)) := by
  rw [Paging.Cuts, rest_offsetPages, page]
  generalize (token.bind readToken?).getD 0 = offset
  by_cases hmore : offset + size < history.length
  · have hnext : readToken? (Text.natText (offset + size)) = some (offset + size) :=
      readToken?_natText (Nat.lt_of_lt_of_le hmore hlength)
    rw [if_pos hmore, Option.elim_some, rest_offsetPages, Option.bind_some, hnext,
      Option.getD_some, ← List.drop_drop, List.take_append_drop]
  · have hlast : (history.reverse.drop offset).length ≤ size := by
      rw [List.length_drop, List.length_reverse]
      omega
    rw [if_neg hmore, Option.elim_none, List.append_nil, List.take_of_length_le hlast]

/-- Every page that a scripted service gives is cut from the history of its stack. -/
theorem cuts_of_describeStackEvents {s : ScriptedService} {stack : String}
    {history : List StackEvent} (hknown : s.history? stack = some history)
    (hlength : history.length ≤ 2 ^ 64) {token : Option String} {given : EventPage}
    (hgiven : s.describeStackEvents stack token = .ok given) :
    offsetPages.Cuts history.reverse token given := by
  have hcuts := cuts_page hlength s.pageSize token
  cases token with
  | none =>
    rw [describeStackEvents_none hknown] at hgiven
    cases hgiven
    exact hcuts
  | some token =>
    rw [describeStackEvents_some hknown] at hgiven
    split at hgiven
    · cases hgiven
    next offset hread =>
      cases hgiven
      rwa [Option.bind_some, hread, Option.getD_some] at hcuts

/-! ### Scheduled pushes -/

/-- The events pushed to a stack just before those calls for events that satisfy the condition. -/
def scheduled (interventions : List Intervention) (stack : String) (call : Nat → Bool) :
    List StackEvent :=
  ((interventions.filter fun i => i.operation == .describeStackEvents && call i.call).flatMap
    (·.cues)).filterMap (Cue.pushed? stack)

/-- The events pushed just before one call. -/
def pushedAt (interventions : List Intervention) (stack : String) (call : Nat) : List StackEvent :=
  scheduled interventions stack (· == call)

/-- The events pushed before later calls. -/
def pushedAfter (interventions : List Intervention) (stack : String) (call : Nat) :
    List StackEvent :=
  scheduled interventions stack (decide <| call < ·)

/-- The events pushed after a call and before the last one of so many further calls. -/
def pushedWithin (interventions : List Intervention) (stack : String) (call count : Nat) :
    List StackEvent :=
  (List.range' (call + 1) count).flatMap (pushedAt interventions stack)

theorem pushedWithin_succ (interventions : List Intervention) (stack : String) (call count : Nat) :
    pushedWithin interventions stack call (count + 1) =
      pushedAt interventions stack (call + 1) ++
        pushedWithin interventions stack (call + 1) count := by
  rw [pushedWithin, List.range'_succ, List.flatMap_cons, pushedWithin]

/-- Later calls are the next call and those after it. -/
theorem perm_pushedAfter (interventions : List Intervention) (stack : String) (call : Nat) :
    (pushedAfter interventions stack call).Perm
      (pushedAt interventions stack (call + 1) ++
        pushedAfter interventions stack (call + 1)) := by
  have hnext : (interventions.filter fun i =>
        i.operation == .describeStackEvents && i.call == call + 1) =
      (interventions.filter fun i =>
        i.operation == .describeStackEvents && decide (call < i.call)).filter
          fun i => i.call == call + 1 := by
    rw [List.filter_filter]
    refine List.filter_congr fun i _ => ?_
    by_cases hcall : i.call = call + 1
    · simp [hcall]
    · rw [beq_eq_false_iff_ne.mpr hcall, Bool.and_false, Bool.false_and]
  have hlater : (interventions.filter fun i =>
        i.operation == .describeStackEvents && decide (call + 1 < i.call)) =
      (interventions.filter fun i =>
        i.operation == .describeStackEvents && decide (call < i.call)).filter
          fun i => !(i.call == call + 1) := by
    rw [List.filter_filter]
    refine List.filter_congr fun i _ => ?_
    by_cases hcall : i.call = call + 1
    · simp [hcall]
    · have hlt : call + 1 < i.call ↔ call < i.call := by omega
      simp [hcall, hlt]
  rw [pushedAt, pushedAfter, pushedAfter, scheduled, scheduled, scheduled,
    ← List.filterMap_append, ← List.flatMap_append, hnext, hlater]
  exact ((List.filter_append_perm _ _).symm.flatMap_right _).filterMap _

/-- What is in a history and what will be pushed are the same events after the next pushes. -/
theorem perm_history_append (history : List StackEvent) (interventions : List Intervention)
    (stack : String) (call : Nat) :
    (sortByTime (history ++ pushedAt interventions stack (call + 1)) ++
        pushedAfter interventions stack (call + 1)).Perm
      (history ++ pushedAfter interventions stack call) := by
  refine ((perm_sortByTime _).append_right _).trans ?_
  rw [List.append_assoc]
  exact ((perm_pushedAfter _ _ _).append_left history).symm

theorem perm_pushedWithin (interventions : List Intervention) (stack : String)
    (call count : Nat) :
    (pushedAfter interventions stack call).Perm
      (pushedWithin interventions stack call count ++
        pushedAfter interventions stack (call + count)) := by
  induction count generalizing call with
  | zero => exact List.Perm.refl _
  | succ count ih =>
    have hcall : call + (count + 1) = call + 1 + count := by omega
    rw [pushedWithin_succ, List.append_assoc, hcall]
    exact (perm_pushedAfter interventions stack call).trans ((ih (call + 1)).append_left _)

/-! ### One page -/

namespace Scene

/-- The number of requests for events so far. -/
def asked (s : Scene) : Nat := s.service.callCount .describeStackEvents

/-- The service when it gets the next request for events. -/
def prepared (s : Scene) : ScriptedService := (s.cues .describeStackEvents).foldl play s.service

/-- The scene after a request for events. -/
def afterAsking (s : Scene) (stack : String) (token : Option String) : Scene :=
  { s with service := s.prepared.entered (.describeStackEvents stack token) }

/-- Nothing but pushes happens just before requests for events. -/
def OnlyPushes (s : Scene) : Prop :=
  ∀ i ∈ s.interventions, i.operation = .describeStackEvents → ∀ cue ∈ i.cues, cue.IsPush

/-- The scene is **serving** the history of a stack: it is what the next request will find. The
identifiers in it and in the events to come are different, and their number is one that a machine
can count. -/
structure Serving (s : Scene) (stack : String) (history : List StackEvent) : Prop where
  onlyPushes : s.OnlyPushes
  unfailing : s.service.failures.get? .describeStackEvents = none
  history_eq : s.prepared.history? stack = some history
  ordered : s.prepared.Ordered
  nodup : ((history ++ pushedAfter s.interventions stack (s.asked + 1)).map
    StackEvent.eventId).Nodup
  length_le : (history ++ pushedAfter s.interventions stack (s.asked + 1)).length ≤ 2 ^ 64

variable {s : Scene} {stack : String} {history : List StackEvent}

theorem OnlyPushes.cues (h : s.OnlyPushes) :
    ∀ cue ∈ s.cues .describeStackEvents, cue.IsPush := by
  intro cue hcue
  obtain ⟨i, hi, hcue⟩ := List.mem_flatMap.mp hcue
  obtain ⟨hmem, hcall⟩ := List.mem_filter.mp hi
  rw [Bool.and_eq_true, beq_iff_eq] at hcall
  exact h i hmem hcall.1 cue hcue

theorem OnlyPushes.exists_prepared (h : s.OnlyPushes) :
    ∃ events, s.prepared = { s.service with events } :=
  exists_foldl_play h.cues s.service

theorem OnlyPushes.pageSize_prepared (h : s.OnlyPushes) :
    s.prepared.pageSize = s.service.pageSize := by
  obtain ⟨events, heq⟩ := h.exists_prepared
  rw [heq]

@[simp] theorem interventions_afterAsking (s : Scene) (stack : String) (token : Option String) :
    (s.afterAsking stack token).interventions = s.interventions := rfl

theorem OnlyPushes.asked_afterAsking (h : s.OnlyPushes) (token : Option String) :
    (s.afterAsking stack token).asked = s.asked + 1 := by
  obtain ⟨events, heq⟩ := h.exists_prepared
  rw [asked, afterAsking, heq]
  simp only [callCount, entered, Request.operation, Table.get?_set_self, Option.getD_some]
  rfl

theorem OnlyPushes.pageSize_afterAsking (h : s.OnlyPushes) (token : Option String) :
    (s.afterAsking stack token).service.pageSize = s.service.pageSize := by
  rw [← h.pageSize_prepared]
  rfl

/-- The page that is asked for comes, and the next page will be looked for in the history with the
events pushed until then. -/
theorem Serving.reply_eq (h : s.Serving stack history) {token : Option String} {offset : Nat}
    (htoken : Asks token offset) :
    Scene.reply (.describeStackEvents stack token) s =
      (.ok (page s.service.pageSize history offset), s.afterAsking stack token) := by
  obtain ⟨events, heq⟩ := h.onlyPushes.exists_prepared
  have hunfailing : (s.prepared.entered (.describeStackEvents stack token)).failures.get?
      .describeStackEvents = none := by
    rw [heq]
    exact h.unfailing
  have hservice : ScriptedService.reply (.describeStackEvents stack token) s.prepared =
      (s.prepared.describeStackEvents stack token,
        s.prepared.entered (.describeStackEvents stack token)) := by
    simp only [ScriptedService.reply, Request.operation, hunfailing]
    rfl
  have hreply : Scene.reply (.describeStackEvents stack token) s =
      ((ScriptedService.reply (.describeStackEvents stack token) s.prepared).1,
        { s with
          service := (ScriptedService.reply (.describeStackEvents stack token) s.prepared).2 }) :=
    rfl
  rw [hreply, hservice, describeStackEvents_eq h.history_eq htoken,
    h.onlyPushes.pageSize_prepared, afterAsking]

theorem Serving.next (h : s.Serving stack history) (token : Option String) :
    (s.afterAsking stack token).Serving stack
      (sortByTime (history ++ pushedAt s.interventions stack (s.asked + 2))) := by
  have hasked : (s.afterAsking stack token).asked = s.asked + 1 :=
    h.onlyPushes.asked_afterAsking token
  have honly : (s.afterAsking stack token).OnlyPushes := h.onlyPushes
  have hcues : ((s.afterAsking stack token).cues .describeStackEvents).filterMap
      (Cue.pushed? stack) = pushedAt s.interventions stack (s.asked + 2) := by
    have hcall : (s.afterAsking stack token).service.callCount .describeStackEvents =
        s.asked + 1 := hasked
    rw [Scene.cues, hcall]
    rfl
  have hordered : (s.prepared.entered (.describeStackEvents stack token)).Ordered :=
    ⟨h.ordered.pageSize_pos, h.ordered.pairwise⟩
  have hperm := perm_history_append history s.interventions stack (s.asked + 1)
  refine
    { onlyPushes := honly
      unfailing := ?_
      history_eq := ?_
      ordered := hordered.foldl_play _
      nodup := ?_
      length_le := ?_ }
  · obtain ⟨events, heq⟩ := h.onlyPushes.exists_prepared
    rw [afterAsking, heq]
    exact h.unfailing
  · have hbefore : (s.afterAsking stack token).service.history? stack = some history :=
      h.history_eq
    rw [prepared, history?_foldl_play honly.cues hbefore, hcues,
      foldl_recorded (h.ordered.pairwise_history? h.history_eq)]
  · rw [hasked]
    exact (hperm.map _).nodup_iff.mpr h.nodup
  · rw [hasked]
    exact hperm.length_eq ▸ h.length_le

end Scene

/-! ### All pages -/

section Simulation

variable {σ τ α : Type} {service : Service τ} {step : σ → Query σ α} {state : σ}

theorem run_runQuery_call {request : Request} {resume : Reply request → σ}
    (hstep : step state = .call request resume) (fuel : Nat) (w : World τ) :
    (runQuery (simulatedHost service) step (fuel + 1) state).run w =
      (runQuery (simulatedHost service) step fuel (resume (service request w.service).1)).run
        { w with service := (service request w.service).2 } := by
  rw [runQuery, hstep]
  rfl

theorem run_runQuery_done {result : α} (hstep : step state = .done result) (fuel : Nat)
    (w : World τ) :
    (runQuery (simulatedHost service) step (fuel + 1) state).run w = (some result, w) := by
  rw [runQuery, hstep]
  rfl

end Simulation

/-- A fetch **reads** the history of its stack to the end with some requests after the next one. -/
structure Reads (source : EventSource) (w : World Scene) (history first : List StackEvent)
    (reader : HistoryReader) (offset count : Nat) (gathered final : List StackEvent)
    (s : Scene) : Prop where
  run_eq : ∀ fuel, (runQuery (simulatedHost Scene.reply) Fetch.step (fuel + (count + 1) + 1)
      (.reading source reader)).run w =
    (some (.ok (source.select gathered).1, (source.select gathered).2), { w with service := s })
  asked_eq : s.asked = w.service.asked + (count + 1)
  final_eq : final = sortByTime (history ++
    pushedWithin w.service.interventions source.stack (w.service.asked + 1) count)
  reading : Reading first final.reverse (offset + (count + 1) * w.service.service.pageSize) gathered
  length_le : final.length ≤ offset + (count + 1) * w.service.service.pageSize
  lt_length : count = 0 ∨ offset + count * w.service.service.pageSize < final.length

/-- A request brings the page of the history. -/
theorem Scene.Serving.run_page {source : EventSource} {w : World Scene}
    {history : List StackEvent} {reader : HistoryReader} {offset : Nat}
    (h : w.service.Serving source.stack history) (htoken : Asks reader.token offset)
    (fuel : Nat) :
    (runQuery (simulatedHost Scene.reply) Fetch.step (fuel + 1) (.reading source reader)).run w =
      (runQuery (simulatedHost Scene.reply) Fetch.step fuel
        (Fetch.take source reader (.ok (page w.service.service.pageSize history offset)))).run
          { w with service := w.service.afterAsking source.stack reader.token } := by
  have hstep : Fetch.step (.reading source reader) =
      .call (reader.request source.stack) (Fetch.take source reader) := rfl
  have hreply : Scene.reply (reader.request source.stack) w.service =
      (.ok (page w.service.service.pageSize history offset),
        w.service.afterAsking source.stack reader.token) := h.reply_eq htoken
  rw [run_runQuery_call hstep, hreply]
  rfl

theorem Scene.Serving.nodup_reverse {s : Scene} {stack : String} {history : List StackEvent}
    (h : s.Serving stack history) : (history.reverse.map StackEvent.eventId).Nodup := by
  rw [List.map_reverse, List.nodup_reverse]
  exact h.nodup.sublist ((List.sublist_append_left _ _).map _)

/-- The last page. -/
theorem Scene.Serving.reads_last {source : EventSource} {w : World Scene}
    {history first : List StackEvent} {reader : HistoryReader} {offset : Nat}
    (h : w.service.Serving source.stack history) (htoken : Asks reader.token offset)
    (hreading : Reading first history.reverse offset reader.gathered)
    (hlast : ¬offset + w.service.service.pageSize < history.length) :
    Reads source w history first reader offset 0
      (reader.gathered ++ (history.reverse.drop offset).take w.service.service.pageSize) history
      (w.service.afterAsking source.stack reader.token) := by
  refine
    { run_eq := fun fuel => ?_
      asked_eq := h.onlyPushes.asked_afterAsking _
      final_eq := ?_
      reading := by rw [Nat.zero_add, Nat.one_mul]; exact hreading.page h.nodup_reverse _
      length_le := by omega
      lt_length := .inl rfl }
  · rw [h.run_page htoken]
    have hnone : (page w.service.service.pageSize history offset).nextToken = none :=
      if_neg hlast
    rw [Fetch.take_last source reader hnone]
    refine run_runQuery_done ?_ fuel _
    rfl
  · have hsorted := sortByTime_eq_self (h.ordered.pairwise_history? h.history_eq)
    rw [pushedWithin, List.range'_zero, List.flatMap_nil, List.append_nil, hsorted]

/-- A page before the last one. -/
theorem Scene.Serving.reads_more {source : EventSource} {w : World Scene}
    {history first : List StackEvent} {reader : HistoryReader} {offset : Nat}
    (h : w.service.Serving source.stack history) (htoken : Asks reader.token offset)
    (hmore : offset + w.service.service.pageSize < history.length)
    {count : Nat} {gathered final : List StackEvent} {s : Scene}
    (hreads : Reads source
      { w with service := w.service.afterAsking source.stack reader.token }
      (sortByTime (history ++
        pushedAt w.service.interventions source.stack (w.service.asked + 2))) first
      ⟨reader.gathered ++ (history.reverse.drop offset).take w.service.service.pageSize,
        some (Text.natText (offset + w.service.service.pageSize))⟩
      (offset + w.service.service.pageSize) count gathered final s) :
    Reads source w history first reader offset (count + 1) gathered final s := by
  have hasked : (w.service.afterAsking source.stack reader.token).asked = w.service.asked + 1 :=
    h.onlyPushes.asked_afterAsking reader.token
  have hsize : (w.service.afterAsking source.stack reader.token).service.pageSize =
      w.service.service.pageSize := h.onlyPushes.pageSize_afterAsking reader.token
  have hoffset (n : Nat) : offset + w.service.service.pageSize + n * w.service.service.pageSize =
      offset + (n + 1) * w.service.service.pageSize := by
    rw [Nat.add_mul, Nat.one_mul]
    omega
  have hreading := hreads.reading
  have hlength := hreads.length_le
  have hlt := hreads.lt_length
  have hfinal := hreads.final_eq
  simp only [hsize, hoffset, hasked, Scene.interventions_afterAsking] at hreading hlength hlt hfinal
  have hall : final = sortByTime (history ++ pushedWithin w.service.interventions source.stack
      (w.service.asked + 1) (count + 1)) := by
    rw [hfinal, sortByTime_sortByTime_append, pushedWithin_succ, List.append_assoc]
  refine
    { run_eq := fun fuel => ?_
      asked_eq := by rw [hreads.asked_eq, hasked]; omega
      final_eq := hall
      reading := hreading
      length_le := hlength
      lt_length := .inr ?_ }
  · have hsome : (page w.service.service.pageSize history offset).nextToken =
        some (Text.natText (offset + w.service.service.pageSize)) := if_pos hmore
    rw [← hreads.run_eq fuel, ← Nat.add_assoc fuel (count + 1) 1, h.run_page htoken,
      Fetch.take_more source reader hsome]
    rfl
  · rcases hlt with rfl | hlt
    · rw [Nat.zero_add, Nat.one_mul, hall, (perm_sortByTime _).length_eq, List.length_append]
      omega
    · exact hlt

/-- Wherever a fetch is, it comes to the end of the history: the offset grows with every page, and
the history does not grow beyond the events that will be pushed. -/
theorem exists_reads {source : EventSource} {first : List StackEvent} (n : Nat) :
    ∀ (w : World Scene) (history : List StackEvent) (reader : HistoryReader) (offset : Nat),
      w.service.Serving source.stack history → Asks reader.token offset →
      Reading first history.reverse offset reader.gathered →
      (history ++ pushedAfter w.service.interventions source.stack
        (w.service.asked + 1)).length ≤ offset + n →
      ∃ count gathered final s,
        Reads source w history first reader offset count gathered final s := by
  induction n with
  | zero =>
    -- nothing can be left, so the next page is the last one
    intro w history reader offset h htoken hreading hlength
    rw [List.length_append] at hlength
    exact ⟨0, _, _, _, h.reads_last htoken hreading (by omega)⟩
  | succ n ih =>
    intro w history reader offset h htoken hreading hlength
    by_cases hmore : offset + w.service.service.pageSize < history.length
    · have hsize : 0 < w.service.service.pageSize :=
        h.onlyPushes.pageSize_prepared ▸ h.ordered.pageSize_pos
      have hasked : (w.service.afterAsking source.stack reader.token).asked = w.service.asked + 1 :=
        h.onlyPushes.asked_afterAsking reader.token
      have hnext := h.next reader.token
      have hcount : offset + w.service.service.pageSize < 2 ^ 64 := by
        have hle := h.length_le
        rw [List.length_append] at hle
        omega
      -- first the page is read, and then the history grows before the next request
      have hgrown := (hreading.page h.nodup_reverse w.service.service.pageSize).grow
        (List.reverse_sublist.mpr (sublist_sortByTime_append
          (h.ordered.pairwise_history? h.history_eq) _)) hnext.nodup_reverse
      have hperm := perm_history_append history w.service.interventions source.stack
        (w.service.asked + 1)
      have hreader : Asks (some (Text.natText (offset + w.service.service.pageSize)))
          (offset + w.service.service.pageSize) := .inr ⟨rfl, hcount⟩
      obtain ⟨count, gathered, final, s, hreads⟩ := ih
        { w with service := w.service.afterAsking source.stack reader.token } _ ⟨_, _⟩ _
        hnext hreader hgrown (by
          rw [hasked, Scene.interventions_afterAsking, hperm.length_eq]
          omega)
      exact ⟨count + 1, gathered, final, s, h.reads_more htoken hmore hreads⟩
    · exact ⟨0, _, _, _, h.reads_last htoken hreading hmore⟩

/-- The number of pages of a history. -/
theorem succ_eq_max_div {length size count : Nat} (hsize : 0 < size)
    (hle : length ≤ (count + 1) * size) (hlt : count = 0 ∨ count * size < length) :
    count + 1 = max 1 ((length + size - 1) / size) := by
  rcases hlt with rfl | hlt
  · have hdiv : (length + size - 1) / size < 2 := Nat.div_lt_of_lt_mul (by omega)
    omega
  · have hdiv : (length + size - 1) / size = count + 1 := by
      refine Nat.div_eq_of_lt_le ?_ ?_
      · rw [Nat.add_mul]
        omega
      · rw [Nat.add_mul, Nat.add_mul] at *
        omega
    omega

/-- The source **wants** the event: it is not too old, and it was not seen. -/
def EventSource.wants (source : EventSource) (e : StackEvent) : Bool :=
  decide (source.cutoff ≤ e.timestamp) && decide (e.eventId ∉ source.seen)

/-- The events **cover** a history into which others were pushed meanwhile: all that the source
wants of the history, and of the others some; no event twice, all of them in the order of time, and
those of one time as they were pushed. -/
structure Covers (source : EventSource) (history pushed fresh : List StackEvent) : Prop where
  sublist : fresh.Sublist ((sortByTime (history ++ pushed)).filter source.wants)
  nodup : (fresh.map StackEvent.eventId).Nodup
  complete : ∀ e ∈ history, source.wants e = true → e ∈ fresh

/-- What is not from the history was pushed. -/
theorem Covers.mem_pushed {source : EventSource} {history pushed fresh : List StackEvent}
    (h : Covers source history pushed fresh) {e : StackEvent} (he : e ∈ fresh)
    (hnew : e ∉ history) : e ∈ pushed ∧ source.wants e = true := by
  obtain ⟨hmem, hwants⟩ := List.mem_filter.mp (h.sublist.subset he)
  rw [(perm_sortByTime _).mem_iff, List.mem_append] at hmem
  exact ⟨hmem.resolve_left hnew, hwants⟩

/-- If nothing was pushed, it is the history and nothing else. -/
theorem Covers.eq_filter {source : EventSource} {history fresh : List StackEvent}
    (h : Covers source history [] fresh) (hsorted : history.Pairwise StackEvent.NotAfter)
    (hnodup : (history.map StackEvent.eventId).Nodup) : fresh = history.filter source.wants := by
  have hsublist := h.sublist
  rw [List.append_nil, sortByTime_eq_self hsorted] at hsublist
  -- a sublist of the wanted events that has all of them is as long as they are
  refine hsublist.eq_of_length_le (List.Subperm.length_le ?_)
  refine List.subperm_of_subset (hnodup.of_map.filter _) fun e he => ?_
  obtain ⟨hmem, hwants⟩ := List.mem_filter.mp he
  exact h.complete e hmem hwants

/-- A reading that has come to the end covers the history. -/
theorem Reads.covers {source : EventSource} {w : World Scene} {history : List StackEvent}
    {reader : HistoryReader} {offset count : Nat} {gathered final : List StackEvent} {s : Scene}
    (h : Reads source w history history.reverse reader offset count gathered final s)
    (hserving : w.service.Serving source.stack history) :
    Covers source history
      (pushedWithin w.service.interventions source.stack (w.service.asked + 1) count)
      (source.select gathered).1 := by
  have hdelivers := source.delivers_select gathered
  have hnodup : (final.map StackEvent.eventId).Nodup := by
    have hperm := (perm_pushedWithin w.service.interventions source.stack (w.service.asked + 1)
      count).append_left history
    have hall := (hperm.map StackEvent.eventId).nodup_iff.mp hserving.nodup
    rw [← List.append_assoc, List.map_append] at hall
    rw [h.final_eq]
    exact ((perm_sortByTime _).map _).nodup_iff.mpr hall.of_append_left
  have hsorted : final.reverse.reverse.Pairwise StackEvent.NotAfter := by
    rw [List.reverse_reverse, h.final_eq]
    exact pairwise_sortByTime _
  obtain ⟨hsublist, hcomplete⟩ := h.reading.fresh_ofHistory
    (by rw [List.length_reverse]; exact h.length_le)
    (by rwa [List.map_reverse, List.nodup_reverse]) hsorted source.cutoff source.seen
  rw [List.reverse_reverse, h.final_eq] at hsublist
  refine
    { sublist := hsublist
      nodup := hdelivers.nodup
      complete := fun e he hwants => ?_ }
  rw [EventSource.wants, Bool.and_eq_true, decide_eq_true_eq, decide_eq_true_eq] at hwants
  exact hcomplete e (List.mem_reverse.mpr he) hwants.1 hwants.2

/-- **Pages lose nothing.** A fetch of a known stack comes to an end, whatever is pushed between its
requests, and it covers the history that the first request finds, which is all that was pushed
before. If nothing is pushed meanwhile, the size of pages only matters for the number of
requests. -/
theorem fetch_loses_nothing {w : World Scene} {cues : List Cue} {source : EventSource}
    {history : List StackEvent} (hmade : Made cues w.service.service)
    (hpushes : w.service.OnlyPushes)
    (hunfailing : w.service.service.failures.get? .describeStackEvents = none)
    (hknown : w.service.prepared.history? source.stack = some history)
    (hfresh : ((history ++ pushedAfter w.service.interventions source.stack
      (w.service.asked + 1)).map StackEvent.eventId).Nodup)
    (hlength : (history ++ pushedAfter w.service.interventions source.stack
      (w.service.asked + 1)).length ≤ 2 ^ 64) :
    ∃ (requests : Nat) (fresh : List StackEvent) (after : EventSource) (s : Scene)
      (pushed : List StackEvent),
      (∀ fuel, requests < fuel →
        (runQuery (simulatedHost Scene.reply) Fetch.step fuel (.start source)).run w =
          (some (.ok fresh, after), { w with service := s })) ∧
      s.asked = w.service.asked + requests ∧
      history = sortByTime (cues.filterMap (Cue.pushed? source.stack) ++
        pushedAt w.service.interventions source.stack (w.service.asked + 1)) ∧
      pushed = pushedWithin w.service.interventions source.stack (w.service.asked + 1)
        (requests - 1) ∧
      Covers source history pushed fresh ∧
      (∀ e ∈ fresh, e ∉ history → e ∈ pushed ∧ source.wants e = true) ∧
      (pushed = [] → fresh = history.filter source.wants ∧
        requests = max 1 ((history.length + w.service.service.pageSize - 1) /
          w.service.service.pageSize)) := by
  have hserving : w.service.Serving source.stack history :=
    { onlyPushes := hpushes
      unfailing := hunfailing
      history_eq := hknown
      ordered := hmade.ordered.foldl_play _
      nodup := hfresh
      length_le := hlength }
  obtain ⟨count, gathered, final, s, hreads⟩ := exists_reads _ w history .start 0 hserving
    (.inl ⟨rfl, rfl⟩) (reading_start _) (Nat.le_of_eq (Nat.zero_add _).symm)
  have hcovers := hreads.covers hserving
  have hhistory := (hmade.foldl_play (w.service.cues .describeStackEvents)).history_eq hknown
  rw [List.filterMap_append] at hhistory
  refine ⟨count + 1, _, (source.select gathered).2, s, _, fun fuel hfuel => ?_, hreads.asked_eq,
    hhistory, rfl, hcovers, fun e he hnew => hcovers.mem_pushed he hnew, fun hnone => ⟨?_, ?_⟩⟩
  · obtain ⟨extra, rfl⟩ := Nat.exists_eq_add_of_lt hfuel
    rw [← hreads.run_eq extra, Nat.add_comm (count + 1) extra]
    rfl
  · rw [Nat.add_sub_cancel] at hnone
    rw [hnone] at hcovers
    exact hcovers.eq_filter (hserving.ordered.pairwise_history? hknown)
      (hfresh.sublist ((List.sublist_append_left _ _).map _))
  · have hfinal : final.length = history.length := by
      rw [Nat.add_sub_cancel] at hnone
      rw [hreads.final_eq, hnone, List.append_nil, (perm_sortByTime _).length_eq]
    have hle := hreads.length_le
    have hlt := hreads.lt_length
    rw [hfinal, Nat.zero_add] at hle hlt
    exact succ_eq_max_div hmade.ordered.pageSize_pos hle hlt

/-! ### A history that grows while it is read -/

/-- An event of a queue at the epoch. -/
def queueEvent (id : String) : StackEvent :=
  .basic id "Queue" "AWS::SQS::Queue" "CREATE_IN_PROGRESS" .epoch

/-- The events pushed before the fetch. -/
def queueCues : List Cue := ["first", "second", "third"].map fun id => .event "app" (queueEvent id)

/-- A service with two events on a page, to which another event is pushed before the second page is
asked for. -/
def growingWorld : World Scene :=
  { service :=
      { service := queueCues.foldl play (.start 2 .epoch)
        interventions := [⟨.describeStackEvents, 2, [.event "app" (queueEvent "fourth")]⟩] }
    timer := 0
    calendar := .epoch
    sink := .start none }

theorem growingWorld_pushes : growingWorld.service.OnlyPushes := by
  intro i hi _ cue hcue
  obtain rfl := List.mem_singleton.mp hi
  obtain rfl := List.mem_singleton.mp hcue
  exact ⟨_, _, rfl⟩

/-- The events that were there are all returned, although the second page has moved. -/
theorem growingWorld_fetched :
    ∃ requests fresh after w', (runQuery (simulatedHost Scene.reply) Fetch.step (requests + 1)
        (.start (.start "app" .epoch))).run growingWorld = (some (.ok fresh, after), w') ∧
      ∀ id ∈ ["first", "second", "third"], queueEvent id ∈ fresh := by
  have hmade : Made queueCues growingWorld.service.service := (Made.start 2 .epoch).foldl_play _
  have hknown : growingWorld.service.prepared.history? (EventSource.start "app" .epoch).stack =
      some (["first", "second", "third"].map queueEvent) := rfl
  obtain ⟨requests, fresh, after, s, pushed, hrun, -, -, -, hcovers, -⟩ :=
    fetch_loses_nothing hmade growingWorld_pushes rfl hknown (by decide +kernel)
      (by decide +kernel)
  refine ⟨requests, fresh, after, _, hrun _ (Nat.lt_succ_self _), fun id hid => ?_⟩
  refine hcovers.complete _ (List.mem_map_of_mem hid) ?_
  simp [EventSource.wants, EventSource.start, queueEvent, StackEvent.basic, Instant.le_refl]

end StackDeploy
