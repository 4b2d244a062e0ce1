import StackDeploy.Proofs.Stream.Delivery

/-!
# Subscribers do not affect each other

The batches of an aggregator go to any number of subscribers, whose receivers may be dropped between
two ticks. Each of them gets what is published until then, whatever becomes of the others, and the
ticks know nothing of them.

* `Aggregator.Ticks.unique` — a service leaves the ticks of an aggregator one way to go.
* `Aggregator.Casts` — ticks of an aggregator between which receivers are dropped.
* `Audience.Hears` — what the subscribers have received; one lemma for a tick and one for a drop.
* `subscribers_do_not_interfere` — a stream beside the same one with other subscribers.
-/

namespace StackDeploy

/-! ### One way to go -/

/-- The actions of a sequence of ticks. -/
def actionsOf (calls : List TickCall) : List Action := calls.flatMap TickCall.trace

theorem actionsOf_append_singleton (calls : List TickCall) (call : TickCall) :
    actionsOf (calls ++ [call]) = actionsOf calls ++ call.trace := by
  rw [actionsOf, List.flatMap_append, List.flatMap_singleton]
  rfl

theorem Aggregator.ticks_nil {a b : Aggregator} : a.Ticks [] b ↔ b = a := by
  constructor
  · intro ticks
    generalize hcalls : ([] : List TickCall) = calls at ticks
    cases ticks with
    | start => rfl
    | tick => simp at hcalls
  · rintro rfl
    exact .start

theorem Aggregator.ticks_append_singleton {a b : Aggregator} {calls : List TickCall}
    {call : TickCall} : a.Ticks (calls ++ [call]) b ↔ ∃ c, a.Ticks calls c ∧
      Query.Ends Poll.step (.start c) call.trace call.outcome ∧ b = call.outcome.aggregator := by
  constructor
  · intro ticks
    generalize hcalls : calls ++ [call] = all at ticks
    cases ticks with
    | start => simp at hcalls
    | @tick _ c _ before ends =>
      obtain ⟨rfl, hcall⟩ := List.append_inj' hcalls rfl
      obtain rfl := List.singleton_inj.mp hcall
      exact ⟨c, before, ends, rfl⟩
  · rintro ⟨c, before, ends, rfl⟩
    exact before.tick ends

/-- **Ticks have one way to go** against a service. -/
theorem Aggregator.Ticks.unique
    {service : List Action → (request : Request) → Reply request} {a b b' : Aggregator}
    {calls calls' : List TickCall} (ticks : a.Ticks calls b)
    (answered : Obeys (AnsweredBy service) (actionsOf calls)) (ticks' : a.Ticks calls' b')
    (answered' : Obeys (AnsweredBy service) (actionsOf calls'))
    (hlength : calls'.length = calls.length) : calls' = calls ∧ b' = b := by
  induction ticks generalizing calls' b' with
  | start =>
    cases ticks' with
    | start => exact ⟨rfl, rfl⟩
    | tick => simp at hlength
  | @tick calls b call before ends ih =>
    cases ticks' with
    | start => simp at hlength
    | @tick calls' b' call' before' ends' =>
      have hbefore : calls'.length = calls.length := by simpa using hlength
      rw [actionsOf_append_singleton] at answered answered'
      obtain ⟨rfl, rfl⟩ := ih answered.left before' answered'.left hbefore
      obtain ⟨htrace, houtcome⟩ := ends'.unique answered'.right ends answered.right
      obtain rfl : call' = call := by
        cases call
        cases call'
        exact congrArg₂ _ htrace houtcome
      exact ⟨rfl, rfl⟩

/-! ### Ticks and drops -/

/-- What **occurs** in a stream: a tick, or the receiver of a subscriber is dropped. -/
inductive Occurrence where
  | tick (call : TickCall)
  | drop (name : String)

/-- The tick, if it is one. -/
def Occurrence.tick? : Occurrence → Option TickCall
  | tick call => some call
  | drop _ => none

/-- The ticks among the occurrences. -/
def ticksOf (occurrences : List Occurrence) : List TickCall :=
  occurrences.filterMap Occurrence.tick?

/-- The batches that are **heard** under a name: those that are published until its receiver is
dropped. -/
def heard (name : String) : List Occurrence → List Batch
  | [] => []
  | .tick call :: rest => call.outcome.published ++ heard name rest
  | .drop other :: rest => if other = name then [] else heard name rest

section Heard

variable {name : String} {occurrences : List Occurrence}

theorem ticksOf_append_tick (occurrences : List Occurrence) (call : TickCall) :
    ticksOf (occurrences ++ [.tick call]) = ticksOf occurrences ++ [call] :=
  List.filterMap_append

theorem ticksOf_append_drop (occurrences : List Occurrence) (name : String) :
    ticksOf (occurrences ++ [.drop name]) = ticksOf occurrences := by
  rw [ticksOf, List.filterMap_append]
  exact List.append_nil _

@[simp] theorem ticksOf_map_tick (calls : List TickCall) : ticksOf (calls.map .tick) = calls := by
  rw [ticksOf, List.filterMap_map]
  exact List.filterMap_some

/-- What is heard is what is published, up to some point. -/
theorem heard_prefix (name : String) (occurrences : List Occurrence) :
    heard name occurrences <+: publishedBy (ticksOf occurrences) := by
  induction occurrences with
  | nil => exact List.prefix_rfl
  | cons occurrence rest ih =>
    cases occurrence with
    | tick call => exact (List.prefix_append_right_inj _).mpr ih
    | drop other =>
      rw [heard]
      split
      · exact List.nil_prefix
      · exact ih

/-- Under a name whose receiver is not dropped all is heard. -/
theorem heard_of_not_mem (h : .drop name ∉ occurrences) :
    heard name occurrences = publishedBy (ticksOf occurrences) := by
  induction occurrences with
  | nil => rfl
  | cons occurrence rest ih =>
    rw [List.mem_cons, not_or] at h
    cases occurrence with
    | tick call => exact congrArg (call.outcome.published ++ ·) (ih h.2)
    | drop other =>
      have hother : other ≠ name := fun hsame => h.1 (hsame ▸ rfl)
      rw [heard, if_neg hother]
      exact ih h.2

/-- After the receiver is dropped nothing is heard. -/
theorem heard_append_of_mem (h : .drop name ∈ occurrences) (later : List Occurrence) :
    heard name (occurrences ++ later) = heard name occurrences := by
  induction occurrences with
  | nil => cases h
  | cons occurrence rest ih =>
    cases occurrence with
    | tick call => exact congrArg (call.outcome.published ++ ·) (ih (by simpa using h))
    | drop other =>
      rw [List.cons_append, heard, heard]
      split
      · rfl
      next hother => exact ih (by simpa [Ne.symm hother] using h)

/-- Nothing is heard by dropping a receiver. -/
theorem heard_append_drop (name other : String) (occurrences : List Occurrence) :
    heard name (occurrences ++ [.drop other]) = heard name occurrences := by
  induction occurrences with
  | nil =>
    rw [List.nil_append, heard, heard]
    split <;> rfl
  | cons occurrence rest ih =>
    cases occurrence with
    | tick call => exact congrArg (call.outcome.published ++ ·) ih
    | drop first =>
      rw [List.cons_append, heard, heard, ih]

theorem heard_append_tick (h : .drop name ∉ occurrences) (call : TickCall) :
    heard name (occurrences ++ [.tick call]) =
      heard name occurrences ++ call.outcome.published := by
  have hnot : .drop name ∉ occurrences ++ [.tick call] := by simpa using h
  rw [heard_of_not_mem hnot, heard_of_not_mem h, ticksOf_append_tick, publishedBy_append_singleton]

end Heard

/-! ### Audiences -/

/-- The **audience** of a stream: its subscribers, and those that it has dropped, with what they
have received. -/
structure Audience where
  broadcast : Broadcast
  parted : List Subscriber

namespace Audience

/-- Subscribers of these names. -/
def start (names : List String) : Audience := ⟨names.foldl Broadcast.subscribe .empty, []⟩

/-- The receiver of a subscriber is dropped. -/
def drop (x : Audience) (name : String) : Audience :=
  { x with broadcast := x.broadcast.close name }

/-- The batch of a tick is published; subscribers that do not listen part. -/
def publish (x : Audience) (batch : Batch) : Audience where
  broadcast := x.broadcast.publishNonempty batch
  parted := x.parted ++
    if batch.isEmpty then [] else x.broadcast.subscribers.filter fun s => !s.listening

/-- What a subscriber has received, under its name. -/
def record (s : Subscriber) : String × List Batch := (s.name, s.received)

/-- What all that have subscribed have received. -/
def records (x : Audience) : List (String × List Batch) :=
  (x.parted ++ x.broadcast.subscribers).map record

/-- The audience **hears** what is published until its receivers are dropped. -/
structure Hears (x : Audience) (names : List String) (occurrences : List Occurrence) : Prop where
  mem_records : ∀ name batches, (name, batches) ∈ x.records ↔
    name ∈ names ∧ batches = heard name occurrences
  parted : ∀ s ∈ x.parted, .drop s.name ∈ occurrences
  listening : ∀ s ∈ x.broadcast.subscribers, s.listening = true ↔ .drop s.name ∉ occurrences

variable {x : Audience} {names : List String} {occurrences : List Occurrence}

theorem hears_start (names : List String) : (start names).Hears names [] := by
  have hsubscribers : (start names).broadcast.subscribers = names.map (⟨·, true, []⟩) := by
    rw [start]
    induction names using List.reverseRecOn with
    | nil => rfl
    | append_singleton names name ih =>
      rw [List.foldl_concat, List.map_append, ← ih]
      rfl
  have hrecords : (start names).records = names.map (·, []) := by
    rw [records, hsubscribers]
    simp [start, record, Function.comp_def]
  refine ⟨fun name batches => ?_, fun s hs => (nomatch hs), fun s hs => ?_⟩
  · simp [hrecords, heard, eq_comm]
  · rw [hsubscribers] at hs
    obtain ⟨name, -, rfl⟩ := List.mem_map.mp hs
    simp

/-- **A receiver is dropped**: its subscriber does not listen any more, and nothing is heard. -/
theorem Hears.drop (h : x.Hears names occurrences) (name : String) :
    (x.drop name).Hears names (occurrences ++ [.drop name]) where
  mem_records := by
    have hrecords : (x.drop name).records = x.records := by
      rw [records, records, Audience.drop, Broadcast.close, List.map_append, List.map_append,
        List.map_map]
      refine congrArg _ (List.map_congr_left fun s _ => ?_)
      dsimp only [Function.comp]
      split <;> rfl
    intro other batches
    rw [hrecords, heard_append_drop, h.mem_records]
  parted := fun s hs => List.mem_append_left _ (h.parted s hs)
  listening := by
    intro s hs
    obtain ⟨before, hbefore, rfl⟩ := List.mem_map.mp hs
    have hlistening := h.listening before hbefore
    split
    next hname => simp [hname]
    next hname => simpa [hname] using hlistening

/-- Those that are dropped do not listen any more. -/
theorem Hears.drop_mem_of_parted (h : x.Hears names occurrences) {s : Subscriber}
    (hs : s ∈ x.parted ++ x.broadcast.subscribers.filter fun s => !s.listening) :
    s ∈ x.parted ++ x.broadcast.subscribers ∧ .drop s.name ∈ occurrences := by
  rcases List.mem_append.mp hs with hs | hs
  · exact ⟨List.mem_append_left _ hs, h.parted s hs⟩
  · obtain ⟨hmem, hdeaf⟩ := List.mem_filter.mp hs
    refine ⟨List.mem_append_right _ hmem, ?_⟩
    by_contra hopen
    rw [(h.listening s hmem).mpr hopen] at hdeaf
    cases hdeaf

/-- A tick with nothing to publish changes nothing. -/
theorem Hears.publish_empty (h : x.Hears names occurrences) {call : TickCall}
    (hempty : call.outcome.batch.isEmpty = true) :
    (x.publish call.outcome.batch).Hears names (occurrences ++ [.tick call]) := by
  have hsame : x.publish call.outcome.batch = x := by
    rw [Audience.publish, Broadcast.publishNonempty, if_pos hempty, if_pos hempty, List.append_nil]
  have hheard (name : String) :
      heard name (occurrences ++ [.tick call]) = heard name occurrences := by
    by_cases hmem : .drop name ∈ occurrences
    · exact heard_append_of_mem hmem _
    · rw [heard_append_tick hmem, TickOutcome.published, if_pos hempty, List.append_nil]
  rw [hsame]
  refine ⟨fun name batches => ?_, fun s hs => List.mem_append_left _ (h.parted s hs),
    fun s hs => ?_⟩
  · rw [hheard, h.mem_records]
  · simpa using h.listening s hs

/-- When a batch is published, those that do not listen part with what they have, and the others get
it. -/
theorem mem_records_publish {batch : Batch} (hbatch : ¬ batch.isEmpty = true)
    (entry : String × List Batch) : entry ∈ (x.publish batch).records ↔
      (∃ s ∈ x.parted ++ x.broadcast.subscribers.filter fun s => !s.listening, record s = entry) ∨
      ∃ s ∈ x.broadcast.subscribers.filter (·.listening),
        (s.name, s.received ++ [batch]) = entry := by
  rw [records, publish, Broadcast.publishNonempty, if_neg hbatch, if_neg hbatch, List.map_append,
    List.mem_append, List.mem_map, Broadcast.publish, List.map_map, List.mem_map]
  rfl

/-- **A tick** is heard by those that listen, and by nobody else. -/
theorem Hears.publish (h : x.Hears names occurrences) (call : TickCall) :
    (x.publish call.outcome.batch).Hears names (occurrences ++ [.tick call]) := by
  by_cases hempty : call.outcome.batch.isEmpty = true
  · exact h.publish_empty hempty
  have hpublished : call.outcome.published = [call.outcome.batch] := if_neg hempty
  have hbroadcast : (x.publish call.outcome.batch).broadcast =
      x.broadcast.publish call.outcome.batch := if_neg hempty
  have hparted : (x.publish call.outcome.batch).parted =
      x.parted ++ x.broadcast.subscribers.filter fun s => !s.listening := by
    rw [Audience.publish, if_neg hempty]
  refine ⟨fun name batches => ?_, fun s hs => ?_, fun s hs => ?_⟩
  · rw [mem_records_publish hempty]
    constructor
    · rintro (⟨s, hs, heq⟩ | ⟨s, hs, heq⟩)
      · obtain ⟨hmem, hdropped⟩ := h.drop_mem_of_parted hs
        obtain ⟨rfl, rfl⟩ := Prod.mk.inj heq
        rw [heard_append_of_mem hdropped]
        exact (h.mem_records _ _).mp (List.mem_map_of_mem hmem)
      · obtain ⟨hmem, hlistening⟩ := List.mem_filter.mp hs
        obtain ⟨rfl, rfl⟩ := Prod.mk.inj heq
        rw [heard_append_tick ((h.listening s hmem).mp hlistening), hpublished]
        obtain ⟨hname, hreceived⟩ :=
          (h.mem_records _ _).mp (List.mem_map_of_mem (List.mem_append_right _ hmem))
        exact ⟨hname, congrArg (· ++ _) hreceived⟩
    · rintro ⟨hname, rfl⟩
      obtain ⟨s, hs, heq⟩ := List.mem_map.mp ((h.mem_records name _).mpr ⟨hname, rfl⟩)
      obtain ⟨rfl, hreceived⟩ := Prod.mk.inj heq
      -- it listens, or it is among those that do not
      by_cases hlistening : s ∈ x.broadcast.subscribers.filter (·.listening)
      · obtain ⟨hmem, htrue⟩ := List.mem_filter.mp hlistening
        refine .inr ⟨s, hlistening, ?_⟩
        rw [heard_append_tick ((h.listening s hmem).mp htrue), hpublished, ← hreceived]
      · have hparted : s ∈ x.parted ++ x.broadcast.subscribers.filter fun s => !s.listening := by
          rw [List.mem_filter] at hlistening
          rw [List.mem_append, List.mem_filter]
          refine (List.mem_append.mp hs).imp_right fun hmem => ⟨hmem, ?_⟩
          simpa [hmem] using hlistening
        refine .inl ⟨s, hparted, ?_⟩
        rw [heard_append_of_mem (h.drop_mem_of_parted hparted).2, ← hreceived, record]
  · rw [hparted] at hs
    exact List.mem_append_left _ (h.drop_mem_of_parted hs).2
  · rw [hbroadcast] at hs
    obtain ⟨before, hbefore, rfl⟩ := List.mem_map.mp hs
    obtain ⟨hmem, hlistening⟩ := List.mem_filter.mp hbefore
    simpa using h.listening before hmem

end Audience

/-! ### Streams -/

/-- An aggregator **casts** its batches: ticks that follow each other, between which the receivers
of subscribers may be dropped. -/
inductive Aggregator.Casts (a : Aggregator) (names : List String) :
    List Occurrence → Aggregator → Audience → Prop
  | start : Casts a names [] a (.start names)
  | tick {occurrences : List Occurrence} {b : Aggregator} {x : Audience} {call : TickCall}
      (before : Casts a names occurrences b x)
      (ends : Query.Ends Poll.step (.start b) call.trace call.outcome) :
      Casts a names (occurrences ++ [.tick call]) call.outcome.aggregator
        (x.publish call.outcome.batch)
  | drop {occurrences : List Occurrence} {b : Aggregator} {x : Audience}
      (before : Casts a names occurrences b x) (name : String) :
      Casts a names (occurrences ++ [.drop name]) b (x.drop name)

section Casts

variable {a b : Aggregator} {names : List String} {occurrences : List Occurrence} {x : Audience}

/-- The ticks are those of the aggregator. -/
theorem Aggregator.Casts.ticks (casts : a.Casts names occurrences b x) :
    a.Ticks (ticksOf occurrences) b := by
  induction casts with
  | start => exact .start
  | tick before ends ih =>
    rw [ticksOf_append_tick]
    exact ih.tick ends
  | drop before name ih => rwa [ticksOf_append_drop]

/-- The audience hears what is published until its receivers are dropped. -/
theorem Aggregator.Casts.hears (casts : a.Casts names occurrences b x) :
    x.Hears names occurrences := by
  induction casts with
  | start => exact Audience.hears_start names
  | tick before ends ih => exact ih.publish _
  | drop before name ih => exact ih.drop name

/-- **Ticks can be cast** to any subscribers, whose receivers may be dropped anywhere between. -/
theorem Aggregator.Ticks.exists_casts (ticks : a.Ticks (ticksOf occurrences) b)
    (names : List String) : ∃ x, a.Casts names occurrences b x := by
  induction occurrences using List.reverseRecOn generalizing b with
  | nil =>
    obtain rfl := Aggregator.ticks_nil.mp ticks
    exact ⟨_, .start⟩
  | append_singleton occurrences occurrence ih =>
    cases occurrence with
    | tick call =>
      rw [ticksOf_append_tick, Aggregator.ticks_append_singleton] at ticks
      obtain ⟨c, before, ends, rfl⟩ := ticks
      obtain ⟨x, casts⟩ := ih before
      exact ⟨_, casts.tick ends⟩
    | drop name =>
      rw [ticksOf_append_drop] at ticks
      obtain ⟨x, casts⟩ := ih ticks
      exact ⟨_, casts.drop name⟩

end Casts

/-- **Subscribers do not affect each other.** Let an aggregator cast to some subscribers, against a
service that answers by what it was asked before, while receivers are dropped between the ticks:

* With any other subscribers, with none, and whatever receivers are dropped then, the same number of
  ticks makes the same calls with the same results and leaves the same aggregator.
* Every subscriber has received what was published until its receiver was dropped, which is a
  prefix of what was published, and all of it if the receiver was not dropped.
* The same ticks can be cast to any other subscribers, so to none or to a single one, which then
  receives all that was published.
-/
theorem subscribers_do_not_interfere
    {service : List Action → (request : Request) → Reply request} {a b : Aggregator}
    {names : List String} {occurrences : List Occurrence} {x : Audience}
    (casts : a.Casts names occurrences b x)
    (answered : Obeys (AnsweredBy service) (actionsOf (ticksOf occurrences))) :
    (∀ others occurrences' b' y, a.Casts others occurrences' b' y →
        Obeys (AnsweredBy service) (actionsOf (ticksOf occurrences')) →
        (ticksOf occurrences').length = (ticksOf occurrences).length →
        ticksOf occurrences' = ticksOf occurrences ∧ b' = b) ∧
      (∀ name batches, (name, batches) ∈ x.records ↔
        name ∈ names ∧ batches = heard name occurrences) ∧
      (∀ name, heard name occurrences <+: publishedBy (ticksOf occurrences)) ∧
      (∀ name, .drop name ∉ occurrences →
        heard name occurrences = publishedBy (ticksOf occurrences)) ∧
      ∀ others, ∃ y, a.Casts others ((ticksOf occurrences).map .tick) b y ∧
        ∀ name batches, (name, batches) ∈ y.records ↔
          name ∈ others ∧ batches = publishedBy (ticksOf occurrences) := by
  refine ⟨fun others occurrences' b' y casts' answered' hlength => ?_, casts.hears.mem_records,
    fun name => heard_prefix name occurrences, fun name => heard_of_not_mem, fun others => ?_⟩
  · exact casts.ticks.unique answered casts'.ticks answered' hlength
  · have hticks : a.Ticks (ticksOf ((ticksOf occurrences).map .tick)) b := by
      rw [ticksOf_map_tick]
      exact casts.ticks
    obtain ⟨y, alone⟩ := hticks.exists_casts others
    refine ⟨y, alone, fun name batches => ?_⟩
    have hopen : .drop name ∉ (ticksOf occurrences).map Occurrence.tick := by simp
    rw [alone.hears.mem_records, heard_of_not_mem hopen, ticksOf_map_tick]

/-- A service that answers by how often it was asked. -/
def busyService (before : List Action) : (request : Request) → Reply request
  | .describeStackEvents _ _ =>
    match before.length with
    | 0 | 2 => .ok ⟨[addonsCreated], none⟩
    | 1 => .ok ⟨[queueCreated], some "1"⟩
    | _ => .error (.service 400 "slow down")
  | _ => .error (.notFound "nothing")

theorem failingTick_answered :
    Obeys (AnsweredBy busyService) (actionsOf [discoveringTick, failingTick]) := by
  have hactions : actionsOf [discoveringTick, failingTick] =
      [] ++ [.page "app" none (.ok ⟨[addonsCreated], none⟩)] ++
        [.page "app" none (.ok ⟨[queueCreated], some "1"⟩)] ++
        [.page "app" (some "1") (.ok ⟨[addonsCreated], none⟩)] ++
        [.page "addons" none (.error (.service 400 "slow down"))] := rfl
  rw [hactions]
  simp only [obeys_append_singleton]
  exact ⟨⟨⟨⟨obeys_nil _, rfl⟩, rfl⟩, rfl⟩, rfl⟩

/-- Of two subscribers one parts before the tick that fails; the other one hears that, too. -/
theorem remaining_subscriber_hears_all :
    ∃ b x, (Aggregator.start "app" .epoch).Casts ["gone", "live"]
        [.tick discoveringTick, .drop "gone", .tick failingTick] b x ∧
      (∀ batches, ("live", batches) ∈ x.records ↔
        batches = [[⟨"app", addonsCreated⟩], [⟨"app", queueCreated⟩]]) ∧
      (∀ batches, ("gone", batches) ∈ x.records ↔ batches = [[⟨"app", addonsCreated⟩]]) := by
  have hticks : (Aggregator.start "app" .epoch).Ticks
      (ticksOf [.tick discoveringTick, .drop "gone", .tick failingTick])
      failingTick.outcome.aggregator := failingTick_follows
  obtain ⟨x, casts⟩ := hticks.exists_casts ["gone", "live"]
  have hrecords := (subscribers_do_not_interfere casts failingTick_answered).2.1
  refine ⟨_, x, casts, fun batches => ?_, fun batches => ?_⟩
  · rw [hrecords, and_iff_right (by simp)]
    exact Iff.rfl
  · rw [hrecords, and_iff_right (by simp)]
    exact Iff.rfl

end StackDeploy
