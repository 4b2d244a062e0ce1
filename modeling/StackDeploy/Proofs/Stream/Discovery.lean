import StackDeploy.Proofs.Stream.Announcement
import StackDeploy.Proofs.Stream.Delivery

/-!
# Discovering nested stacks

Which stacks an aggregator comes to follow, in which order, and from when on. A tick that succeeds
registers one source for each stack that its batch announces first; a tick that fails registers
none.

* `Tick.Sights` — what a tick in progress has discovered, by what was published.
* `Aggregator.Ticks.registered` — the sources of an aggregator, by the batches and results of its
  ticks.
* `discovery_is_exact` — after ticks that all succeeded the sources are exactly the announced
  stacks, in the order of their announcements, each from its first sighting on.
* `own_events_register_nothing` — events about a stack itself that announce no other identifier add
  no source.
-/

namespace StackDeploy

/-! ### Discoveries of a tick -/

namespace Tick

/-- What a tick in progress **sights**: its table is up to date, and the stacks that it has
discovered are the ones that its batch announces first, each from its first sighting on. -/
structure Sights (t : Tick) (published : Batch) : Prop where
  records : t.firstSeen.Records (published ++ t.batch)
  discovered_eq : t.discovered.map Prod.fst =
    (firstAnnouncements t.followed t.batch).map StreamEvent.child
  earliest : ∀ d ∈ t.discovered, ∃ p ∈ firstAnnouncements t.followed t.batch, p.child = d.1 ∧
    Earliest (sightings (published ++ t.batch) p.resource) d.2

theorem sights_start {a : Aggregator} {published : Batch} (h : a.firstSeen.Records published) :
    (Tick.start a).Sights published :=
  ⟨by simpa [start] using h, rfl, fun _ hd => nomatch hd⟩

/-- An event that is not earlier than the ones of its stack in the batch keeps the discoveries up to
date. -/
theorem Sights.deliver {t : Tick} {published : Batch} (h : t.Sights published) {stack : String}
    {e : StackEvent} (hlate : ∀ p ∈ t.batch, p.stack = stack → p.event.NotAfter e) :
    (t.deliver stack e).Sights published := by
  have hbatch : published ++ (t.batch ++ [⟨stack, e⟩]) = published ++ t.batch ++ [⟨stack, e⟩] :=
    (List.append_assoc _ _ _).symm
  have hrecords : (FirstSeen.sight t.firstSeen ⟨stack, e⟩).Records
      (published ++ (t.batch ++ [⟨stack, e⟩])) := by
    rw [hbatch]
    exact h.records.sight _
  have hfirst : firstAnnouncements t.followed (t.batch ++ [⟨stack, e⟩]) =
      firstAnnouncements t.followed t.batch ++
        firstAnnouncements (t.followed ++ t.discovered.map Prod.fst) [⟨stack, e⟩] := by
    rw [firstAnnouncements_append, h.discovered_eq]
  -- the event comes after an announcing one, and that is a sighting of its own resource
  have hold : ∀ d ∈ t.discovered,
      ∃ p ∈ firstAnnouncements t.followed (t.batch ++ [⟨stack, e⟩]), p.child = d.1 ∧
        Earliest (sightings (published ++ (t.batch ++ [⟨stack, e⟩])) p.resource) d.2 := by
    intro d hd
    obtain ⟨p, hp, hchild, hearliest⟩ := h.earliest d hd
    obtain ⟨hmem, hann, -⟩ := announces_of_mem_firstAnnouncements hp
    have hself : d.2 ≤ p.event.timestamp := hearliest.2 _ <|
      mem_sightings.mpr ⟨p, List.mem_append_right _ hmem, hann.1, rfl, rfl⟩
    refine ⟨p, hfirst ▸ List.mem_append_left _ hp, hchild, ?_⟩
    rw [hbatch, sightings_append]
    refine hearliest.append fun other hother => ?_
    obtain ⟨q, hq, -, hresource, rfl⟩ := mem_sightings.mp hother
    obtain rfl := List.mem_singleton.mp hq
    exact Instant.le_trans hself (hlate p hmem (Prod.mk.inj hresource).1.symm)
  rw [Tick.deliver, note_eq]
  cases hann : e.announced? (t.followed ++ t.discovered.map Prod.fst) with
  | none =>
    rw [firstAnnouncements_cons_of_none (p := ⟨stack, e⟩) hann, firstAnnouncements,
      List.append_nil] at hfirst
    simp only [Option.toList_none, List.map_nil, List.append_nil]
    refine ⟨hrecords, ?_, hold⟩
    rw [hfirst]
    exact h.discovered_eq
  | some child =>
    rw [firstAnnouncements_cons_of_some (p := ⟨stack, e⟩) hann, firstAnnouncements] at hfirst
    have hchild := child_of_announced? (p := ⟨stack, e⟩) hann
    simp only [Option.toList_some, List.map_cons, List.map_nil]
    refine ⟨hrecords, ?_, fun d hd => ?_⟩
    · rw [List.map_append, hfirst, List.map_append, h.discovered_eq, List.map_singleton,
        List.map_singleton, hchild]
    · rcases List.mem_append.mp hd with hd | hd
      · exact hold d hd
      · obtain rfl := List.mem_singleton.mp hd
        refine ⟨⟨stack, e⟩, hfirst ▸ by simp, hchild, ?_⟩
        exact hrecords.earliest (p := ⟨stack, e⟩) (by simp)
          (StackEvent.announced?_eq_some.mp hann).1.1 e.timestamp

theorem Sights.foldl_deliver {t : Tick} {published : Batch} (h : t.Sights published)
    {stack : String} {events : List StackEvent} (hsorted : events.Pairwise StackEvent.NotAfter)
    (hlate : ∀ p ∈ t.batch, p.stack = stack → ∀ e ∈ events, p.event.NotAfter e) :
    (events.foldl (Tick.deliver stack) t).Sights published := by
  induction events generalizing t with
  | nil => exact h
  | cons e es ih =>
    obtain ⟨hfirst, hrest⟩ := List.pairwise_cons.mp hsorted
    refine ih (h.deliver fun p hp hstack => hlate p hp hstack e List.mem_cons_self) hrest ?_
    intro p hp hstack x hx
    rcases List.mem_append.mp hp with hp | hp
    · exact hlate p hp hstack x (List.mem_cons_of_mem _ hx)
    · obtain rfl := List.mem_singleton.mp hp
      exact hfirst x hx

/-- Taking in a history keeps the discoveries up to date. -/
theorem Sights.absorb {t : Tick} {published : Batch} {source : EventSource}
    {waiting : List EventSource} (h : t.Sights published) (hdelivered : t.Delivered published)
    (hwaiting : t.waiting = source :: waiting) (history : List StackEvent) :
    (t.absorb history).Sights published := by
  -- the source was still waiting, so the batch has no event of its stack yet
  have hother : ∀ p ∈ t.batch, p.stack ≠ source.stack := by
    intro p hp hsame
    have hpolled := hdelivered.grouped.mem_keys hp
    have hnodup := hdelivered.view.nodup_keys
    rw [Aggregator.keys, Tick.view, hwaiting, List.map_append] at hnodup
    exact List.disjoint_of_nodup_append hnodup hpolled (by simp [hsame])
  have hdeliver := h.foldl_deliver (source.delivers_select history).pairwise
    fun p hp hstack => absurd hstack (hother p hp)
  rw [absorb_eq hwaiting]
  exact ⟨hdeliver.records, hdeliver.discovered_eq, hdeliver.earliest⟩

/-! ### Discoveries of a poll -/

/-- A tick that has **absorbed** the histories of some sources of an aggregator, in their order. -/
inductive Absorbs (a : Aggregator) : Tick → Prop
  | start : Absorbs a (.start a)
  | absorb {t : Tick} {source : EventSource} {waiting : List EventSource} (before : Absorbs a t)
      (hwaiting : t.waiting = source :: waiting) (history : List StackEvent) :
      Absorbs a (t.absorb history)

/-- What is known of a tick in progress. -/
theorem Absorbs.sights {a : Aggregator} {t : Tick} {published : Batch} (h : Absorbs a t)
    (hdelivered : a.Delivered published) (hrecords : a.firstSeen.Records published) :
    t.Delivered published ∧ t.Sights published ∧ t.view.scopes = a.scopes ∧
      t.followed = a.followed := by
  induction h with
  | start => exact ⟨delivered_start hdelivered, sights_start hrecords, rfl, rfl⟩
  | @absorb t source waiting before hwaiting history ih =>
    obtain ⟨hdelivered, hsights, hscopes, hfollowed⟩ := ih
    refine ⟨hdelivered.absorb hwaiting history, hsights.absorb hdelivered hwaiting history, ?_, ?_⟩
    · rw [absorb_view_scopes hwaiting, hscopes]
    · obtain ⟨firstSeen, discovered, heq⟩ := exists_absorb hwaiting history
      rw [heq]
      exact hfollowed

end Tick

/-- A poll that has ended has taken in the histories of all sources, or of those before the one that
failed. -/
theorem Poll.absorbs_of_ends {a : Aggregator} {trace : List Action} {o : TickOutcome}
    (ends : Query.Ends Poll.step (.start a) trace o) :
    ∃ t, Tick.Absorbs a t ∧ (o = t.finish ∨ ∃ e, o = t.fail e) := by
  obtain ⟨p, run, hdone⟩ := ends
  have habsorbs : (∃ t reader, p = .reading t reader ∧ Tick.Absorbs a t) ∨
      ∃ t e, p = .over (t.fail e) ∧ Tick.Absorbs a t := by
    clear hdone
    induction run with
    | start => exact .inl ⟨_, _, rfl, .start⟩
    | @call trace p request resume run hstep reply ih =>
      rcases p.step_cases with
        ⟨outcome, hdone⟩ | ⟨tick, reader, source, waiting, rfl, hwaiting, hcall⟩
      · rw [hdone] at hstep
        cases hstep
      · rw [hcall] at hstep
        cases hstep
        obtain ⟨_, _, ⟨⟩, htick⟩ | ⟨_, _, ⟨⟩, -⟩ := ih
        · cases reply with
          | error cause => exact .inr ⟨tick, _, rfl, htick⟩
          | ok page =>
            cases htoken : page.nextToken with
            | some token =>
              exact .inl ⟨tick, _, Poll.take_more _ _ _ htoken, htick⟩
            | none =>
              exact .inl ⟨_, _, Poll.take_last _ _ _ htoken, htick.absorb hwaiting _⟩
  rcases cases_of_step_eq_done hdone with rfl | ⟨tick, reader, rfl, -, rfl⟩
  · obtain ⟨_, _, ⟨⟩, -⟩ | ⟨t, e, ⟨⟩, htick⟩ := habsorbs
    exact ⟨t, htick, .inr ⟨e, rfl⟩⟩
  · obtain ⟨_, _, ⟨⟩, htick⟩ | ⟨_, _, ⟨⟩, -⟩ := habsorbs
    exact ⟨tick, htick, .inl rfl⟩

/-! ### Registrations -/

/-- The events by which a tick **registers** stacks: what its batch announces first, unless the tick
fails. -/
def TickCall.registers (followed : List String) (call : TickCall) : List StreamEvent :=
  match call.outcome.result with
  | .ok _ => firstAnnouncements followed call.outcome.batch
  | .error _ => []

theorem TickCall.mem_registers {followed : List String} {call : TickCall} {p : StreamEvent}
    (hp : p ∈ call.registers followed) :
    p ∈ call.outcome.batch ∧ p.event.Announces p.child ∧ p.child ∉ followed := by
  rw [registers] at hp
  split at hp
  · exact announces_of_mem_firstAnnouncements hp
  · cases hp

/-- The events by which a sequence of ticks **registers** stacks, in order, if the given stacks are
followed at first. -/
def registrations (followed : List String) : List TickCall → List StreamEvent
  | [] => []
  | call :: rest =>
    call.registers followed ++
      registrations (followed ++ (call.registers followed).map StreamEvent.child) rest

theorem registrations_append (followed : List String) (first second : List TickCall) :
    registrations followed (first ++ second) =
      registrations followed first ++
        registrations (followed ++ (registrations followed first).map StreamEvent.child)
          second := by
  induction first generalizing followed with
  | nil => simp [registrations]
  | cons call rest ih =>
    rw [List.cons_append, registrations, registrations, ih, List.map_append, List.append_assoc,
      List.append_assoc]

theorem registrations_append_singleton (followed : List String) (calls : List TickCall)
    (call : TickCall) :
    registrations followed (calls ++ [call]) =
      registrations followed calls ++
        call.registers (followed ++ (registrations followed calls).map StreamEvent.child) := by
  rw [registrations_append, registrations, registrations, List.append_nil]

/-- What registers a stack was published and announces it. -/
theorem published_of_mem_registrations {followed : List String} {calls : List TickCall}
    {p : StreamEvent} (hp : p ∈ registrations followed calls) :
    p ∈ (publishedBy calls).flatten ∧ p.event.Announces p.child := by
  induction calls using List.reverseRecOn with
  | nil => cases hp
  | append_singleton calls call ih =>
    rw [flatten_publishedBy_append_singleton, List.mem_append]
    rw [registrations_append_singleton] at hp
    rcases List.mem_append.mp hp with hp | hp
    · exact (ih hp).imp_left .inl
    · obtain ⟨hmem, hann, -⟩ := TickCall.mem_registers hp
      exact ⟨.inr hmem, hann⟩

/-- Ticks that all succeed register what their batches announce first. -/
theorem registrations_eq_firstAnnouncements {calls : List TickCall}
    (hok : ∀ call ∈ calls, ∃ n, call.outcome.result = .ok n) (followed : List String) :
    registrations followed calls = firstAnnouncements followed (publishedBy calls).flatten := by
  induction calls using List.reverseRecOn with
  | nil => rfl
  | append_singleton calls call ih =>
    obtain ⟨n, hn⟩ := hok call (by simp)
    rw [registrations_append_singleton, ih fun c hc => hok c (List.mem_append_left _ hc),
      TickCall.registers, hn, flatten_publishedBy_append_singleton, firstAnnouncements_append]

/-- A tick registers the stacks of its first announcements, each from its first sighting on. -/
theorem Poll.registers_of_ends {a : Aggregator} {published : Batch} {call : TickCall}
    (hdelivered : a.Delivered published) (hrecords : a.firstSeen.Records published)
    (ends : Query.Ends Poll.step (.start a) call.trace call.outcome) :
    call.outcome.aggregator.firstSeen.Records (published ++ call.outcome.batch) ∧
      (∀ p ∈ call.outcome.batch, p.stack ∈ a.keys) ∧
      ∃ found, call.outcome.aggregator.scopes = a.scopes ++ found ∧
        found.map Prod.fst = (call.registers a.followed).map StreamEvent.child ∧
        ∀ scope ∈ found, ∃ p ∈ call.registers a.followed, p.child = scope.1 ∧
          Earliest (sightings (published ++ call.outcome.batch) p.resource) scope.2 := by
  obtain ⟨t, habsorbs, hend⟩ := absorbs_of_ends ends
  obtain ⟨htick, hsights, hscopes, hfollowed⟩ := habsorbs.sights hdelivered hrecords
  have hkeys : ∀ p ∈ t.batch, p.stack ∈ a.keys := by
    intro p hp
    rw [Aggregator.keys_eq, ← hscopes, ← Aggregator.keys_eq]
    exact htick.view.mem_keys (List.mem_append_right _ hp)
  rw [TickCall.registers]
  rcases hend with hend | ⟨e, hend⟩
  · rw [hend]
    refine ⟨hsights.records, hkeys, t.discovered, ?_, ?_⟩
    · rw [Tick.finish_scopes, hscopes]
    · rw [← hfollowed]
      exact ⟨hsights.discovered_eq, hsights.earliest⟩
  · rw [hend]
    refine ⟨hsights.records, hkeys, [], ?_, rfl, fun _ hscope => nomatch hscope⟩
    rw [Tick.fail_aggregator, hscopes, List.append_nil]

/-- A tick **registers a scope** by an event: the event is one of those by which it registers
stacks, no tick before has left the stack with a source, this one does, and the source reads from
the earliest sighting by then. -/
structure TickCall.Opens (call : TickCall) (root : String) (before : List TickCall)
    (p : StreamEvent) (scope : String × Instant) : Prop where
  registers : p ∈ call.registers (root :: (registrations [root] before).map StreamEvent.child)
  child_eq : p.child = scope.1
  absent : ∀ earlier ∈ before, scope.1 ∉ earlier.outcome.aggregator.keys
  present : scope.1 ∈ call.outcome.aggregator.keys
  earliest : Earliest (sightings (publishedBy (before ++ [call])).flatten p.resource) scope.2

/-- The sources of an aggregator are the ones that its ticks have **registered**. -/
structure Aggregator.Registered (a : Aggregator) (root : String) (calls : List TickCall) :
    Prop where
  records : a.firstSeen.Records (publishedBy calls).flatten
  keys_eq : a.keys = root :: (registrations [root] calls).map StreamEvent.child
  /-- The stack of a registering event is followed already, so the event names another one. -/
  child_ne : ∀ p ∈ registrations [root] calls, p.child ≠ p.stack
  keys_subset : ∀ call ∈ calls, call.outcome.aggregator.keys ⊆ a.keys
  opened : ∀ scope ∈ a.scopes, scope.1 = root ∨ ∃ before call after p,
    calls = before ++ call :: after ∧ call.Opens root before p scope

theorem Aggregator.registered_start (root : String) (cutoff : Instant) :
    (Aggregator.start root cutoff).Registered root [] where
  records := fun _ => rfl
  keys_eq := rfl
  child_ne := fun _ hp => nomatch hp
  keys_subset := fun _ hcall => nomatch hcall
  opened := fun scope hscope => by
    obtain rfl := List.mem_singleton.mp hscope
    exact .inl rfl

/-- **Registration by ticks.** Whatever the service replies, and whichever of the ticks fail, the
sources are those of the root and of the registered stacks. -/
theorem Aggregator.Ticks.registered {root : String} {cutoff : Instant} {calls : List TickCall}
    {a : Aggregator} (h : (Aggregator.start root cutoff).Ticks calls a) :
    a.Registered root calls := by
  induction h with
  | start => exact registered_start root cutoff
  | @tick calls a call before ends ih =>
    have hdelivered := before.delivers.1
    have hfollowed : a.followed =
        root :: (registrations [root] calls).map StreamEvent.child := by
      rw [hdelivered.followed_eq, ih.keys_eq]
    obtain ⟨hrecords, hstacks, found, hscopes, hchildren, hfound⟩ :=
      Poll.registers_of_ends hdelivered ih.records ends
    have hpublished := flatten_publishedBy_append_singleton calls call
    have hregistrations : registrations [root] (calls ++ [call]) =
        registrations [root] calls ++ call.registers a.followed := by
      rw [registrations_append_singleton, hfollowed, List.singleton_append]
    have hkeys : call.outcome.aggregator.keys = a.keys ++ found.map Prod.fst := by
      rw [keys_eq, hscopes, List.map_append, ← keys_eq]
    have hgrow : a.keys ⊆ call.outcome.aggregator.keys := by
      rw [hkeys]
      exact List.subset_append_left _ _
    refine
      { records := hpublished ▸ hrecords
        keys_eq := ?_
        child_ne := fun p hp => ?_
        keys_subset := fun c hc => ?_
        opened := fun scope hscope => ?_ }
    · rw [hkeys, hchildren, ih.keys_eq, hregistrations, List.map_append, List.cons_append]
    · rw [hregistrations] at hp
      rcases List.mem_append.mp hp with hp | hp
      · exact ih.child_ne p hp
      · obtain ⟨hbatch, -, hnew⟩ := TickCall.mem_registers hp
        exact fun hsame => hnew (hsame ▸ hdelivered.followed_eq ▸ hstacks p hbatch)
    · rcases List.mem_append.mp hc with hc | hc
      · exact fun key hkey => hgrow (ih.keys_subset c hc hkey)
      · obtain rfl := List.mem_singleton.mp hc
        exact List.Subset.refl _
    · rw [hscopes] at hscope
      rcases List.mem_append.mp hscope with hscope | hscope
      · refine (ih.opened scope hscope).imp_right ?_
        rintro ⟨first, c, last, p, rfl, hopens⟩
        exact ⟨first, c, last ++ [call], p, by simp, hopens⟩
      · -- a scope that is new has been registered by this tick
        obtain ⟨p, hp, hchild, hearliest⟩ := hfound scope hscope
        refine .inr ⟨calls, call, [], p, rfl,
          { registers := hfollowed ▸ hp
            child_eq := hchild
            absent := fun earlier hearlier hmem => ?_
            present := ?_
            earliest := hpublished ▸ hearliest }⟩
        · have hnew := (TickCall.mem_registers hp).2.2
          rw [hdelivered.followed_eq, hchild] at hnew
          exact hnew (ih.keys_subset earlier hearlier hmem)
        · rw [hkeys]
          exact List.mem_append_right _ (List.mem_map_of_mem hscope)

/-! ### What is followed -/

/-- **Exact discovery** by a sequence of ticks that ended with the aggregator. -/
structure Aggregator.Discovers (a : Aggregator) (root : String) (calls : List TickCall) :
    Prop where
  nodup_keys : a.keys.Nodup
  followed_eq : a.followed = a.keys
  head_eq : a.keys.head? = some root
  /-- Besides the root, the announced stacks have a source and no others. -/
  mem_keys : ∀ key, key ≠ root →
    (key ∈ a.keys ↔ ∃ p ∈ (publishedBy calls).flatten, p.event.Announces key)
  /-- The nested sources stand in the order of their first announcements. -/
  ordered : a.keys.tail.Pairwise fun x y =>
    announcedAt (publishedBy calls).flatten x < announcedAt (publishedBy calls).flatten y
  /-- A nested source reads from the earliest event of the resource that announced it first, as far
  as that was published by the end of the tick that registered the source. -/
  cutoff_eq : ∀ s ∈ a.sources, s.stack ≠ root → ∃ p before call after,
    announcement? (publishedBy calls).flatten s.stack = some p ∧
    calls = before ++ call :: after ∧
    (∀ earlier ∈ before, s.stack ∉ earlier.outcome.aggregator.keys) ∧
    s.stack ∈ call.outcome.aggregator.keys ∧
    Earliest (sightings (publishedBy (before ++ [call])).flatten p.resource) s.cutoff

/-- **Exact discovery.** After any number of ticks that succeed, whatever the service replies, the
sources are those of the root and of the announced stacks, in the order of the announcements, and
none of them reads from too late on. -/
theorem discovery_is_exact {root : String} {cutoff : Instant} {calls : List TickCall}
    {a : Aggregator} (h : (Aggregator.start root cutoff).Ticks calls a)
    (hok : ∀ call ∈ calls, ∃ n, call.outcome.result = .ok n) : a.Discovers root calls := by
  obtain ⟨hdelivered, honce⟩ := h.delivers
  have hregistered := h.registered
  have hfirst := registrations_eq_firstAnnouncements hok [root]
  have hkeys := hregistered.keys_eq
  rw [hfirst] at hkeys
  refine
    { nodup_keys := hdelivered.nodup_keys
      followed_eq := hdelivered.followed_eq
      head_eq := by rw [hkeys, List.head?_cons]
      mem_keys := fun key hroot => ⟨fun hkey => ?_, ?_⟩
      ordered := ?_
      cutoff_eq := fun s hs hroot => ?_ }
  · rw [hkeys] at hkey
    obtain ⟨p, hp, rfl⟩ := List.mem_map.mp ((List.mem_cons.mp hkey).resolve_left hroot)
    obtain ⟨hmem, hann, -⟩ := announces_of_mem_firstAnnouncements hp
    exact ⟨p, hmem, hann⟩
  · rintro ⟨p, hp, hann⟩
    rw [hkeys]
    refine List.mem_cons_of_mem _ ((mem_child_firstAnnouncements hp hann).resolve_left ?_)
    exact fun hmem => hroot (List.mem_singleton.mp hmem)
  · rw [hkeys, List.tail_cons]
    exact pairwise_firstAnnouncements _ _
  · obtain hstack | ⟨before, call, after, p, rfl, hopens⟩ :=
      hregistered.opened s.scope (List.mem_map_of_mem hs)
    · exact absurd hstack hroot
    · have hp : p ∈ registrations [root] (before ++ call :: after) := by
        rw [registrations_append, registrations]
        exact List.mem_append_right _ (List.mem_append_left _ hopens.registers)
      rw [hfirst] at hp
      have hann := announcement?_of_mem_firstAnnouncements hp
      rw [hopens.child_eq] at hann
      exact ⟨p, before, call, after, hann, rfl, hopens.absent, hopens.present, hopens.earliest⟩

/-- One second after midnight it is still the same day. -/
theorem Instant.one_lt_day : 1 < 86400 := by decide

/-- The nested stack is about to be created and has no physical identifier. -/
def addonsPlanned : StackEvent :=
  .basic "planned" "Addons" "AWS::CloudFormation::Stack" "CREATE_IN_PROGRESS" .epoch

/-- A second later it has one. -/
def addonsStarted : StackEvent :=
  { addonsPlanned with
    eventId := "started"
    physicalId := "addons"
    timestamp := { Instant.epoch with second := 1, second_lt := Instant.one_lt_day } }

/-- A tick that reads the event without a physical identifier. -/
def plannedTick : TickCall :=
  { trace := [.page "app" none (.ok ⟨[addonsPlanned], none⟩)]
    outcome := ((Tick.start (.start "app" .epoch)).absorb [addonsPlanned]).finish }

/-- The tick after it, which also reads the event that announces the stack. -/
def startedTick : TickCall :=
  { trace := [.page "app" none (.ok ⟨[addonsStarted, addonsPlanned], none⟩)]
    outcome := ((Tick.start plannedTick.outcome.aggregator).absorb
      [addonsStarted, addonsPlanned]).finish }

theorem startedTick_follows :
    (Aggregator.start "app" .epoch).Ticks [plannedTick, startedTick]
      startedTick.outcome.aggregator := by
  have planned := Poll.runs_page (.start (.start "app" .epoch)) .start .start rfl
    (.ok ⟨[addonsPlanned], none⟩)
  have started := Poll.runs_page (.start plannedTick.outcome.aggregator) .start .start rfl
    (.ok ⟨[addonsStarted, addonsPlanned], none⟩)
  have first : (Aggregator.start "app" .epoch).Ticks [plannedTick] _ :=
    Aggregator.Ticks.start.tick ⟨_, planned, rfl⟩
  exact first.tick ⟨_, started, rfl⟩

/-- The source of the nested stack reads from the event without a physical identifier on. -/
theorem startedTick_discovers :
    (Aggregator.start "app" .epoch).Ticks [plannedTick, startedTick]
        startedTick.outcome.aggregator ∧
      startedTick.outcome.aggregator.Discovers "app" [plannedTick, startedTick] ∧
      startedTick.outcome.aggregator.scopes = [("app", .epoch), ("addons", .epoch)] := by
  refine ⟨startedTick_follows, discovery_is_exact startedTick_follows fun call hcall => ?_, rfl⟩
  simp only [List.mem_cons, List.not_mem_nil, or_false] at hcall
  rcases hcall with rfl | rfl
  · exact ⟨0, rfl⟩
  · exact ⟨1, rfl⟩

/-! ### Events of a stack about itself -/

/-- The event is **about the stack** whose source delivers it: it carries the key of that source as
its logical identifier. -/
def StreamEvent.IsOwn (p : StreamEvent) : Prop := p.event.logicalId = p.stack

/-- **No source for a stack's own events**, as far as these carry no other physical identifier than
the key of the stack: then every source but the first is registered by an event about a resource,
and a stack that only such own events announce is neither followed nor published. -/
theorem own_events_register_nothing {root : String} {cutoff : Instant} {calls : List TickCall}
    {a : Aggregator} (h : (Aggregator.start root cutoff).Ticks calls a)
    (hown : ∀ p ∈ (publishedBy calls).flatten, p.IsOwn → ∀ child, p.event.Announces child →
      child = p.stack) :
    a.keys = root :: (registrations [root] calls).map StreamEvent.child ∧
      (∀ p ∈ registrations [root] calls, ¬ p.IsOwn) ∧
      ∀ key, key ≠ root →
        (∀ p ∈ (publishedBy calls).flatten, p.event.Announces key → p.IsOwn) →
        key ∉ a.keys ∧ ∀ p ∈ (publishedBy calls).flatten, p.stack ≠ key := by
  have hregistered := h.registered
  have hnotOwn : ∀ p ∈ registrations [root] calls, ¬ p.IsOwn := by
    intro p hp hpown
    obtain ⟨hmem, hann⟩ := published_of_mem_registrations hp
    exact hregistered.child_ne p hp (hown p hmem hpown _ hann)
  have hnotFollowed : ∀ key, key ≠ root →
      (∀ p ∈ (publishedBy calls).flatten, p.event.Announces key → p.IsOwn) → key ∉ a.keys := by
    intro key hroot honly hkey
    rw [hregistered.keys_eq] at hkey
    obtain ⟨p, hp, rfl⟩ := List.mem_map.mp ((List.mem_cons.mp hkey).resolve_left hroot)
    obtain ⟨hmem, hann⟩ := published_of_mem_registrations hp
    exact hnotOwn p hp (honly p hmem hann)
  refine ⟨hregistered.keys_eq, hnotOwn, fun key hroot honly => ?_⟩
  have hkey := hnotFollowed key hroot honly
  exact ⟨hkey, fun p hp hstack => hkey (hstack ▸ h.delivers.1.mem_keys hp)⟩

/-- An event about the root stack that carries the root's key as its physical identifier too. -/
def appStarted : StackEvent :=
  { StackEvent.basic "begun" "app" "AWS::CloudFormation::Stack" "CREATE_IN_PROGRESS" .epoch with
    physicalId := "app" }

/-- A tick that reads an event about the root stack itself. -/
def ownTick (event : StackEvent) : TickCall :=
  { trace := [.page "app" none (.ok ⟨[event], none⟩)]
    outcome := ((Tick.start (.start "app" .epoch)).absorb [event]).finish }

theorem ownTick_follows (event : StackEvent) :
    (Aggregator.start "app" .epoch).Ticks [ownTick event] (ownTick event).outcome.aggregator := by
  have read := Poll.runs_page (.start (.start "app" .epoch)) .start .start rfl
    (.ok ⟨[event], none⟩)
  exact Aggregator.Ticks.start.tick ⟨_, read, rfl⟩

/-- An event whose physical identifier is the root's key registers nothing. -/
theorem appStarted_registers_nothing :
    (publishedBy [ownTick appStarted]).flatten = [⟨"app", appStarted⟩] ∧
      (ownTick appStarted).outcome.aggregator.keys = ["app"] ∧
      registrations ["app"] [ownTick appStarted] = [] := by
  have hpublished : (publishedBy [ownTick appStarted]).flatten = [⟨"app", appStarted⟩] := rfl
  obtain ⟨hkeys, -, -⟩ := own_events_register_nothing (ownTick_follows appStarted) (by
    rw [hpublished]
    rintro p hp - child hann
    obtain rfl := List.mem_singleton.mp hp
    exact hann.2.2.1.symm)
  have hnone : registrations ["app"] [ownTick appStarted] = [] := rfl
  rw [hnone] at hkeys
  exact ⟨hpublished, hkeys, hnone⟩

/-- An event of the root stack with the identifier that the service has given to it **registers that
identifier**, and the stack is followed by its name and by its identifier. -/
theorem own_event_registers_identifier :
    (Aggregator.start "app" .epoch).Ticks [ownTick { appStarted with physicalId := "app-id" }]
        (ownTick { appStarted with physicalId := "app-id" }).outcome.aggregator ∧
      (ownTick { appStarted with physicalId := "app-id" }).outcome.aggregator.keys =
        ["app", "app-id"] ∧
      ∃ p ∈ registrations ["app"] [ownTick { appStarted with physicalId := "app-id" }],
        p.IsOwn ∧ p.child = "app-id" :=
  ⟨ownTick_follows _, rfl, ⟨"app", { appStarted with physicalId := "app-id" }⟩,
    List.mem_singleton_self _, rfl, rfl⟩

end StackDeploy
