import StackDeploy.Proofs.Event.Selection
import StackDeploy.Stream.Aggregator

/-!
# What a tick does

A tick takes in the histories of the sources one after the other. Each of them extends the batch,
and the sources remember which events they have delivered; the events of nested stacks lead to new
sources when the tick is over.

* `Aggregator.Delivered` — the sources of an aggregator know exactly what was published.
* `Tick.Delivered.absorb`, `Tick.Delivered.finish` — a tick keeps it so, and its end does.
* `Grouped` — a batch as one group of events for every key.
-/

namespace StackDeploy

/-! ### Announced stacks -/

/-- The event **announces** a stack: it reports that a nested stack with this physical identifier
exists. -/
def StackEvent.Announces (e : StackEvent) (child : String) : Prop :=
  e.kind = .nestedStack ∧ isDiscoverableStatus e.status = true ∧ e.physicalId = child ∧ child ≠ ""

theorem StackEvent.announced?_eq_some {e : StackEvent} {followed : List String} {child : String} :
    e.announced? followed = some child ↔ e.Announces child ∧ child ∉ followed := by
  constructor
  · intro h
    rw [announced?] at h
    split at h
    next hcond =>
      obtain rfl := Option.some.inj h
      simp only [Bool.and_eq_true, decide_eq_true_eq, bne_iff_ne, Bool.not_eq_true',
        List.contains_eq_mem, decide_eq_false_iff_not] at hcond
      obtain ⟨⟨⟨hkind, hstatus⟩, hne⟩, hnew⟩ := hcond
      exact ⟨⟨hkind, hstatus, rfl, hne⟩, hnew⟩
    · cases h
  · rintro ⟨⟨hkind, hstatus, rfl, hne⟩, hnew⟩
    simp [announced?, hkind, hstatus, hne, hnew]

/-- An event that announces nothing new announces only stacks that are followed. -/
theorem StackEvent.mem_of_announced?_eq_none {e : StackEvent} {followed : List String}
    {child : String} (h : e.announced? followed = none) (hchild : e.Announces child) :
    child ∈ followed := by
  by_contra hnew
  rw [announced?_eq_some.mpr ⟨hchild, hnew⟩] at h
  cases h

theorem StackEvent.announced?_append (e : StackEvent) (followed more : List String) :
    e.announced? (followed ++ more) =
      (e.announced? followed).filter fun child => !more.contains child := by
  refine Option.ext fun child => ?_
  rw [Option.filter_eq_some_iff, announced?_eq_some, announced?_eq_some, List.mem_append, not_or,
    and_assoc]
  simp

/-! ### Scopes -/

/-- The **scope** of a source: the stack that it reads, and from when on. -/
def EventSource.scope (s : EventSource) : String × Instant := (s.stack, s.cutoff)

/-- The scopes of the sources, in registration order. -/
def Aggregator.scopes (a : Aggregator) : List (String × Instant) := a.sources.map EventSource.scope

theorem Aggregator.keys_eq (a : Aggregator) : a.keys = a.scopes.map Prod.fst := by
  rw [keys, scopes, List.map_map]
  rfl

/-- One of the scopes has the stack and the instant in it. -/
def InScope (scopes : List (String × Instant)) (stack : String) (t : Instant) : Prop :=
  ∃ cutoff, (stack, cutoff) ∈ scopes ∧ cutoff ≤ t

theorem InScope.mono {scopes more : List (String × Instant)} {stack : String} {t : Instant}
    (h : InScope scopes stack t) (hsub : scopes ⊆ more) : InScope more stack t := by
  obtain ⟨cutoff, hmem, hle⟩ := h
  exact ⟨cutoff, hsub hmem, hle⟩

theorem EventSource.inScope {sources : List EventSource} {s : EventSource} (hs : s ∈ sources)
    {t : Instant} (ht : s.cutoff ≤ t) : InScope (sources.map EventSource.scope) s.stack t :=
  ⟨s.cutoff, List.mem_map_of_mem hs, ht⟩

/-! ### First sightings -/

/-- What tells the resource of an event apart: the key of its source and its logical identifier. -/
def StreamEvent.resource (p : StreamEvent) : String × String := (p.stack, p.event.logicalId)

/-- The table after an event, which is a sighting if it is about a nested stack. -/
def FirstSeen.sight (table : FirstSeen) (p : StreamEvent) : FirstSeen :=
  if p.event.kind = .nestedStack then FirstSeen.record table p.resource p.event.timestamp
  else table

/-- An entry of the table afterwards is an entry from before, or the instant that was recorded. -/
theorem FirstSeen.get?_record {table : FirstSeen} {key other : String × String}
    {t first : Instant} (h : (FirstSeen.record table key t).get? other = some first) :
    table.get? other = some first ∨ other = key ∧ first = t := by
  by_cases hkey : other = key
  · subst hkey
    rw [record] at h
    split at h
    · rw [Table.get?_set_self] at h
      exact .inr ⟨rfl, (Option.some.inj h).symm⟩
    next earliest hget =>
      rw [Table.get?_set_self] at h
      obtain rfl := Option.some.inj h
      split
      · exact .inr ⟨rfl, rfl⟩
      · exact .inl hget
  · refine .inl ?_
    rw [record] at h
    split at h <;> rwa [Table.get?_set_of_ne _ _ hkey] at h

theorem FirstSeen.exists_get?_record (table : FirstSeen) (key : String × String) (t : Instant) :
    ∃ first, (FirstSeen.record table key t).get? key = some first := by
  rw [record]
  split <;> exact ⟨_, Table.get?_set_self _ _ _⟩

/-! ### Delivered events -/

/-- What tells a published event apart: the key of its source and its identifier. -/
def StreamEvent.ident (p : StreamEvent) : String × String := (p.stack, p.event.eventId)

/-- Every sighting is in the scope of the source that made it. -/
def FirstSeen.Within (table : FirstSeen) (scopes : List (String × Instant)) : Prop :=
  ∀ key t, table.get? key = some t → InScope scopes key.1 t

/-- The sources of an aggregator have **delivered** exactly the published events: each of them is
published once, from the cutoff of its source on, and is what the source has seen. -/
structure Aggregator.Delivered (a : Aggregator) (published : Batch) : Prop where
  nodup_keys : a.keys.Nodup
  followed_eq : a.followed = a.keys
  once : (published.map StreamEvent.ident).Nodup
  mem_seen : ∀ s ∈ a.sources, ∀ id, id ∈ s.seen ↔ (s.stack, id) ∈ published.map StreamEvent.ident
  inScope : ∀ p ∈ published, InScope a.scopes p.stack p.event.timestamp
  within : a.firstSeen.Within a.scopes

theorem Aggregator.delivered_start (root : String) (cutoff : Instant) :
    (Aggregator.start root cutoff).Delivered [] :=
  { nodup_keys := List.nodup_singleton root
    followed_eq := rfl
    once := List.nodup_nil
    mem_seen := by
      intro s hs id
      obtain rfl := List.mem_singleton.mp hs
      simp [EventSource.start]
    inScope := fun p hp => nomatch hp
    within := fun key t h => nomatch h }

/-- A published event comes from a source. -/
theorem Aggregator.Delivered.mem_keys {a : Aggregator} {published : Batch}
    (h : a.Delivered published) {p : StreamEvent} (hp : p ∈ published) : p.stack ∈ a.keys := by
  obtain ⟨cutoff, hmem, -⟩ := h.inScope p hp
  rw [Aggregator.keys_eq]
  exact List.mem_map_of_mem hmem

namespace Tick

/-- The aggregator as it stands in the middle of a tick. -/
def view (t : Tick) : Aggregator :=
  { sources := t.polled ++ t.waiting, followed := t.followed, firstSeen := t.firstSeen }

theorem fail_aggregator (t : Tick) (e : FetchError) : (t.fail e).aggregator = t.view := rfl

theorem start_view (a : Aggregator) : (Tick.start a).view = a := rfl

/-- What a tick has **discovered**: stacks that are announced in its batch and have no source yet,
none of them twice and none left out. -/
structure Discoveries (t : Tick) : Prop where
  nodup : (t.discovered.map (·.1)).Nodup
  not_mem_followed : ∀ d ∈ t.discovered, d.1 ∉ t.followed
  announced : ∀ d ∈ t.discovered, ∃ p ∈ t.batch, p.event.Announces d.1 ∧
    InScope t.view.scopes p.stack d.2
  covered : ∀ p ∈ t.batch, ∀ child, p.event.Announces child →
    child ∈ t.followed ∨ child ∈ t.discovered.map (·.1)
  within : t.firstSeen.Within t.view.scopes

/-! ### Noting an event -/

/-- **Noting an event** sights it, and discovers the stack that it announces if that one is neither
followed nor discovered. -/
theorem note_eq (stack : String) (t : Tick) (e : StackEvent) :
    t.note stack e =
      { t with
        firstSeen := FirstSeen.sight t.firstSeen ⟨stack, e⟩
        discovered := t.discovered ++
          (e.announced? (t.followed ++ t.discovered.map (·.1))).toList.map fun child =>
            (child, ((FirstSeen.sight t.firstSeen ⟨stack, e⟩).get? (stack, e.logicalId)).getD
              e.timestamp) } := by
  by_cases hkind : e.kind = .nestedStack
  · have hsight : FirstSeen.sight t.firstSeen ⟨stack, e⟩ =
        FirstSeen.record t.firstSeen (stack, e.logicalId) e.timestamp := by
      rw [FirstSeen.sight, if_pos hkind]
      rfl
    have hany (child : String) : (t.discovered.any fun d => d.1 == child) =
        (t.discovered.map (·.1)).contains child := by
      rw [List.contains_eq_any_beq, List.any_map]
      exact congrArg _ (funext fun d => Bool.beq_comm)
    rw [note, if_pos hkind, hsight, StackEvent.announced?_append]
    cases e.announced? t.followed with
    | none => simp
    | some child =>
      simp only [hany, Option.filter]
      split
      next hcontains => simp only [hcontains]; simp
      next hcontains => simp only [Bool.not_eq_true] at hcontains; simp only [hcontains]; simp
  · have hnone : e.announced? (t.followed ++ t.discovered.map (·.1)) = none := by
      refine Option.eq_none_iff_forall_ne_some.mpr fun child hchild => ?_
      exact hkind (StackEvent.announced?_eq_some.mp hchild).1.1
    simp [note, hkind, FirstSeen.sight, hnone]

/-- What noting an event does: it may record a sighting, and it discovers the stack that the event
announces, unless that one is known. -/
theorem note_cases (stack : String) (t : Tick) (e : StackEvent) :
    ∃ firstSeen discovered, t.note stack e = { t with firstSeen, discovered } ∧
      (firstSeen = t.firstSeen ∨
        firstSeen = FirstSeen.record t.firstSeen (stack, e.logicalId) e.timestamp) ∧
      ((discovered = t.discovered ∧
          ∀ child, e.Announces child → child ∈ t.followed ∨ child ∈ t.discovered.map (·.1)) ∨
        ∃ child since, e.Announces child ∧ child ∉ t.followed ∧
          child ∉ t.discovered.map (·.1) ∧
          firstSeen.get? (stack, e.logicalId) = some since ∧
          discovered = t.discovered ++ [(child, since)]) := by
  refine ⟨_, _, note_eq stack t e, ?_, ?_⟩
  · rw [FirstSeen.sight]
    split
    · exact .inr rfl
    · exact .inl rfl
  · cases hann : e.announced? (t.followed ++ t.discovered.map (·.1)) with
    | none =>
      exact .inl ⟨List.append_nil _, fun child hchild =>
        List.mem_append.mp (e.mem_of_announced?_eq_none hann hchild)⟩
    | some child =>
      obtain ⟨hchild, hnew⟩ := StackEvent.announced?_eq_some.mp hann
      rw [List.mem_append, not_or] at hnew
      have hsight : FirstSeen.sight t.firstSeen ⟨stack, e⟩ =
          FirstSeen.record t.firstSeen (stack, e.logicalId) e.timestamp := if_pos hchild.1
      obtain ⟨since, hsince⟩ :=
        FirstSeen.exists_get?_record t.firstSeen (stack, e.logicalId) e.timestamp
      rw [hsight, hsince]
      exact .inr ⟨child, since, hchild, hnew.1, hnew.2, rfl, rfl⟩

/-- Only sightings and discoveries change when events are noted. -/
theorem exists_foldl_note (stack : String) (t : Tick) (events : List StackEvent) :
    ∃ firstSeen discovered, events.foldl (note stack) t = { t with firstSeen, discovered } := by
  induction events generalizing t with
  | nil => exact ⟨t.firstSeen, t.discovered, rfl⟩
  | cons e es ih =>
    obtain ⟨firstSeen, discovered, heq, -⟩ := note_cases stack t e
    rw [List.foldl_cons, heq]
    exact ih _

/-- Notes an event of the given stack and adds it to the batch. -/
def deliver (stack : String) (t : Tick) (e : StackEvent) : Tick :=
  { t.note stack e with batch := t.batch ++ [⟨stack, e⟩] }

/-- The batch plays no part when an event is noted. -/
theorem note_batch (stack : String) (t : Tick) (e : StackEvent) (batch : Batch) :
    note stack { t with batch } e = { t.note stack e with batch } := by
  simp only [note]
  split
  · split
    · split <;> rfl
    · rfl
  · rfl

theorem foldl_note_batch (stack : String) (t : Tick) (batch : Batch) (events : List StackEvent) :
    events.foldl (note stack) { t with batch } =
      { events.foldl (note stack) t with batch } := by
  induction events generalizing t with
  | nil => rfl
  | cons e es ih => rw [List.foldl_cons, note_batch, ih, List.foldl_cons]

/-- Events can be noted and added to the batch one by one. -/
theorem foldl_deliver (stack : String) (t : Tick) (events : List StackEvent) :
    events.foldl (deliver stack) t =
      { events.foldl (note stack) t with
        batch := t.batch ++ events.map fun e => ⟨stack, e⟩ } := by
  induction events generalizing t with
  | nil => simp
  | cons e es ih =>
    rw [List.foldl_cons, ih, deliver, foldl_note_batch]
    simp

/-- Events in the scope of their source extend the discoveries. -/
theorem Discoveries.deliver {t : Tick} {stack : String} {e : StackEvent} (h : t.Discoveries)
    (hscope : InScope t.view.scopes stack e.timestamp) : (t.deliver stack e).Discoveries := by
  obtain ⟨firstSeen, discovered, heq, hsight, hdisc⟩ := note_cases stack t e
  have hwithin : firstSeen.Within t.view.scopes := by
    rcases hsight with rfl | rfl
    · exact h.within
    · intro key first hget
      rcases FirstSeen.get?_record hget with hget | ⟨rfl, rfl⟩
      · exact h.within key first hget
      · exact hscope
  have hbefore : ∀ d ∈ t.discovered, ∃ p ∈ t.batch ++ [⟨stack, e⟩], p.event.Announces d.1 ∧
      InScope t.view.scopes p.stack d.2 := by
    intro d hd
    obtain ⟨p, hp, hann⟩ := h.announced d hd
    exact ⟨p, List.mem_append_left _ hp, hann⟩
  rw [Tick.deliver, heq]
  rcases hdisc with ⟨rfl, hknown⟩ | ⟨child, since, hchild, hnew, hfresh, hsince, rfl⟩
  · refine ⟨h.nodup, h.not_mem_followed, hbefore, fun p hp child hann => ?_, hwithin⟩
    rcases List.mem_append.mp hp with hp | hp
    · exact h.covered p hp child hann
    · obtain rfl := List.mem_singleton.mp hp
      exact hknown child hann
  · -- a new stack: the event that announces it is the last one of the batch
    refine ⟨?_, ?_, ?_, fun p hp other hann => ?_, hwithin⟩
    · rw [List.map_append, List.nodup_append]
      refine ⟨h.nodup, List.nodup_singleton child, fun key hkey other hother hsame => hfresh ?_⟩
      obtain rfl := List.mem_singleton.mp hother
      exact hsame ▸ hkey
    · intro d hd
      rcases List.mem_append.mp hd with hd | hd
      · exact h.not_mem_followed d hd
      · obtain rfl := List.mem_singleton.mp hd
        exact hnew
    · intro d hd
      rcases List.mem_append.mp hd with hd | hd
      · exact hbefore d hd
      · obtain rfl := List.mem_singleton.mp hd
        exact ⟨⟨stack, e⟩, by simp, hchild, hwithin _ _ hsince⟩
    · rw [List.map_append, List.mem_append]
      rcases List.mem_append.mp hp with hp | hp
      · exact (h.covered p hp other hann).imp_right .inl
      · obtain rfl := List.mem_singleton.mp hp
        have hother : other = child := hann.2.2.1.symm.trans hchild.2.2.1
        exact .inr (.inr (by simp [hother]))

theorem deliver_view_scopes (stack : String) (t : Tick) (e : StackEvent) :
    (t.deliver stack e).view.scopes = t.view.scopes := by
  obtain ⟨firstSeen, discovered, heq, -⟩ := note_cases stack t e
  rw [deliver, heq]
  rfl

theorem Discoveries.foldl_deliver {t : Tick} {stack : String} {events : List StackEvent}
    (h : t.Discoveries) (hscope : ∀ e ∈ events, InScope t.view.scopes stack e.timestamp) :
    (events.foldl (Tick.deliver stack) t).Discoveries := by
  induction events generalizing t with
  | nil => exact h
  | cons e es ih =>
    refine ih (h.deliver (hscope e List.mem_cons_self)) fun x hx => ?_
    rw [deliver_view_scopes]
    exact hscope x (List.mem_cons_of_mem _ hx)

/-! ### Taking in a history -/

/-- A history makes the source whose turn it is deliver what is new in it. -/
theorem absorb_eq {t : Tick} {source : EventSource} {waiting : List EventSource}
    (hwaiting : t.waiting = source :: waiting) (history : List StackEvent) :
    t.absorb history =
      { (source.select history).1.foldl (deliver source.stack) t with
        polled := t.polled ++ [(source.select history).2], waiting } := by
  rw [absorb, hwaiting, foldl_deliver]
  rfl

theorem exists_absorb {t : Tick} {source : EventSource} {waiting : List EventSource}
    (hwaiting : t.waiting = source :: waiting) (history : List StackEvent) :
    ∃ firstSeen discovered, t.absorb history =
      { polled := t.polled ++ [(source.select history).2], waiting, followed := t.followed,
        firstSeen, discovered,
        batch := t.batch ++ (source.select history).1.map fun e => ⟨source.stack, e⟩ } := by
  obtain ⟨firstSeen, discovered, heq⟩ :=
    exists_foldl_note source.stack t (source.select history).1
  refine ⟨firstSeen, discovered, ?_⟩
  rw [absorb_eq hwaiting, foldl_deliver, heq]

/-- Sources keep their scopes. -/
theorem absorb_view_scopes {t : Tick} {source : EventSource} {waiting : List EventSource}
    (hwaiting : t.waiting = source :: waiting) (history : List StackEvent) :
    (t.absorb history).view.scopes = t.view.scopes := by
  obtain ⟨firstSeen, discovered, heq⟩ := exists_absorb hwaiting history
  rw [heq]
  simp [view, Aggregator.scopes, hwaiting, EventSource.scope, EventSource.select]

theorem Discoveries.absorb {t : Tick} {source : EventSource} {waiting : List EventSource}
    (h : t.Discoveries) (hwaiting : t.waiting = source :: waiting) (history : List StackEvent) :
    (t.absorb history).Discoveries := by
  have hselect := source.delivers_select history
  have hsource : source ∈ t.polled ++ t.waiting := by simp [hwaiting]
  have hnoted := h.foldl_deliver fun e he => EventSource.inScope hsource (hselect.cutoff_le e he)
  have hscopes := absorb_view_scopes hwaiting history
  obtain ⟨firstSeen, discovered, heq⟩ :=
    exists_foldl_note source.stack t (source.select history).1
  rw [absorb_eq hwaiting, Tick.foldl_deliver, heq] at hscopes ⊢
  rw [Tick.foldl_deliver, heq] at hnoted
  refine ⟨hnoted.nodup, hnoted.not_mem_followed, ?_, hnoted.covered, ?_⟩
  · rw [hscopes]
    exact hnoted.announced
  · rw [hscopes]
    exact hnoted.within

end Tick

/-- One source delivers events, and the others stay as they are. -/
theorem Aggregator.Delivered.deliver {a b : Aggregator} {published : Batch}
    {source after : EventSource} {polled waiting : List EventSource}
    {history fresh : List StackEvent} (h : a.Delivered published)
    (hdelivers : source.Delivers history fresh after)
    (ha : a.sources = polled ++ source :: waiting) (hb : b.sources = polled ++ after :: waiting)
    (hfollowed : b.followed = a.followed) (hwithin : b.firstSeen.Within b.scopes) :
    b.Delivered (published ++ fresh.map fun e => ⟨source.stack, e⟩) := by
  have hscopes : b.scopes = a.scopes := by
    simp [scopes, ha, hb, EventSource.scope, hdelivers.stack_eq, hdelivers.cutoff_eq]
  have hkeys : b.keys = a.keys := by rw [keys_eq, hscopes, keys_eq]
  have hsource : source ∈ a.sources := by simp [ha]
  have hnew (ident : String × String) :
      ident ∈ (fresh.map fun e => (⟨source.stack, e⟩ : StreamEvent)).map StreamEvent.ident ↔
        ident.1 = source.stack ∧ ident.2 ∈ fresh.map StackEvent.eventId := by
    obtain ⟨stack, id⟩ := ident
    simp [StreamEvent.ident, eq_comm, and_left_comm]
  refine
    { nodup_keys := hkeys ▸ h.nodup_keys
      followed_eq := by rw [hfollowed, hkeys, h.followed_eq]
      once := ?once
      mem_seen := fun s hs id => ?mem_seen
      inScope := fun p hp => ?inScope
      within := hwithin }
  case once =>
    rw [List.map_append, List.nodup_append]
    refine ⟨h.once, ?_, fun ident hold other hother hsame => ?_⟩
    · refine List.Nodup.of_map Prod.snd ?_
      simpa [StreamEvent.ident, Function.comp_def] using hdelivers.nodup
    · -- what was published under the key is seen, and fresh events were not
      obtain ⟨hstack, hid⟩ := (hnew other).mp hother
      obtain ⟨e, he, hident⟩ := List.mem_map.mp hid
      refine hdelivers.unseen e he ((h.mem_seen source hsource _).mpr ?_)
      rwa [← hstack, hident, Prod.mk.eta, ← hsame]
  case mem_seen =>
    -- the keys of the other sources are different, so the fresh events do not concern them
    have hothers : ∀ s ∈ polled ++ waiting, s.stack ≠ source.stack := by
      have hnodup := h.nodup_keys
      rw [keys, ha, List.map_append, List.map_cons, List.nodup_middle, ← List.map_append] at hnodup
      exact fun s hs hsame => (List.nodup_cons.mp hnodup).1 (hsame ▸ List.mem_map_of_mem hs)
    rw [List.map_append, List.mem_append, hnew]
    rw [hb] at hs
    by_cases hsafter : s = after
    · rw [hsafter, hdelivers.seen_eq, hdelivers.stack_eq, List.mem_append, List.mem_reverse,
        h.mem_seen source hsource]
      simp [or_comm]
    · have hs' : s ∈ polled ++ waiting := by
        simpa [hsafter] using hs
      have hsa : s ∈ a.sources := by
        rw [ha]
        simp only [List.mem_append, List.mem_cons] at hs' ⊢
        exact hs'.imp_right .inr
      simp [hothers s hs', h.mem_seen s hsa]
  case inScope =>
    rw [hscopes]
    rcases List.mem_append.mp hp with hp | hp
    · exact h.inScope p hp
    · obtain ⟨e, he, rfl⟩ := List.mem_map.mp hp
      exact EventSource.inScope hsource (hdelivers.cutoff_le e he)

/-! ### Groups -/

/-- A batch is **grouped** by keys when it consists of one group of events for every key, in the
order of the keys, and each group is in the order of time. -/
def Grouped (keys : List String) (batch : Batch) : Prop :=
  ∃ events : String → List StackEvent, (∀ key, (events key).Pairwise StackEvent.NotAfter) ∧
    batch = keys.flatMap fun key => (events key).map fun e => ⟨key, e⟩

theorem grouped_nil (keys : List String) : Grouped keys [] :=
  ⟨fun _ => [], fun _ => .nil, by simp⟩

theorem Grouped.mem_keys {keys : List String} {batch : Batch} (h : Grouped keys batch)
    {p : StreamEvent} (hp : p ∈ batch) : p.stack ∈ keys := by
  obtain ⟨events, -, rfl⟩ := h
  obtain ⟨key, hkey, hp⟩ := List.mem_flatMap.mp hp
  obtain ⟨e, -, rfl⟩ := List.mem_map.mp hp
  exact hkey

/-- A group for a new key comes after the others. -/
theorem Grouped.append {keys : List String} {batch : Batch} (h : Grouped keys batch) {key : String}
    (hkey : key ∉ keys) {fresh : List StackEvent} (hfresh : fresh.Pairwise StackEvent.NotAfter) :
    Grouped (keys ++ [key]) (batch ++ fresh.map fun e => ⟨key, e⟩) := by
  obtain ⟨events, hpairwise, rfl⟩ := h
  -- the group of a key that is not among the keys plays no part so far
  refine ⟨Function.update events key fresh, fun other => ?_, ?_⟩
  · by_cases hother : other = key
    · rw [hother, Function.update_self]
      exact hfresh
    · rw [Function.update_of_ne hother]
      exact hpairwise other
  · rw [List.flatMap_append, List.flatMap_singleton, Function.update_self]
    refine congrArg (· ++ _) (List.flatMap_congr fun other hother => ?_)
    rw [Function.update_of_ne (ne_of_mem_of_not_mem hother hkey)]

/-- The groups of further keys may be empty. -/
theorem Grouped.mono {keys more : List String} {batch : Batch} (h : Grouped keys batch)
    (hmore : keys <+: more) (hnodup : more.Nodup) : Grouped more batch := by
  obtain ⟨rest, rfl⟩ := hmore
  obtain ⟨events, hpairwise, rfl⟩ := h
  have hrest := List.disjoint_of_nodup_append hnodup
  refine ⟨fun key => if key ∈ keys then events key else [], fun key => ?_, ?_⟩
  · dsimp only
    split
    · exact hpairwise key
    · exact .nil
  · have hempty : (rest.flatMap fun key =>
        (if key ∈ keys then events key else []).map fun e => (⟨key, e⟩ : StreamEvent)) = [] := by
      rw [List.flatMap_eq_nil_iff]
      intro key hkey
      rw [if_neg (fun hmem => hrest hmem hkey), List.map_nil]
    rw [List.flatMap_append, hempty, List.append_nil]
    refine List.flatMap_congr fun key hkey => ?_
    dsimp only
    rw [if_pos hkey]

/-! ### Whole ticks -/

namespace Tick

/-- A tick in progress has **delivered** what was published before it and its own batch. -/
structure Delivered (t : Tick) (published : Batch) : Prop where
  view : t.view.Delivered (published ++ t.batch)
  discoveries : t.Discoveries
  grouped : Grouped (t.polled.map EventSource.stack) t.batch

theorem delivered_start {a : Aggregator} {published : Batch} (h : a.Delivered published) :
    (Tick.start a).Delivered published where
  view := by
    rw [start_view]
    simpa [start] using h
  discoveries :=
    { nodup := .nil
      not_mem_followed := fun d hd => nomatch hd
      announced := fun d hd => nomatch hd
      covered := fun p hp => nomatch hp
      within := h.within }
  grouped := grouped_nil _

/-- Taking in a history keeps every event delivered once. -/
theorem Delivered.absorb {t : Tick} {published : Batch} {source : EventSource}
    {waiting : List EventSource} (h : t.Delivered published)
    (hwaiting : t.waiting = source :: waiting) (history : List StackEvent) :
    (t.absorb history).Delivered published := by
  have hdelivers := source.delivers_select history
  have hdiscoveries := h.discoveries.absorb hwaiting history
  obtain ⟨firstSeen, discovered, heq⟩ := exists_absorb hwaiting history
  rw [heq] at hdiscoveries ⊢
  refine ⟨?_, hdiscoveries, ?_⟩
  · have hsources : t.view.sources = t.polled ++ source :: waiting := by
      rw [Tick.view, hwaiting]
    rw [← List.append_assoc]
    refine h.view.deliver hdelivers hsources ?_ rfl hdiscoveries.within
    simp [Tick.view]
  · rw [List.map_append, List.map_singleton, hdelivers.stack_eq]
    -- the source was still waiting, so its key has no group yet
    refine h.grouped.append (fun hmem => ?_) hdelivers.pairwise
    have hnodup := h.view.nodup_keys
    rw [Aggregator.keys, Tick.view, hwaiting, List.map_append] at hnodup
    exact List.disjoint_of_nodup_append hnodup hmem (by simp)

/-- A tick that polled every source adds the scopes of the discovered stacks. -/
theorem finish_scopes (t : Tick) : t.finish.aggregator.scopes = t.view.scopes ++ t.discovered := by
  simp [Tick.finish, view, Aggregator.scopes, EventSource.scope, EventSource.start,
    Function.comp_def]

theorem view_scopes_prefix_finish (t : Tick) : t.view.scopes <+: t.finish.aggregator.scopes := by
  rw [finish_scopes]
  exact List.prefix_append _ _

/-- The sources of the discovered stacks have delivered nothing, and nothing was published under
their keys. -/
theorem Delivered.finish {t : Tick} {published : Batch} (h : t.Delivered published) :
    t.finish.aggregator.Delivered (published ++ t.batch) := by
  have hkeys : t.finish.aggregator.keys = t.view.keys ++ t.discovered.map (·.1) := by
    rw [Aggregator.keys_eq, finish_scopes, List.map_append, ← Aggregator.keys_eq]
  have hold := (view_scopes_prefix_finish t).subset
  have hnew : ∀ d ∈ t.discovered, d.1 ∉ t.view.keys := fun d hd => by
    rw [← h.view.followed_eq]
    exact h.discoveries.not_mem_followed d hd
  refine
    { nodup_keys := ?_
      followed_eq := ?_
      once := h.view.once
      mem_seen := fun s hs id => ?_
      inScope := fun p hp => (h.view.inScope p hp).mono hold
      within := fun key first hget => (h.view.within key first hget).mono hold }
  · rw [hkeys, List.nodup_append]
    refine ⟨h.view.nodup_keys, h.discoveries.nodup, fun key hkey other hother hsame => ?_⟩
    obtain ⟨d, hd, rfl⟩ := List.mem_map.mp hother
    exact hnew d hd (hsame ▸ hkey)
  · rw [hkeys, ← h.view.followed_eq]
    rfl
  · rcases List.mem_append.mp hs with hs | hs
    · exact h.view.mem_seen s hs id
    · obtain ⟨d, hd, rfl⟩ := List.mem_map.mp hs
      refine iff_of_false List.not_mem_nil fun hmem => hnew d hd ?_
      obtain ⟨p, hp, hident⟩ := List.mem_map.mp hmem
      obtain ⟨hstack, -⟩ := Prod.mk.inj hident
      have hd : p.stack = d.1 := hstack
      exact hd ▸ h.view.mem_keys hp

end Tick

end StackDeploy
