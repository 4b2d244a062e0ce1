import StackDeploy.Proofs.Progress.Arena
import StackDeploy.Proofs.Stream.Discovery
import StackDeploy.Proofs.Stream.Ticking

/-!
# Nested stacks hang from their resources

The aggregator and the tree decide independently which nested stacks there are: the one follows the
stacks that are announced, the other makes nodes the owners of the stacks that are placed. They
agree, because a stack is followed only after an event that also places it, and so an event of a
nested stack always finds the node of its stack.

* `Heralded` — every event comes from the root stack or from one that an event before it has placed.
* `heralded_of_published` — so do the events that an aggregator publishes.
* `ProgressTree.Hangs` — the resources of a stack stand under the node of a resource.
* `nesting_agrees` — every nested stack hangs from the resource that was first to name it.
-/

namespace StackDeploy

/-- The event **names** a stack: it is about a nested stack with this physical identifier. -/
def StreamEvent.Names (e : StreamEvent) (stack : String) : Prop :=
  e.event.kind = .nestedStack ∧ e.event.physicalId = stack

instance (e : StreamEvent) (stack : String) : Decidable (e.Names stack) :=
  inferInstanceAs (Decidable (_ ∧ _))

theorem StreamEvent.Places.names {e : StreamEvent} {stack : String} (h : e.Places stack) :
    e.Names stack :=
  ⟨h.1, h.2.1⟩

/-- The event is **plain about its stack**: if it is about a nested stack and carries the key of the
stack that delivers it as its logical identifier, it gives no other physical identifier than that
key. -/
def StreamEvent.PlainOfItself (e : StreamEvent) : Prop :=
  e.event.kind = .nestedStack → e.event.logicalId = e.stack → e.event.physicalId ≠ "" →
    e.event.physicalId = e.stack

/-- Every event comes from the root stack or is **heralded** by one before it that places its
stack. -/
def Heralded (root : String) (events : List StreamEvent) : Prop :=
  Obeys (fun before e => e.stack = root ∨ ∃ q ∈ before, q.Places e.stack) events

section Heralded

variable {root : String} {events : List StreamEvent}

/-- The first event that names a nested stack places it, if any event of that stack is to come: as
an event about the stack itself it would be an event of that stack already. -/
theorem Heralded.places_of_first (h : Heralded root events)
    (hplain : ∀ p ∈ events, p.PlainOfItself) {before after : List StreamEvent} {q : StreamEvent}
    {stack : String} (hevents : events = before ++ q :: after) (hroot : stack ≠ root)
    (hstack : stack ≠ "") (hq : q.Names stack) (hfirst : ∀ p ∈ before, ¬ p.Names stack) :
    q.Places stack := by
  obtain ⟨hkind, rfl⟩ := hq
  refine ⟨hkind, rfl, hstack, ?_⟩
  by_contra habout
  rw [Bool.not_eq_false, ProgressTree.isAboutStack, Bool.or_eq_true, beq_iff_eq,
    beq_iff_eq] at habout
  have hself : q.event.physicalId = q.stack := by
    rcases habout with hlogical | hphysical
    · exact hplain q (by simp [hevents]) hkind hlogical hstack
    · exact hphysical
  obtain hcomes | ⟨p, hp, hplaces⟩ := h before q after hevents
  · exact hroot (hself.trans hcomes)
  · exact hfirst p hp (hself ▸ hplaces.names)

/-- **The first event that names the stack** of an event comes before that event and places the
stack. -/
theorem Heralded.exists_first (h : Heralded root events) (hplain : ∀ p ∈ events, p.PlainOfItself)
    {before after : List StreamEvent} {p : StreamEvent} (hevents : events = before ++ p :: after)
    (hnested : p.stack ≠ root) :
    ∃ q, before.find? (fun q => decide (q.Names p.stack)) = some q ∧
      before.find? (fun q => decide (q.Places p.stack)) = some q := by
  obtain ⟨herald, hherald, hplaces⟩ := (h before p after hevents).resolve_left hnested
  have hsome : (before.find? fun q => decide (q.Names p.stack)).isSome :=
    List.find?_isSome.mpr ⟨herald, hherald, decide_eq_true hplaces.names⟩
  obtain ⟨q, hq⟩ := Option.isSome_iff_exists.mp hsome
  obtain ⟨hnames, first, rest, rfl, hfirst⟩ := List.find?_eq_some_iff_append.mp hq
  have hfirst : ∀ other ∈ first, ¬ other.Names p.stack := fun other hother =>
    by simpa using hfirst other hother
  have hqplaces := h.places_of_first hplain (by rw [hevents, List.append_assoc, List.cons_append])
    hnested hplaces.2.2.1 (of_decide_eq_true hnames) hfirst
  refine ⟨q, hq, List.find?_eq_some_iff_append.mpr ⟨decide_eq_true hqplaces, first, rest, rfl, ?_⟩⟩
  intro other hother
  simpa using fun hp => hfirst other hother (StreamEvent.Places.names hp)

end Heralded

/-! ### The events of an aggregator -/

/-- What registers a stack places it, too. -/
theorem Aggregator.Registered.places {a : Aggregator} {root : String} {calls : List TickCall}
    (h : a.Registered root calls) {p : StreamEvent} (hp : p ∈ registrations [root] calls)
    (hplain : p.PlainOfItself) : p.Places p.child := by
  obtain ⟨-, hkind, -, -, hchild⟩ := published_of_mem_registrations hp
  have hother : p.event.physicalId ≠ p.stack := h.child_ne p hp
  refine ⟨hkind, rfl, hchild, ?_⟩
  rw [ProgressTree.isAboutStack, Bool.or_eq_false_iff, beq_eq_false_iff_ne, beq_eq_false_iff_ne]
  exact ⟨fun hlogical => hother (hplain hkind hlogical hchild), hother⟩

/-- **An aggregator heralds its stacks**: whatever the service replies to its ticks, every event
that it publishes is of the root stack or of one that an event before it has placed. -/
theorem Aggregator.Ticks.heralded {root : String} {cutoff : Instant} {calls : List TickCall}
    {a : Aggregator} (h : (Aggregator.start root cutoff).Ticks calls a)
    (hplain : ∀ p ∈ (publishedBy calls).flatten, p.PlainOfItself) :
    Heralded root (publishedBy calls).flatten := by
  induction h with
  | start => exact obeys_nil _
  | @tick calls a call before ends ih =>
    rw [flatten_publishedBy_append_singleton] at hplain ⊢
    have hregistered := before.registered
    obtain ⟨-, hstacks, -⟩ := Poll.registers_of_ends before.delivers.1 hregistered.records ends
    refine Obeys.append (ih fun p hp => hplain p (List.mem_append_left _ hp))
      fun earlier e later hbatch => ?_
    -- the tick polls the stacks that were registered before it
    have hkey : e.stack ∈ a.keys := hstacks e (by simp [hbatch])
    rw [hregistered.keys_eq] at hkey
    rcases List.mem_cons.mp hkey with hroot | hkey
    · exact .inl hroot
    · obtain ⟨q, hq, hchild⟩ := List.mem_map.mp hkey
      have hpublished := (published_of_mem_registrations hq).1
      have hplaces := hregistered.places hq (hplain q (List.mem_append_left _ hpublished))
      exact .inr ⟨q, List.mem_append_left _ hpublished, hchild ▸ hplaces⟩

theorem heralded_of_published {root : String} {cutoff : Instant} {events : Batch}
    (h : PublishedFrom root cutoff events) (hplain : ∀ p ∈ events, p.PlainOfItself) :
    Heralded root events := by
  obtain ⟨calls, a, hticks, rfl⟩ := h.exists_ticks
  exact hticks.heralded hplain

/-! ### The tree of heralded events -/

namespace ProgressTree

variable {root : String} {events : List StreamEvent} {t : ProgressTree}

/-- Every resource **stands under the owner** of its stack. -/
def Nests (t : ProgressTree) : Prop :=
  ∀ stack logicalId i, t.resources.get? (stack, logicalId) = some i →
    ∃ owner, t.owners.get? stack = some owner ∧ t.HasChild owner i

/-- An event of a stack that has an owner keeps it so. -/
theorem Nests.apply (h : t.Nests) (hwf : t.WellFormed) {e : StreamEvent} {owner : Nat}
    (howner : t.owners.get? e.stack = some owner) : (t.apply e).2.Nests := by
  intro stack logicalId i hget
  have hold (hget : t.resources.get? (stack, logicalId) = some i) :
      ∃ owner, (t.apply e).2.owners.get? stack = some owner ∧
        (t.apply e).2.HasChild owner i := by
    obtain ⟨o, ho, hchild⟩ := h stack logicalId i hget
    exact ⟨o, owners_apply_of_some ho e, hchild.apply e⟩
  rw [resources_apply] at hget
  split at hget
  next hkey =>
    obtain ⟨hown, hresource⟩ := hkey
    obtain rfl := Option.some.inj hget
    obtain ⟨hother, -⟩ | ⟨-, hknown, -⟩ | ⟨-, hnew, -⟩ := t.route_cases e
    · exact absurd (hown.symm.trans hother) nofun
    · exact hold (hresource ▸ hknown)
    · obtain ⟨rfl, -⟩ := Prod.mk.inj hresource
      have hchild := hwf.hasChild_of_new hown hnew
      rw [ProgressTree.owner, howner, Option.getD_some] at hchild
      exact ⟨owner, owners_apply_of_some howner e, hchild⟩
  · exact hold hget

/-- A stack that an event has placed has an owner, and so has the root stack. -/
theorem exists_owner {stack : String}
    (h : stack = root ∨ ∃ q ∈ events, q.Places stack) :
    ∃ owner, ((start root).applyAll events).owners.get? stack = some owner := by
  rw [owners_applyAll]
  split
  · exact ⟨0, rfl⟩
  next hne =>
    obtain ⟨q, hq, hplaces⟩ := h.resolve_left hne
    have hsome : (events.find? fun e => decide (e.Places stack)).isSome :=
      List.find?_isSome.mpr ⟨q, hq, decide_eq_true hplaces⟩
    obtain ⟨first, hfirst⟩ := Option.isSome_iff_exists.mp hsome
    have hmem := List.mem_of_find?_eq_some hfirst
    have hown : first.Places stack := by simpa using List.find?_some hfirst
    rw [hfirst, Option.bind_some]
    exact Option.isSome_iff_exists.mp (isSome_resources_applyAll hmem hown.2.2.2)

theorem nests_applyAll (h : Heralded root events) : ((start root).applyAll events).Nests := by
  induction events using List.reverseRecOn with
  | nil =>
    intro stack logicalId i hget
    cases hget
  | append_singleton events e ih =>
    obtain ⟨hevents, he⟩ := obeys_append_singleton.mp h
    obtain ⟨owner, howner⟩ := exists_owner he
    rw [applyAll_append_singleton]
    exact (ih hevents).apply ((wellFormed_start root).applyAll events) howner

/-- A stack **hangs** from the node of the resource that an event is about: that node is its owner,
it is not the root, and all the resources of the stack are its children. -/
structure Hangs (t : ProgressTree) (stack : String) (q : StreamEvent) (idx : Nat) : Prop where
  owner_eq : t.owners.get? stack = some idx
  resource_eq : t.resources.get? q.resource = some idx
  ne_root : idx ≠ 0
  children : ∀ logicalId i, t.resources.get? (stack, logicalId) = some i → t.HasChild idx i

/-- A nested stack hangs from the resource that the first event placing it is about. -/
theorem hangs_of_find? (h : Heralded root events) {stack : String} {q : StreamEvent}
    (hroot : stack ≠ root)
    (hq : events.find? (fun q => decide (q.Places stack)) = some q) :
    ∃ idx, ((start root).applyAll events).Hangs stack q idx := by
  have hplaces : q.Places stack := by simpa using List.find?_some hq
  obtain ⟨idx, hget⟩ := Option.isSome_iff_exists.mp
    (isSome_resources_applyAll (t := start root) (List.mem_of_find?_eq_some hq) hplaces.2.2.2)
  have howner : ((start root).applyAll events).owners.get? stack = some idx := by
    rw [owners_applyAll, if_neg hroot, hq, Option.bind_some, hget]
  have hbounds := ((wellFormed_start root).applyAll events).resource_bounds hget
  refine ⟨idx, howner, hget, Nat.ne_of_gt hbounds.1, fun logicalId i hi => ?_⟩
  obtain ⟨owner, ho, hchild⟩ := nests_applyAll h stack logicalId i hi
  obtain rfl := Option.some.inj (ho.symm.trans howner)
  exact hchild

end ProgressTree

open ProgressTree

/-- **The aggregator and the tree agree on nesting.** Whatever the service replies, an event of a
nested stack that is applied finds its stack hanging from the resource that was the first to name
it, and there it stays. So no such event goes to the root. -/
theorem nesting_agrees {root : String} {cutoff : Instant} {events : Batch}
    (h : PublishedFrom root cutoff events) (hplain : ∀ p ∈ events, p.PlainOfItself)
    {before after : List StreamEvent} {p : StreamEvent} (hevents : events = before ++ p :: after)
    (hnested : p.stack ≠ root) :
    ∃ q idx, before.find? (fun q => decide (q.Names p.stack)) = some q ∧ isAboutStack q = false ∧
      (∀ more, more <+: p :: after →
        ((start root).applyAll (before ++ more)).Hangs p.stack q idx) ∧
      ((start root).applyAll before).target p ≠ 0 := by
  have hheralded := heralded_of_published h hplain
  obtain ⟨q, hnames, hplaces⟩ := hheralded.exists_first hplain hevents hnested
  have hfound : q.Places p.stack := by simpa using List.find?_some hplaces
  have hangs (more : List StreamEvent) (hmore : more <+: p :: after) :
      ∃ idx, ((start root).applyAll (before ++ more)).Hangs p.stack q idx := by
    obtain ⟨rest, hrest⟩ := hmore
    have hsplit : events = (before ++ more) ++ rest := by rw [hevents, ← hrest, List.append_assoc]
    rw [hsplit] at hheralded
    refine hangs_of_find? hheralded.left hnested ?_
    rw [List.find?_append, hplaces, Option.some_or]
  obtain ⟨idx, hidx⟩ := hangs [] List.nil_prefix
  rw [List.append_nil] at hidx
  refine ⟨q, idx, hnames, hfound.2.2.2, fun more hmore => ?_, ?_⟩
  · obtain ⟨idx', hidx'⟩ := hangs more hmore
    have hstays := resources_applyAll_of_some hidx.resource_eq more
    rw [← applyAll_append] at hstays
    obtain rfl := Option.some.inj (hstays.symm.trans hidx'.resource_eq)
    exact hidx'
  · obtain ⟨habout, htarget, -⟩ | ⟨-, hget, -⟩ | ⟨-, -, htarget, -⟩ :=
      ((start root).applyAll before).route_cases p
    · rw [htarget, owner, hidx.owner_eq, Option.getD_some]
      exact hidx.ne_root
    · exact Nat.ne_of_gt
        (((wellFormed_start root).applyAll before).resource_bounds hget).1
    · rw [htarget]
      have hlength := ((wellFormed_start root).applyAll before).length_nodes
      omega

/-- The tick after the discovery of the nested stack, which reads an event of it. -/
def nestedTick : TickCall :=
  { trace := [.page "app" none (.ok ⟨[addonsCreated], none⟩),
      .page "addons" none (.ok ⟨[queueCreated], none⟩)]
    outcome := (((Tick.start discoveringTick.outcome.aggregator).absorb [addonsCreated]).absorb
      [queueCreated]).finish }

theorem nestedTick_follows :
    (Aggregator.start "app" .epoch).Ticks [discoveringTick, nestedTick]
      nestedTick.outcome.aggregator := by
  have discovered := Poll.runs_page (.start (.start "app" .epoch)) .start .start rfl
    (.ok ⟨[addonsCreated], none⟩)
  have parent := Poll.runs_page (.start discoveringTick.outcome.aggregator) .start .start rfl
    (.ok ⟨[addonsCreated], none⟩)
  have nested := Poll.runs_page _ _ parent rfl (.ok ⟨[queueCreated], none⟩)
  have first : (Aggregator.start "app" .epoch).Ticks [discoveringTick] _ :=
    Aggregator.Ticks.start.tick ⟨_, discovered, rfl⟩
  exact first.tick ⟨_, nested, rfl⟩

/-- The queue of the nested stack stands under the resource of that stack. -/
theorem queue_stands_under_addons :
    PublishedFrom "app" .epoch [⟨"app", addonsCreated⟩, ⟨"addons", queueCreated⟩] ∧
      ((start "app").applyAll [⟨"app", addonsCreated⟩, ⟨"addons", queueCreated⟩]).Hangs
        "addons" ⟨"app", addonsCreated⟩ 1 := by
  have hpublished : PublishedFrom "app" .epoch
      [⟨"app", addonsCreated⟩, ⟨"addons", queueCreated⟩] := .ticks nestedTick_follows
  have hsplit : [⟨"app", addonsCreated⟩, ⟨"addons", queueCreated⟩] =
      [⟨"app", addonsCreated⟩] ++ ⟨"addons", queueCreated⟩ :: ([] : Batch) := rfl
  have hplain : ∀ p ∈ ([⟨"app", addonsCreated⟩, ⟨"addons", queueCreated⟩] : Batch),
      p.PlainOfItself := by
    simp [StreamEvent.PlainOfItself, addonsCreated, queueCreated, StackEvent.basic]
  obtain ⟨q, idx, hq, -, hangs, -⟩ := nesting_agrees hpublished hplain hsplit (by decide)
  have hfirst : ([⟨"app", addonsCreated⟩] : Batch).find? (fun q => decide (q.Names "addons")) =
      some ⟨"app", addonsCreated⟩ := by decide
  obtain rfl := Option.some.inj (hq.symm.trans hfirst)
  have hidx := hangs [⟨"addons", queueCreated⟩] List.prefix_rfl
  have hone : idx = 1 := Option.some.inj (hidx.resource_eq.symm.trans (by decide))
  exact ⟨hpublished, hone ▸ hidx⟩

end StackDeploy
