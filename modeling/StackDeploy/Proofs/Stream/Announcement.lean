import StackDeploy.Proofs.Stream.Tick

/-!
# Announcements and sightings

What published events say about nested stacks, read off the events alone: which events announce a
stack first, and when the resource of a nested stack was sighted.

* `firstAnnouncements` — the first announcements among the events of a batch, in order.
* `announcement?_of_mem_firstAnnouncements`, `pairwise_firstAnnouncements` — each of them is the
  first event of the batch that announces its stack, and they stand in the order of the batch.
* `FirstSeen.Records` — a table that holds the earliest sighting of every resource.
-/

namespace StackDeploy

/-! ### First announcements -/

instance (e : StackEvent) (child : String) : Decidable (e.Announces child) :=
  inferInstanceAs (Decidable (_ ∧ _ ∧ _ ∧ _))

/-- The stack that an announcing event is about. -/
def StreamEvent.child (p : StreamEvent) : String := p.event.physicalId

/-- The first event of a batch that announces the stack. -/
def announcement? (batch : Batch) (child : String) : Option StreamEvent :=
  batch.find? fun p => decide (p.event.Announces child)

/-- The place of that event in the batch. -/
def announcedAt (batch : Batch) (child : String) : Nat :=
  batch.findIdx fun p => decide (p.event.Announces child)

section Announcement

variable {p : StreamEvent} {rest : Batch} {child : String}

theorem announcement?_cons_self (h : p.event.Announces child) :
    announcement? (p :: rest) child = some p :=
  List.find?_cons_of_pos (decide_eq_true h)

theorem announcement?_cons_of_not (h : ¬ p.event.Announces child) :
    announcement? (p :: rest) child = announcement? rest child :=
  List.find?_cons_of_neg (by simpa using h)

theorem announcedAt_cons_self (h : p.event.Announces child) :
    announcedAt (p :: rest) child = 0 := by
  rw [announcedAt, List.findIdx_cons, decide_eq_true h, cond_true]

theorem announcedAt_cons_of_not (h : ¬ p.event.Announces child) :
    announcedAt (p :: rest) child = announcedAt rest child + 1 := by
  rw [announcedAt, List.findIdx_cons, decide_eq_false h, cond_false]
  rfl

end Announcement

/-- The events of a batch that announce a stack **first**: no event before them does, and the stack
is not followed. -/
def firstAnnouncements (followed : List String) : Batch → List StreamEvent
  | [] => []
  | p :: rest =>
    match p.event.announced? followed with
    | some child => p :: firstAnnouncements (followed ++ [child]) rest
    | none => firstAnnouncements followed rest

section FirstAnnouncements

variable {followed : List String} {p : StreamEvent} {rest : Batch}

theorem child_of_announced? {child : String} (h : p.event.announced? followed = some child) :
    p.child = child :=
  (StackEvent.announced?_eq_some.mp h).1.2.2.1

theorem firstAnnouncements_cons_of_some {child : String}
    (h : p.event.announced? followed = some child) :
    firstAnnouncements followed (p :: rest) =
      p :: firstAnnouncements (followed ++ [child]) rest := by
  rw [firstAnnouncements, h]

theorem firstAnnouncements_cons_of_none (h : p.event.announced? followed = none) :
    firstAnnouncements followed (p :: rest) = firstAnnouncements followed rest := by
  rw [firstAnnouncements, h]

theorem firstAnnouncements_append (followed : List String) (first second : Batch) :
    firstAnnouncements followed (first ++ second) =
      firstAnnouncements followed first ++
        firstAnnouncements
          (followed ++ (firstAnnouncements followed first).map StreamEvent.child) second := by
  induction first generalizing followed with
  | nil => simp [firstAnnouncements]
  | cons p rest ih =>
    cases h : p.event.announced? followed with
    | none =>
      rw [List.cons_append, firstAnnouncements_cons_of_none h, firstAnnouncements_cons_of_none h,
        ih]
    | some child =>
      rw [List.cons_append, firstAnnouncements_cons_of_some h, firstAnnouncements_cons_of_some h,
        ih, List.map_cons, child_of_announced? h, List.append_assoc, List.singleton_append,
        List.cons_append]

/-- A first announcement is an event of the batch, and it announces a stack that is not followed. -/
theorem announces_of_mem_firstAnnouncements {batch : Batch}
    (hp : p ∈ firstAnnouncements followed batch) :
    p ∈ batch ∧ p.event.Announces p.child ∧ p.child ∉ followed := by
  induction batch generalizing followed with
  | nil => cases hp
  | cons q rest ih =>
    cases h : q.event.announced? followed with
    | none =>
      rw [firstAnnouncements_cons_of_none h] at hp
      obtain ⟨hmem, hann, hnew⟩ := ih hp
      exact ⟨List.mem_cons_of_mem _ hmem, hann, hnew⟩
    | some child =>
      rw [firstAnnouncements_cons_of_some h] at hp
      rcases List.mem_cons.mp hp with rfl | hp
      · obtain ⟨hann, hnew⟩ := StackEvent.announced?_eq_some.mp h
        rw [child_of_announced? h]
        exact ⟨List.mem_cons_self, hann, hnew⟩
      · obtain ⟨hmem, hann, hnew⟩ := ih hp
        exact ⟨List.mem_cons_of_mem _ hmem, hann,
          fun hfollowed => hnew (List.mem_append_left _ hfollowed)⟩

/-- Every stack that the batch announces is followed or announced first by one of its events. -/
theorem mem_child_firstAnnouncements {batch : Batch} (hp : p ∈ batch) {child : String}
    (hann : p.event.Announces child) :
    child ∈ followed ∨ child ∈ (firstAnnouncements followed batch).map StreamEvent.child := by
  induction batch generalizing followed with
  | nil => cases hp
  | cons q rest ih =>
    cases h : q.event.announced? followed with
    | none =>
      rw [firstAnnouncements_cons_of_none h]
      rcases List.mem_cons.mp hp with rfl | hp
      · exact .inl (StackEvent.mem_of_announced?_eq_none h hann)
      · exact ih hp
    | some other =>
      rw [firstAnnouncements_cons_of_some h, List.map_cons, child_of_announced? h]
      rcases List.mem_cons.mp hp with rfl | hp
      · have hchild : child = other := hann.2.2.1.symm.trans (child_of_announced? h)
        exact .inr (hchild ▸ List.mem_cons_self)
      · rcases @ih (followed ++ [other]) hp with hmem | hmem
        · rcases List.mem_append.mp hmem with hmem | hmem
          · exact .inl hmem
          · obtain rfl := List.mem_singleton.mp hmem
            exact .inr List.mem_cons_self
        · exact .inr (List.mem_cons_of_mem _ hmem)

/-- An event that comes before a first announcement does not announce its stack. -/
theorem not_announces_of_mem_rest {q : StreamEvent}
    (hq : q ∈ firstAnnouncements (followed ++ (p.event.announced? followed).toList) rest) :
    ¬ p.event.Announces q.child := by
  intro hann
  have hnew := (announces_of_mem_firstAnnouncements hq).2.2
  rw [List.mem_append, not_or] at hnew
  refine hnew.2 (Option.mem_toList.mpr ?_)
  exact StackEvent.announced?_eq_some.mpr ⟨hann, hnew.1⟩

/-- A first announcement is the first event of the batch that announces its stack. -/
theorem announcement?_of_mem_firstAnnouncements {batch : Batch}
    (hp : p ∈ firstAnnouncements followed batch) : announcement? batch p.child = some p := by
  induction batch generalizing followed with
  | nil => cases hp
  | cons q rest ih =>
    -- in what follows the first event, the stacks that it does not announce are looked for
    have hrest (hmem : p ∈ firstAnnouncements
        (followed ++ (q.event.announced? followed).toList) rest) :
        announcement? (q :: rest) p.child = some p := by
      rw [announcement?_cons_of_not (not_announces_of_mem_rest hmem)]
      exact ih hmem
    cases h : q.event.announced? followed with
    | none =>
      rw [firstAnnouncements_cons_of_none h] at hp
      exact hrest (by simpa [h] using hp)
    | some child =>
      rw [firstAnnouncements_cons_of_some h] at hp
      rcases List.mem_cons.mp hp with rfl | hp
      · have hann := (StackEvent.announced?_eq_some.mp h).1
        rw [child_of_announced? h, announcement?_cons_self hann]
      · exact hrest (by simpa [h] using hp)

/-- First announcements stand in the order in which their stacks are announced. -/
theorem pairwise_firstAnnouncements (followed : List String) (batch : Batch) :
    ((firstAnnouncements followed batch).map StreamEvent.child).Pairwise fun x y =>
      announcedAt batch x < announcedAt batch y := by
  induction batch generalizing followed with
  | nil => exact .nil
  | cons p rest ih =>
    have hskip {child : String} (hmem : child ∈ (firstAnnouncements
        (followed ++ (p.event.announced? followed).toList) rest).map StreamEvent.child) :
        announcedAt (p :: rest) child = announcedAt rest child + 1 := by
      obtain ⟨q, hq, rfl⟩ := List.mem_map.mp hmem
      exact announcedAt_cons_of_not (not_announces_of_mem_rest hq)
    have hrest := (ih (followed ++ (p.event.announced? followed).toList)).imp_of_mem
      (S := fun x y => announcedAt (p :: rest) x < announcedAt (p :: rest) y)
      fun {x y} hx hy hlt => by
        rw [hskip hx, hskip hy]
        exact Nat.succ_lt_succ hlt
    cases h : p.event.announced? followed with
    | none =>
      rw [firstAnnouncements_cons_of_none h]
      simpa [h] using hrest
    | some child =>
      have hann := (StackEvent.announced?_eq_some.mp h).1
      rw [h] at hskip hrest
      rw [firstAnnouncements_cons_of_some h, List.map_cons, List.pairwise_cons,
        child_of_announced? h]
      refine ⟨fun other hother => ?_, hrest⟩
      rw [announcedAt_cons_self hann, hskip hother]
      exact Nat.succ_pos _

end FirstAnnouncements

/-! ### Sightings -/

/-- When a resource was **sighted** as a nested stack: the timestamps of all its events as such. -/
def sightings (published : Batch) (key : String × String) : List Instant :=
  (published.filter fun p => p.event.kind = .nestedStack ∧ p.resource = key).map
    fun p => p.event.timestamp

/-- The instant is the **earliest** of the instants. -/
def Earliest (instants : List Instant) (t : Instant) : Prop :=
  t ∈ instants ∧ ∀ other ∈ instants, t ≤ other

theorem mem_sightings {published : Batch} {key : String × String} {t : Instant} :
    t ∈ sightings published key ↔
      ∃ p ∈ published, p.event.kind = .nestedStack ∧ p.resource = key ∧ p.event.timestamp = t := by
  simp [sightings, and_assoc]

theorem sightings_append (first second : Batch) (key : String × String) :
    sightings (first ++ second) key = sightings first key ++ sightings second key := by
  rw [sightings, List.filter_append, List.map_append]
  rfl

theorem earliest_singleton (t : Instant) : Earliest [t] t :=
  ⟨List.mem_singleton_self t, fun other hother => by
    rw [List.mem_singleton.mp hother]
    exact Instant.le_refl t⟩

theorem Earliest.append {instants more : List Instant} {t : Instant} (h : Earliest instants t)
    (hmore : ∀ other ∈ more, t ≤ other) : Earliest (instants ++ more) t := by
  refine ⟨List.mem_append_left _ h.1, fun other hother => ?_⟩
  rcases List.mem_append.mp hother with hother | hother
  · exact h.2 other hother
  · exact hmore other hother

/-- The earlier one of the earliest instant and a further one is the earliest of all. -/
theorem Earliest.insert {instants : List Instant} {t : Instant} (h : Earliest instants t)
    (other : Instant) : Earliest (instants ++ [other]) (if other < t then other else t) := by
  split
  next hlt =>
    have hle : other ≤ t := Int.le_of_lt hlt
    refine ⟨List.mem_append_right _ (List.mem_singleton_self _), fun x hx => ?_⟩
    rcases List.mem_append.mp hx with hx | hx
    · exact Instant.le_trans hle (h.2 x hx)
    · exact (earliest_singleton other).2 x hx
  next hle =>
    refine h.append fun x hx => ?_
    rw [List.mem_singleton.mp hx]
    exact Instant.not_lt.mp hle

/-- The table **records** the earliest sighting of every resource that was sighted. -/
def FirstSeen.Records (table : FirstSeen) (published : Batch) : Prop :=
  ∀ key, match table.get? key with
    | none => sightings published key = []
    | some t => Earliest (sightings published key) t

theorem FirstSeen.Records.sight {table : FirstSeen} {published : Batch}
    (h : table.Records published) (p : StreamEvent) :
    (FirstSeen.sight table p).Records (published ++ [p]) := by
  intro key
  have hkey := h key
  rw [sightings_append]
  by_cases hp : p.event.kind = .nestedStack ∧ p.resource = key
  · obtain ⟨hkind, rfl⟩ := hp
    have hlast : sightings [p] p.resource = [p.event.timestamp] := by
      simp [sightings, hkind]
    rw [hlast, FirstSeen.sight, if_pos hkind, FirstSeen.record]
    cases hget : Table.get? table p.resource with
    | none =>
      simp only [hget] at hkey
      simp only [Table.get?_set_self, hkey]
      exact earliest_singleton _
    | some t =>
      simp only [hget] at hkey
      simp only [Table.get?_set_self]
      exact hkey.insert _
  · -- an event of another resource, or of another kind, is no sighting of this one
    have hlast : sightings [p] key = [] := by
      simpa [sightings] using hp
    have hsame : (FirstSeen.sight table p).get? key = table.get? key := by
      rw [FirstSeen.sight]
      split
      next hkind =>
        have hne : key ≠ p.resource := fun hsame => hp ⟨hkind, hsame.symm⟩
        rw [FirstSeen.record]
        split <;> exact Table.get?_set_of_ne _ _ hne
      · rfl
    rw [hsame, hlast, List.append_nil]
    exact hkey

/-- What is recorded of a resource that was sighted. -/
theorem FirstSeen.Records.earliest {table : FirstSeen} {published : Batch}
    (h : table.Records published) {p : StreamEvent} (hp : p ∈ published)
    (hkind : p.event.kind = .nestedStack) (default : Instant) :
    Earliest (sightings published p.resource) ((table.get? p.resource).getD default) := by
  have hsighted : p.event.timestamp ∈ sightings published p.resource :=
    mem_sightings.mpr ⟨p, hp, hkind, rfl, rfl⟩
  have hrecord := h p.resource
  cases hget : table.get? p.resource with
  | none =>
    simp only [hget] at hrecord
    rw [hrecord] at hsighted
    cases hsighted
  | some t =>
    simp only [hget] at hrecord
    exact hrecord

end StackDeploy
