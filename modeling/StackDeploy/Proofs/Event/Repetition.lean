import StackDeploy.Proofs.Event.Selection

/-!
# Histories with repetitions

A history that was read while it grew may hold an event several times. As long as an identifier
belongs to one event only, a selection from it is the same as one from the list in which only the
first of equal events is left.

* `Selection.fresh_filter`, `Selection.fresh_sortByTime` — dropping repetitions commutes with
  leaving out old events and with sorting.
* `Selection.fresh_ofHistory` — what is selected, if the events are in order without repetitions.
-/

namespace StackDeploy

/-- An identifier **determines** its event in a list. -/
def Determined (events : List StackEvent) : Prop :=
  ∀ a ∈ events, ∀ b ∈ events, a.eventId = b.eventId → a = b

theorem Determined.mono {events more : List StackEvent} (h : Determined more)
    (hsub : events ⊆ more) : Determined events :=
  fun a ha b hb => h a (hsub ha) b (hsub hb)

theorem determined_of_nodup {events : List StackEvent}
    (h : (events.map StackEvent.eventId).Nodup) : Determined events :=
  fun _ ha _ hb hid => List.inj_on_of_nodup_map h ha hb hid

namespace Selection

variable {seen other : List String} {events : List StackEvent} {e : StackEvent}

theorem fresh_cons_of_mem (h : e.eventId ∈ seen) :
    (keepUnseen seen (e :: events)).fresh = (keepUnseen seen events).fresh := by
  rw [keepUnseen, if_pos h]

theorem fresh_cons_of_not_mem (h : e.eventId ∉ seen) :
    (keepUnseen seen (e :: events)).fresh =
      e :: (keepUnseen (e.eventId :: seen) events).fresh := by
  rw [keepUnseen, if_neg h]

/-- In which order the identifiers were seen, and how often, does not matter. -/
theorem fresh_congr (h : ∀ id, id ∈ seen ↔ id ∈ other) :
    (keepUnseen seen events).fresh = (keepUnseen other events).fresh := by
  induction events generalizing seen other with
  | nil => rfl
  | cons e es ih =>
    by_cases hseen : e.eventId ∈ seen
    · rw [fresh_cons_of_mem hseen, fresh_cons_of_mem ((h _).mp hseen), ih h]
    · have hother : e.eventId ∉ other := fun hmem => hseen ((h _).mpr hmem)
      rw [fresh_cons_of_not_mem hseen, fresh_cons_of_not_mem hother]
      refine congrArg (e :: ·) (ih fun id => ?_)
      rw [List.mem_cons, List.mem_cons, h]

/-- Further identifiers that were seen only take events away. -/
theorem fresh_append_seen (extra seen : List String) (events : List StackEvent) :
    (keepUnseen (extra ++ seen) events).fresh =
      (keepUnseen seen events).fresh.filter fun e => decide (e.eventId ∉ extra) := by
  induction events generalizing seen with
  | nil => rfl
  | cons e es ih =>
    by_cases hseen : e.eventId ∈ seen
    · rw [fresh_cons_of_mem hseen, fresh_cons_of_mem (List.mem_append_right _ hseen), ih]
    · rw [fresh_cons_of_not_mem hseen, List.filter_cons, ← ih]
      by_cases hextra : e.eventId ∈ extra
      · -- dropped either way, so it makes no difference that its identifier is seen from now on
        rw [fresh_cons_of_mem (List.mem_append_left _ hextra), if_neg (by simpa using hextra)]
        refine fresh_congr fun id => ?_
        simp only [List.mem_append, List.mem_cons]
        constructor
        · rintro (hid | hid)
          · exact .inl hid
          · exact .inr (.inr hid)
        · rintro (hid | rfl | hid)
          · exact .inl hid
          · exact .inl hextra
          · exact .inr hid
      · rw [fresh_cons_of_not_mem (by simp [hextra, hseen]), if_pos (by simpa using hextra)]
        refine congrArg (e :: ·) (fresh_congr fun id => ?_)
        simp only [List.mem_append, List.mem_cons, or_left_comm]

theorem fresh_append (seen : List String) (first second : List StackEvent) :
    (keepUnseen seen (first ++ second)).fresh = (keepUnseen seen first).fresh ++
      (keepUnseen (keepUnseen seen first).seen second).fresh := by
  induction first generalizing seen with
  | nil => rfl
  | cons e es ih =>
    rw [List.cons_append, keepUnseen, keepUnseen]
    split
    · exact ih seen
    · exact congrArg (e :: ·) (ih _)

/-- Nothing is dropped from a list without repetitions. -/
theorem fresh_eq_self (h : (events.map StackEvent.eventId).Nodup)
    (hnew : ∀ e ∈ events, e.eventId ∉ seen) : (keepUnseen seen events).fresh = events := by
  induction events generalizing seen with
  | nil => rfl
  | cons e es ih =>
    obtain ⟨hne, hes⟩ := List.nodup_cons.mp h
    rw [fresh_cons_of_not_mem (hnew e List.mem_cons_self), ih hes fun x hx => ?_]
    rw [List.mem_cons, not_or]
    exact ⟨fun hid => hne (hid ▸ List.mem_map_of_mem hx), hnew x (List.mem_cons_of_mem _ hx)⟩

/-- Identifiers that do not occur do not matter. -/
theorem fresh_cons_seen {id : String} (h : ∀ e ∈ events, e.eventId ≠ id) :
    (keepUnseen (id :: seen) events).fresh = (keepUnseen seen events).fresh := by
  have hcons : id :: seen = [id] ++ seen := rfl
  rw [hcons, fresh_append_seen, List.filter_eq_self]
  intro e he
  simpa using h e (List.Sublist.subset (fresh_sublist seen events) he)

/-- Events may be left out before or after repetitions are dropped. -/
theorem fresh_filter (h : Determined events) (p : StackEvent → Bool) :
    (keepUnseen seen (events.filter p)).fresh = (keepUnseen seen events).fresh.filter p := by
  induction events generalizing seen with
  | nil => rfl
  | cons e es ih =>
    have hes : Determined es := h.mono (List.subset_cons_self _ _)
    by_cases hseen : e.eventId ∈ seen
    · rw [fresh_cons_of_mem hseen, ← ih hes, List.filter_cons]
      split
      · rw [fresh_cons_of_mem hseen]
      · rfl
    · rw [fresh_cons_of_not_mem hseen, List.filter_cons, List.filter_cons, ← ih hes]
      split
      · rw [fresh_cons_of_not_mem hseen]
      next hp =>
        -- a later event with this identifier is the same one, so it does not pass either
        refine (fresh_cons_seen fun x hx hid => hp ?_).symm
        obtain ⟨hmem, hpx⟩ := List.mem_filter.mp hx
        rwa [← h x (List.mem_cons_of_mem _ hmem) e List.mem_cons_self hid]

/-! ### Sorting -/

/-- An event that is not after any of the others comes first. -/
theorem insertByTime_eq_cons (h : ∀ x ∈ events, e.timestamp ≤ x.timestamp) :
    insertByTime e events = e :: events := by
  cases events with
  | nil => rfl
  | cons x xs => rw [insertByTime, if_pos (h x List.mem_cons_self)]

/-- An event is put into its place before or after repetitions are dropped, unless it is one. -/
theorem fresh_insertByTime (hsorted : events.Pairwise StackEvent.NotAfter)
    (h : Determined (e :: events)) :
    (keepUnseen seen (insertByTime e events)).fresh =
      if e.eventId ∈ seen then (keepUnseen seen events).fresh
      else insertByTime e (keepUnseen (e.eventId :: seen) events).fresh := by
  induction events generalizing seen with
  | nil =>
    split
    next hseen => exact fresh_cons_of_mem hseen
    next hseen => exact fresh_cons_of_not_mem hseen
  | cons x xs ih =>
    obtain ⟨hfirst, hxs⟩ := List.pairwise_cons.mp hsorted
    rw [insertByTime]
    by_cases hle : e.timestamp ≤ x.timestamp
    · rw [if_pos hle]
      split
      next hseen => rw [fresh_cons_of_mem hseen]
      next hseen =>
        rw [fresh_cons_of_not_mem hseen, insertByTime_eq_cons]
        intro y hy
        rcases List.mem_cons.mp ((fresh_sublist _ _).subset hy) with rfl | hy
        · exact hle
        · exact Instant.le_trans hle (hfirst y hy)
    · -- an event with the identifier of `e` would be `e` itself, but `x` is older
      have hne : x.eventId ≠ e.eventId := fun hid => by
        obtain rfl := h x (List.mem_cons_of_mem _ List.mem_cons_self) e List.mem_cons_self hid
        exact hle (Instant.le_refl _)
      have hes : Determined (e :: xs) := h.mono (by simp)
      rw [if_neg hle]
      by_cases hx : x.eventId ∈ seen
      · rw [fresh_cons_of_mem hx, fresh_cons_of_mem hx,
          fresh_cons_of_mem (List.mem_cons_of_mem _ hx), ih hxs hes]
      · have hx' : x.eventId ∉ e.eventId :: seen := by simp [hne, hx]
        have hswap : (keepUnseen (x.eventId :: e.eventId :: seen) xs).fresh =
            (keepUnseen (e.eventId :: x.eventId :: seen) xs).fresh :=
          fresh_congr fun id => by simp only [List.mem_cons, or_left_comm]
        have hmem : e.eventId ∈ x.eventId :: seen ↔ e.eventId ∈ seen := by simp [hne.symm]
        rw [fresh_cons_of_not_mem hx, fresh_cons_of_not_mem hx, fresh_cons_of_not_mem hx',
          ih hxs hes, hswap, insertByTime, if_neg hle]
        simp only [hmem]
        split <;> rfl

/-- Events may be sorted before or after repetitions are dropped. -/
theorem fresh_sortByTime (h : Determined events) :
    (keepUnseen seen (sortByTime events)).fresh = sortByTime (keepUnseen seen events).fresh := by
  induction events generalizing seen with
  | nil => rfl
  | cons e es ih =>
    have hes : Determined es := h.mono (List.subset_cons_self _ _)
    have hsort : Determined (e :: sortByTime es) :=
      h.mono ((perm_sortByTime es).cons e).subset
    rw [sortByTime_cons, fresh_insertByTime (pairwise_sortByTime es) hsort, ih hes, ih hes]
    split
    next hseen => rw [fresh_cons_of_mem hseen]
    next hseen => rw [fresh_cons_of_not_mem hseen, sortByTime_cons]

/-- **Selection without repetitions.** If the first events of all identifiers are in order, then
those of them are selected that are not too old and not seen. -/
theorem fresh_ofHistory {history : List StackEvent} (h : Determined history)
    (hsorted : (keepUnseen [] history.reverse).fresh.Pairwise StackEvent.NotAfter)
    (cutoff : Instant) (seen : List String) :
    (ofHistory history cutoff seen).fresh = (keepUnseen [] history.reverse).fresh.filter
      fun e => decide (cutoff ≤ e.timestamp) && decide (e.eventId ∉ seen) := by
  have hreverse : Determined history.reverse := h.mono (List.reverse_subset.mpr fun _ hx => hx)
  have hchronological : Determined (chronological history) :=
    hreverse.mono (perm_sortByTime _).subset
  have hseen : (keepUnseen seen history.reverse).fresh =
      (keepUnseen [] history.reverse).fresh.filter fun e => decide (e.eventId ∉ seen) := by
    rw [← fresh_append_seen, List.append_nil]
  rw [ofHistory, fresh_filter hchronological, chronological, fresh_sortByTime hreverse, hseen,
    sortByTime_eq_self (hsorted.filter _), List.filter_filter]

end Selection

end StackDeploy
