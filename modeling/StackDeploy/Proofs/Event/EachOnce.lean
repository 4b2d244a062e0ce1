import StackDeploy.Proofs.Event.Selection

/-!
# Each identifier once

A history is reversed, sorted, cut off and then rid of what was seen, in this order. So of all the
events with one identifier that are not too old the earliest is selected, and the sort keeps events
of one timestamp in the order in which the service recorded them. The identifiers seen are handed on
from one selection to the next, and no identifier is selected twice.

* `filter_chronological` — the order of events of one timestamp.
* `StackEvent.Precedes`, `StackEvent.IsEarliest` — what comes before what, read off the history.
* `Selection.selects_ofHistory` — what is selected from a history.
* `Selection.selects_each_once` — and from histories one after the other.
-/

namespace StackDeploy

/-- Sorting leaves the events of one timestamp as they were. -/
theorem filter_sortByTime (events : List StackEvent) (time : Instant) :
    (sortByTime events).filter (fun e => decide (e.timestamp = time)) =
      events.filter fun e => decide (e.timestamp = time) := by
  have hsorted : (events.filter fun e => decide (e.timestamp = time)).Pairwise
      StackEvent.NotAfter := by
    refine List.pairwise_of_forall_mem_list fun a ha b hb => ?_
    have hatime := of_decide_eq_true (List.mem_filter.mp ha).2
    have hbtime := of_decide_eq_true (List.mem_filter.mp hb).2
    rw [StackEvent.NotAfter, hatime, hbtime]
    exact Instant.le_refl _
  have hsublist := List.sublist_insertionSort hsorted List.filter_sublist
  rw [← sortByTime_eq_insertionSort] at hsublist
  have hkept := hsublist.filter fun e => decide (e.timestamp = time)
  simp only [List.filter_filter, Bool.and_self] at hkept
  exact (hkept.eq_of_length ((perm_sortByTime events).filter _).length_eq.symm).symm

/-- Events of one timestamp come in the order that the service recorded them in. -/
theorem filter_chronological (history : List StackEvent) (time : Instant) :
    (chronological history).filter (fun e => decide (e.timestamp = time)) =
      history.reverse.filter fun e => decide (e.timestamp = time) :=
  filter_sortByTime _ _

/-! ### What comes first -/

namespace StackEvent

/-- In a newest-first history the event **precedes** the other one: it is older, or it has the same
timestamp and stands behind the other one. -/
def Precedes (history : List StackEvent) (a b : StackEvent) : Prop :=
  a.timestamp < b.timestamp ∨
    a.timestamp = b.timestamp ∧ ∃ newer older, history = newer ++ a :: older ∧ b ∉ older

/-- The event is the **earliest** one of its identifier that is in the history and not too old; of
several with its timestamp it stands last. -/
structure IsEarliest (history : List StackEvent) (cutoff : Instant) (e : StackEvent) : Prop where
  cutoff_le : cutoff ≤ e.timestamp
  le : ∀ x ∈ history, x.eventId = e.eventId → cutoff ≤ x.timestamp → e.timestamp ≤ x.timestamp
  last : ∃ newer older, history = newer ++ e :: older ∧
    ∀ x ∈ older, x.timestamp = e.timestamp → x.eventId ≠ e.eventId

end StackEvent

/-- The events of a history that are not too old, in chronological order. -/
def notOlder (history : List StackEvent) (cutoff : Instant) : List StackEvent :=
  (chronological history).filter fun e => decide (cutoff ≤ e.timestamp)

section NotOlder

variable {history before after : List StackEvent} {cutoff : Instant} {e : StackEvent}

theorem mem_notOlder : e ∈ notOlder history cutoff ↔ e ∈ history ∧ cutoff ≤ e.timestamp := by
  rw [notOlder, List.mem_filter, mem_chronological, decide_eq_true_eq]

theorem pairwise_notOlder (history : List StackEvent) (cutoff : Instant) :
    (notOlder history cutoff).Pairwise StackEvent.NotAfter :=
  (pairwise_chronological history).filter _

/-- The events of one timestamp come in the order that the service recorded them in. -/
theorem filter_notOlder (history : List StackEvent) {time : Instant} (htime : cutoff ≤ time) :
    (notOlder history cutoff).filter (fun e => decide (e.timestamp = time)) =
      history.reverse.filter fun e => decide (e.timestamp = time) := by
  rw [notOlder, List.filter_filter, ← filter_chronological]
  refine List.filter_congr fun e _ => ?_
  by_cases he : e.timestamp = time
  · simp [he, htime]
  · simp [he]

theorem cutoff_le_of_notOlder (h : notOlder history cutoff = before ++ e :: after) :
    cutoff ≤ e.timestamp := by
  have hmem : e ∈ notOlder history cutoff := h ▸ List.mem_append_right _ List.mem_cons_self
  exact (mem_notOlder.mp hmem).2

/-- Where an event stands in chronological order, it stands in the history as well: what is behind
it there and has its timestamp comes before it here. -/
theorem exists_split_of_notOlder (h : notOlder history cutoff = before ++ e :: after) :
    ∃ newer older, history = newer ++ e :: older ∧
      ∀ x ∈ older, x.timestamp = e.timestamp → x ∈ before := by
  have hsame := filter_notOlder history (cutoff_le_of_notOlder h)
  rw [h, List.filter_append, List.filter_cons_of_pos (by simp)] at hsame
  obtain ⟨first, rest, hreverse, hfirst, hrest⟩ := List.filter_eq_append_iff.mp hsame.symm
  obtain ⟨others, later, rfl, hothers, -, -⟩ := List.filter_eq_cons_iff.mp hrest
  have hhistory := congrArg List.reverse hreverse
  rw [List.reverse_reverse, ← List.append_assoc, List.reverse_append, List.reverse_cons,
    List.append_assoc, List.singleton_append] at hhistory
  refine ⟨_, _, hhistory, fun x hx htime => ?_⟩
  rcases List.mem_append.mp (List.mem_reverse.mp hx) with hx | hx
  · have hmem : x ∈ first.filter fun x => decide (x.timestamp = e.timestamp) :=
      List.mem_filter.mpr ⟨hx, decide_eq_true htime⟩
    rw [hfirst] at hmem
    exact (List.mem_filter.mp hmem).1
  · exact absurd (decide_eq_true htime) (hothers x hx)

/-- The first event of its identifier in chronological order is the earliest one. -/
theorem isEarliest_of_notOlder (h : notOlder history cutoff = before ++ e :: after)
    (hfirst : ∀ x ∈ before, x.eventId ≠ e.eventId) : e.IsEarliest history cutoff where
  cutoff_le := cutoff_le_of_notOlder h
  le := by
    intro x hx hid hcutoff
    have hmem := mem_notOlder.mpr ⟨hx, hcutoff⟩
    have hsorted := pairwise_notOlder history cutoff
    rw [h] at hmem hsorted
    rcases List.mem_append.mp hmem with hbefore | hmem
    · exact absurd hid (hfirst x hbefore)
    · rcases List.mem_cons.mp hmem with rfl | hafter
      · exact Instant.le_refl _
      · exact (List.pairwise_cons.mp (List.pairwise_append.mp hsorted).2.1).1 x hafter
  last := by
    obtain ⟨newer, older, hhistory, holder⟩ := exists_split_of_notOlder h
    exact ⟨newer, older, hhistory, fun x hx htime => hfirst x (holder x hx htime)⟩

/-- What comes first in chronological order precedes what is not before it. -/
theorem precedes_of_notOlder {b : StackEvent} (h : notOlder history cutoff = before ++ e :: after)
    (hle : e.timestamp ≤ b.timestamp) (hb : b ∉ before) : e.Precedes history b := by
  by_cases htime : e.timestamp = b.timestamp
  · obtain ⟨newer, older, hhistory, holder⟩ := exists_split_of_notOlder h
    exact .inr ⟨htime, newer, older, hhistory, fun hmem => hb (holder b hmem htime.symm)⟩
  · refine .inl (Instant.not_le.mp fun hge => htime (Instant.le_antisymm hle hge))

end NotOlder

namespace Selection

variable {seen : List String} {events history : List StackEvent} {cutoff : Instant}
  {e : StackEvent}

/-! ### The first events of their identifiers -/

/-- What is kept is the first event of its identifier. -/
theorem first_of_mem_fresh (h : e ∈ (keepUnseen seen events).fresh) :
    ∃ before after, events = before ++ e :: after ∧ ∀ x ∈ before, x.eventId ≠ e.eventId := by
  induction events generalizing seen with
  | nil => cases h
  | cons x xs ih =>
    have hnew := not_mem_of_mem_fresh h
    rw [keepUnseen] at h
    split at h
    next hx =>
      obtain ⟨before, after, rfl, hbefore⟩ := ih h
      refine ⟨x :: before, after, rfl, List.forall_mem_cons.mpr ⟨fun hid => hnew ?_, hbefore⟩⟩
      exact hid ▸ hx
    · rcases List.mem_cons.mp h with rfl | h
      · exact ⟨[], xs, rfl, List.forall_mem_nil _⟩
      · obtain ⟨before, after, rfl, hbefore⟩ := ih h
        have hne : x.eventId ≠ e.eventId := fun hid =>
          not_mem_of_mem_fresh h (hid ▸ List.mem_cons_self)
        exact ⟨x :: before, after, rfl, List.forall_mem_cons.mpr ⟨hne, hbefore⟩⟩

/-- What is kept stands in the order of the first events of their identifiers. -/
theorem pairwise_first (seen : List String) (events : List StackEvent) :
    (keepUnseen seen events).fresh.Pairwise fun a b =>
      ∃ before after, events = before ++ a :: after ∧ b ∉ before := by
  induction events generalizing seen with
  | nil => exact .nil
  | cons x xs ih =>
    rw [keepUnseen]
    split
    next hx =>
      refine (ih seen).imp_of_mem fun {a b} _ hb => ?_
      rintro ⟨before, after, rfl, hbefore⟩
      refine ⟨x :: before, after, rfl, List.not_mem_cons_of_ne_of_not_mem ?_ hbefore⟩
      rintro rfl
      exact not_mem_of_mem_fresh hb hx
    · refine List.pairwise_cons.mpr ⟨fun b _ => ⟨[], xs, rfl, List.not_mem_nil⟩, ?_⟩
      refine (ih _).imp_of_mem fun {a b} _ hb => ?_
      rintro ⟨before, after, rfl, hbefore⟩
      refine ⟨x :: before, after, rfl, List.not_mem_cons_of_ne_of_not_mem ?_ hbefore⟩
      rintro rfl
      exact not_mem_of_mem_fresh hb List.mem_cons_self

/-- An identifier is among those that are seen afterwards if it was seen before or is returned. -/
theorem mem_seen_iff {id : String} : id ∈ (keepUnseen seen events).seen ↔
    id ∈ seen ∨ id ∈ (keepUnseen seen events).fresh.map StackEvent.eventId := by
  rw [seen_eq, List.mem_append, List.mem_reverse, or_comm]

/-- The identifiers that are returned are those of the events that were not seen before. -/
theorem mem_ids_fresh_iff {id : String} :
    id ∈ (keepUnseen seen events).fresh.map StackEvent.eventId ↔
      id ∉ seen ∧ ∃ e ∈ events, e.eventId = id := by
  constructor
  · intro hid
    obtain ⟨e, he, rfl⟩ := List.mem_map.mp hid
    exact ⟨not_mem_of_mem_fresh he, e, (fresh_sublist seen events).subset he, rfl⟩
  · rintro ⟨hnew, e, he, rfl⟩
    exact (mem_seen_iff.mp (mem_seen_of_mem he)).resolve_left hnew

/-! ### Selections -/

/-- The identifiers of the events that are returned. -/
def ids (s : Selection) : List String := s.fresh.map StackEvent.eventId

/-- **What a selection from a history is**: of every identifier that was not seen before and of
which an event is not too old, the earliest such event, each after those that precede it in the
history; and the identifiers that are seen from then on are those that were seen before and those
that are returned. -/
structure Selects (history : List StackEvent) (cutoff : Instant) (seen : List String)
    (s : Selection) : Prop where
  sorted : s.fresh.Pairwise StackEvent.NotAfter
  ordered : s.fresh.Pairwise (StackEvent.Precedes history)
  nodup : s.ids.Nodup
  mem_ids_iff : ∀ id, id ∈ s.ids ↔
    id ∉ seen ∧ ∃ e ∈ history, cutoff ≤ e.timestamp ∧ e.eventId = id
  earliest : ∀ e ∈ s.fresh, e.IsEarliest history cutoff
  mem_seen_iff : ∀ id, id ∈ s.seen ↔ id ∈ seen ∨ id ∈ s.ids

theorem selects_ofHistory (history : List StackEvent) (cutoff : Instant) (seen : List String) :
    Selects history cutoff seen (ofHistory history cutoff seen) where
  sorted := (pairwise_notOlder history cutoff).sublist (fresh_sublist seen _)
  ordered := by
    have hsorted := (pairwise_notOlder history cutoff).sublist (fresh_sublist seen _)
    refine (hsorted.and (pairwise_first seen _)).imp fun {a b} h => ?_
    obtain ⟨hle, before, after, hsplit, hb⟩ := h
    exact precedes_of_notOlder hsplit hle hb
  nodup := nodup_fresh seen _
  mem_ids_iff := by
    intro id
    rw [ids, ofHistory, ← notOlder, mem_ids_fresh_iff]
    simp only [mem_notOlder, and_assoc]
  earliest := by
    intro e he
    obtain ⟨before, after, hsplit, hfirst⟩ := first_of_mem_fresh he
    exact isEarliest_of_notOlder hsplit hfirst
  mem_seen_iff := fun _ => mem_seen_iff

/-- The selections from histories one after the other, each with the identifiers that were seen when
the one before it was made. -/
def ofHistories (cutoff : Instant) : List String → List (List StackEvent) → List Selection
  | _, [] => []
  | seen, history :: histories =>
    ofHistory history cutoff seen ::
      ofHistories cutoff (ofHistory history cutoff seen).seen histories

theorem mem_ids_ofHistories {histories : List (List StackEvent)} {id : String} :
    id ∈ (ofHistories cutoff seen histories).flatMap ids ↔
      id ∉ seen ∧ ∃ history ∈ histories, ∃ e ∈ history, cutoff ≤ e.timestamp ∧ e.eventId = id := by
  induction histories generalizing seen with
  | nil => simp [ofHistories]
  | cons history histories ih =>
    have hselects := selects_ofHistory history cutoff seen
    rw [ofHistories, List.flatMap_cons, List.mem_append, ih, hselects.mem_seen_iff,
      hselects.mem_ids_iff, List.exists_mem_cons_iff]
    generalize (∃ e ∈ history, cutoff ≤ e.timestamp ∧ e.eventId = id) = here
    tauto

theorem nodup_ids_ofHistories (cutoff : Instant) (seen : List String)
    (histories : List (List StackEvent)) :
    ((ofHistories cutoff seen histories).flatMap ids).Nodup := by
  induction histories generalizing seen with
  | nil => exact .nil
  | cons history histories ih =>
    have hselects := selects_ofHistory history cutoff seen
    rw [ofHistories, List.flatMap_cons]
    refine List.Nodup.append hselects.nodup (ih _) fun id hid hlater => ?_
    -- it is among those seen when the others are selected
    exact (mem_ids_ofHistories.mp hlater).1 ((hselects.mem_seen_iff id).mpr (.inr hid))

/-- **Each identifier is selected once, by its earliest event.** A selection from a history is what
`Selects` says; and of histories one after the other, with the identifiers seen handed on, no
identifier is returned twice, and returned are those of which an event is not too old and that were
not seen at the start. -/
theorem selects_each_once (cutoff : Instant) (seen : List String) :
    (∀ history, Selects history cutoff seen (ofHistory history cutoff seen)) ∧
      ∀ histories, ((ofHistories cutoff seen histories).flatMap ids).Nodup ∧
        ∀ id, id ∈ (ofHistories cutoff seen histories).flatMap ids ↔
          id ∉ seen ∧ ∃ history ∈ histories, ∃ e ∈ history,
            cutoff ≤ e.timestamp ∧ e.eventId = id :=
  ⟨fun history => selects_ofHistory history cutoff seen, fun histories =>
    ⟨nodup_ids_ofHistories cutoff seen histories, fun _ => mem_ids_ofHistories⟩⟩

end Selection

end StackDeploy
