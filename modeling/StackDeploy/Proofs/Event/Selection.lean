import Mathlib.Data.List.Induction
import Mathlib.Data.List.Sort
import StackDeploy.Event.Selection
import StackDeploy.Stream.Source

/-!
# What a selection delivers

The events that a poll takes from a newest-first history: sorted by time, not older than the cutoff,
with identifiers that are new and differ from each other. The order is that of a stable sort, so the
library's insertion sort serves for `sortByTime`.

* `pairwise_chronological` — chronological order.
* `sortByTime_sortByTime_append` — events that are sorted first stay where they belong.
* `Selection.nodup_fresh`, `Selection.mem_seen_of_mem` — the identifiers of fresh events differ, and
  all identifiers are seen afterwards.
* `EventSource.delivers_select` — what a source delivers of a completed history.
-/

namespace StackDeploy

/-! ### Chronological order -/

/-- The event does not come after the other one. -/
def StackEvent.NotAfter (a b : StackEvent) : Prop := a.timestamp ≤ b.timestamp

instance : DecidableRel StackEvent.NotAfter := fun a b =>
  inferInstanceAs (Decidable (a.timestamp ≤ b.timestamp))

instance : IsTrans StackEvent StackEvent.NotAfter := ⟨fun _ _ _ => Instant.le_trans⟩

instance : Std.Total StackEvent.NotAfter := ⟨fun _ _ => Instant.le_total _ _⟩

theorem insertByTime_eq_orderedInsert (e : StackEvent) (events : List StackEvent) :
    insertByTime e events = events.orderedInsert StackEvent.NotAfter e := by
  induction events with
  | nil => rfl
  | cons x xs ih => rw [insertByTime, ih, List.orderedInsert_cons]; rfl

theorem sortByTime_cons (e : StackEvent) (events : List StackEvent) :
    sortByTime (e :: events) = insertByTime e (sortByTime events) := rfl

theorem sortByTime_eq_insertionSort (events : List StackEvent) :
    sortByTime events = events.insertionSort StackEvent.NotAfter := by
  induction events with
  | nil => rfl
  | cons e es ih =>
    rw [sortByTime_cons, ih, insertByTime_eq_orderedInsert, List.insertionSort_cons]

theorem perm_sortByTime (events : List StackEvent) : (sortByTime events).Perm events := by
  rw [sortByTime_eq_insertionSort]
  exact List.perm_insertionSort _ events

theorem pairwise_sortByTime (events : List StackEvent) :
    (sortByTime events).Pairwise StackEvent.NotAfter := by
  rw [sortByTime_eq_insertionSort]
  exact List.pairwise_insertionSort _ events

theorem sortByTime_eq_self {events : List StackEvent} (h : events.Pairwise StackEvent.NotAfter) :
    sortByTime events = events := by
  rw [sortByTime_eq_insertionSort]
  exact h.insertionSort_eq

/-- Puts an event behind all that are not later, in a list that is in the order of time. -/
def insertAfter (e : StackEvent) : List StackEvent → List StackEvent
  | [] => [e]
  | x :: xs => if x.timestamp ≤ e.timestamp then x :: insertAfter e xs else e :: x :: xs

/-- It does not matter which one of two events is put into a list first, when one of them goes
before its equals and the other one behind them. -/
theorem insertByTime_insertAfter (x e : StackEvent) (events : List StackEvent) :
    insertByTime x (insertAfter e events) = insertAfter e (insertByTime x events) := by
  induction events with
  | nil =>
    by_cases hxe : x.timestamp ≤ e.timestamp
    · simp [insertByTime, insertAfter, hxe]
    · simp [insertByTime, insertAfter, hxe]
  | cons y ys ih =>
    by_cases hye : y.timestamp ≤ e.timestamp
    · by_cases hxy : x.timestamp ≤ y.timestamp
      · simp [insertByTime, insertAfter, hye, hxy, Instant.le_trans hxy hye]
      · simp [insertByTime, insertAfter, hye, hxy, ih]
    · by_cases hxe : x.timestamp ≤ e.timestamp
      · have hxy : x.timestamp ≤ y.timestamp :=
          Instant.le_trans hxe ((Instant.le_total _ _).resolve_left hye)
        simp [insertByTime, insertAfter, hye, hxe, hxy]
      · by_cases hxy : x.timestamp ≤ y.timestamp
        · simp [insertByTime, insertAfter, hye, hxe, hxy]
        · simp [insertByTime, insertAfter, hye, hxe, hxy]

theorem sortByTime_append_singleton (events : List StackEvent) (e : StackEvent) :
    sortByTime (events ++ [e]) = insertAfter e (sortByTime events) := by
  induction events with
  | nil => rfl
  | cons x xs ih =>
    rw [List.cons_append, sortByTime_cons, sortByTime_cons, ih, insertByTime_insertAfter]

/-- Sorting events that come before others does not change how all of them are sorted. -/
theorem sortByTime_sortByTime_append (events more : List StackEvent) :
    sortByTime (sortByTime events ++ more) = sortByTime (events ++ more) := by
  induction more using List.reverseRecOn with
  | nil => rw [List.append_nil, List.append_nil, sortByTime_eq_self (pairwise_sortByTime events)]
  | append_singleton more e ih =>
    rw [← List.append_assoc, ← List.append_assoc, sortByTime_append_singleton,
      sortByTime_append_singleton, ih]

@[simp] theorem mem_chronological {history : List StackEvent} {e : StackEvent} :
    e ∈ chronological history ↔ e ∈ history := by
  rw [chronological, (perm_sortByTime _).mem_iff, List.mem_reverse]

theorem pairwise_chronological (history : List StackEvent) :
    (chronological history).Pairwise StackEvent.NotAfter :=
  pairwise_sortByTime _

/-! ### Deliver once -/

namespace Selection

theorem fresh_sublist (seen : List String) (events : List StackEvent) :
    (keepUnseen seen events).fresh.Sublist events := by
  induction events generalizing seen with
  | nil => exact .slnil
  | cons e es ih =>
    rw [keepUnseen]
    split
    · exact (ih seen).cons e
    · exact (ih _).cons_cons e

theorem seen_eq (seen : List String) (events : List StackEvent) :
    (keepUnseen seen events).seen =
      ((keepUnseen seen events).fresh.map StackEvent.eventId).reverse ++ seen := by
  induction events generalizing seen with
  | nil => rfl
  | cons e es ih =>
    rw [keepUnseen]
    split
    · exact ih seen
    · simp [ih (e.eventId :: seen)]

/-- The identifiers of fresh events are new. -/
theorem not_mem_of_mem_fresh {seen : List String} {events : List StackEvent} {e : StackEvent}
    (h : e ∈ (keepUnseen seen events).fresh) : e.eventId ∉ seen := by
  induction events generalizing seen with
  | nil => simp [keepUnseen] at h
  | cons x xs ih =>
    rw [keepUnseen] at h
    split at h
    · exact ih h
    next hx =>
      rcases List.mem_cons.mp h with rfl | h
      · exact hx
      · exact fun hmem => ih h (List.mem_cons_of_mem _ hmem)

/-- The identifiers of fresh events differ from each other. -/
theorem nodup_fresh (seen : List String) (events : List StackEvent) :
    ((keepUnseen seen events).fresh.map StackEvent.eventId).Nodup := by
  induction events generalizing seen with
  | nil => exact List.nodup_nil
  | cons x xs ih =>
    rw [keepUnseen]
    split
    · exact ih seen
    · rw [List.map_cons, List.nodup_cons]
      refine ⟨fun hmem => ?_, ih _⟩
      obtain ⟨e, he, hid⟩ := List.mem_map.mp hmem
      exact not_mem_of_mem_fresh he (hid ▸ List.mem_cons_self)

/-- Afterwards every identifier of the events is seen. -/
theorem mem_seen_of_mem {seen : List String} {events : List StackEvent} {e : StackEvent}
    (h : e ∈ events) : e.eventId ∈ (keepUnseen seen events).seen := by
  induction events generalizing seen with
  | nil => cases h
  | cons x xs ih =>
    rw [keepUnseen]
    split
    next hx =>
      rcases List.mem_cons.mp h with rfl | h
      · -- it was seen before, and nothing is forgotten
        rw [seen_eq]
        exact List.mem_append_right _ hx
      · exact ih h
    · rcases List.mem_cons.mp h with rfl | h
      · rw [seen_eq]
        exact List.mem_append_right _ List.mem_cons_self
      · exact ih h

end Selection

/-! ### Sources -/

/-- What a completed history makes a source **deliver**: the fresh events are events of the history
from the cutoff on, in chronological order, with new identifiers that differ from each other; these
are the ones that the source has seen in addition; and no event of the history from the cutoff on is
left unseen. -/
structure EventSource.Delivers (source : EventSource) (history fresh : List StackEvent)
    (after : EventSource) : Prop where
  stack_eq : after.stack = source.stack
  cutoff_eq : after.cutoff = source.cutoff
  mem_history : ∀ e ∈ fresh, e ∈ history
  cutoff_le : ∀ e ∈ fresh, source.cutoff ≤ e.timestamp
  pairwise : fresh.Pairwise StackEvent.NotAfter
  nodup : (fresh.map StackEvent.eventId).Nodup
  unseen : ∀ e ∈ fresh, e.eventId ∉ source.seen
  seen_eq : after.seen = (fresh.map StackEvent.eventId).reverse ++ source.seen
  complete : ∀ e ∈ history, source.cutoff ≤ e.timestamp → e.eventId ∈ after.seen

theorem EventSource.delivers_select (source : EventSource) (history : List StackEvent) :
    source.Delivers history (source.select history).1 (source.select history).2 := by
  have hsublist := Selection.fresh_sublist source.seen
    ((chronological history).filter fun e => decide (source.cutoff ≤ e.timestamp))
  have hmem (e : StackEvent) (he : e ∈ (source.select history).1) :
      e ∈ history ∧ source.cutoff ≤ e.timestamp := by
    simpa using hsublist.subset he
  refine
    { stack_eq := rfl
      cutoff_eq := rfl
      mem_history := fun e he => (hmem e he).1
      cutoff_le := fun e he => (hmem e he).2
      pairwise := ((pairwise_chronological history).filter _).sublist hsublist
      nodup := Selection.nodup_fresh _ _
      unseen := fun e he => Selection.not_mem_of_mem_fresh he
      seen_eq := Selection.seen_eq _ _
      complete := fun e he hcutoff => Selection.mem_seen_of_mem ?_ }
  simpa using ⟨he, hcutoff⟩

end StackDeploy
