import StackDeploy.Proofs.Event.Repetition

/-!
# Reading a history that moves

A newest-first history is read in pages from an offset on, while events may be added to it anywhere.
An event that is there from the beginning never moves towards the front, so it is either read or
still to come. Events that are read again come later in the reading, and what counts is the last
time: in that order the events that lie before the offset stand as they do in the history.

* `Reading` — the invariant.
* `Reading.page`, `Reading.grow` — what the next page does, and what new events do.
* `Reading.sublist_of_length_le`, `Reading.subset_of_length_le` — what was read in the end.
-/

namespace StackDeploy

/-- What was read, oldest first and without repetitions. -/
def inOrder (gathered : List StackEvent) : List StackEvent :=
  (Selection.keepUnseen [] gathered.reverse).fresh

theorem inOrder_subset (gathered : List StackEvent) : inOrder gathered ⊆ gathered := fun _ he =>
  List.mem_reverse.mp ((Selection.fresh_sublist _ _).subset he)

/-- Every identifier that was read is left. -/
theorem mem_inOrder {gathered : List StackEvent} (h : Determined gathered) {e : StackEvent}
    (he : e ∈ gathered) : e ∈ inOrder gathered := by
  have hseen : e.eventId ∈ (Selection.keepUnseen [] gathered.reverse).seen :=
    Selection.mem_seen_of_mem (List.mem_reverse.mpr he)
  rw [Selection.seen_eq, List.append_nil, List.mem_reverse] at hseen
  obtain ⟨x, hx, hid⟩ := List.mem_map.mp hseen
  rwa [← h x (inOrder_subset gathered hx) e he hid]

/-- A page is put behind what was read before, and takes the place of repetitions. -/
theorem inOrder_append {gathered page : List StackEvent}
    (hpage : (page.map StackEvent.eventId).Nodup) :
    inOrder (gathered ++ page) = page.reverse ++
      (inOrder gathered).filter fun e => decide (e.eventId ∉ page.map StackEvent.eventId) := by
  have hfresh : (Selection.keepUnseen [] page.reverse).fresh = page.reverse := by
    refine Selection.fresh_eq_self ?_ fun _ _ => List.not_mem_nil
    rwa [List.map_reverse, List.nodup_reverse]
  rw [inOrder, List.reverse_append, Selection.fresh_append, hfresh, Selection.seen_eq, hfresh,
    Selection.fresh_append_seen, inOrder, List.map_reverse, List.reverse_reverse]

/-- The **reading** of a history, newest first, that was `first` when the reading began: the events
before the offset are read, as they stand there, and none of the first events is lost. -/
structure Reading (first history : List StackEvent) (offset : Nat) (gathered : List StackEvent) :
    Prop where
  subset : gathered ⊆ history
  passed : ((inOrder gathered).filter fun e => decide (e ∈ history.take offset)).Sublist
    (history.take offset).reverse
  complete : ∀ e ∈ first, e ∈ gathered ∨ e ∈ history.drop offset

theorem reading_start (history : List StackEvent) : Reading history history 0 [] :=
  ⟨List.nil_subset _, List.Sublist.refl _, fun _ he => .inr he⟩

namespace Reading

variable {first history gathered : List StackEvent} {offset : Nat}

/-- The next page. -/
theorem page (h : Reading first history offset gathered)
    (hnodup : (history.map StackEvent.eventId).Nodup) (size : Nat) :
    Reading first history (offset + size) (gathered ++ (history.drop offset).take size) := by
  have hsublist : ((history.drop offset).take size).Sublist history :=
    (List.take_sublist _ _).trans (List.drop_sublist _ _)
  have htake : history.take (offset + size) =
      history.take offset ++ (history.drop offset).take size := List.take_add
  refine
    { subset := List.append_subset.mpr ⟨h.subset, hsublist.subset⟩
      passed := ?_
      complete := fun e he => ?_ }
  · rw [inOrder_append (hnodup.sublist (hsublist.map _)), htake, List.reverse_append,
      List.filter_append]
    refine List.filter_sublist.append (List.Sublist.trans ?_ h.passed)
    rw [List.filter_filter]
    refine List.monotone_filter_right _ fun e he => ?_
    simp only [Bool.and_eq_true, decide_eq_true_eq, List.mem_append] at he ⊢
    exact he.1.resolve_right fun hmem => he.2 (List.mem_map_of_mem hmem)
  · rcases h.complete e he with hread | hleft
    · exact .inl (List.mem_append_left _ hread)
    · rw [← List.take_append_drop size (history.drop offset), List.mem_append,
        List.drop_drop] at hleft
      exact hleft.imp_left (List.mem_append_right _)

/-- New events in the history. -/
theorem grow {more : List StackEvent} (h : Reading first history offset gathered)
    (hmore : history.Sublist more) (hnodup : (more.map StackEvent.eventId).Nodup) :
    Reading first more offset gathered := by
  have hdisjoint : ∀ e ∈ more.take offset, e ∉ more.drop offset := fun e htake hdrop => by
    have hall := hnodup.of_map
    rw [← List.take_append_drop offset more] at hall
    exact List.disjoint_of_nodup_append hall htake hdrop
  -- what was read and lies before the offset now lay before it already
  have hbefore : ∀ e ∈ inOrder gathered,
      decide (e ∈ more.take offset) =
        (decide (e ∈ more.take offset) && decide (e ∈ history.take offset)) := by
    intro e he
    have hmem := h.subset (inOrder_subset gathered he)
    rw [← List.take_append_drop offset history, List.mem_append] at hmem
    have hold : e ∈ more.take offset → e ∈ history.take offset := fun htake =>
      hmem.resolve_right fun hdrop => hdisjoint e htake ((hmore.drop offset).subset hdrop)
    rw [← Bool.decide_and, decide_eq_decide]
    exact (and_iff_left_of_imp hold).symm
  have hfront : (more.filter fun e => decide (e ∈ more.take offset)) = more.take offset := by
    have hdrop : (more.drop offset).filter (fun e => decide (e ∈ more.take offset)) = [] :=
      List.filter_eq_nil_iff.mpr fun e he => by simpa using fun htake => hdisjoint e htake he
    have htake : (more.take offset).filter (fun e => decide (e ∈ more.take offset)) =
        more.take offset := List.filter_eq_self.mpr fun e he => by simpa using he
    calc more.filter (fun e => decide (e ∈ more.take offset))
        = (more.take offset ++ more.drop offset).filter fun e =>
            decide (e ∈ more.take offset) := by rw [List.take_append_drop]
      _ = more.take offset := by rw [List.filter_append, htake, hdrop, List.append_nil]
  refine
    { subset := List.Subset.trans h.subset hmore.subset
      passed := ?_
      complete := fun e he =>
        (h.complete e he).imp_right fun hdrop => (hmore.drop offset).subset hdrop }
  rw [List.filter_congr hbefore, ← List.filter_filter]
  refine (h.passed.filter _).trans ?_
  rw [List.filter_reverse, List.reverse_sublist]
  have hold := ((List.take_sublist offset history).trans hmore).filter
    fun e => decide (e ∈ more.take offset)
  rwa [hfront] at hold

/-- When the offset has come to the end, what was read stands as in the history. -/
theorem sublist_of_length_le (h : Reading first history offset gathered)
    (hend : history.length ≤ offset) : (inOrder gathered).Sublist history.reverse := by
  have hpassed := h.passed
  rw [List.take_of_length_le hend] at hpassed
  rwa [List.filter_eq_self.mpr fun e he => ?_] at hpassed
  simpa using h.subset (inOrder_subset gathered he)

/-- When the offset has come to the end, all first events are read. -/
theorem subset_of_length_le (h : Reading first history offset gathered)
    (hend : history.length ≤ offset) : first ⊆ gathered := fun e he =>
  (h.complete e he).resolve_right fun hdrop => by
    rw [List.drop_of_length_le hend] at hdrop
    cases hdrop

/-- A selection from a whole reading takes events of the history, in its order, and all first events
that it is meant to take. -/
theorem fresh_ofHistory (h : Reading first history offset gathered)
    (hend : history.length ≤ offset) (hnodup : (history.map StackEvent.eventId).Nodup)
    (hsorted : history.reverse.Pairwise StackEvent.NotAfter) (cutoff : Instant)
    (seen : List String) :
    (Selection.ofHistory gathered cutoff seen).fresh.Sublist
        (history.reverse.filter fun e =>
          decide (cutoff ≤ e.timestamp) && decide (e.eventId ∉ seen)) ∧
      ∀ e ∈ first, cutoff ≤ e.timestamp → e.eventId ∉ seen →
        e ∈ (Selection.ofHistory gathered cutoff seen).fresh := by
  have hsublist := h.sublist_of_length_le hend
  have hdetermined : Determined gathered := (determined_of_nodup hnodup).mono h.subset
  have hfresh : (Selection.ofHistory gathered cutoff seen).fresh =
      (inOrder gathered).filter fun e =>
        decide (cutoff ≤ e.timestamp) && decide (e.eventId ∉ seen) :=
    Selection.fresh_ofHistory hdetermined (hsorted.sublist hsublist) cutoff seen
  rw [hfresh]
  refine ⟨hsublist.filter _, fun e he hcutoff hseen => List.mem_filter.mpr ⟨?_, ?_⟩⟩
  · exact mem_inOrder hdetermined (h.subset_of_length_le hend he)
  · simp [hcutoff, hseen]

end Reading

end StackDeploy
