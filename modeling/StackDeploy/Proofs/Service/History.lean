import StackDeploy.Proofs.Event.Selection
import StackDeploy.Proofs.Text.Decimal
import StackDeploy.Service.Scripted

/-!
# Histories of a scripted service

The events that were pushed to a stack, in the order of time and, at one time, in the order in which
they were pushed. Nothing but a push changes them.

* `recorded` — a history after a push.
* `ScriptedService.Made` — the services that a script can lead to; their histories are in order.
* `ScriptedService.describeStackEvents_eq` — the pages that a service gives.
-/

namespace StackDeploy

open Text

/-! ### Recording -/

/-- A history, oldest first, after an event was **recorded** in it. -/
def recorded (history : List StackEvent) (e : StackEvent) : List StackEvent :=
  sortByTime (history ++ [e])

/-- The events are sorted by time, and those of one time stand as they were recorded. -/
theorem foldl_recorded {history : List StackEvent} (h : history.Pairwise StackEvent.NotAfter)
    (events : List StackEvent) :
    events.foldl recorded history = sortByTime (history ++ events) := by
  induction events generalizing history with
  | nil => rw [List.foldl_nil, List.append_nil, sortByTime_eq_self h]
  | cons e es ih =>
    have hrecorded : (recorded history e).Pairwise StackEvent.NotAfter := pairwise_sortByTime _
    rw [List.foldl_cons, ih hrecorded, recorded, sortByTime_sortByTime_append,
      ← List.append_cons]

/-- What was recorded before keeps its order. -/
theorem sublist_sortByTime_append {history : List StackEvent}
    (h : history.Pairwise StackEvent.NotAfter) (events : List StackEvent) :
    history.Sublist (sortByTime (history ++ events)) := by
  rw [sortByTime_eq_insertionSort]
  exact List.sublist_insertionSort h (List.sublist_append_left _ _)

/-! ### Pushes -/

namespace ScriptedService

/-- The history of a stack, oldest first, if the service **knows** the stack. -/
def history? (s : ScriptedService) (stack : String) : Option (List StackEvent) :=
  match s.events.get? stack with
  | some history => some history
  | none => if s.stackTable.contains stack then some [] else none

theorem history?_eq_some {s : ScriptedService} {stack : String} {history : List StackEvent} :
    s.history? stack = some history ↔ s.events.get? stack = some history ∨
      s.events.get? stack = none ∧ s.stackTable.contains stack = true ∧ history = [] := by
  rw [history?]
  cases hget : s.events.get? stack with
  | some other => simp
  | none =>
    simp only [reduceCtorEq, false_or, true_and]
    split
    next hknown =>
      rw [Option.some.injEq]
      exact ⟨fun h => ⟨hknown, h.symm⟩, fun h => h.2.symm⟩
    next hknown => exact iff_of_false (fun h => nomatch h) fun h => hknown h.1

/-- The change to the script is a **push** of an event. -/
def Cue.IsPush (cue : Cue) : Prop := ∃ stack e, cue = .event stack e

/-- The event that a change to the script pushes to a stack. -/
def Cue.pushed? (stack : String) : Cue → Option StackEvent
  | .event other e => if other = stack then some e else none
  | _ => none

/-- Pushes change nothing but events. -/
theorem exists_foldl_play {cues : List Cue} (h : ∀ cue ∈ cues, cue.IsPush) (s : ScriptedService) :
    ∃ events, cues.foldl play s = { s with events } := by
  induction cues generalizing s with
  | nil => exact ⟨s.events, rfl⟩
  | cons cue cues ih =>
    obtain ⟨stack, e, rfl⟩ := h cue List.mem_cons_self
    exact ih (fun other hother => h other (List.mem_cons_of_mem _ hother)) _

theorem history?_play_event {s : ScriptedService} {stack : String} {history : List StackEvent}
    (h : s.history? stack = some history) (other : String) (e : StackEvent) :
    (s.play (.event other e)).history? stack =
      some (if other = stack then recorded history e else history) := by
  by_cases hother : other = stack
  · subst hother
    have hbefore : (s.events.get? other).getD [] = history := by
      rcases history?_eq_some.mp h with hget | ⟨hget, -, rfl⟩ <;> simp [hget]
    rw [if_pos rfl, history?, play, Table.get?_set_self, hbefore, recorded]
  · rw [if_neg hother, ← h, history?, history?, play,
      Table.get?_set_of_ne _ _ (Ne.symm hother)]

theorem history?_foldl_play {cues : List Cue} (hpush : ∀ cue ∈ cues, cue.IsPush)
    {s : ScriptedService} {stack : String} {history : List StackEvent}
    (h : s.history? stack = some history) :
    (cues.foldl play s).history? stack =
      some ((cues.filterMap (Cue.pushed? stack)).foldl recorded history) := by
  induction cues generalizing s history with
  | nil => exact h
  | cons cue cues ih =>
    obtain ⟨other, e, rfl⟩ := hpush cue List.mem_cons_self
    rw [List.foldl_cons, ih (fun c hc => hpush c (List.mem_cons_of_mem _ hc))
      (history?_play_event h other e), List.filterMap_cons, Cue.pushed?]
    split <;> rfl

/-! ### What a script can lead to -/

/-- The services that come from a new one by changes to the script and requests, with those changes
in order. -/
inductive Made : List Cue → ScriptedService → Prop
  | start (pageSize : Nat) (clock : Instant) : Made [] (.start pageSize clock)
  | play {cues : List Cue} {s : ScriptedService} (made : Made cues s) (cue : Cue) :
      Made (cues ++ [cue]) (s.play cue)
  | reply {cues : List Cue} {s : ScriptedService} (made : Made cues s) (r : Request) :
      Made cues (ScriptedService.reply r s).2

/-- A service has the same events and the same size of pages as another one. -/
def SameHistories (s t : ScriptedService) : Prop := t.events = s.events ∧ t.pageSize = s.pageSize

theorem sameHistories_createChangeSet (s : ScriptedService) (input : ChangeSetInput) :
    s.SameHistories (s.createChangeSet input).2 := by
  rw [createChangeSet]
  split <;> exact ⟨rfl, rfl⟩

theorem sameHistories_describeChangeSet (s : ScriptedService) (id : String) :
    s.SameHistories (s.describeChangeSet id).2 := by
  rw [describeChangeSet]
  split
  · exact ⟨rfl, rfl⟩
  · split <;> exact ⟨rfl, rfl⟩

theorem sameHistories_executeChangeSet (s : ScriptedService) (id : String) :
    s.SameHistories (s.executeChangeSet id).2 := by
  rw [executeChangeSet]
  split
  · exact ⟨rfl, rfl⟩
  · split <;> exact ⟨rfl, rfl⟩

theorem sameHistories_describeStack (s : ScriptedService) (stack : String) :
    s.SameHistories (s.describeStack stack).2 := by
  rw [describeStack]
  split
  · exact ⟨rfl, rfl⟩
  · dsimp only
    split
    · exact ⟨rfl, rfl⟩
    · exact ⟨rfl, rfl⟩
    · split <;> exact ⟨rfl, rfl⟩

theorem sameHistories_deleteStack (s : ScriptedService) (stack : String) :
    s.SameHistories (s.deleteStack stack).2 := by
  rw [deleteStack]
  split <;> exact ⟨rfl, rfl⟩

/-- Requests do not change histories. -/
theorem sameHistories_reply (r : Request) (s : ScriptedService) :
    s.SameHistories (ScriptedService.reply r s).2 := by
  rw [ScriptedService.reply]
  split
  · exact ⟨rfl, rfl⟩
  · cases r with
    | createChangeSet input => exact sameHistories_createChangeSet (s.entered _) input
    | describeChangeSet stack id => exact sameHistories_describeChangeSet (s.entered _) id
    | executeChangeSet stack id => exact sameHistories_executeChangeSet (s.entered _) id
    | describeStackEvents stack token => exact ⟨rfl, rfl⟩
    | describeStack stack => exact sameHistories_describeStack (s.entered _) stack
    | deleteStack stack => exact sameHistories_deleteStack (s.entered _) stack
    | resolveRollout ref => exact ⟨rfl, rfl⟩

/-- Histories are in **order**, and pages hold at least one event. -/
structure Ordered (s : ScriptedService) : Prop where
  pageSize_pos : 0 < s.pageSize
  pairwise : ∀ stack history, s.events.get? stack = some history →
    history.Pairwise StackEvent.NotAfter

theorem Ordered.of_sameHistories {s t : ScriptedService} (h : s.Ordered)
    (hsame : s.SameHistories t) : t.Ordered :=
  ⟨hsame.2 ▸ h.pageSize_pos, hsame.1 ▸ h.pairwise⟩

theorem Ordered.play {s : ScriptedService} (h : s.Ordered) (cue : Cue) : (s.play cue).Ordered := by
  cases cue with
  | event stack e =>
    refine ⟨h.pageSize_pos, fun other history hget => ?_⟩
    by_cases hother : other = stack
    · rw [hother, ScriptedService.play, Table.get?_set_self] at hget
      rw [← Option.some.inj hget]
      exact pairwise_sortByTime _
    · rw [ScriptedService.play, Table.get?_set_of_ne _ _ hother] at hget
      exact h.pairwise other history hget
  | _ => exact ⟨h.pageSize_pos, h.pairwise⟩

/-- Whatever a script leads to is in order. -/
theorem Made.ordered {cues : List Cue} {s : ScriptedService} (made : Made cues s) : s.Ordered := by
  induction made with
  | start pageSize clock => exact ⟨Nat.le_max_left 1 pageSize, fun _ _ hget => nomatch hget⟩
  | play _ cue ih => exact ih.play cue
  | reply _ r ih => exact ih.of_sameHistories (sameHistories_reply r _)

theorem Ordered.foldl_play {s : ScriptedService} (h : s.Ordered) (cues : List Cue) :
    (cues.foldl ScriptedService.play s).Ordered := by
  induction cues generalizing s with
  | nil => exact h
  | cons cue cues ih => exact ih (h.play cue)

theorem Ordered.pairwise_history? {s : ScriptedService} (h : s.Ordered) {stack : String}
    {history : List StackEvent} (hhistory : s.history? stack = some history) :
    history.Pairwise StackEvent.NotAfter := by
  rcases history?_eq_some.mp hhistory with hget | ⟨-, -, rfl⟩
  · exact h.pairwise stack history hget
  · exact .nil

theorem Made.foldl_play {before : List Cue} {s : ScriptedService} (made : Made before s)
    (cues : List Cue) : Made (before ++ cues) (cues.foldl ScriptedService.play s) := by
  induction cues generalizing before s with
  | nil => rwa [List.append_nil]
  | cons cue cues ih =>
    rw [List.append_cons]
    exact ih (made.play cue)

/-- The events of a stack are those pushed to it, by time, and those of one time in the order of the
pushes. -/
theorem Made.getD_events {cues : List Cue} {s : ScriptedService} (made : Made cues s)
    (stack : String) :
    (s.events.get? stack).getD [] = sortByTime (cues.filterMap (Cue.pushed? stack)) := by
  induction made with
  | start => rfl
  | @play cues s _ cue ih =>
    rw [List.filterMap_append]
    cases cue with
    | event other e =>
      by_cases hother : other = stack
      · rw [hother, ScriptedService.play, Table.get?_set_self, Option.getD_some, ih,
          sortByTime_sortByTime_append]
        simp [Cue.pushed?]
      · rw [ScriptedService.play, Table.get?_set_of_ne _ _ (Ne.symm hother), ih]
        simp [Cue.pushed?, hother]
    | _ =>
      rw [List.filterMap_cons_none rfl, List.filterMap_nil, List.append_nil]
      exact ih
  | reply _ r ih => rwa [(sameHistories_reply r _).1]

theorem Made.history_eq {cues : List Cue} {s : ScriptedService} (made : Made cues s)
    {stack : String} {history : List StackEvent} (h : s.history? stack = some history) :
    history = sortByTime (cues.filterMap (Cue.pushed? stack)) := by
  rw [← made.getD_events]
  rcases history?_eq_some.mp h with hget | ⟨hget, -, rfl⟩ <;> rw [hget] <;> rfl

/-! ### Pages -/

/-- A token that the service made reads back. -/
theorem readToken?_natText {n : Nat} (h : n < 2 ^ 64) : readToken? (natText n) = some n := by
  have hdigits : (natText n).toList = natDigits n := String.toList_ofList
  have hplus := head?_natDigits_ne n (c := '+') (by decide)
  have hfits : n < UInt64.size := h
  rw [readToken?, hdigits]
  split
  next digits heq =>
    rw [heq, List.head?_cons] at hplus
    exact absurd rfl hplus
  · rw [readNat?_natDigits, Option.filter_some, if_pos (decide_eq_true hfits)]

/-- The token asks for the page after so many events. -/
def Asks (token : Option String) (offset : Nat) : Prop :=
  (token = none ∧ offset = 0) ∨ (token = some (natText offset) ∧ offset < 2 ^ 64)

section

variable {s : ScriptedService} {stack : String} {history : List StackEvent}

/-- The first page of a known stack. -/
theorem describeStackEvents_none (h : s.history? stack = some history) :
    s.describeStackEvents stack none = .ok (page s.pageSize history 0) := by
  rcases history?_eq_some.mp h with hget | ⟨hget, hknown, rfl⟩
  · simp only [describeStackEvents, hget]
  · simp only [describeStackEvents, hget, hknown, if_true]

/-- The page of a known stack at a token. -/
theorem describeStackEvents_some (h : s.history? stack = some history) (token : String) :
    s.describeStackEvents stack (some token) = match readToken? token with
      | none => .error (.invalidResponse ("bad token " ++ token))
      | some offset => .ok (page s.pageSize history offset) := by
  rcases history?_eq_some.mp h with hget | ⟨hget, hknown, rfl⟩
  · cases hread : readToken? token <;> simp only [describeStackEvents, hget, hread]
  · cases hread : readToken? token <;>
      simp only [describeStackEvents, hget, hknown, hread, if_true]

/-- The page of a known stack that a token asks for. -/
theorem describeStackEvents_eq (h : s.history? stack = some history) {token : Option String}
    {offset : Nat} (htoken : Asks token offset) :
    s.describeStackEvents stack token = .ok (page s.pageSize history offset) := by
  rcases htoken with ⟨rfl, rfl⟩ | ⟨rfl, hlt⟩
  · exact describeStackEvents_none h
  · rw [describeStackEvents_some h, readToken?_natText hlt]

end

end ScriptedService

end StackDeploy
