import StackDeploy.Proofs.Deployment.Operation

/-!
# What is published

What traces tell about the painter, and runs together with the batches that the feed publishes.

* `rollouts`, `writes` — the answers to lookups, and the texts that were written.
* `Session.Streams` — runs with the published batches.
* `Session.Runs.exists_streams` — every run is one of these.
* `Session.Staged.streams_of_over` — nothing happens any more when the operation is over.
-/

namespace StackDeploy

/-! ### What traces tell -/

/-- The answer to the lookup of a rollout. -/
def Action.rollout? : Action → Option (Except ApiError Rollout)
  | .call (.resolveRollout _) reply => some reply
  | _ => none

/-- The text that was to be written. -/
def Action.text? : Action → Option String
  | .write text _ => some text
  | .call _ _ => none

/-- The action is a write that failed. -/
def Action.isFailedWrite : Action → Bool
  | .write _ (.error _) => true
  | _ => false

/-- The answers to the lookups of rollouts. -/
def rollouts (trace : List Action) : List (Except ApiError Rollout) :=
  trace.filterMap Action.rollout?

/-- The texts that were written one after the other. -/
def writes (trace : List Action) : List String := trace.filterMap Action.text?

@[simp] theorem rollouts_append (trace more : List Action) :
    rollouts (trace ++ more) = rollouts trace ++ rollouts more := List.filterMap_append

@[simp] theorem writes_append (trace more : List Action) :
    writes (trace ++ more) = writes trace ++ writes more := List.filterMap_append

theorem Action.isLookup_eq_false {a : Action} (h : a.isPainting = false) : a.isLookup = false := by
  unfold Action.isPainting at h
  unfold Action.isLookup
  split at h
  · cases h
  · cases h
  next hlookup _ =>
    split
    · exact absurd rfl (hlookup _ _)
    · rfl

section Actions

variable {actions : List Action}

theorem rollouts_eq_nil (h : ∀ a ∈ actions, a.isLookup = false) : rollouts actions = [] := by
  refine List.filterMap_eq_nil_iff.mpr fun a ha => ?_
  have hlookup := h a ha
  unfold Action.isLookup at hlookup
  split at hlookup
  · cases hlookup
  next hother =>
    unfold Action.rollout?
    split
    · exact absurd rfl (hother _ _)
    · rfl

theorem writes_eq_nil (h : ∀ a ∈ actions, a.isPainting = false) : writes actions = [] := by
  refine List.filterMap_eq_nil_iff.mpr fun a ha => ?_
  cases a with
  | call request reply => rfl
  | write text result => cases h _ ha

end Actions

/-! ### What is published -/

/-- The batch that the feed publishes with its next step, if it does. -/
def Feed.outgoing (f : Feed) : List Batch :=
  match f.phase with
  | .publishing _ batch _ => [batch]
  | _ => []

/-- A feed publishes what it is about to publish. -/
theorem Progress.FeedGoes.published_eq {clock : Clock} {p p' : Progress} {actions : List Action}
    {published : List Batch} (h : p.FeedGoes clock actions published p') :
    published = p.feed.outgoing := by
  rw [Feed.outgoing]
  cases h with
  | page leads =>
    cases Feed.goes_of_leads leads with
    | page hphase => rw [hphase]
  | quiet leads =>
    cases Feed.goes_of_leads leads with
    | poll hphase | wake hphase | conclude hphase => rw [hphase]
    | drain hphase =>
      obtain hphase | ⟨deadline, hphase⟩ := hphase
      · rw [hphase]
      · rw [hphase]
  | queued leads | dropped leads =>
    cases Feed.goes_of_leads leads with
    | publish hphase => rw [hphase]

namespace Session

/-- The batch that an actor publishes with its next step, if it does. -/
def outgoing (s : Session) : Actor → List Batch
  | .feed => s.progress.elim [] fun p => p.feed.outgoing
  | .operation | .painter => []

/-- The **runs** from a session, with the batches that the feed has published. -/
inductive Streams (start : Session) : List Action → List Batch → Session → Prop
  | start : Streams start [] [] start
  | step {trace actions : List Action} {published : List Batch} {clock : Clock} {actor : Actor}
      {s t : Session} (run : Streams start trace published s)
      (leads : (s.step clock actor).Leads clock actions t) :
      Streams start (trace ++ actions) (published ++ s.outgoing actor) t
  | cancel {trace : List Action} {published : List Batch} {s : Session}
      (run : Streams start trace published s) : Streams start trace published s.cancel

variable {start s t : Session} {trace actions : List Action} {published : List Batch}

theorem Streams.runs (run : start.Streams trace published s) : start.Runs trace s := by
  induction run with
  | start => exact .start
  | step _ leads ih => exact ih.move (.step leads)
  | cancel _ ih => simpa using ih.move .cancel

/-- With every run go the batches that it has published. -/
theorem Runs.exists_streams (run : start.Runs trace s) :
    ∃ published, start.Streams trace published s := by
  induction run with
  | start => exact ⟨[], .start⟩
  | move _ moves ih =>
    obtain ⟨published, streams⟩ := ih
    cases moves with
    | step leads => exact ⟨_, streams.step leads⟩
    | cancel => exact ⟨published, by simpa using streams.cancel⟩

/-- When the operation is over, nothing happens any more. -/
theorem Staged.streams_of_over {outcome : Outcome} (h : s.Staged) (hover : s.phase = .over outcome)
    (run : s.Streams trace published t) : trace = [] ∧ published = [] := by
  have hlast : trace = [] ∧ published = [] ∧ t.phase = .over outcome ∧ t.Staged := by
    induction run with
    | start => exact ⟨rfl, rfl, hover, h⟩
    | step _ leads ih => exact absurd leads (ih.2.2.2.not_leads ih.2.2.1)
    | cancel _ ih => exact ⟨ih.1, ih.2.1, ih.2.2.1, ih.2.2.2.cancel⟩
  exact ⟨hlast.1, hlast.2.1⟩

end Session

end StackDeploy
