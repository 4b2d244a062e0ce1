import StackDeploy.Proofs.Deployment.Dating

/-!
# From when on events are shown

The feed of a deployment is started when the change set was reviewed, and it reads the events of the
stack from the creation of that change set on. The target of the operation has the same time.

* `Session.IsTimed` — the feed reads from that time on; `Session.IsTimed.moves` is the step lemma.
* `Session.cutoff_of_runs` — the times of the feed and of the target.
-/

namespace StackDeploy

/-! ### Feeds -/

/-- The feed **reads** the events of a stack from a time on. -/
def Progress.ReadsFrom (stack : String) (time : Instant) (interval : Nat) (p : Progress) : Prop :=
  ∃ deeds, (Feed.start stack time interval).Runs deeds p.feed

section Progress

variable {stack : String} {time : Instant} {interval : Nat} {clock : Clock} {p p' : Progress}
  {actions : List Action} {published : List Batch}

theorem Progress.FeedGoes.exists_leads (goes : p.FeedGoes clock actions published p') :
    ∃ deeds, (p.feed.step clock p.cancelled).Leads clock deeds p'.feed := by
  cases goes with
  | page leads | quiet leads | queued leads | dropped leads => exact ⟨_, leads⟩

theorem Progress.PainterGoes.feed_eq (goes : p.PainterGoes actions p') : p'.feed = p.feed := by
  cases goes <;> rfl

theorem Progress.ReadsFrom.feed (h : p.ReadsFrom stack time interval)
    (goes : p.FeedGoes clock actions published p') : p'.ReadsFrom stack time interval := by
  obtain ⟨before, run⟩ := h
  obtain ⟨deeds, leads⟩ := goes.exists_leads
  exact ⟨before ++ deeds, run.move clock p.cancelled leads⟩

theorem Progress.ReadsFrom.of_feed_eq (h : p.ReadsFrom stack time interval)
    (hfeed : p'.feed = p.feed) : p'.ReadsFrom stack time interval := by
  rwa [ReadsFrom, hfeed]

end Progress

namespace Session

/-! ### Sessions -/

/-- The feed, once it is started, reads the events of the stack **from the creation** of its change
set on. -/
def IsTimed (stack : String) (trace : List Action) (s : Session) : Prop :=
  ∀ p, s.progress = some p →
    ∃ time, CreatedAt stack trace time ∧ p.ReadsFrom stack time s.settings.deploy.eventInterval

variable {request : DeployRequest} {s t : Session} {clock : Clock} {stack : String}
  {trace actions : List Action}

/-- Steps that do not start the feed and have nothing to do with the change set keep the time. -/
theorem IsTimed.append (h : s.IsTimed stack trace) (hsettings : t.settings = s.settings)
    (hprogress : ∀ p', t.progress = some p' → ∃ p, s.progress = some p ∧ p'.feed = p.feed)
    (hactions : ∀ a ∈ actions, a.isOfChangeSet = false) : t.IsTimed stack (trace ++ actions) := by
  intro p' hp'
  obtain ⟨p, hp, hfeed⟩ := hprogress p' hp'
  obtain ⟨time, hcreated, hreads⟩ := h p hp
  rw [hsettings]
  exact ⟨time, hcreated.append hactions, hreads.of_feed_eq hfeed⟩

theorem isTimed_of_progress_eq_none (h : s.progress = none) : s.IsTimed stack trace :=
  fun _ hp => nomatch h.symm.trans hp

theorem IsTimed.cancel (h : s.IsTimed stack trace) : s.cancel.IsTimed stack trace := by
  rw [← List.append_nil trace]
  refine h.append rfl (fun p' hp' => ?_) (List.forall_mem_nil _)
  obtain ⟨p, hp, rfl⟩ := Option.map_eq_some_iff.mp hp'
  exact ⟨p, hp, rfl⟩

/-- The feed is started with the creation time that the controller has. -/
theorem isTimed_announced {controller : Controller} (written : Written)
    (hnone : s.progress = none) (h : controller.IsDated stack trace) :
    (s.announced clock stack controller written).IsTimed stack trace := by
  obtain ⟨time, hcreated, htime⟩ := h
  rw [announced.eq_def]
  split
  · exact isTimed_of_progress_eq_none hnone
  · split
    · exact isTimed_of_progress_eq_none hnone
    · rintro p ⟨⟩
      simp only [hcreated, Option.getD_some]
      exact ⟨time, htime, [], .start⟩

/-- The operation keeps the time. -/
theorem IsTimed.operation (h : s.IsTimed request.stack trace) (hstaged : s.Staged)
    (hknown : Known request trace s) (hdated : s.phase.Dated request.stack trace)
    (steps : s.Steps clock actions t) : t.IsTimed request.stack (trace ++ actions) := by
  have hnone (hearly : s.phase.stage = .early) : s.progress = none := by
    simpa only [Staged, hearly] using hstaged
  have same {phase : Phase} (hactions : ∀ a ∈ actions, a.isOfChangeSet = false) :
      IsTimed request.stack (trace ++ actions) { s with phase } :=
    h.append rfl (fun p hp => ⟨p, hp, rfl⟩) hactions
  have stop (target : Target) (ending : Ending)
      (hactions : ∀ a ∈ actions, a.isOfChangeSet = false) :
      (s.stop target ending).IsTimed request.stack (trace ++ actions) :=
    h.cancel.append rfl (fun p hp => ⟨p, hp, rfl⟩) hactions
  cases steps with
  | submit hphase | submitUpdate hphase =>
    refine isTimed_of_progress_eq_none (.trans ?_ (hnone (by rw [hphase]; rfl)))
    rw [submitted]
    split
    · rfl
    · split <;> rfl
    · rfl
  | review hphase => exact isTimed_of_progress_eq_none (hnone (by rw [hphase]; rfl))
  | reviewed hphase =>
    refine isTimed_of_progress_eq_none (.trans ?_ (hnone (by rw [hphase]; rfl)))
    rw [reviewed.eq_def]
    split <;> rfl
  | announce hphase written =>
    simp only [Known, hphase] at hknown
    obtain ⟨rfl, -⟩ := hknown
    have hprogress := hnone (by rw [hphase]; rfl)
    rw [hphase] at hdated
    obtain ⟨time, hcreated, htime⟩ := hdated
    exact isTimed_announced written hprogress
      ⟨time, hcreated, htime.append (List.forall_mem_singleton.mpr rfl)⟩
  | execute hphase reply =>
    rw [executed]
    split
    · exact same (List.forall_mem_singleton.mpr rfl)
    · exact stop _ _ (List.forall_mem_singleton.mpr rfl)
  | watch hphase leads =>
    refine same fun a ha => ?_
    obtain ⟨_, _, rfl⟩ := Watch.describes_of_leads leads a ha
    rfl
  | @watched target w watched => cases watched <;> exact stop _ _ (List.forall_mem_nil _)
  | @stopped target ending =>
    obtain ⟨phase, hstopped⟩ := s.stopped_eq target ending
    rw [hstopped]
    exact same (List.forall_mem_nil _)
  | read => exact same (List.forall_mem_singleton.mpr rfl)
  | explain => exact same (List.forall_mem_nil _)
  | look hphase | date hphase | delete hphase | follow hphase => simp only [Known, hphase] at hknown

/-- **Step lemma.** Every move of a deployment keeps the time. -/
theorem IsTimed.moves (h : s.IsTimed request.stack trace) (hstaged : s.Staged)
    (hknown : Known request trace s) (hdated : s.phase.Dated request.stack trace)
    (moves : s.Moves actions t) : t.IsTimed request.stack (trace ++ actions) := by
  cases moves with
  | cancel =>
    rw [List.append_nil]
    exact h.cancel
  | @step clock actor _ _ leads =>
    cases actor with
    | operation => exact h.operation hstaged hknown hdated (steps_of_leads leads)
    | feed =>
      obtain ⟨p, p', published, hp, rfl, goes⟩ := feedGoes_of_leads leads
      obtain ⟨time, hcreated, hreads⟩ := h p hp
      rintro _ ⟨⟩
      exact ⟨time, hcreated.append fun a ha =>
        Action.isOfChangeSet_eq_false_of_isProgress (goes.isProgress a ha), hreads.feed goes⟩
    | painter =>
      obtain ⟨p, p', hp, rfl, goes⟩ := painterGoes_of_leads leads
      refine h.append rfl ?_ fun a ha =>
        Action.isOfChangeSet_eq_false_of_isProgress (goes.isProgress a ha)
      rintro _ ⟨⟩
      exact ⟨p, hp, goes.feed_eq⟩

/-! ### Every run -/

/-- What the operation is about, once its change set is to be executed. -/
def Phase.target? : Phase → Option Target
  | .executing target _ _ | .watching target _ | .stopping target _ | .tracing target _ _ =>
    some target
  | _ => none

/-- The target of a phase has the time of its change set. -/
theorem Phase.Dated.target {phase : Phase} {target : Target} (h : phase.Dated stack trace)
    (htarget : phase.target? = some target) : target.IsDated stack trace := by
  cases phase with
  | executing | watching =>
    cases htarget
    exact h
  | stopping =>
    cases htarget
    exact h.1
  | tracing _ _ fetch =>
    cases htarget
    obtain ⟨earlier, reads, rfl, hdated, hread⟩ := h
    exact hdated.append (Fetch.HasRead.isOfChangeSet_eq_false hread)
  | _ => cases htarget

variable {settings : SessionSettings} {rendered : Except String String} {name updateName : String}

/-- **Run lemma.** Every run of a deployment shows and judges the events of its stack from the
creation of the accepted change set on. -/
theorem cutoff_of_runs (run : (deploy settings request rendered name updateName).Runs trace s) :
    s.IsTimed request.stack trace ∧
      ∀ target, s.phase.target? = some target → target.IsDated request.stack trace := by
  refine ⟨?_, fun target => (dated_of_runs run).target⟩
  induction run with
  | start => exact isTimed_of_progress_eq_none rfl
  | move run moves ih =>
    exact ih.moves ((staged_deploy _ _ _ _ _).runs run) (known_of_runs run).1 (dated_of_runs run)
      moves

end Session

end StackDeploy
