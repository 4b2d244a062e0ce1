import StackDeploy.Proofs.Deployment.Steps

/-!
# What an operation does

The operation of a session goes through its phases in one direction: **early** phases, in which the
other actors have not been started, **late** ones, in which they work, and then it stops them and
ends. Each step is one of a few kinds.

* `Session.OperationGoes` — the kinds of steps.
* `Session.operationGoes_of_leads` — there are no others.
* `Session.Staged` — how far the other actors are in each phase; every run keeps to it.
-/

namespace StackDeploy

variable {clock : Clock} {actions : List Action}

/-- The action is one that only the painter takes once the other actors have been started: it looks
up rollouts and writes. -/
def Action.isPainting : Action → Bool
  | .call (.resolveRollout _) _ | .write _ _ => true
  | _ => false

/-- The action looks up a rollout. -/
def Action.isLookup : Action → Bool
  | .call (.resolveRollout _) _ => true
  | _ => false

/-- A review does nothing but describe its change set. -/
theorem Review.describes_of_leads {review review' : Review}
    (h : (review.step clock).Leads clock actions review') :
    ∀ a ∈ actions, ∃ stack id reply, a = .call (.describeChangeSet stack id) reply := by
  cases steps_of_leads h with
  | begin | ask | pause | settle | wake => simp

/-- A watch does nothing but describe its stack. -/
theorem Watch.describes_of_leads {watch watch' : Watch}
    (h : (watch.step clock).Leads clock actions watch') :
    ∀ a ∈ actions, ∃ stack reply, a = .call (.describeStack stack) reply := by
  cases steps_of_leads h with
  | begin | ask | pause | settle | wake | timeOut | sleep => simp

namespace Session

/-- The **stage** that an operation is at. -/
inductive Stage where
  /-- The other actors have not been started. -/
  | early
  /-- They work, and nobody has stopped them. -/
  | late
  | stopping
  | tracing
  | following
  | over
deriving DecidableEq

/-- The stage of a phase. -/
def Phase.stage : Phase → Stage
  | .submitting _ _ | .submittingUpdate _ _ | .reviewing _ _ | .announcing _ _ _ | .looking _
  | .deleting _ _ | .deletionAccepted _ _ _ => .early
  | .executing _ _ _ | .watching _ _ => .late
  | .stopping _ _ => .stopping
  | .tracing _ _ _ => .tracing
  | .following => .following
  | .over _ => .over

/-- The stack that a phase is about. -/
def Phase.stack : Phase → String
  | .submitting order _ | .submittingUpdate order _ => order.request.stack
  | .reviewing stack _ | .announcing stack _ _ | .looking stack | .deleting _ stack
  | .deletionAccepted _ stack _ => stack
  | .executing target _ _ | .watching target _ | .stopping target _ | .tracing target _ _ =>
    target.stack
  | .following | .over _ => ""

/-- An operation **goes on** in one of these ways. -/
inductive OperationGoes (s : Session) : List Action → Session → Prop
  /-- An early phase is followed by another one, or the operation is over. -/
  | advance {actions : List Action} {phase : Phase} (hbefore : s.phase.stage = .early)
      (hafter : phase.stage = .early ∧ phase.stack = s.phase.stack ∨ phase = .over .noChanges ∨
        ∃ e, phase = .over (.failed e))
      (hactions : ∀ a ∈ actions, a.isLookup = false) : OperationGoes s actions { s with phase }
  /-- The other actors are started. -/
  | launch {actions : List Action} {phase : Phase} (hbefore : s.phase.stage = .early)
      (hafter : phase.stage = .late) (key : String) (cutoff : Instant)
      (hactions : ∀ a ∈ actions, a.isLookup = false) :
      OperationGoes s actions
        { s with phase, progress := some (freshProgress s.settings s.phase.stack key cutoff) }
  /-- A late phase is followed by another one. -/
  | wait {actions : List Action} {phase : Phase} (hbefore : s.phase.stage = .late)
      (hafter : phase.stage = .late) (hactions : ∀ a ∈ actions, a.isPainting = false) :
      OperationGoes s actions { s with phase }
  /-- The other actors are stopped. -/
  | stop {actions : List Action} (hbefore : s.phase.stage = .late) (target : Target)
      (ending : Ending) (hactions : ∀ a ∈ actions, a.isPainting = false) :
      OperationGoes s actions (s.stop target ending)
  /-- The other actors have ended. -/
  | stopped {target : Target} {ending : Ending} (hbefore : s.phase = .stopping target ending)
      (hover : s.progress.all Progress.isOver) : OperationGoes s [] (s.stopped target ending)
  /-- The cause of a failure is looked for. -/
  | read {target : Target} {status : StackStatus} {source : EventSource} {reader : HistoryReader}
      (hbefore : s.phase = .tracing target status (.reading source reader))
      (reply : Except ApiError EventPage) :
      OperationGoes s [.call (.describeStackEvents source.stack reader.token) reply]
        { s with phase := .tracing target status (Fetch.take source reader reply) }
  | explain {target : Target} {status : StackStatus} {source : EventSource}
      {result : Except FetchError (List StackEvent)}
      (hbefore : s.phase = .tracing target status (.over result source)) :
      OperationGoes s [] (s.fail (failure target status result))
  /-- The other actors have ended by themselves. -/
  | follow {p : Progress} {stream : Except FetchError Unit} {written : Written}
      (hbefore : s.phase = .following) (hprogress : s.progress = some p)
      (hfeed : p.feed.result? = some stream) (hpainter : p.painter.result? = some written) :
      OperationGoes s [] { s with phase := .over (.followed stream written) }

variable {s t : Session}

/-- An operation may fail before the other actors are started. -/
theorem operationGoes_fail (e : DeployError) (h : s.phase.stage = .early)
    (hactions : ∀ a ∈ actions, a.isLookup = false) : s.OperationGoes actions (s.fail e) :=
  .advance h (.inr (.inr ⟨e, rfl⟩)) hactions

theorem operationGoes_submitted {order : DeployOrder} (controller : Controller)
    (type : ChangeSetType) (reply : Except ApiError ChangeSetRef) (h : s.phase.stage = .early)
    (hstack : s.phase.stack = order.request.stack)
    (hactions : ∀ a ∈ actions, a.isLookup = false) :
    s.OperationGoes actions (s.submitted order controller type reply) := by
  rw [submitted]
  split
  · exact .advance h (.inl ⟨rfl, hstack.symm⟩) hactions
  · split
    · exact .advance h (.inl ⟨rfl, hstack.symm⟩) hactions
    · exact operationGoes_fail _ h hactions
  · exact operationGoes_fail _ h hactions

theorem operationGoes_reviewed {stack : String} {review : Review}
    (result : Except ChangeSetError ReviewOutcome × Controller)
    (h : s.phase = .reviewing stack review) :
    s.OperationGoes [] (s.reviewed stack result) := by
  have hstage : s.phase.stage = .early := by rw [h]; rfl
  rw [reviewed.eq_def]
  split
  · exact .advance hstage (.inr (.inl rfl)) (by simp)
  · exact .advance hstage (.inl ⟨rfl, by rw [h]; rfl⟩) (by simp)
  · exact operationGoes_fail _ hstage (by simp)

theorem operationGoes_announced (clock : Clock) {stack text : String} {controller : Controller}
    {changes : List Change} (written : Written)
    (h : s.phase = .announcing stack controller changes) :
    s.OperationGoes [.write text written] (s.announced clock stack controller written) := by
  have hstage : s.phase.stage = .early := by rw [h]; rfl
  have hstack : s.phase.stack = stack := by rw [h]; rfl
  rw [announced.eq_def]
  split
  · exact operationGoes_fail _ hstage (by simp [Action.isLookup])
  · split
    · exact operationGoes_fail _ hstage (by simp [Action.isLookup])
    · rw [← hstack]
      exact .launch hstage rfl _ _ (by simp [Action.isLookup])

theorem operationGoes_executed {target : Target} {controller : Controller} {ref : ChangeSetRef}
    {stack id : String} (reply : Except ApiError Unit) (controller' : Controller)
    (h : s.phase = .executing target controller ref) :
    s.OperationGoes [.call (.executeChangeSet stack id) reply]
      (s.executed target controller' ref reply) := by
  have hstage : s.phase.stage = .late := by rw [h]; rfl
  rw [executed]
  split
  · exact .wait hstage rfl (by simp [Action.isPainting])
  · exact .stop hstage _ _ (by simp [Action.isPainting])

theorem operationGoes_looked {stack : String} (reply : Except ApiError Stack)
    (h : s.phase = .looking stack) :
    s.OperationGoes [.call (.describeStack stack) reply] (s.looked stack reply) := by
  have hstage : s.phase.stage = .early := by rw [h]; rfl
  cases reply with
  | ok existing =>
    exact .advance hstage (.inl ⟨rfl, by rw [h]; rfl⟩) (by simp [Action.isLookup])
  | error cause => exact operationGoes_fail _ hstage (by simp [Action.isLookup])

theorem operationGoes_deletionReplied {existing : Stack} {stack : String} {cutoff : Instant}
    (reply : Except ApiError Unit) (h : s.phase = .deletionAccepted existing stack cutoff) :
    s.OperationGoes [.call (.deleteStack stack) reply]
      (s.deletionReplied existing stack cutoff reply) := by
  have hstage : s.phase.stage = .early := by rw [h]; rfl
  have hstack : s.phase.stack = stack := by rw [h]; rfl
  cases reply with
  | ok _ =>
    rw [← hstack]
    exact .launch hstage rfl _ _ (by simp [Action.isLookup])
  | error cause => exact operationGoes_fail _ hstage (by simp [Action.isLookup])

theorem operationGoes_watched (target : Target) (watched : Watched) (h : s.phase.stage = .late) :
    s.OperationGoes [] (s.watched target watched) := by
  cases watched with
  | terminal | gone | failed | timedOut => exact .stop h _ _ (by simp)

/-- There are no other ways. -/
theorem operationGoes_of_leads (leads : (s.operationStep clock).Leads clock actions t) :
    s.OperationGoes actions t := by
  cases steps_of_leads leads with
  | submit hphase | submitUpdate hphase =>
    exact operationGoes_submitted _ _ _ (by rw [hphase]; rfl) (by rw [hphase]; rfl)
      (by simp [Action.isLookup])
  | review hphase hstep =>
    refine .advance (by rw [hphase]; rfl) (.inl ⟨rfl, by rw [hphase]; rfl⟩) fun a ha => ?_
    obtain ⟨stack, id, reply, rfl⟩ := Review.describes_of_leads hstep a ha
    rfl
  | reviewed hphase => exact operationGoes_reviewed _ hphase
  | announce hphase => exact operationGoes_announced _ _ hphase
  | execute hphase reply => exact operationGoes_executed reply _ hphase
  | look hphase reply => exact operationGoes_looked reply hphase
  | date hphase =>
    exact .advance (by rw [hphase]; rfl) (.inl ⟨rfl, by rw [hphase]; rfl⟩) (by simp)
  | delete hphase reply => exact operationGoes_deletionReplied reply hphase
  | watch hphase hstep =>
    refine .wait (by rw [hphase]; rfl) rfl fun a ha => ?_
    obtain ⟨stack, reply, rfl⟩ := Watch.describes_of_leads hstep a ha
    rfl
  | watched hphase => exact operationGoes_watched _ _ (by rw [hphase]; rfl)
  | stopped hphase hover => exact .stopped hphase hover
  | read hphase reply => exact .read hphase reply
  | explain hphase => exact .explain hphase
  | follow hphase hprogress hfeed hpainter => exact .follow hphase hprogress hfeed hpainter

/-! ### What an operation leaves as it is -/

/-- When the other actors have ended, the operation is over or looks for the cause of a failure. -/
theorem stopped_cases (s : Session) (target : Target) (ending : Ending) :
    (∃ outcome, s.stopped target ending = { s with phase := .over outcome }) ∨
      ∃ status, s.stopped target ending = s.trace target status := by
  rw [stopped.eq_def]
  split
  · exact .inl ⟨_, rfl⟩
  · split <;> exact .inl ⟨_, rfl⟩
  · split
    · split
      · exact .inl ⟨_, rfl⟩
      · exact .inr ⟨_, rfl⟩
    · split
      · exact .inl ⟨_, rfl⟩
      · exact .inr ⟨_, rfl⟩

theorem stopped_eq (s : Session) (target : Target) (ending : Ending) :
    ∃ phase, s.stopped target ending = { s with phase } := by
  obtain ⟨outcome, hover⟩ | ⟨status, htrace⟩ := s.stopped_cases target ending
  · exact ⟨_, hover⟩
  · exact ⟨_, htrace⟩

/-- The settings of a session stay as they are. -/
theorem OperationGoes.settings_eq (h : s.OperationGoes actions t) : t.settings = s.settings := by
  cases h with
  | @stopped target ending hbefore hover =>
    obtain ⟨phase, hstopped⟩ := s.stopped_eq target ending
    rw [hstopped]
  | advance | launch | wait | stop | read | explain | follow => rfl

theorem Moves.settings_eq (moves : s.Moves actions t) : t.settings = s.settings := by
  cases moves with
  | cancel => rfl
  | @step clock actor _ _ leads =>
    by_cases hactor : actor = .operation
    · subst hactor
      exact (operationGoes_of_leads leads).settings_eq
    · obtain ⟨p, p', -, rfl, -⟩ := progress_of_leads hactor leads
      rfl

theorem Runs.settings_eq {start : Session} {trace : List Action} (run : start.Runs trace s) :
    s.settings = start.settings :=
  run.induct (P := fun _ s => s.settings = start.settings) rfl fun _ _ _ _ h moves =>
    moves.settings_eq.trans h

end Session

/-! ### Stages -/

theorem Feed.result?_of_leads {clock : Clock} {cancelled : Bool} {f g : Feed} {deeds : List Deed}
    (leads : (f.step clock cancelled).Leads clock deeds g) : f.result? = none := by
  rw [Feed.step] at leads
  rw [Feed.result?]
  split
  next result hphase =>
    simp only [hphase] at leads
    cases leads
  · rfl

namespace Progress

variable {p p' : Progress} {published : List Batch}

theorem FeedGoes.result?_eq_none (h : p.FeedGoes clock actions published p') :
    p.feed.result? = none := by
  cases h with
  | page leads | quiet leads | queued leads | dropped leads => exact Feed.result?_of_leads leads

theorem PainterGoes.result?_eq_none (h : p.PainterGoes actions p') :
    p.painter.result? = none := by
  rw [Painter.result?]
  cases h with
  | receive hphase | close hphase | apply hphase | ask hphase | answered hphase | applied hphase
  | drawn hphase | failed hphase => rw [hphase]

theorem FeedGoes.cancelled_eq (h : p.FeedGoes clock actions published p') :
    p'.cancelled = p.cancelled := by
  cases h <;> rfl

theorem PainterGoes.cancelled_eq (h : p.PainterGoes actions p') : p'.cancelled = p.cancelled := by
  cases h <;> rfl

/-- When both have ended, neither goes on. -/
theorem isOver_eq_false (h : p.feed.result? = none ∨ p.painter.result? = none) :
    p.isOver = false := by
  rw [isOver]
  rcases h with h | h <;> simp [h]

end Progress

namespace Session

/-- How far the other actors are at the **stage** of the operation: they are not started early on,
they are cancelled before the operation waits for them, and both have ended before it goes on. -/
def Staged (s : Session) : Prop :=
  match s.phase.stage with
  | .early => s.progress = none
  | .late | .following => True
  | .stopping => ∀ p, s.progress = some p → p.cancelled = true
  | .tracing => ∀ p, s.progress = some p → p.cancelled = true ∧ p.isOver = true
  | .over => ∀ p, s.progress = some p → p.isOver = true

variable {s t : Session}

theorem stage_stopped (s : Session) (target : Target) (ending : Ending) :
    (s.stopped target ending).phase.stage = .over ∨
      (s.stopped target ending).phase.stage = .tracing := by
  obtain ⟨outcome, hover⟩ | ⟨status, htrace⟩ := s.stopped_cases target ending
  · exact .inl (hover ▸ rfl)
  · exact .inr (htrace ▸ rfl)

/-- The operation keeps to its stages. -/
theorem Staged.operation (h : s.Staged) (goes : s.OperationGoes actions t) : t.Staged := by
  cases goes with
  | @advance _ phase hbefore hafter =>
    simp only [Staged, hbefore] at h
    rcases hafter with ⟨hafter, -⟩ | rfl | ⟨e, rfl⟩
    · simp only [Staged, hafter]
      exact h
    · exact fun p hp => nomatch h.symm.trans hp
    · exact fun p hp => nomatch h.symm.trans hp
  | launch hbefore hafter | wait hbefore hafter => simp only [Staged, hafter]
  | stop hbefore target ending =>
    intro p hp
    obtain ⟨p', -, rfl⟩ := Option.map_eq_some_iff.mp hp
    rfl
  | @stopped target ending hbefore hover =>
    obtain ⟨phase, hstopped⟩ := s.stopped_eq target ending
    have hboth : ∀ p, s.progress = some p → p.cancelled = true ∧ p.isOver = true := by
      intro p hp
      rw [Staged, hbefore] at h
      exact ⟨h p hp, by simpa [hp] using hover⟩
    have hstage := s.stage_stopped target ending
    rw [hstopped] at hstage ⊢
    rcases hstage with hstage | hstage
    · simp only [Staged, hstage]
      exact fun p hp => (hboth p hp).2
    · simp only [Staged, hstage]
      exact hboth
  | read hbefore =>
    rw [Staged, hbefore] at h
    exact h
  | explain hbefore =>
    rw [Staged, hbefore] at h
    exact fun p hp => (h p hp).2
  | follow hbefore hprogress hfeed hpainter =>
    intro p hp
    obtain rfl := Option.some.inj (hprogress.symm.trans hp)
    simp [Progress.isOver, hfeed, hpainter]

/-- So do the other actors. -/
theorem Staged.other {p p' : Progress} (h : s.Staged) (hp : s.progress = some p)
    (hcancelled : p'.cancelled = p.cancelled)
    (hworks : p.feed.result? = none ∨ p.painter.result? = none) :
    Staged { s with progress := some p' } := by
  have hover := Progress.isOver_eq_false hworks
  -- an actor that goes on is started, and one of the two has not ended
  cases hstage : s.phase.stage with
  | early =>
    simp only [Staged, hstage, hp] at h
    cases h
  | late | following => simp only [Staged, hstage]
  | stopping =>
    simp only [Staged, hstage] at h ⊢
    rintro _ ⟨⟩
    exact hcancelled.trans (h p hp)
  | tracing =>
    simp only [Staged, hstage] at h
    exact absurd (h p hp).2 (by simp [hover])
  | «over» =>
    simp only [Staged, hstage] at h
    exact absurd (h p hp) (by simp [hover])

theorem Staged.cancel (h : s.Staged) : s.cancel.Staged := by
  have hback {p : Progress} (hp : s.cancel.progress = some p) :
      ∃ q, s.progress = some q ∧ p.cancelled = true ∧ p.isOver = q.isOver := by
    obtain ⟨q, hq, rfl⟩ := Option.map_eq_some_iff.mp hp
    exact ⟨q, hq, rfl, rfl⟩
  have hphase : s.cancel.phase = s.phase := rfl
  cases hstage : s.phase.stage with
  | early =>
    simp only [Staged, hphase, hstage] at h ⊢
    rw [Session.cancel, h, Option.map_none]
  | late | following => simp only [Staged, hphase, hstage]
  | stopping =>
    simp only [Staged, hphase, hstage]
    intro p hp
    obtain ⟨q, hq, hcancelled, -⟩ := hback hp
    exact hcancelled
  | tracing =>
    simp only [Staged, hphase, hstage] at h ⊢
    intro p hp
    obtain ⟨q, hq, hcancelled, hover⟩ := hback hp
    exact ⟨hcancelled, hover.trans (h q hq).2⟩
  | «over» =>
    simp only [Staged, hphase, hstage] at h ⊢
    intro p hp
    obtain ⟨q, hq, hcancelled, hover⟩ := hback hp
    exact hover.trans (h q hq)

theorem Staged.moves (h : s.Staged) (moves : s.Moves actions t) : t.Staged := by
  cases moves with
  | cancel => exact h.cancel
  | @step clock actor _ _ leads =>
    cases actor with
    | operation => exact h.operation (operationGoes_of_leads leads)
    | feed =>
      obtain ⟨p, p', published, hp, rfl, goes⟩ := feedGoes_of_leads leads
      exact h.other hp goes.cancelled_eq (.inl goes.result?_eq_none)
    | painter =>
      obtain ⟨p, p', hp, rfl, goes⟩ := painterGoes_of_leads leads
      exact h.other hp goes.cancelled_eq (.inr goes.result?_eq_none)

/-- **Stages.** Every run of a session keeps to its stages. -/
theorem Staged.runs {start : Session} {trace : List Action} (h : start.Staged)
    (run : start.Runs trace s) : s.Staged :=
  run.induct (P := fun _ s => s.Staged) h fun _ _ _ _ h moves => h.moves moves

/-- Another actor takes a step only while it is started and has not ended. -/
theorem Staged.stage_of_leads {actor : Actor} (h : s.Staged) (hactor : actor ≠ .operation)
    (leads : (s.step clock actor).Leads clock actions t) :
    s.phase.stage = .late ∨ s.phase.stage = .stopping ∨ s.phase.stage = .following := by
  obtain ⟨p, hp, hworks⟩ : ∃ p, s.progress = some p ∧ p.isOver = false := by
    cases actor with
    | operation => exact absurd rfl hactor
    | feed =>
      obtain ⟨p, p', published, hp, -, goes⟩ := feedGoes_of_leads leads
      exact ⟨p, hp, Progress.isOver_eq_false (.inl goes.result?_eq_none)⟩
    | painter =>
      obtain ⟨p, p', hp, -, goes⟩ := painterGoes_of_leads leads
      exact ⟨p, hp, Progress.isOver_eq_false (.inr goes.result?_eq_none)⟩
  cases hstage : s.phase.stage with
  | late => exact .inl rfl
  | stopping => exact .inr (.inl rfl)
  | following => exact .inr (.inr rfl)
  | early =>
    simp only [Staged, hstage, hp] at h
    cases h
  | tracing =>
    simp only [Staged, hstage] at h
    exact absurd (h p hp).2 (by simp [hworks])
  | «over» =>
    simp only [Staged, hstage] at h
    exact absurd (h p hp) (by simp [hworks])

/-- When the operation is over, nobody goes on. -/
theorem Staged.not_leads {actor : Actor} {outcome : Outcome} (h : s.Staged)
    (hover : s.phase = .over outcome) : ¬ (s.step clock actor).Leads clock actions t := by
  intro leads
  simp only [Staged, hover, Phase.stage] at h
  cases actor with
  | operation =>
    rw [step, operationStep, hover] at leads
    cases leads
  | feed =>
    obtain ⟨p, p', published, hp, -, goes⟩ := feedGoes_of_leads leads
    simpa [Progress.isOver_eq_false (.inl goes.result?_eq_none)] using h p hp
  | painter =>
    obtain ⟨p, p', hp, -, goes⟩ := painterGoes_of_leads leads
    simpa [Progress.isOver_eq_false (.inr goes.result?_eq_none)] using h p hp

theorem staged_deploy (settings : SessionSettings) (request : DeployRequest)
    (rendered : Except String String) (name updateName : String) :
    (deploy settings request rendered name updateName).Staged := by
  cases rendered with
  | ok body => rfl
  | error message => exact fun p hp => nomatch hp

theorem staged_delete (settings : SessionSettings) (stack : String) :
    (delete settings stack).Staged := rfl

end Session

end StackDeploy
