import StackDeploy.Proofs.Deployment.Review
import StackDeploy.Proofs.Deployment.Verdict
import StackDeploy.Proofs.Stream.Poll

/-!
# From when on events count

The events that may explain a failed deployment are those from the creation of its change set on.
That time is taken from the description that ended the review, and it is handed on until the watch
is over; then the events of the stack are read once more, from the first page to the last.

* `HistoryRead` — a history that was read page by page, or could not be read.
* `CreatedAt` — when the accepted change set was created, as its last description says.
* `Session.Phase.Dated` — what every phase has of it; `Dated.move` is the step lemma.
* `Session.exists_reading` — a deployment that fails because its stack has failed has read the
  history last of all, and its error is what `Session.failure` makes of that.
-/

namespace StackDeploy

/-! ### Histories that are read -/

/-- The pages of a stack's history that were **read** so far, each with the token of the one before
it: the events, newest first, and the token of the next page. -/
inductive Gathered (stack : String) : List Action → List StackEvent → Option String → Prop
  | start : Gathered stack [] [] none
  | page {reads : List Action} {gathered : List StackEvent} {token : Option String}
      {page : EventPage} {next : String} (read : Gathered stack reads gathered token)
      (hnext : page.nextToken = some next) :
      Gathered stack (reads ++ [.call (.describeStackEvents stack token) (.ok page)])
        (gathered ++ page.events) (some next)

/-- A stack's **history was read** to the page that has no token, or to one that could not be read.
-/
inductive HistoryRead (stack : String) :
    List Action → Except ApiError (List StackEvent) → Prop
  | complete {reads : List Action} {gathered : List StackEvent} {token : Option String}
      {page : EventPage} (read : Gathered stack reads gathered token)
      (hlast : page.nextToken = none) :
      HistoryRead stack (reads ++ [.call (.describeStackEvents stack token) (.ok page)])
        (.ok (gathered ++ page.events))
  | failed {reads : List Action} {gathered : List StackEvent} {token : Option String}
      (read : Gathered stack reads gathered token) (cause : ApiError) :
      HistoryRead stack (reads ++ [.call (.describeStackEvents stack token) (.error cause)])
        (.error cause)

/-- What a source makes of a history that was read, or not. -/
def EventSource.fetched (source : EventSource) :
    Except ApiError (List StackEvent) → Except FetchError (List StackEvent)
  | .ok history => .ok (source.select history).1
  | .error cause => .error ⟨source.stack, cause⟩

/-- What a fetch has read for a source: some pages, or the whole history. -/
def Fetch.HasRead (source : EventSource) (reads : List Action) : Fetch → Prop
  | .reading other reader =>
    other = source ∧ Gathered source.stack reads reader.gathered reader.token
  | .over result _ => ∃ read, HistoryRead source.stack reads read ∧ result = source.fetched read

theorem Fetch.HasRead.take {source : EventSource} {reader : HistoryReader} {reads : List Action}
    (h : Gathered source.stack reads reader.gathered reader.token)
    (reply : Except ApiError EventPage) :
    (Fetch.take source reader reply).HasRead source
      (reads ++ [.call (.describeStackEvents source.stack reader.token) reply]) := by
  cases reply with
  | error cause => exact ⟨_, .failed h cause, rfl⟩
  | ok page =>
    cases hnext : page.nextToken with
    | some next =>
      rw [Fetch.take_more source reader hnext]
      exact ⟨rfl, h.page hnext⟩
    | none =>
      rw [Fetch.take_last source reader hnext]
      exact ⟨_, .complete h hnext, rfl⟩

/-- The history of a stack that a trace has **read last**. -/
def ReadLast (stack : String) (trace : List Action)
    (read : Except ApiError (List StackEvent)) : Prop :=
  ∃ earlier reads, trace = earlier ++ reads ∧ HistoryRead stack reads read

/-- The action asks for the first page of a history. -/
def Action.isFirstPage : Action → Bool
  | .call (.describeStackEvents _ none) _ => true
  | _ => false

section ReadLast

variable {stack : String} {trace reads : List Action} {gathered : List StackEvent}
  {token : Option String} {read other : Except ApiError (List StackEvent)}

/-- Nothing but the first request of a reading asks for the first page. -/
theorem Gathered.first (h : Gathered stack reads gathered token)
    (reply : Except ApiError EventPage) :
    ∃ a rest, reads ++ [.call (.describeStackEvents stack token) reply] = a :: rest ∧
      a.isFirstPage = true ∧ ∀ b ∈ rest, b.isFirstPage = false := by
  induction h generalizing reply with
  | start => exact ⟨_, [], rfl, rfl, fun _ hmem => nomatch hmem⟩
  | @page reads gathered token page next read hnext ih =>
    obtain ⟨a, rest, hreads, ha, hrest⟩ := ih (.ok page)
    refine ⟨a, _, by rw [hreads, List.cons_append], ha, fun b hb => ?_⟩
    rcases List.mem_append.mp hb with hb | hb
    · exact hrest b hb
    · rw [List.mem_singleton.mp hb]
      rfl

theorem Gathered.eq_nil (h : Gathered stack reads gathered none) : reads = [] := by
  cases h
  rfl

theorem HistoryRead.first (h : HistoryRead stack reads read) :
    ∃ a rest, reads = a :: rest ∧ a.isFirstPage = true ∧ ∀ b ∈ rest, b.isFirstPage = false := by
  cases h with
  | complete gathered => exact gathered.first _
  | failed gathered => exact gathered.first _

/-- The pages say what was gathered from them. -/
theorem Gathered.unique {gathered' : List StackEvent} {token' : Option String}
    (h : Gathered stack reads gathered token) (h' : Gathered stack reads gathered' token') :
    gathered = gathered' ∧ token = token' := by
  induction h generalizing gathered' token' with
  | start =>
    generalize hreads : ([] : List Action) = reads at h'
    cases h' with
    | start => exact ⟨rfl, rfl⟩
    | page => exact absurd hreads.symm (by simp)
  | @page before gathered token page next _ hnext ih =>
    generalize hreads : before ++ [Action.call (.describeStackEvents stack token) (.ok page)] =
      reads at h'
    cases h' with
    | start => exact absurd hreads (by simp)
    | page read' hnext' =>
      obtain ⟨rfl, hlast⟩ := List.append_inj' hreads rfl
      cases hlast
      obtain ⟨rfl, -⟩ := ih read'
      exact ⟨rfl, hnext.symm.trans hnext'⟩

theorem HistoryRead.unique (h : HistoryRead stack reads read)
    (h' : HistoryRead stack reads other) : read = other := by
  cases h with
  | @complete before gathered token page read _ =>
    generalize hreads : before ++ [Action.call (.describeStackEvents stack token) (.ok page)] =
      reads at h'
    cases h' with
    | complete read' =>
      obtain ⟨rfl, hlast⟩ := List.append_inj' hreads rfl
      cases hlast
      rw [(read.unique read').1]
    | failed =>
      obtain ⟨-, hlast⟩ := List.append_inj' hreads rfl
      cases hlast
  | @failed before gathered token read cause =>
    generalize hreads : before ++ [Action.call (.describeStackEvents stack token) (.error cause)] =
      reads at h'
    cases h' with
    | complete =>
      obtain ⟨-, hlast⟩ := List.append_inj' hreads rfl
      cases hlast
    | failed =>
      obtain ⟨-, hlast⟩ := List.append_inj' hreads rfl
      cases hlast
      rfl

/-- A reading that ends a trace is the end of no longer one. -/
theorem HistoryRead.eq_nil_of_append {more : List Action} (h : HistoryRead stack reads read)
    (h' : HistoryRead stack (more ++ reads) other) : more = [] := by
  obtain ⟨a, rest, rfl, ha, -⟩ := h.first
  obtain ⟨b, others, hreads, -, hothers⟩ := h'.first
  cases more with
  | nil => rfl
  | cons c more =>
    obtain ⟨-, rfl⟩ := List.cons.inj hreads
    -- the first page would have been asked for in the middle
    have hmiddle := hothers a (List.mem_append_right _ List.mem_cons_self)
    exact absurd (hmiddle.symm.trans ha) nofun

/-- **What was read last** is read off the trace. -/
theorem ReadLast.unique (h : ReadLast stack trace read) (h' : ReadLast stack trace other) :
    read = other := by
  obtain ⟨earlier, reads, rfl, hread⟩ := h
  obtain ⟨earlier', reads', htrace, hread'⟩ := h'
  obtain ⟨more, -, rfl⟩ | ⟨more, -, rfl⟩ := List.append_eq_append_iff.mp htrace
  · obtain rfl := hread'.eq_nil_of_append hread
    exact hread.unique hread'
  · obtain rfl := hread.eq_nil_of_append hread'
    exact hread.unique hread'

end ReadLast

/-! ### When the change set was created -/

namespace Action

/-- The action makes or describes a change set. -/
def isOfChangeSet : Action → Bool
  | .call (.createChangeSet _) _ | .call (.describeChangeSet _ _) _ => true
  | _ => false

/-- What the action shows of a change set. -/
def description? (stack id : String) : Action → Option ChangeSet
  | .call (.describeChangeSet name other) (.ok changeSet) =>
    if name = stack ∧ other = id then some changeSet else none
  | _ => none

theorem accepted?_eq_none_of_not_isOfChangeSet {a : Action} (h : a.isOfChangeSet = false) :
    a.accepted? = none := by
  cases a with
  | write => rfl
  | call request reply => cases request <;> first | rfl | cases h

theorem description?_eq_none {a : Action} (h : a.isOfChangeSet = false) (stack id : String) :
    a.description? stack id = none := by
  cases a with
  | write => rfl
  | call request reply => cases request <;> first | rfl | cases h

/-- The feed and the painter have nothing to do with change sets. -/
theorem isOfChangeSet_eq_false_of_isProgress {a : Action} (h : a.isProgress) :
    a.isOfChangeSet = false := by
  cases a with
  | write => rfl
  | call request reply => cases request <;> first | rfl | cases h

end Action

/-- Reading pages has nothing to do with change sets. -/
theorem Gathered.isOfChangeSet_eq_false {stack : String} {reads : List Action}
    {gathered : List StackEvent} {token : Option String} (h : Gathered stack reads gathered token) :
    ∀ a ∈ reads, a.isOfChangeSet = false := by
  induction h with
  | start => exact fun _ ha => nomatch ha
  | page _ _ ih => exact List.forall_mem_append.mpr ⟨ih, by simp [Action.isOfChangeSet]⟩

theorem HistoryRead.isOfChangeSet_eq_false {stack : String} {reads : List Action}
    {read : Except ApiError (List StackEvent)} (h : HistoryRead stack reads read) :
    ∀ a ∈ reads, a.isOfChangeSet = false := by
  cases h with
  | complete read | failed read =>
    exact List.forall_mem_append.mpr
      ⟨read.isOfChangeSet_eq_false, by simp [Action.isOfChangeSet]⟩

theorem Fetch.HasRead.isOfChangeSet_eq_false {source : EventSource} {reads : List Action}
    {fetch : Fetch} (h : fetch.HasRead source reads) : ∀ a ∈ reads, a.isOfChangeSet = false := by
  cases fetch with
  | reading => exact h.2.isOfChangeSet_eq_false
  | «over» =>
    obtain ⟨read, hread, -⟩ := h
    exact hread.isOfChangeSet_eq_false

/-- The last description of a change set. -/
def lastDescribed? (stack id : String) (trace : List Action) : Option ChangeSet :=
  (trace.filterMap (Action.description? stack id)).getLast?

/-- The change set that was accepted last was **created at** this time, as its last description
says. -/
def CreatedAt (stack : String) (trace : List Action) (time : Instant) : Prop :=
  ∃ ref changeSet, lastAccepted? trace = some ref ∧
    lastDescribed? stack ref.id trace = some changeSet ∧ changeSet.creationTime = time

section CreatedAt

variable {stack : String} {trace actions : List Action} {time : Instant}

theorem CreatedAt.append (h : CreatedAt stack trace time)
    (hactions : ∀ a ∈ actions, a.isOfChangeSet = false) :
    CreatedAt stack (trace ++ actions) time := by
  obtain ⟨ref, changeSet, haccepted, hdescribed, htime⟩ := h
  have hnone : actions.filterMap (Action.description? stack ref.id) = [] :=
    List.filterMap_eq_nil_iff.mpr fun a ha => Action.description?_eq_none (hactions a ha) _ _
  refine ⟨ref, changeSet, ?_, ?_, htime⟩
  · rw [lastAccepted?_append_of_none fun a ha =>
      Action.accepted?_eq_none_of_not_isOfChangeSet (hactions a ha), haccepted]
  · rw [lastDescribed?, List.filterMap_append, hnone, List.append_nil]
    exact hdescribed

theorem createdAt_append_description {ref : ChangeSetRef} {changeSet : ChangeSet}
    (h : lastAccepted? trace = some ref) :
    CreatedAt stack (trace ++ [.call (.describeChangeSet stack ref.id) (.ok changeSet)])
      changeSet.creationTime := by
  refine ⟨ref, changeSet, ?_, ?_, rfl⟩
  · rw [lastAccepted?_append_of_none (by simp [Action.accepted?]), h]
  · simp [lastDescribed?, Action.description?]

/-- An accepted change set has one time of creation. -/
theorem CreatedAt.unique {other : Instant} (h : CreatedAt stack trace time)
    (h' : CreatedAt stack trace other) : time = other := by
  obtain ⟨ref, changeSet, haccepted, hdescribed, rfl⟩ := h
  obtain ⟨ref', changeSet', haccepted', hdescribed', rfl⟩ := h'
  obtain rfl := Option.some.inj (haccepted.symm.trans haccepted')
  rw [Option.some.inj (hdescribed.symm.trans hdescribed')]

end CreatedAt

/-! ### What each phase has of it -/

/-- The error says that the stack has failed. -/
def DeployError.isStackFailure : DeployError → Bool
  | stackFailed _ _ _ _ | stackFailedWithoutCause _ _ => true
  | _ => false

/-- The controller knows when its change set was created. -/
def Controller.IsDated (stack : String) (trace : List Action) (c : Controller) : Prop :=
  ∃ time, c.createdAt = some time ∧ CreatedAt stack trace time

/-- The events of the target are those of the stack, from the creation of the change set on. -/
structure Target.IsDated (stack : String) (trace : List Action) (target : Target) : Prop where
  key_eq : target.key = stack
  created : CreatedAt stack trace target.cutoff

/-- The fetch is the last that was done, and it reads the events of a dated target. -/
def Target.IsRead (stack : String) (trace : List Action) (target : Target) (fetch : Fetch) : Prop :=
  ∃ earlier reads, trace = earlier ++ reads ∧ target.IsDated stack earlier ∧
    fetch.HasRead (.start target.key target.cutoff) reads

theorem Target.IsDated.append {stack : String} {trace actions : List Action} {target : Target}
    (h : target.IsDated stack trace) (hactions : ∀ a ∈ actions, a.isOfChangeSet = false) :
    target.IsDated stack (trace ++ actions) :=
  ⟨h.key_eq, h.created.append hactions⟩

namespace Session

/-- The creation time of the change set is **kept** from its review until the failure of the stack
is explained. -/
def Phase.Dated (stack : String) (trace : List Action) : Phase → Prop
  | .reviewing _ review => ∀ changes, review.phase = .over (.ok (.changes changes)) →
      review.controller.IsDated stack trace
  | .announcing _ controller _ => controller.IsDated stack trace
  | .executing target _ _ | .watching target _ => target.IsDated stack trace
  | .stopping target ending =>
    target.IsDated stack trace ∧ ∀ e, ending = .failed e → e.isStackFailure = false
  | .tracing target _ fetch => target.IsRead stack trace fetch
  | .over outcome => ∀ e, outcome = .failed e → e.isStackFailure = true →
      ∃ target status result source, target.IsRead stack trace (.over result source) ∧
        e = failure target status result
  | _ => True

variable {request : DeployRequest} {s t : Session} {clock : Clock} {stack : String}
  {trace actions : List Action}

/-! ### Steps of the operation -/

/-- An operation that fails for another reason explains nothing. -/
theorem dated_fail (s : Session) {e : DeployError} (h : e.isStackFailure = false) :
    (s.fail e).phase.Dated stack trace := by
  rintro other ⟨⟩ hfailure
  exact absurd (h.symm.trans hfailure) nofun

theorem dated_submitted (s : Session) (order : DeployOrder) (controller : Controller)
    (type : ChangeSetType) (reply : Except ApiError ChangeSetRef) :
    (s.submitted order controller type reply).phase.Dated stack trace := by
  rw [submitted]
  split
  · rintro changes ⟨⟩
  · split
    · trivial
    · exact s.dated_fail rfl
  · exact s.dated_fail rfl

/-- The time is taken from the description that ends the review. -/
theorem dated_review {review review' : Review} (hphase : s.phase = .reviewing stack review)
    (hknown : Known request trace s) (leads : (review.step clock).Leads clock actions review')
    {changes : List Change} (hover : review'.phase = .over (.ok (.changes changes))) :
    review'.controller.IsDated request.stack (trace ++ actions) := by
  simp only [Known, hphase] at hknown
  obtain ⟨rfl, -, ref, -, hreview⟩ := hknown
  cases Review.steps_of_leads leads with
  | begin | ask | pause | wake => cases hover
  | @settle other began reply result controller hjudging hjudge =>
    cases hover
    rw [hjudging] at hreview
    -- the reply that is judged is that of the last action
    obtain ⟨rfl, before, rfl, haccepted⟩ := hreview
    obtain ⟨changeSet, rfl, hcreated⟩ := Controller.createdAt_of_judge_eq_over hjudge
    rw [List.append_nil]
    exact ⟨_, hcreated, createdAt_append_description haccepted⟩

theorem dated_reviewed {review : Review}
    {result : Except ChangeSetError ReviewOutcome × Controller}
    (hphase : s.phase = .reviewing stack review) (hknown : Known request trace s)
    (h : s.phase.Dated request.stack trace) (hover : review.step clock = .finish result) :
    (s.reviewed stack result).phase.Dated request.stack trace := by
  rw [hphase] at h
  simp only [Known, hphase] at hknown
  obtain ⟨rfl, -, ref, hdrives, -⟩ := hknown
  obtain ⟨result, controller⟩ := result
  obtain ⟨hresult, rfl⟩ := Review.phase_of_step_eq_finish hdrives.changeSet_eq hover
  rcases result with e | _ | changes
  · exact s.dated_fail rfl
  · rintro e ⟨⟩
  · exact h changes hresult

theorem dated_announced (s : Session) {controller : Controller} (written : Written)
    (h : controller.IsDated stack trace) :
    (s.announced clock stack controller written).phase.Dated stack trace := by
  obtain ⟨time, hcreated, htime⟩ := h
  rw [announced.eq_def]
  split
  · exact s.dated_fail rfl
  · split
    · exact s.dated_fail rfl
    · refine ⟨rfl, ?_⟩
      simp only [hcreated, Option.getD_some]
      exact htime

theorem dated_executed (s : Session) {target : Target} (controller : Controller)
    (ref : ChangeSetRef) (reply : Except ApiError Unit) (h : target.IsDated stack trace) :
    (s.executed target controller ref reply).phase.Dated stack trace := by
  rw [executed]
  split
  · exact h
  · refine ⟨h, ?_⟩
    rintro e ⟨⟩
    rfl

theorem dated_watched (s : Session) {target : Target} (watched : Watched)
    (h : target.IsDated stack trace) : (s.watched target watched).phase.Dated stack trace := by
  cases watched with
  | terminal | gone => exact ⟨h, fun e he => nomatch he⟩
  | failed | timedOut =>
    refine ⟨h, ?_⟩
    rintro e ⟨⟩
    rfl

/-- The history is read only after the other actors have ended. -/
theorem dated_stopped (s : Session) {target : Target} {ending : Ending}
    (h : target.IsDated stack trace)
    (hending : ∀ e, ending = .failed e → e.isStackFailure = false) :
    (s.stopped target ending).phase.Dated stack trace := by
  have traced (status : StackStatus) : (s.trace target status).phase.Dated stack trace :=
    ⟨trace, [], (List.append_nil _).symm, h, rfl, .start⟩
  rw [stopped.eq_def]
  split
  · exact s.dated_fail (hending _ rfl)
  · split
    · exact s.dated_fail rfl
    · rintro e ⟨⟩
  · split
    · split
      · rintro e ⟨⟩
      · exact traced _
    · split
      · rintro e ⟨⟩
      · exact traced _

/-- The operation keeps the time. -/
theorem Phase.Dated.operation (h : s.phase.Dated request.stack trace)
    (hknown : Known request trace s) (steps : s.Steps clock actions t) :
    t.phase.Dated request.stack (trace ++ actions) := by
  cases steps with
  | submit | submitUpdate => exact s.dated_submitted _ _ _ _
  | review hphase leads => exact fun changes hover => dated_review hphase hknown leads hover
  | reviewed hphase hover =>
    rw [List.append_nil]
    exact dated_reviewed hphase hknown h hover
  | announce hphase written =>
    rw [hphase] at h
    simp only [Known, hphase] at hknown
    obtain ⟨rfl, -⟩ := hknown
    obtain ⟨time, hcreated, htime⟩ := h
    exact s.dated_announced written ⟨time, hcreated, htime.append (by simp [Action.isOfChangeSet])⟩
  | execute hphase reply =>
    rw [hphase] at h
    exact s.dated_executed _ _ _ (Target.IsDated.append h (by simp [Action.isOfChangeSet]))
  | watch hphase leads =>
    rw [hphase] at h
    refine Target.IsDated.append h fun a ha => ?_
    obtain ⟨_, _, rfl⟩ := Watch.describes_of_leads leads a ha
    rfl
  | watched hphase =>
    rw [hphase] at h
    rw [List.append_nil]
    exact s.dated_watched _ h
  | stopped hphase =>
    rw [hphase] at h
    rw [List.append_nil]
    exact s.dated_stopped h.1 h.2
  | read hphase reply =>
    rw [hphase] at h
    obtain ⟨earlier, reads, rfl, hdated, rfl, hread⟩ := h
    exact ⟨earlier, _, List.append_assoc _ _ _, hdated, Fetch.HasRead.take hread reply⟩
  | explain hphase =>
    rw [hphase] at h
    rw [List.append_nil]
    rintro e ⟨⟩ -
    exact ⟨_, _, _, _, h, rfl⟩
  | look hphase | date hphase | delete hphase | follow hphase => simp only [Known, hphase] at hknown

/-- What the others do while the operation is under way has nothing to do with the change set. -/
theorem Phase.Dated.aside {phase : Phase} (h : phase.Dated stack trace)
    (hstage : phase.stage = .late ∨ phase.stage = .stopping)
    (hactions : ∀ a ∈ actions, a.isProgress) : phase.Dated stack (trace ++ actions) := by
  have hother (a : Action) (ha : a ∈ actions) : a.isOfChangeSet = false :=
    Action.isOfChangeSet_eq_false_of_isProgress (hactions a ha)
  cases phase with
  | executing | watching => exact Target.IsDated.append h hother
  | stopping => exact ⟨h.1.append hother, h.2⟩
  | _ => exact absurd hstage (by simp [Phase.stage])

/-- **Step lemma.** Every move of a deployment keeps the time. -/
theorem Phase.Dated.move (h : s.phase.Dated request.stack trace) (hknown : Known request trace s)
    (hstaged : s.Staged) (moves : s.Moves actions t) :
    t.phase.Dated request.stack (trace ++ actions) := by
  cases moves with
  | cancel => rwa [List.append_nil]
  | @step clock actor _ _ leads =>
    by_cases hactor : actor = .operation
    · subst hactor
      exact h.operation hknown (steps_of_leads leads)
    · obtain hlate | hstopping | hfollowing := hstaged.stage_of_leads hactor leads
      · obtain ⟨p, p', -, rfl, hprogress⟩ := progress_of_leads hactor leads
        exact h.aside (.inl hlate) hprogress
      · obtain ⟨p, p', -, rfl, hprogress⟩ := progress_of_leads hactor leads
        exact h.aside (.inr hstopping) hprogress
      · -- a deployment does not follow the events of a stack
        cases hphase : s.phase with
        | following => simp only [Known, hphase] at hknown
        | _ =>
          rw [hphase] at hfollowing
          cases hfollowing

/-! ### Every run -/

variable {settings : SessionSettings} {rendered : Except String String} {name updateName : String}

/-- **Run lemma.** Every run of a deployment keeps the time. -/
theorem dated_of_runs (run : (deploy settings request rendered name updateName).Runs trace s) :
    s.phase.Dated request.stack trace := by
  have hstart : (deploy settings request rendered name updateName).phase.Dated request.stack
      [] := by
    cases rendered with
    | ok body => trivial
    | error message =>
      exact (deploy settings request (.error message) name updateName).dated_fail rfl
  induction run with
  | start => exact hstart
  | move run moves ih =>
    exact ih.move (known_of_runs run).1 ((staged_deploy _ _ _ _ _).runs run) moves

/-- **What explains the failure of a stack.** A deployment that ends because its stack has failed
names that stack and has read its history last of all, and its error is what that history makes of
it. -/
theorem exists_reading (run : (deploy settings request rendered name updateName).Runs trace s)
    {e : DeployError} {key : String} {status : StackStatus} (hover : s.phase = .over (.failed e))
    (he : e.withoutCause = .stackFailedWithoutCause key status) :
    key = request.stack ∧ ∃ target read, target.IsDated request.stack trace ∧
      ReadLast request.stack trace read ∧
      e = failure target status ((EventSource.start request.stack target.cutoff).fetched read) := by
  have hfailure : e.isStackFailure = true := by
    cases e with
    | stackFailed | stackFailedWithoutCause => rfl
    | _ => cases he
  have hdated := dated_of_runs run
  rw [hover] at hdated
  obtain ⟨target, other, result, source, ⟨earlier, reads, rfl, htarget, read, hread, hresult⟩,
    rfl⟩ := hdated e rfl hfailure
  -- the error tells the status and the stack of the target
  rw [withoutCause_failure] at he
  obtain ⟨rfl, rfl⟩ := DeployError.stackFailedWithoutCause.inj he
  rw [htarget.key_eq] at hread hresult
  exact ⟨htarget.key_eq, target, read, htarget.append hread.isOfChangeSet_eq_false,
    ⟨earlier, reads, rfl, hread⟩, by rw [hresult]⟩

end Session

end StackDeploy
