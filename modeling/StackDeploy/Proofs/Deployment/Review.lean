import Mathlib.Data.List.Induction
import StackDeploy.Proofs.ChangeSet.Controller
import StackDeploy.Proofs.Deployment.Operation
import StackDeploy.Proofs.Progress.Proposal

/-!
# Review before execution

A deployment applies nothing that was not shown before. Whatever the service replies, whatever
becomes of the writes and in whatever order the actors take their steps, the change set is executed
at most once, and only after it was described as executable and all its changes were written.

* `Reviewed` — what the trace of a run has to hold before a change set may be executed.
* `Permitted` — what an action of a deployment needs from the actions before it.
* `Known` — what is known of a deployment in each of its phases; `Known.move` is the step lemma.
-/

namespace StackDeploy

/-! ### Reading a trace -/

namespace Action

/-- The change set that an accepted submission has made. -/
def accepted? : Action → Option ChangeSetRef
  | .call (.createChangeSet _) (.ok ref) => some ref
  | _ => none

/-- The action asks for the execution of a change set. -/
def isExecution : Action → Bool
  | .call (.executeChangeSet _ _) _ => true
  | _ => false

/-- The action belongs to the time after the review: an execution, a look at the stack, or a look at
its events. -/
def followsReview : Action → Bool
  | .call (.executeChangeSet _ _) _ | .call (.describeStack _) _
  | .call (.describeStackEvents _ _) _ => true
  | _ => false

end Action

/-- The change set that the last accepted submission has made. -/
def lastAccepted? (trace : List Action) : Option ChangeSetRef :=
  (trace.filterMap Action.accepted?).getLast?

/-- A change set was **described** as executable after its submission was accepted, with these
changes. -/
def Described (stack : String) (ref : ChangeSetRef) (changes : List Change)
    (trace : List Action) : Prop :=
  ∃ changeSet before after,
    trace = before ++ .call (.describeChangeSet stack ref.id) (.ok changeSet) :: after ∧
      changeSet.status.isComputing = false ∧ changeSet.executionStatus ≠ .unavailable ∧
      changeSet.changes = changes ∧ lastAccepted? before = some ref

/-- A change set was **reviewed**: it was described as executable after its submission was accepted,
and then a text that lists all changes of that description was written and flushed. -/
def Reviewed (stack : String) (ref : ChangeSetRef) (trace : List Action) : Prop :=
  ∃ changes text before after, Described stack ref changes before ∧
    ListsChanges stack changes text ∧ trace = before ++ .write text (.ok ()) :: after

/-- The change set that was accepted last was reviewed. -/
def Approved (stack : String) (ref : ChangeSetRef) (trace : List Action) : Prop :=
  lastAccepted? trace = some ref ∧ Reviewed stack ref trace

/-- An execution was accepted. -/
def ExecutionAccepted (trace : List Action) : Prop :=
  ∃ stack id, .call (.executeChangeSet stack id) (.ok ()) ∈ trace

theorem Action.isExecution_eq_false {a : Action} (h : a.followsReview = false) :
    a.isExecution = false := by
  cases a with
  | write text result => rfl
  | call request reply => cases request <;> first | rfl | exact h

theorem lastAccepted?_append_of_none {trace actions : List Action}
    (h : ∀ a ∈ actions, a.accepted? = none) :
    lastAccepted? (trace ++ actions) = lastAccepted? trace := by
  have hnil : actions.filterMap Action.accepted? = [] := by
    simpa [List.filterMap_eq_nil_iff] using h
  rw [lastAccepted?, List.filterMap_append, hnil, List.append_nil, lastAccepted?]

theorem Described.append {stack : String} {ref : ChangeSetRef} {changes : List Change}
    {trace : List Action} (h : Described stack ref changes trace) (actions : List Action) :
    Described stack ref changes (trace ++ actions) := by
  obtain ⟨changeSet, before, after, rfl, hdescribed⟩ := h
  exact ⟨changeSet, before, after ++ actions, by simp, hdescribed⟩

theorem Reviewed.append {stack : String} {ref : ChangeSetRef} {trace : List Action}
    (h : Reviewed stack ref trace) (actions : List Action) :
    Reviewed stack ref (trace ++ actions) := by
  obtain ⟨changes, text, before, after, hdescribed, hlists, rfl⟩ := h
  exact ⟨changes, text, before, after ++ actions, hdescribed, hlists, by simp⟩

theorem Approved.append {stack : String} {ref : ChangeSetRef} {trace actions : List Action}
    (h : Approved stack ref trace) (hactions : ∀ a ∈ actions, a.accepted? = none) :
    Approved stack ref (trace ++ actions) :=
  ⟨(lastAccepted?_append_of_none hactions).trans h.1, h.2.append actions⟩

theorem ExecutionAccepted.append {trace : List Action} (h : ExecutionAccepted trace)
    (actions : List Action) : ExecutionAccepted (trace ++ actions) := by
  obtain ⟨stack, id, hmem⟩ := h
  exact ⟨stack, id, List.mem_append_left _ hmem⟩

/-! ### What is known in each phase -/

/-- How an operation can end without anything having been applied: there was nothing to apply, or
the template, the submission, the review or the writing of the changes failed. -/
def Outcome.precedesExecution : Outcome → Bool
  | .noChanges => true
  | .failed (.render _ _) | .failed (.output _) => true
  | .failed (.changeSet (.executeFailed _ _ _)) => false
  | .failed (.changeSet _) => true
  | _ => false

/-- What an action of a deployment **needs** from the actions before it. An execution has to be the
first one and to name the approved change set of the stack; events are asked for only when a change
set is approved, and the stack is described only when an execution was accepted. -/
def Permitted (stack : String) (before : List Action) : Action → Prop
  | .call (.executeChangeSet target id) _ =>
    (∀ a ∈ before, a.isExecution = false) ∧ target = stack ∧
      ∃ ref, ref.id = id ∧ Approved stack ref before
  | .call (.describeStackEvents _ _) _ => ∃ ref, Approved stack ref before
  | .call (.describeStack _) _ => ExecutionAccepted before
  | _ => True

/-- The review has not come to an end: nothing that follows it was done, and the feed and the
painter are not started. -/
def Unreviewed (trace : List Action) (s : Session) : Prop :=
  s.progress = none ∧ ∀ a ∈ trace, a.followsReview = false

/-- A controller **drives** the change set of a stack that was accepted last. -/
structure Drives (stack : String) (ref : ChangeSetRef) (trace : List Action) (c : Controller) :
    Prop where
  stack_eq : c.stack = stack
  changeSet_eq : c.changeSet = some ref
  accepted : lastAccepted? trace = some ref

/-- What is known in each phase of a review. -/
def KnownReview (stack : String) (ref : ChangeSetRef) (trace : List Action) :
    Review.Phase → Prop
  | .waiting => True
  | .asking other _ | .pausing other _ _ => other = ref
  | .judging other _ reply =>
    other = ref ∧ ∃ before,
      trace = before ++ [.call (.describeChangeSet stack ref.id) reply] ∧
        lastAccepted? before = some ref
  | .over result =>
    (∀ changes, result = .ok (.changes changes) → Described stack ref changes trace) ∧
      ∀ e, result = .error e → (Outcome.failed (.changeSet e)).precedesExecution

/-- **What is known** of a deployment after the actions of a trace. -/
def Known (request : DeployRequest) (trace : List Action) (s : Session) : Prop :=
  match s.phase with
  | .submitting order _ | .submittingUpdate order _ => order.request = request ∧ Unreviewed trace s
  | .reviewing stack review =>
    stack = request.stack ∧ Unreviewed trace s ∧
      ∃ ref, Drives stack ref trace review.controller ∧ KnownReview stack ref trace review.phase
  | .announcing stack controller changes =>
    stack = request.stack ∧ Unreviewed trace s ∧
      ∃ ref, Drives stack ref trace controller ∧ Described stack ref changes trace
  | .executing _ controller ref =>
    controller.stack = request.stack ∧ Approved request.stack ref trace ∧
      ∀ a ∈ trace, a.isExecution = false
  | .watching _ _ => (∃ ref, Approved request.stack ref trace) ∧ ExecutionAccepted trace
  | .stopping _ ending =>
    (∃ ref, Approved request.stack ref trace) ∧
      ∀ e, ending = .failed e → (Outcome.failed e).precedesExecution = false
  | .tracing _ _ _ => ∃ ref, Approved request.stack ref trace
  | .over outcome =>
    if outcome.precedesExecution then Unreviewed trace s
    else ∃ ref, Approved request.stack ref trace
  | .looking _ | .deleting _ _ | .deletionAccepted _ _ _ | .following => False

variable {request : DeployRequest} {trace actions : List Action} {s t : Session}

theorem Unreviewed.append (h : Unreviewed trace s) (hprogress : t.progress = s.progress)
    (hactions : ∀ a ∈ actions, a.followsReview = false) : Unreviewed (trace ++ actions) t := by
  refine ⟨hprogress.trans h.1, fun a ha => ?_⟩
  rcases List.mem_append.mp ha with hmem | hmem
  · exact h.2 a hmem
  · exact hactions a hmem

theorem Drives.append {stack : String} {ref : ChangeSetRef} {c c' : Controller}
    (h : Drives stack ref trace c) (hstack : c'.stack = c.stack)
    (hchangeSet : c'.changeSet = c.changeSet) (hactions : ∀ a ∈ actions, a.accepted? = none) :
    Drives stack ref (trace ++ actions) c' :=
  ⟨hstack.trans h.stack_eq, hchangeSet.trans h.changeSet_eq,
    (lastAccepted?_append_of_none hactions).trans h.accepted⟩

/-! ### Steps of the operation -/

/-- The next actions are permitted, and what is known of the session that they lead to holds. -/
def Keeps (request : DeployRequest) (trace actions : List Action) (t : Session) : Prop :=
  (∀ a ∈ actions, Permitted request.stack trace a) ∧ Known request (trace ++ actions) t

/-- A reply to a submission leads to the review of the accepted change set, to the submission of an
update, or to an error. -/
theorem Keeps.submitted {order : DeployOrder} {input : ChangeSetInput} (controller : Controller)
    (type : ChangeSetType) (reply : Except ApiError ChangeSetRef) (horder : order.request = request)
    (h : Unreviewed trace s) :
    Keeps request trace [.call (.createChangeSet input) reply]
      (s.submitted order controller type reply) := by
  have hfresh {t : Session} (ht : t.progress = s.progress) :
      Unreviewed (trace ++ [.call (.createChangeSet input) reply]) t :=
    h.append ht (by simp [Action.followsReview])
  refine ⟨by simp [Permitted], ?_⟩
  rcases controller.submitted_cases order.request.stack type reply with
    ⟨ref, rfl, hsubmitted⟩ | ⟨subject, rfl, rfl, hsubmitted⟩ | ⟨cause, rfl, hsubmitted⟩
  · simp only [Session.submitted, hsubmitted]
    refine ⟨by rw [horder], hfresh rfl, ref, ⟨rfl, rfl, ?_⟩, trivial⟩
    simp [lastAccepted?, Action.accepted?]
  · simp only [Session.submitted, hsubmitted]
    exact ⟨horder, hfresh rfl⟩
  · simp only [Session.submitted, hsubmitted]
    exact hfresh rfl

/-- One step of a review keeps what is known of it. -/
theorem KnownReview.step {clock : Clock} {stack : String} {ref : ChangeSetRef}
    {review review' : Review} (hdrives : Drives stack ref trace review.controller)
    (hknown : KnownReview stack ref trace review.phase)
    (h : (review.step clock).Leads clock actions review') :
    (∀ a ∈ actions, a.followsReview = false) ∧ (∀ a ∈ actions, Permitted stack trace a) ∧
      Drives stack ref (trace ++ actions) review'.controller ∧
      KnownReview stack ref (trace ++ actions) review'.phase := by
  cases Review.steps_of_leads h with
  | begin hphase hsubmitted =>
    obtain rfl : ref = _ := Option.some.inj (hdrives.changeSet_eq.symm.trans hsubmitted)
    exact ⟨by simp, by simp, hdrives.append rfl rfl (by simp), rfl⟩
  | ask hphase reply =>
    rw [hphase] at hknown
    obtain rfl : _ = ref := hknown
    refine ⟨by simp [Action.followsReview], by simp [Permitted],
      hdrives.append rfl rfl (by simp [Action.accepted?]), rfl, trace, ?_, hdrives.accepted⟩
    rw [hdrives.stack_eq]
  | pause hphase =>
    rw [hphase] at hknown
    exact ⟨by simp, by simp, hdrives.append rfl rfl (by simp), hknown.1⟩
  | @settle other began reply result controller hphase hjudge =>
    rw [hphase] at hknown
    -- the reply that is judged is that of the last action
    obtain ⟨rfl, before, rfl, hbefore⟩ := hknown
    obtain ⟨hstack, hchangeSet⟩ := Controller.keeps_of_judge_eq_over hjudge
    refine ⟨by simp, by simp, hdrives.append hstack hchangeSet (by simp), ?_, ?_⟩
    · rintro changes rfl
      obtain ⟨changeSet, rfl, hcomputed, havailable, hchanges⟩ :=
        Controller.changes_of_judge_eq_over hjudge
      exact ⟨changeSet, before, [], by simp, hcomputed, havailable, hchanges, hbefore⟩
    · rintro e rfl
      have hne := Controller.ne_executeFailed_of_judge_eq_over hjudge
      cases e with
      | executeFailed id stack cause => exact absurd rfl (hne id stack cause)
      | _ => rfl
  | wake hphase =>
    rw [hphase] at hknown
    exact ⟨by simp, by simp, hdrives.append rfl rfl (by simp), hknown⟩

theorem Keeps.review {clock : Clock} {stack : String} {review review' : Review}
    (hphase : s.phase = .reviewing stack review) (h : Known request trace s)
    (hstep : (review.step clock).Leads clock actions review') :
    Keeps request trace actions { s with phase := .reviewing stack review' } := by
  simp only [Known, hphase] at h
  obtain ⟨rfl, hfresh, ref, hdrives, hknown⟩ := h
  obtain ⟨hquiet, hpermitted, hdrives', hknown'⟩ := hknown.step hdrives hstep
  exact ⟨hpermitted, rfl, hfresh.append rfl hquiet, ref, hdrives', hknown'⟩

/-- A review that is over has found changes, or none, or has failed. -/
theorem Keeps.reviewed {clock : Clock} {stack : String} {review : Review}
    {result : Except ChangeSetError ReviewOutcome × Controller}
    (hphase : s.phase = .reviewing stack review) (h : Known request trace s)
    (hover : review.step clock = .finish result) :
    Keeps request trace [] (s.reviewed stack result) := by
  simp only [Known, hphase] at h
  obtain ⟨rfl, hfresh, ref, hdrives, hknown⟩ := h
  obtain ⟨result, controller⟩ := result
  obtain ⟨hresult, rfl⟩ := Review.phase_of_step_eq_finish hdrives.changeSet_eq hover
  rw [hresult] at hknown
  refine ⟨by simp, ?_⟩
  rw [List.append_nil]
  match result with
  | .ok .noChanges => exact hfresh
  | .ok (.changes changes) => exact ⟨rfl, hfresh, ref, hdrives, hknown.1 changes rfl⟩
  | .error e =>
    simp only [Known, Session.reviewed, Session.fail, hknown.2 e rfl, if_true]
    exact hfresh

/-- The changes are written, and then the change set is approved and the other actors are started;
or they could not be written. -/
theorem Keeps.announced (clock : Clock) {stack : String} {controller : Controller}
    {changes : List Change} (hphase : s.phase = .announcing stack controller changes)
    (h : Known request trace s) (written : Written) :
    Keeps request trace [.write (proposal stack changes) written]
      (s.announced clock stack controller written) := by
  simp only [Known, hphase] at h
  obtain ⟨rfl, hfresh, ref, hdrives, hdescribed⟩ := h
  refine ⟨by simp [Permitted], ?_⟩
  have hquiet : Unreviewed (trace ++ [.write (proposal request.stack changes) written]) s :=
    hfresh.append rfl (by simp [Action.followsReview])
  cases written with
  | error message => exact hquiet
  | ok =>
    have hkept : lastAccepted? (trace ++ [.write (proposal request.stack changes) (.ok ())]) =
        lastAccepted? trace := lastAccepted?_append_of_none (by simp [Action.accepted?])
    have haccepted := hkept.trans hdrives.accepted
    have hlists := listsChanges_iff.mpr (Eq.refl (proposal request.stack changes))
    -- the description lies before the write, and no action after the submission follows a review
    simp only [Session.announced, hdrives.changeSet_eq]
    exact ⟨hdrives.stack_eq, ⟨haccepted, changes, _, trace, [], hdescribed, hlists, rfl⟩,
      fun a ha => Action.isExecution_eq_false (hquiet.2 a ha)⟩

/-- The approved change set is executed: the watch begins, or the other actors are stopped. -/
theorem Keeps.executed {target : Target} {controller : Controller} {ref : ChangeSetRef}
    (hphase : s.phase = .executing target controller ref) (h : Known request trace s)
    (reply : Except ApiError Unit) :
    Keeps request trace [.call (.executeChangeSet controller.stack ref.id) reply]
      (s.executed target controller ref reply) := by
  simp only [Known, hphase] at h
  obtain ⟨hstack, happroved, hfirst⟩ := h
  have hnone : ∀ a ∈ [Action.call (.executeChangeSet controller.stack ref.id) reply],
      a.accepted? = none := by simp [Action.accepted?]
  have happroved' := happroved.append hnone
  refine ⟨by simpa [Permitted, hstack] using ⟨hfirst, ref, rfl, happroved⟩, ?_⟩
  cases reply with
  | ok => exact ⟨⟨ref, happroved'⟩, controller.stack, ref.id, by simp⟩
  | error cause =>
    refine ⟨⟨ref, happroved'⟩, ?_⟩
    rintro e ⟨rfl⟩
    rfl

/-- The stack is described until the watch is over. -/
theorem Keeps.watch {clock : Clock} {target : Target} {w w' : Watch}
    (hphase : s.phase = .watching target w) (h : Known request trace s)
    (hstep : (w.step clock).Leads clock actions w') :
    Keeps request trace actions { s with phase := .watching target w' } := by
  simp only [Known, hphase] at h
  obtain ⟨⟨ref, happroved⟩, haccepted⟩ := h
  have hdescribes := Watch.describes_of_leads hstep
  refine ⟨fun a ha => ?_, ⟨ref, happroved.append fun a ha => ?_⟩, haccepted.append actions⟩
  · obtain ⟨stack, reply, rfl⟩ := hdescribes a ha
    exact haccepted
  · obtain ⟨stack, reply, rfl⟩ := hdescribes a ha
    rfl

theorem Keeps.watched {target : Target} {w : Watch} (hphase : s.phase = .watching target w)
    (h : Known request trace s) (watched : Watched) :
    Keeps request trace [] (s.watched target watched) := by
  simp only [Known, hphase] at h
  obtain ⟨happroved, -⟩ := h
  refine ⟨by simp, ?_⟩
  rw [List.append_nil]
  refine match watched with
    | .terminal _ | .gone => ⟨happroved, by rintro e ⟨⟩⟩
    | .failed _ | .timedOut => ⟨happroved, ?_⟩
  all_goals
    rintro e ⟨rfl⟩
    rfl

/-- When the other actors have ended, the operation is over or the cause of a failure is looked
for. -/
theorem Keeps.stopped {target : Target} {ending : Ending}
    (hphase : s.phase = .stopping target ending) (h : Known request trace s) :
    Keeps request trace [] (s.stopped target ending) := by
  simp only [Known, hphase] at h
  obtain ⟨happroved, hending⟩ := h
  refine ⟨by simp, ?_⟩
  rw [List.append_nil]
  cases ending with
  | failed e =>
    simp only [Known, Session.stopped, Session.fail, hending e rfl]
    exact happroved
  | gone =>
    simp only [Session.stopped]
    split <;> exact happroved
  | terminal stack =>
    simp only [Session.stopped]
    split <;> split <;> exact happroved

/-- The cause of a failure is looked for among the events of the stack. -/
theorem Keeps.read {target : Target} {status : StackStatus} {fetch fetch' : Fetch}
    (hphase : s.phase = .tracing target status fetch) (h : Known request trace s) (stack : String)
    (token : Option String) (reply : Except ApiError EventPage) :
    Keeps request trace [.call (.describeStackEvents stack token) reply]
      { s with phase := .tracing target status fetch' } := by
  simp only [Known, hphase] at h
  obtain ⟨ref, happroved⟩ := h
  exact ⟨by simpa [Permitted] using ⟨ref, happroved⟩, ref,
    happroved.append (by simp [Action.accepted?])⟩

theorem Keeps.explained {target : Target} {status : StackStatus} {fetch : Fetch}
    (hphase : s.phase = .tracing target status fetch) (h : Known request trace s)
    (result : Except FetchError (List StackEvent)) :
    Keeps request trace [] (s.fail (Session.failure target status result)) := by
  simp only [Known, hphase] at h
  have hlate : (Outcome.failed (Session.failure target status result)).precedesExecution =
      false := by
    unfold Session.failure
    split
    · rfl
    · split <;> rfl
  refine ⟨by simp, ?_⟩
  rw [List.append_nil]
  simp only [Known, Session.fail, hlate]
  exact h

/-! ### The step lemma -/

theorem Action.accepted?_eq_none {a : Action} (h : a.isProgress) : a.accepted? = none := by
  cases a with
  | write text result => rfl
  | call request reply => cases request <;> first | rfl | cases h

theorem Action.isExecution_eq_false_of_isProgress {a : Action} (h : a.isProgress) :
    a.isExecution = false := by
  cases a with
  | write text result => rfl
  | call request reply => cases request <;> first | rfl | cases h

/-- The feed and the painter are there only when a change set was approved. -/
theorem Known.approved (h : Known request trace s) (hp : s.progress ≠ none) :
    ∃ ref, Approved request.stack ref trace := by
  unfold Known at h
  split at h
  · exact absurd h.2.1 hp
  · exact absurd h.2.1 hp
  · exact absurd h.2.1.1 hp
  · exact absurd h.2.1.1 hp
  · exact ⟨_, h.2.1⟩
  · exact h.1
  · exact h.1
  · exact h
  · split at h
    · exact absurd h.1 hp
    · exact h
  all_goals exact h.elim

/-- What the feed and the painter do, and a cancellation, is permitted and changes nothing of what
is known. -/
theorem Keeps.progress (h : Known request trace s) (hp : s.progress ≠ none)
    (hactions : ∀ a ∈ actions, a.isProgress) (p' : Option Progress) :
    Keeps request trace actions { s with progress := p' } := by
  have hunaccepted (a : Action) (ha : a ∈ actions) : a.accepted? = none :=
    Action.accepted?_eq_none (hactions a ha)
  obtain ⟨ref, happroved⟩ := h.approved hp
  refine ⟨fun a ha => ?_, ?_⟩
  · have ha := hactions a ha
    unfold Permitted
    split
    · cases ha
    · exact ⟨ref, happroved⟩
    · cases ha
    · trivial
  · have happroved' : ∃ ref, Approved request.stack ref (trace ++ actions) :=
      ⟨ref, happroved.append hunaccepted⟩
    -- before the review is over there is no progress; afterwards every fact of a phase is kept
    unfold Known at h ⊢
    split at h
    next hphase => exact absurd h.2.1 hp
    next hphase => exact absurd h.2.1 hp
    next hphase => exact absurd h.2.1.1 hp
    next hphase => exact absurd h.2.1.1 hp
    next target controller ref' hphase =>
      simp only [hphase]
      refine ⟨h.1, h.2.1.append hunaccepted, fun a ha => ?_⟩
      rcases List.mem_append.mp ha with ha | ha
      · exact h.2.2 a ha
      · exact Action.isExecution_eq_false_of_isProgress (hactions a ha)
    next hphase =>
      simp only [hphase]
      exact ⟨happroved', h.2.append actions⟩
    next hphase =>
      simp only [hphase]
      exact ⟨happroved', h.2⟩
    next hphase =>
      simp only [hphase]
      exact happroved'
    next outcome hphase =>
      simp only [hphase]
      split at h
      · exact absurd h.1 hp
      · rw [if_neg ‹_›]
        exact happroved'
    all_goals exact h.elim

/-- What the operation of a deployment does is permitted, and what is known of it stays true. -/
theorem Known.step {clock : Clock} (h : Known request trace s) (steps : s.Steps clock actions t) :
    Keeps request trace actions t := by
  cases steps with
  | submit hphase reply =>
    simp only [Known, hphase] at h
    exact Keeps.submitted _ _ reply h.1 h.2
  | submitUpdate hphase reply =>
    simp only [Known, hphase] at h
    exact Keeps.submitted _ _ reply h.1 h.2
  | review hphase hstep => exact Keeps.review hphase h hstep
  | reviewed hphase hover => exact Keeps.reviewed hphase h hover
  | announce hphase written => exact Keeps.announced clock hphase h written
  | execute hphase reply => exact Keeps.executed hphase h reply
  | watch hphase hstep => exact Keeps.watch hphase h hstep
  | watched hphase => exact Keeps.watched hphase h _
  | stopped hphase => exact Keeps.stopped hphase h
  | read hphase reply => exact Keeps.read hphase h _ _ reply
  | explain hphase => exact Keeps.explained hphase h _
  | look hphase | date hphase | delete hphase | follow hphase => simp only [Known, hphase] at h

/-- **Step lemma.** Every move of a deployment is permitted, and what is known of it stays true. -/
theorem Known.move (h : Known request trace s) (hmoves : s.Moves actions t) :
    Keeps request trace actions t := by
  cases hmoves with
  | cancel =>
    cases hp : s.progress with
    | none =>
      -- nothing is running that could be cancelled
      have hcancel : s.cancel = s := by
        rw [Session.cancel, hp, Option.map_none, ← hp]
      exact ⟨by simp, by rwa [hcancel, List.append_nil]⟩
    | some p => exact Keeps.progress h (by simp [hp]) (by simp) _
  | @step clock actor _ _ hleads =>
    by_cases hactor : actor = .operation
    · subst hactor
      exact h.step (Session.steps_of_leads hleads)
    · obtain ⟨p, p', hp, rfl, hprogress⟩ := Session.progress_of_leads hactor hleads
      exact Keeps.progress h (by simp [hp]) hprogress _

/-! ### Every run -/

variable {settings : SessionSettings} {rendered : Except String String} {name updateName : String}

/-- After every run of a deployment what is known of its phase holds, and each of its actions was
permitted by the ones before it. -/
theorem known_of_runs
    (run : (Session.deploy settings request rendered name updateName).Runs trace s) :
    Known request trace s ∧ Obeys (Permitted request.stack) trace := by
  refine run.induct
    (P := fun trace s => Known request trace s ∧ Obeys (Permitted request.stack) trace)
    ⟨?_, obeys_nil _⟩ ?_
  · cases rendered with
    | ok body => exact ⟨rfl, rfl, by simp⟩
    | error message => exact ⟨rfl, by simp⟩
  · rintro trace s actions t ⟨hknown, hobeys⟩ hmoves
    obtain ⟨hpermitted, hknown'⟩ := hknown.move hmoves
    exact ⟨hknown', hmoves.obeys hobeys hpermitted⟩

/-- An execution is permitted only once. -/
theorem countP_isExecution_le_one {stack : String} (h : Obeys (Permitted stack) trace) :
    trace.countP Action.isExecution ≤ 1 := by
  induction trace using List.reverseRecOn with
  | nil => simp
  | append_singleton trace a ih =>
    obtain ⟨hobeys, ha⟩ := obeys_append_singleton.mp h
    have hle := ih hobeys
    cases hexec : a.isExecution with
    | false => simpa [List.countP_append, hexec] using hle
    | true =>
      -- an execution is permitted only when there was none before it
      have hnone : trace.countP Action.isExecution = 0 := by
        rw [List.countP_eq_zero]
        intro b hb
        unfold Action.isExecution at hexec
        split at hexec
        · simp [ha.1 b hb]
        · cases hexec
      simp [List.countP_append, hnone, hexec]

/-- A deployment whose template could not be rendered is over with that error, and does nothing. -/
theorem over_of_render_error {message : String}
    (run : (Session.deploy settings request (.error message) name updateName).Runs trace s) :
    trace = [] ∧ s.phase = .over (.failed (.render request.template message)) := by
  -- without a feed and a painter, only the operation could move, and it is over
  suffices h : trace = [] ∧ s.progress = none ∧
      s.phase = .over (.failed (.render request.template message)) from ⟨h.1, h.2.2⟩
  refine run.induct (P := fun trace s => trace = [] ∧ s.progress = none ∧
    s.phase = .over (.failed (.render request.template message))) ⟨rfl, rfl, rfl⟩ ?_
  rintro trace s actions t ⟨rfl, hprogress, hphase⟩ hmoves
  cases hmoves with
  | cancel => exact ⟨rfl, by simp [Session.cancel, hprogress], hphase⟩
  | @step clock actor _ _ hleads =>
    exfalso
    cases actor with
    | operation =>
      simp only [Session.step, Session.operationStep, hphase] at hleads
      cases hleads
    | feed | painter =>
      simp only [Session.step, hprogress] at hleads
      cases hleads

/-- **Review before execution.** In every run of a deployment the change set is executed at most
once, and then it is the one of the stack that was accepted last, it was described as executable,
and all its changes were written. Before that review no events are asked for, and before an accepted
execution the stack is not described. A deployment that ends before an execution does none of
this, and one whose template could not be rendered asks for nothing. -/
theorem executes_only_reviewed (settings : SessionSettings) (request : DeployRequest)
    (rendered : Except String String) (name updateName : String) {trace : List Action} {s : Session}
    (run : (Session.deploy settings request rendered name updateName).Runs trace s) :
    trace.countP Action.isExecution ≤ 1 ∧
      (∀ before stack id reply after,
        trace = before ++ .call (.executeChangeSet stack id) reply :: after →
          stack = request.stack ∧ ∃ ref, ref.id = id ∧ lastAccepted? before = some ref ∧
            Reviewed request.stack ref before) ∧
      (∀ before key token reply after,
        trace = before ++ .call (.describeStackEvents key token) reply :: after →
          ∃ ref, lastAccepted? before = some ref ∧ Reviewed request.stack ref before) ∧
      (∀ before stack reply after,
        trace = before ++ .call (.describeStack stack) reply :: after →
          ExecutionAccepted before) ∧
      (∀ message, rendered = .error message → trace = []) ∧
      (∀ outcome, s.phase = .over outcome → outcome.precedesExecution →
        ∀ a ∈ trace, a.followsReview = false) := by
  obtain ⟨hknown, hobeys⟩ := known_of_runs run
  refine ⟨countP_isExecution_le_one hobeys, ?_, ?_, ?_, ?_, ?_⟩
  · intro before stack id reply after htrace
    exact (hobeys _ _ _ htrace).2
  · intro before key token reply after htrace
    exact hobeys _ _ _ htrace
  · intro before stack reply after htrace
    exact hobeys _ _ _ htrace
  · rintro message rfl
    exact (over_of_render_error run).1
  · intro outcome hphase hearly
    simp only [Known, hphase, hearly, if_true] at hknown
    exact hknown.2

/-! ### A deployment that adds a queue -/

/-- A change set that adds one queue, computed and executable. -/
def queueChangeSet : ChangeSet :=
  { id := "queue", stackId := "demo", creationTime := .epoch, status := .createComplete,
    executionStatus := .available, statusReason := none,
    changes := [.inPlace "Queue" "AWS::SQS::Queue" .add] }

/-- The deployment of a new stack that holds the queue. -/
def queueDeployment : Session :=
  .deploy ⟨.default, ⟨false, false⟩, false⟩ ⟨"demo", "app.yml", [], [], [], .create⟩
    (.ok "Resources: {}") "queue" "queue-update"

/-- The same deployment, shown in another way and with other names for its change sets. -/
def liveQueueDeployment : Session :=
  .deploy ⟨.default, ⟨true, true⟩, true⟩ ⟨"demo", "app.yml", [], [], [], .create⟩
    (.ok "Resources: {}") "live" "live-update"

/-- The actions of the deployment up to its execution. -/
def queueTrace : List Action :=
  [.call (.createChangeSet ⟨"demo", "queue", .create, "Resources: {}", [], []⟩)
      (.ok ⟨"queue", "demo"⟩),
    .call (.describeChangeSet "demo" "queue") (.ok queueChangeSet),
    .write "Proposed changes for stack demo:\n  + Queue (AWS::SQS::Queue)\n" (.ok ()),
    .call (.executeChangeSet "demo" "queue") (.ok ())]

theorem queueDeployment_runs : ∃ s, queueDeployment.Runs queueTrace s := by
  have act {s t : Session} {actions : List Action}
      (h : (s.step ⟨0, 0, .epoch⟩ .operation).Leads ⟨0, 0, .epoch⟩ actions t) : s.Moves actions t :=
    .step h
  have begun : queueDeployment.Runs [] queueDeployment := .start
  have submitted := begun.move (act (.call _ _ (.ok (⟨"queue", "demo"⟩ : ChangeSetRef))))
  have asking := submitted.move (act (.goOn _))
  have described := asking.move (act (.call _ _ (.ok queueChangeSet)))
  have judged := described.move (act (.goOn _))
  have reviewed := judged.move (act (.goOn _))
  have written := reviewed.move (act (.write _ _ (.ok ())))
  have executed := written.move (act (.call _ _ (.ok ())))
  have hproposal : proposal "demo" queueChangeSet.changes =
      "Proposed changes for stack demo:\n  + Queue (AWS::SQS::Queue)\n" := by decide
  rw [queueTrace, ← hproposal]
  exact ⟨_, executed⟩

/-- The queue is added only after its addition was shown. -/
theorem queueDeployment_executes_reviewed :
    (∃ s, queueDeployment.Runs queueTrace s) ∧ queueTrace.countP Action.isExecution = 1 ∧
      ∀ before stack id reply after,
        queueTrace = before ++ .call (.executeChangeSet stack id) reply :: after →
          stack = "demo" ∧ ∃ ref, ref.id = id ∧ lastAccepted? before = some ref ∧
            Reviewed "demo" ref before := by
  obtain ⟨s, run⟩ := queueDeployment_runs
  exact ⟨⟨s, run⟩, rfl, (executes_only_reviewed _ _ _ _ _ run).2.1⟩

end StackDeploy
