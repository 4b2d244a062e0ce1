import StackDeploy.Proofs.ChangeSet.Bookkeeping
import StackDeploy.Proofs.ChangeSet.Name
import StackDeploy.Proofs.Deployment.Cutoff

/-!
# Submissions of a deployment

A deployment submits one change set. Only when it is to make a new stack and there already is one,
it submits a second one, the same but for its name and its type, which updates that stack. What is
reviewed, dated and executed after that is the change set of the submission that was accepted.

* `DeployOrder.Submits` — the submissions of a deployment, all told.
* `Session.Sent` — how far a deployment is with them; `Session.Sent.moves` is the step lemma.
* `Session.submits_once_or_updates` — what is submitted, and what comes of it.
-/

namespace StackDeploy

/-! ### Submissions -/

/-- A **submission** of a change set, with the reply to it. -/
structure Submission where
  input : ChangeSetInput
  reply : Except ApiError ChangeSetRef

/-- The action that a submission is. -/
def Submission.action (submission : Submission) : Action :=
  .call (.createChangeSet submission.input) submission.reply

/-- The submission that an action is, if it is one. -/
def Action.submission? : Action → Option Submission
  | .call (.createChangeSet input) reply => some ⟨input, reply⟩
  | _ => none

/-- The submissions of a trace. -/
def submissions (trace : List Action) : List Submission := trace.filterMap Action.submission?

theorem submissions_map_action (all : List Submission) :
    submissions (all.map Submission.action) = all := by
  rw [submissions, List.filterMap_map]
  exact List.filterMap_some

theorem submissions_append_of_none {trace actions : List Action}
    (h : ∀ a ∈ actions, a.submission? = none) :
    submissions (trace ++ actions) = submissions trace := by
  rw [submissions, List.filterMap_append, List.filterMap_eq_nil_iff.mpr h, List.append_nil,
    submissions]

theorem accepted?_eq_bind (a : Action) :
    a.accepted? = a.submission?.bind fun submission => submission.reply.toOption := by
  cases a with
  | write => rfl
  | call request reply =>
    cases request with
    | createChangeSet => cases reply <;> rfl
    | _ => rfl

/-- The change set that was accepted last is the one of the last accepted submission. -/
theorem lastAccepted?_eq (trace : List Action) : lastAccepted? trace =
    ((submissions trace).filterMap fun submission => submission.reply.toOption).getLast? := by
  rw [lastAccepted?, submissions, List.filterMap_filterMap]
  simp only [accepted?_eq_bind]

theorem exists_submission_of_lastAccepted? {trace : List Action} {ref : ChangeSetRef}
    (h : lastAccepted? trace = some ref) :
    ∃ submission ∈ submissions trace, submission.reply = .ok ref := by
  rw [lastAccepted?_eq] at h
  obtain ⟨submission, hmem, hreply⟩ := List.mem_filterMap.mp (List.mem_of_getLast? h)
  refine ⟨submission, hmem, ?_⟩
  cases hresult : submission.reply with
  | ok other =>
    rw [hresult] at hreply
    cases hreply
    rfl
  | error =>
    rw [hresult] at hreply
    cases hreply

/-- The feed and the painter submit nothing. -/
theorem Action.submission?_eq_none {a : Action} (h : a.isProgress) : a.submission? = none := by
  cases a with
  | write => rfl
  | call request reply => cases request <;> first | rfl | cases h

namespace DeployOrder

/-- The reply to the first submission is a **conflict**: a new stack was asked for, and there
already is one. -/
def Conflicts (o : DeployOrder) (reply : Except ApiError ChangeSetRef) : Prop :=
  o.request.intent = .create ∧ ∃ subject, reply = .error (.alreadyExists subject)

/-- The first submission. -/
def first (o : DeployOrder) (reply : Except ApiError ChangeSetRef) : Submission :=
  ⟨o.input o.name o.request.intent, reply⟩

/-- The submission that follows a conflict. -/
def update (o : DeployOrder) (reply : Except ApiError ChangeSetRef) : Submission :=
  ⟨o.input o.updateName .update, reply⟩

/-- The submissions of a deployment, **all told**: one, and after a conflict another one. The last
of them is told apart. -/
inductive Submits (o : DeployOrder) : List Submission → Submission → Prop
  | once {reply : Except ApiError ChangeSetRef} (h : ¬ o.Conflicts reply) :
      Submits o [] (o.first reply)
  | update {conflict : Except ApiError ChangeSetRef} (h : o.Conflicts conflict)
      (reply : Except ApiError ChangeSetRef) : Submits o [o.first conflict] (o.update reply)

section Submits

variable {o : DeployOrder} {earlier : List Submission} {last : Submission} {trace : List Action}
  {ref : ChangeSetRef}

/-- Only the last submission can be accepted. -/
theorem Submits.eq_last {submission : Submission} (h : o.Submits earlier last)
    (hmem : submission ∈ earlier ++ [last]) (hreply : submission.reply = .ok ref) :
    submission = last := by
  rcases List.mem_append.mp hmem with hearlier | hlast
  · cases h with
    | once => cases hearlier
    | update hconflict reply =>
      obtain ⟨-, subject, rfl⟩ := hconflict
      rw [List.mem_singleton.mp hearlier] at hreply
      cases hreply
  · exact List.mem_singleton.mp hlast

theorem Submits.lastAccepted?_eq (h : submissions trace = earlier ++ [last])
    (hlast : last.reply = .ok ref) : lastAccepted? trace = some ref := by
  have hoption : last.reply.toOption = some ref := by
    rw [hlast]
    rfl
  simp [StackDeploy.lastAccepted?_eq, h, hoption]

/-- Two submissions are an update after a conflict. They ask for the same but for the type, which is
another one, and the name, which is another one if the names are made of different UUIDs. -/
theorem Submits.differ {a b : Submission} (h : o.Submits earlier last)
    (hboth : earlier ++ [last] = [a, b]) :
    b.input = { a.input with changeSetName := o.updateName, changeSetType := .update } ∧
      a.input.changeSetType ≠ b.input.changeSetType ∧
      ∀ first second : List UInt8, o.name = changeSetName first →
        o.updateName = changeSetName second → first.length = 16 → second.length = 16 →
        markRandom first ≠ markRandom second →
        a.input.changeSetName ≠ b.input.changeSetName := by
  cases h with
  | once => cases hboth
  | update hconflict reply =>
    cases hboth
    have htype : o.request.intent ≠ .update := by
      rw [hconflict.1]
      exact nofun
    refine ⟨rfl, htype, ?_⟩
    intro first second hname hupdateName hfirst hsecond huuid (heq : o.name = o.updateName)
    rw [hname, hupdateName] at heq
    exact huuid (markRandom_eq_of_changeSetName_eq hfirst hsecond heq)

end Submits

end DeployOrder

namespace Session

variable {clock : Clock} {s t : Session} {trace actions : List Action}

/-! ### Phases of a submission -/

/-- The phase is one in which a change set is to be submitted. -/
def Phase.isSubmitting : Phase → Bool
  | .submitting _ _ | .submittingUpdate _ _ => true
  | _ => false

/-- Once everything is submitted, nothing is submitted any more. -/
theorem Steps.settled (steps : s.Steps clock actions t) (h : s.phase.isSubmitting = false) :
    t.phase.isSubmitting = false ∧ ∀ a ∈ actions, a.submission? = none := by
  have hover {e : DeployError} : (s.fail e).phase.isSubmitting = false := rfl
  cases steps with
  | submit hphase | submitUpdate hphase =>
    rw [hphase] at h
    cases h
  | review hphase leads =>
    refine ⟨rfl, fun a ha => ?_⟩
    obtain ⟨_, _, _, rfl⟩ := Review.describes_of_leads leads a ha
    rfl
  | @reviewed stack review result hphase hfinish =>
    refine ⟨?_, List.forall_mem_nil _⟩
    rw [Session.reviewed.eq_def]
    split <;> rfl
  | announce hphase written =>
    refine ⟨?_, List.forall_mem_singleton.mpr rfl⟩
    rw [announced.eq_def]
    split
    · rfl
    · split <;> rfl
  | execute hphase reply =>
    refine ⟨?_, List.forall_mem_singleton.mpr rfl⟩
    rw [executed]
    split <;> rfl
  | look hphase reply => cases reply <;> exact ⟨rfl, List.forall_mem_singleton.mpr rfl⟩
  | date => exact ⟨rfl, List.forall_mem_nil _⟩
  | delete hphase reply => cases reply <;> exact ⟨rfl, List.forall_mem_singleton.mpr rfl⟩
  | watch hphase leads =>
    refine ⟨rfl, fun a ha => ?_⟩
    obtain ⟨_, _, rfl⟩ := Watch.describes_of_leads leads a ha
    rfl
  | @watched target w watched => cases watched <;> exact ⟨rfl, List.forall_mem_nil _⟩
  | @stopped target ending =>
    refine ⟨?_, List.forall_mem_nil _⟩
    obtain ⟨outcome, hstopped⟩ | ⟨status, hstopped⟩ := s.stopped_cases target ending
    · rw [hstopped]
      rfl
    · rw [hstopped]
      rfl
  | read => exact ⟨rfl, List.forall_mem_singleton.mpr rfl⟩
  | explain | follow => exact ⟨rfl, List.forall_mem_nil _⟩

/-! ### How far a deployment is -/

/-- **How far** a deployment is with its submissions. -/
inductive Sent (order : DeployOrder) (trace : List Action) (s : Session) : Prop
  | due {controller : Controller} (hphase : s.phase = .submitting order controller)
      (htrace : trace = [])
  | conflicted {controller : Controller} {conflict : Except ApiError ChangeSetRef}
      (hphase : s.phase = .submittingUpdate order controller) (hconflict : order.Conflicts conflict)
      (htrace : trace = [(order.first conflict).action])
  | refused {earlier : List Submission} {last : Submission} {cause : ApiError}
      (hphase : s.phase =
        .over (.failed (.changeSet (.api .createChangeSet order.request.stack cause))))
      (hsubmits : order.Submits earlier last) (hlast : last.reply = .error cause)
      (htrace : trace = (earlier ++ [last]).map Submission.action)
  | accepted {earlier : List Submission} {last : Submission} {ref : ChangeSetRef}
      (hphase : s.phase.isSubmitting = false) (hsubmits : order.Submits earlier last)
      (hlast : last.reply = .ok ref) (hsubmissions : submissions trace = earlier ++ [last])

variable {order : DeployOrder} {controller : Controller} {type : ChangeSetType}
  {earlier : List Submission} {last : Submission}

theorem submitted_of_conflict {subject : String} :
    s.submitted order controller .create (.error (.alreadyExists subject)) =
      { s with phase := .submittingUpdate order controller } := by
  simp [submitted, Controller.submitted]

theorem submitted_of_error {cause : ApiError}
    (h : ¬ (type = .create ∧ ∃ subject, cause = .alreadyExists subject)) :
    s.submitted order controller type (.error cause) =
      s.fail (.changeSet (.api .createChangeSet order.request.stack cause)) := by
  rcases controller.submitted_cases order.request.stack type (.error cause) with
    ⟨ref, hreply, -⟩ | ⟨subject, hreply, htype, -⟩ | ⟨other, hreply, hsubmitted⟩
  · cases hreply
  · cases hreply
    exact absurd ⟨htype, subject, rfl⟩ h
  · cases hreply
    simp only [submitted, hsubmitted]

/-- The reply to the last submission is the end of them. -/
theorem Sent.replied (s : Session) (controller : Controller) (hsubmits : order.Submits earlier last)
    (hlast : ¬ (type = .create ∧ ∃ subject, last.reply = .error (.alreadyExists subject))) :
    Sent order (earlier.map Submission.action ++ [last.action])
      (s.submitted order controller type last.reply) := by
  have hall : earlier.map Submission.action ++ [last.action] =
      (earlier ++ [last]).map Submission.action := by
    rw [List.map_append]
    rfl
  rw [hall]
  cases hreply : last.reply with
  | ok ref => exact .accepted rfl hsubmits hreply (submissions_map_action _)
  | error cause =>
    rw [submitted_of_error fun ⟨htype, subject, hcause⟩ => hlast ⟨htype, subject, hcause ▸ hreply⟩]
    exact .refused rfl hsubmits hreply rfl

/-- The first submission is the last one, unless there is a conflict. -/
theorem Sent.submit (s : Session) (controller : Controller) (reply : Except ApiError ChangeSetRef) :
    Sent order [(order.first reply).action]
      (s.submitted order controller order.request.intent reply) := by
  by_cases hconflict : order.Conflicts reply
  · obtain ⟨hintent, subject, rfl⟩ := id hconflict
    rw [hintent, submitted_of_conflict]
    exact .conflicted rfl hconflict rfl
  · exact .replied s controller (.once hconflict) hconflict

/-- **Step lemma.** Every move of a deployment keeps to its submissions. -/
theorem Sent.moves (h : s.Sent order trace) (hstaged : s.Staged) (moves : s.Moves actions t) :
    t.Sent order (trace ++ actions) := by
  cases moves with
  | cancel =>
    rw [List.append_nil]
    cases h with
    | due hphase htrace => exact .due hphase htrace
    | conflicted hphase hconflict htrace => exact .conflicted hphase hconflict htrace
    | refused hphase hsubmits hlast htrace => exact .refused hphase hsubmits hlast htrace
    | accepted hphase hsubmits hlast htrace => exact .accepted hphase hsubmits hlast htrace
  | @step clock actor _ _ leads =>
    -- the other actors are not started before everything is submitted
    have hoperation (hearly : s.phase.stage = .early) : s.Steps clock actions t := by
      have hactor : actor = .operation := by
        by_contra hactor
        have hstage := hstaged.stage_of_leads hactor leads
        simp [hearly] at hstage
      subst hactor
      exact steps_of_leads leads
    cases h with
    | due hphase htrace =>
      subst htrace
      cases hoperation (by rw [hphase]; rfl) with
      | submit hother reply =>
        cases hphase.symm.trans hother
        exact .submit s _ reply
      | _ hother => cases hphase.symm.trans hother
    | conflicted hphase hconflict htrace =>
      subst htrace
      cases hoperation (by rw [hphase]; rfl) with
      | submitUpdate hother reply =>
        cases hphase.symm.trans hother
        exact .replied s _ (.update hconflict reply) nofun
      | _ hother => cases hphase.symm.trans hother
    | refused hphase => exact absurd leads (hstaged.not_leads hphase)
    | accepted hphase hsubmits hlast hsubmissions =>
      by_cases hactor : actor = .operation
      · subst hactor
        obtain ⟨hphase', hactions⟩ := (steps_of_leads leads).settled hphase
        exact .accepted hphase' hsubmits hlast
          ((submissions_append_of_none hactions).trans hsubmissions)
      · obtain ⟨p, p', -, rfl, hprogress⟩ := progress_of_leads hactor leads
        refine .accepted hphase hsubmits hlast (.trans ?_ hsubmissions)
        exact submissions_append_of_none fun a ha => Action.submission?_eq_none (hprogress a ha)

/-! ### What is described and executed -/

/-- The action describes or executes no change set of the stack but the one that was **accepted
last**. -/
def Names (stack : String) (before : List Action) (a : Action) : Prop :=
  ∀ name id, a.named? = some (name, id) →
    name = stack ∧ ∃ ref, lastAccepted? before = some ref ∧ ref.id = id

variable {request : DeployRequest}

theorem Known.names (h : Known request trace s) (moves : s.Moves actions t) :
    ∀ a ∈ actions, Names request.stack trace a := by
  cases moves with
  | cancel => exact List.forall_mem_nil _
  | @step clock actor _ _ hmove =>
    by_cases hactor : actor = .operation
    · subst hactor
      cases steps_of_leads hmove with
      | submit | submitUpdate | announce | look | delete | read =>
        exact List.forall_mem_singleton.mpr nofun
      | reviewed | date | watched | stopped | explain | follow => exact List.forall_mem_nil _
      | watch hphase leads =>
        intro a ha
        obtain ⟨_, _, rfl⟩ := Watch.describes_of_leads leads a ha
        exact nofun
      | review hphase leads =>
        simp only [Known, hphase] at h
        obtain ⟨rfl, -, ref, hdrives, hknown⟩ := h
        cases Review.steps_of_leads leads with
        | begin | pause | settle | wake => exact List.forall_mem_nil _
        | ask hasking reply =>
          rw [hasking] at hknown
          refine List.forall_mem_singleton.mpr ?_
          rintro name id ⟨⟩
          exact ⟨hdrives.stack_eq, ref, hdrives.accepted, congrArg ChangeSetRef.id hknown.symm⟩
      | execute hphase reply =>
        simp only [Known, hphase] at h
        obtain ⟨hstack, happroved, -⟩ := h
        refine List.forall_mem_singleton.mpr ?_
        rintro name id ⟨⟩
        exact ⟨hstack, _, happroved.1, rfl⟩
    · obtain ⟨p, p', -, -, hprogress⟩ := progress_of_leads hactor hmove
      intro a ha name id hnamed
      cases a with
      | write => cases hnamed
      | call request reply =>
        cases request with
        | describeStackEvents | resolveRollout => cases hnamed
        | _ => cases hprogress _ ha

/-! ### Every run -/

variable {settings : SessionSettings}

theorem sent_of_runs
    (run : (deploy settings order.request (.ok order.body) order.name order.updateName).Runs
      trace s) : s.Sent order trace := by
  induction run with
  | start => exact .due rfl rfl
  | move run moves ih => exact ih.moves ((staged_deploy _ _ _ _ _).runs run) moves

theorem names_of_runs {rendered : Except String String} {name updateName : String}
    (run : (deploy settings request rendered name updateName).Runs trace s) :
    Obeys (Names request.stack) trace := by
  induction run with
  | start => exact obeys_nil _
  | move run moves ih => exact moves.obeys ih (Known.names (known_of_runs run).1 moves)

/-- The change set of a stack is the one that the trace **is about**: it is the only one that is
described or executed, and the feed and the operation take the events of the stack from its creation
on. -/
structure IsAbout (stack : String) (ref : ChangeSetRef) (trace : List Action) (s : Session) :
    Prop where
  named : ∀ a ∈ trace, ∀ name id, a.named? = some (name, id) → name = stack ∧ id = ref.id
  shown : ∀ p, s.progress = some p →
    ∃ changeSet, lastDescribed? stack ref.id trace = some changeSet ∧
      p.ReadsFrom stack changeSet.creationTime s.settings.deploy.eventInterval
  judged : ∀ target, s.phase.target? = some target →
    ∃ changeSet, lastDescribed? stack ref.id trace = some changeSet ∧
      target.key = stack ∧ target.cutoff = changeSet.creationTime

theorem isAbout_of_runs {ref : ChangeSetRef}
    (run : (deploy settings order.request (.ok order.body) order.name order.updateName).Runs
      trace s) (hsubmits : order.Submits earlier last)
    (hsubmissions : submissions trace = earlier ++ [last]) (hlast : last.reply = .ok ref) :
    s.IsAbout order.request.stack ref trace := by
  have haccepted := DeployOrder.Submits.lastAccepted?_eq hsubmissions hlast
  obtain ⟨htimed, htarget⟩ := cutoff_of_runs run
  refine ⟨fun a ha name id hnamed => ?_, fun p hp => ?_, fun target hphase => ?_⟩
  · obtain ⟨before, after, rfl⟩ := List.append_of_mem ha
    obtain ⟨hname, other, hother, rfl⟩ := names_of_runs run before a after rfl name id hnamed
    obtain ⟨submission, hmem, hreply⟩ := exists_submission_of_lastAccepted? hother
    -- only the last submission was accepted
    have hmem' : submission ∈ earlier ++ [last] := by
      rw [← hsubmissions, submissions, List.filterMap_append]
      exact List.mem_append_left _ hmem
    obtain rfl := hsubmits.eq_last hmem' hreply
    cases hreply.symm.trans hlast
    exact ⟨hname, rfl⟩
  · obtain ⟨time, ⟨other, changeSet, hother, hdescribed, rfl⟩, hreads⟩ := htimed p hp
    cases hother.symm.trans haccepted
    exact ⟨changeSet, hdescribed, hreads⟩
  · obtain ⟨hkey, other, changeSet, hother, hdescribed, hcutoff⟩ := htarget target hphase
    cases hother.symm.trans haccepted
    exact ⟨changeSet, hdescribed, hkey, hcutoff.symm⟩

/-- **One submission, or an update after a conflict.** A deployment whose template is not rendered
is over from the start, with the error of the template, and does nothing. In any run of a deployment
whose template is rendered, one of these holds:

* nothing was done yet, and the first submission comes next;
* the first submission has met with a conflict, and the update comes next;
* all is submitted, once or, after a conflict, twice. If the last submission failed, the deployment
  is over with that error of the service and has done nothing else; if it was accepted, the trace is
  about its change set.

Two submissions differ in nothing but their names and their types. The types are different, and so
are the names if they are made of UUIDs that are. -/
theorem submits_once_or_updates {rendered : Except String String}
    (run : (deploy settings order.request rendered order.name order.updateName).Runs trace s) :
    (∀ message, rendered = .error message →
      trace = [] ∧ s.phase = .over (.failed (.render order.request.template message))) ∧
    (rendered = .ok order.body →
      ((trace = [] ∧ ∃ resume, ∀ clock, s.step clock .operation =
          .call (.createChangeSet (order.input order.name order.request.intent)) resume) ∨
        (∃ conflict, order.Conflicts conflict ∧ trace = [(order.first conflict).action] ∧
          ∃ resume, ∀ clock, s.step clock .operation =
            .call (.createChangeSet (order.input order.updateName .update)) resume) ∨
        ∃ earlier last, order.Submits earlier last ∧ submissions trace = earlier ++ [last] ∧
          ((∃ cause, last.reply = .error cause ∧
              trace = (earlier ++ [last]).map Submission.action ∧ s.phase = .over
                (.failed (.changeSet (.api .createChangeSet order.request.stack cause)))) ∨
            ∃ ref, last.reply = .ok ref ∧ s.IsAbout order.request.stack ref trace)) ∧
      ∀ a b, submissions trace = [a, b] →
        b.input = { a.input with changeSetName := order.updateName, changeSetType := .update } ∧
          a.input.changeSetType ≠ b.input.changeSetType ∧
          ∀ first second : List UInt8, order.name = changeSetName first →
            order.updateName = changeSetName second → first.length = 16 → second.length = 16 →
            markRandom first ≠ markRandom second →
            a.input.changeSetName ≠ b.input.changeSetName) := by
  refine ⟨?_, ?_⟩
  · rintro message rfl
    exact over_of_render_error run
  rintro rfl
  cases sent_of_runs run with
  | due hphase htrace =>
    refine ⟨.inl ⟨htrace, _, fun clock => by rw [step, operationStep, hphase]⟩, fun a b htwo => ?_⟩
    rw [htrace] at htwo
    cases htwo
  | @conflicted controller conflict hphase hconflict htrace =>
    refine ⟨.inr (.inl ⟨conflict, hconflict, htrace, s.submitted order controller .update,
      fun clock => ?_⟩), fun a b htwo => ?_⟩
    · rw [step, operationStep, hphase]
    · rw [htrace] at htwo
      cases htwo
  | @refused earlier last cause hphase hsubmits hlast htrace =>
    have hall : submissions trace = earlier ++ [last] := by rw [htrace, submissions_map_action]
    exact ⟨.inr (.inr ⟨earlier, last, hsubmits, hall, .inl ⟨cause, hlast, htrace, hphase⟩⟩),
      fun a b htwo => hsubmits.differ (hall.symm.trans htwo)⟩
  | @accepted earlier last ref hphase hsubmits hlast hall =>
    exact ⟨.inr (.inr ⟨earlier, last, hsubmits, hall,
      .inr ⟨ref, hlast, isAbout_of_runs run hsubmits hall hlast⟩⟩),
      fun a b htwo => hsubmits.differ (hall.symm.trans htwo)⟩

/-! ### A stack that exists already -/

/-- The deployment of a new stack that holds the queue; its change sets are named with two UUIDs. -/
def queueOrder : DeployOrder :=
  { request := ⟨"demo", "app.yml", [], [], [], .create⟩
    body := "Resources: \x7b\x7d"
    name := changeSetName (List.replicate 16 0)
    updateName := changeSetName (List.replicate 16 1) }

/-- There is a stack of that name, so it is updated: the same is submitted under another name. -/
theorem queue_updates : ∃ trace s a b,
    (deploy ⟨.default, ⟨false, false⟩, false⟩ queueOrder.request (.ok queueOrder.body)
      queueOrder.name queueOrder.updateName).Runs trace s ∧
    submissions trace = [a, b] ∧ a.input.changeSetName ≠ b.input.changeSetName ∧
    s.IsAbout "demo" ⟨"queue", "demo"⟩ trace := by
  have act {s t : Session} {actions : List Action}
      (h : (s.step ⟨0, 0, .epoch⟩ .operation).Leads ⟨0, 0, .epoch⟩ actions t) : s.Moves actions t :=
    .step h
  have begun : (deploy ⟨.default, ⟨false, false⟩, false⟩ queueOrder.request (.ok queueOrder.body)
    queueOrder.name queueOrder.updateName).Runs [] _ := .start
  have conflict := begun.move
    (act (.call (.createChangeSet (queueOrder.input queueOrder.name .create)) _
      (.error (.alreadyExists "demo"))))
  have updated := conflict.move
    (act (.call (.createChangeSet (queueOrder.input queueOrder.updateName .update)) _
      (.ok ⟨"queue", "demo"⟩)))
  have asking := updated.move (act (.goOn _))
  have described := asking.move (act (.call _ _ (.ok queueChangeSet)))
  obtain ⟨hsent, hinputs⟩ := (submits_once_or_updates described).2 rfl
  obtain ⟨-, -, hnames⟩ := hinputs _ _ rfl
  refine ⟨_, _, _, _, described, rfl, hnames _ _ rfl rfl rfl rfl (by decide), ?_⟩
  obtain ⟨htrace, -⟩ | ⟨_, -, htrace, -⟩ | ⟨earlier, last, -, hall, hlast⟩ := hsent
  · cases htrace
  · cases htrace
  · have hall : [queueOrder.first (.error (.alreadyExists "demo"))] ++
        [queueOrder.update (.ok ⟨"queue", "demo"⟩)] = earlier ++ [last] := hall
    obtain rfl := List.head_eq_of_cons_eq (List.append_inj' hall rfl).2
    obtain ⟨cause, hcause, -⟩ | ⟨ref, href, habout⟩ := hlast
    · cases hcause
    · cases href
      exact habout

/-- A deployment whose template is missing is over at once and **submits nothing**. -/
theorem missing_template_submits_nothing :
    ∃ start : Session,
      start = deploy ⟨.default, ⟨false, false⟩, false⟩ ⟨"demo", "app", [], [], [], .create⟩
        (.error "no such template") queueOrder.name queueOrder.updateName ∧
      start.phase = .over (.failed (.render "app" "no such template")) ∧
      ∀ trace s, start.Runs trace s → (submissions trace).length ≠ 1 ∧
        (submissions trace).length ≠ 2 := by
  refine ⟨_, rfl, rfl, fun trace s run => ?_⟩
  rw [(over_of_render_error run).1]
  exact ⟨nofun, nofun⟩

end Session

end StackDeploy
