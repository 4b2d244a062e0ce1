import StackDeploy.Proofs.Deployment.Run

/-!
# The steps of an operation

What a step of a review, of a watch and of a whole operation can be: one case for every way out of
a phase, with what must hold for it, what is done and where it leads. Everything else that is said
about steps follows by going through these cases.

* `Review.steps_of_leads`, `Watch.steps_of_leads`, `Session.steps_of_leads` — there are no others.
-/

namespace StackDeploy

variable {clock : Clock} {actions : List Action}

/-! ### Reviews -/

/-- A review **steps** in one of these ways. -/
inductive Review.Steps (clock : Clock) (r : Review) : List Action → Review → Prop
  | begin {ref : ChangeSetRef} (hphase : r.phase = .waiting)
      (hsubmitted : r.controller.changeSet = some ref) :
      Steps clock r []
        { controller := { r.controller with state := .waitingForCreation }
          phase := .asking ref clock.stopwatch }
  | ask {ref : ChangeSetRef} {began : Nat} (hphase : r.phase = .asking ref began)
      (reply : Except ApiError ChangeSet) :
      Steps clock r [.call (.describeChangeSet r.controller.stack ref.id) reply]
        { r with phase := .judging ref began reply }
  | pause {ref : ChangeSetRef} {began : Nat} {reply : Except ApiError ChangeSet}
      (hphase : r.phase = .judging ref began reply)
      (hjudge : r.controller.judge ref (clock.stopwatch - began) reply = .again) :
      Steps clock r []
        { r with phase := .pausing ref began (clock.after r.controller.settings.interval) }
  | settle {ref : ChangeSetRef} {began : Nat} {reply : Except ApiError ChangeSet}
      {result : Except ChangeSetError ReviewOutcome} {controller : Controller}
      (hphase : r.phase = .judging ref began reply)
      (hjudge : r.controller.judge ref (clock.stopwatch - began) reply = .over result controller) :
      Steps clock r [] ⟨controller, .over result⟩
  | wake {ref : ChangeSetRef} {began deadline : Nat}
      (hphase : r.phase = .pausing ref began deadline) :
      Steps clock r [] { r with phase := .asking ref began }

theorem Review.steps_of_leads {r r' : Review} (leads : (r.step clock).Leads clock actions r') :
    r.Steps clock actions r' := by
  rw [step] at leads
  cases hphase : r.phase with
  | waiting =>
    simp only [hphase] at leads
    split at leads
    · cases leads
    next hsubmitted =>
      cases leads
      exact .begin hphase hsubmitted
  | asking ref began =>
    simp only [hphase] at leads
    cases leads with
    | call _ _ reply => exact .ask hphase reply
  | judging ref began reply =>
    simp only [hphase] at leads
    split at leads
    next hjudge =>
      cases leads
      exact .pause hphase hjudge
    next hjudge =>
      cases leads
      exact .settle hphase hjudge
  | pausing ref began deadline =>
    simp only [hphase] at leads
    cases leads
    exact .wake hphase
  | «over» result =>
    simp only [hphase] at leads
    cases leads

/-! ### Watches -/

/-- A watch **steps** in one of these ways. -/
inductive Watch.Steps (clock : Clock) (w : Watch) : List Action → Watch → Prop
  | begin (hphase : w.phase = .waiting) :
      Steps clock w [] { w with phase := .asking (clock.timer + w.timeout) }
  | ask {deadline : Nat} (hphase : w.phase = .asking deadline) (reply : Except ApiError Stack) :
      Steps clock w [.call (.describeStack w.stack) reply] { w with phase := .heard deadline reply }
  | pause {deadline : Nat} {reply : Except ApiError Stack}
      (hphase : w.phase = .heard deadline reply)
      (hverdict : verdict? reply = none) :
      Steps clock w [] { w with phase := .pausing deadline (clock.after w.interval) }
  | settle {deadline : Nat} {reply : Except ApiError Stack} {watched : Watched}
      (hphase : w.phase = .heard deadline reply) (hverdict : verdict? reply = some watched) :
      Steps clock w [] { w with phase := .over watched }
  | wake {deadline wake : Nat} (hphase : w.phase = .pausing deadline wake)
      (hdue : wake ≤ clock.timer) : Steps clock w [] { w with phase := .asking deadline }
  | timeOut {deadline wake : Nat} (hphase : w.phase = .pausing deadline wake)
      (hdue : ¬ wake ≤ clock.timer) (hlate : deadline ≤ clock.timer) :
      Steps clock w [] { w with phase := .over .timedOut }
  | sleep {deadline wake : Nat} (hphase : w.phase = .pausing deadline wake)
      (hdue : ¬ wake ≤ clock.timer) (hlate : ¬ deadline ≤ clock.timer) : Steps clock w [] w

theorem Watch.steps_of_leads {w w' : Watch} (leads : (w.step clock).Leads clock actions w') :
    w.Steps clock actions w' := by
  rw [step] at leads
  cases hphase : w.phase with
  | waiting =>
    simp only [hphase] at leads
    cases leads
    exact .begin hphase
  | asking deadline =>
    simp only [hphase] at leads
    cases leads with
    | call _ _ reply => exact .ask hphase reply
  | heard deadline reply =>
    simp only [hphase] at leads
    split at leads
    next hverdict =>
      cases leads
      exact .settle hphase hverdict
    next hverdict =>
      cases leads
      exact .pause hphase hverdict
  | pausing deadline wake =>
    simp only [hphase] at leads
    split at leads
    next hdue =>
      cases leads
      exact .wake hphase hdue
    next hdue =>
      split at leads
      next hlate =>
        cases leads
        exact .timeOut hphase hdue hlate
      next hlate =>
        cases leads
        exact .sleep hphase hdue hlate
  | «over» watched =>
    simp only [hphase] at leads
    cases leads

/-- A watch ends with what it has come to. -/
theorem Watch.phase_of_step_eq_finish {w : Watch} {watched : Watched}
    (h : w.step clock = .finish watched) : w.phase = .over watched := by
  rw [step] at h
  cases hphase : w.phase with
  | waiting | asking =>
    simp only [hphase] at h
    cases h
  | heard deadline reply =>
    simp only [hphase] at h
    split at h <;> cases h
  | pausing deadline wake =>
    simp only [hphase] at h
    split at h
    · cases h
    · split at h <;> cases h
  | «over» other =>
    simp only [hphase, Step.finish.injEq] at h
    rw [h]

/-! ### Operations -/

namespace Session

/-- The operation of a session **steps** in one of these ways. -/
inductive Steps (clock : Clock) (s : Session) : List Action → Session → Prop
  | submit {order : DeployOrder} {controller : Controller}
      (hphase : s.phase = .submitting order controller) (reply : Except ApiError ChangeSetRef) :
      Steps clock s [.call (.createChangeSet (order.input order.name order.request.intent)) reply]
        (s.submitted order controller order.request.intent reply)
  | submitUpdate {order : DeployOrder} {controller : Controller}
      (hphase : s.phase = .submittingUpdate order controller)
      (reply : Except ApiError ChangeSetRef) :
      Steps clock s [.call (.createChangeSet (order.input order.updateName .update)) reply]
        (s.submitted order controller .update reply)
  | review {actions : List Action} {stack : String} {review review' : Review}
      (hphase : s.phase = .reviewing stack review)
      (leads : (review.step clock).Leads clock actions review') :
      Steps clock s actions { s with phase := .reviewing stack review' }
  | reviewed {stack : String} {review : Review}
      {result : Except ChangeSetError ReviewOutcome × Controller}
      (hphase : s.phase = .reviewing stack review) (hover : review.step clock = .finish result) :
      Steps clock s [] (s.reviewed stack result)
  | announce {stack : String} {controller : Controller} {changes : List Change}
      (hphase : s.phase = .announcing stack controller changes) (written : Written) :
      Steps clock s [.write (proposal stack changes) written]
        (s.announced clock stack controller written)
  | execute {target : Target} {controller : Controller} {ref : ChangeSetRef}
      (hphase : s.phase = .executing target controller ref) (reply : Except ApiError Unit) :
      Steps clock s [.call (.executeChangeSet controller.stack ref.id) reply]
        (s.executed target controller ref reply)
  | look {stack : String} (hphase : s.phase = .looking stack) (reply : Except ApiError Stack) :
      Steps clock s [.call (.describeStack stack) reply] (s.looked stack reply)
  | date {existing : Stack} {stack : String} (hphase : s.phase = .deleting existing stack) :
      Steps clock s [] { s with phase := .deletionAccepted existing stack clock.calendar }
  | delete {existing : Stack} {stack : String} {cutoff : Instant}
      (hphase : s.phase = .deletionAccepted existing stack cutoff)
      (reply : Except ApiError Unit) :
      Steps clock s [.call (.deleteStack stack) reply]
        (s.deletionReplied existing stack cutoff reply)
  | watch {actions : List Action} {target : Target} {w w' : Watch}
      (hphase : s.phase = .watching target w) (leads : (w.step clock).Leads clock actions w') :
      Steps clock s actions { s with phase := .watching target w' }
  | watched {target : Target} {w : Watch} {watched : Watched}
      (hphase : s.phase = .watching target w) (hover : w.phase = .over watched) :
      Steps clock s [] (s.watched target watched)
  | stopped {target : Target} {ending : Ending} (hphase : s.phase = .stopping target ending)
      (hover : s.progress.all Progress.isOver) : Steps clock s [] (s.stopped target ending)
  | read {target : Target} {status : StackStatus} {source : EventSource} {reader : HistoryReader}
      (hphase : s.phase = .tracing target status (.reading source reader))
      (reply : Except ApiError EventPage) :
      Steps clock s [.call (.describeStackEvents source.stack reader.token) reply]
        { s with phase := .tracing target status (Fetch.take source reader reply) }
  | explain {target : Target} {status : StackStatus} {source : EventSource}
      {result : Except FetchError (List StackEvent)}
      (hphase : s.phase = .tracing target status (.over result source)) :
      Steps clock s [] (s.fail (failure target status result))
  | follow {p : Progress} {stream : Except FetchError Unit} {written : Written}
      (hphase : s.phase = .following) (hprogress : s.progress = some p)
      (hfeed : p.feed.result? = some stream) (hpainter : p.painter.result? = some written) :
      Steps clock s [] { s with phase := .over (.followed stream written) }

theorem steps_of_leads {s t : Session} (leads : (s.operationStep clock).Leads clock actions t) :
    s.Steps clock actions t := by
  rw [operationStep] at leads
  cases hphase : s.phase with
  | submitting order controller =>
    simp only [hphase] at leads
    cases leads with
    | call _ _ reply => exact .submit hphase reply
  | submittingUpdate order controller =>
    simp only [hphase] at leads
    cases leads with
    | call _ _ reply => exact .submitUpdate hphase reply
  | reviewing stack review =>
    simp only [hphase] at leads
    obtain ⟨review', hstep, rfl⟩ | ⟨result, hover, rfl, rfl⟩ := Step.leads_embed leads
    · exact .review hphase hstep
    · exact .reviewed hphase hover
  | announcing stack controller changes =>
    simp only [hphase] at leads
    cases leads with
    | write _ _ written => exact .announce hphase written
  | executing target controller ref =>
    simp only [hphase] at leads
    cases leads with
    | call _ _ reply => exact .execute hphase reply
  | looking stack =>
    simp only [hphase] at leads
    cases leads with
    | call _ _ reply => exact .look hphase reply
  | deleting existing stack =>
    simp only [hphase] at leads
    cases leads
    exact .date hphase
  | deletionAccepted existing stack cutoff =>
    simp only [hphase] at leads
    cases leads with
    | call _ _ reply => exact .delete hphase reply
  | watching target w =>
    simp only [hphase] at leads
    obtain ⟨w', hstep, rfl⟩ | ⟨watched, hover, rfl, rfl⟩ := Step.leads_embed leads
    · exact .watch hphase hstep
    · exact .watched hphase (Watch.phase_of_step_eq_finish hover)
  | stopping target ending =>
    simp only [hphase] at leads
    split at leads
    next hover =>
      cases leads
      exact .stopped hphase hover
    · cases leads
  | tracing target status fetch =>
    simp only [hphase] at leads
    cases fetch with
    | reading source reader =>
      cases leads with
      | call _ _ reply => exact .read hphase reply
    | «over» result source =>
      cases leads
      exact .explain hphase
  | following =>
    simp only [hphase] at leads
    cases hp : s.progress with
    | none =>
      simp only [hp] at leads
      cases leads
    | some p =>
      simp only [hp] at leads
      split at leads
      next hfeed hpainter =>
        cases leads
        simpa only [hp] using Steps.follow hphase hp hfeed hpainter
      · cases leads
  | «over» outcome =>
    simp only [hphase] at leads
    cases leads

end Session

end StackDeploy
